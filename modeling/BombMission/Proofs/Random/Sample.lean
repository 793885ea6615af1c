import BombMission.Random.Sample

/-!
# What a draw gives

All three methods of `sampleIndices` keep one invariant: the places drawn so far are distinct and
below a bound. The two shuffles only permute their entries, and a new place is either one that was
not drawn before or the greatest one allowed, which could not have been drawn. So a draw gives as
many distinct entries as asked for, or all of them.
-/

namespace BombMission

variable {σ : Type} [RandomSource σ]

/-- Distinct places below a bound. -/
structure IsChoice (size amount : Nat) (places : List Nat) : Prop where
  length : places.length = amount
  nodup : places.Nodup
  below : ∀ place ∈ places, place < size

namespace IsChoice

variable {size amount : Nat} {places : List Nat}

theorem nil (size : Nat) : IsChoice size 0 [] :=
  ⟨rfl, .nil, by simp⟩

theorem perm (choice : IsChoice size amount places) {other : List Nat}
    (same : other.Perm places) : IsChoice size amount other := by
  refine ⟨same.length_eq.trans choice.length, same.nodup_iff.2 choice.nodup, ?_⟩
  intro place member
  exact choice.below place (same.mem_iff.1 member)

theorem range (size : Nat) : IsChoice size size (List.range size) :=
  ⟨List.length_range, List.nodup_range, fun _ member => List.mem_range.1 member⟩

theorem take (choice : IsChoice size size places) (fits : amount ≤ size) :
    IsChoice size amount (places.take amount) := by
  refine ⟨?_, choice.nodup.sublist (List.take_sublist _ _), ?_⟩
  · rw [List.length_take, choice.length]
    exact Nat.min_eq_left fits
  · intro place member
    exact choice.below place (List.mem_of_mem_take member)

theorem cons (choice : IsChoice size amount places) {place : Nat} (fresh : place ∉ places)
    (below : place ≤ size) : IsChoice (size + 1) (amount + 1) (place :: places) := by
  refine ⟨by rw [List.length_cons, choice.length], List.nodup_cons.2 ⟨fresh, choice.nodup⟩, ?_⟩
  intro other member
  rcases List.mem_cons.1 member with rfl | old
  · exact Nat.lt_succ_of_le below
  · exact Nat.lt_succ_of_lt (choice.below other old)

end IsChoice

/-! ### Shuffles -/

theorem swapIfInBounds_perm (entries : Array Nat) (i j : Nat) :
    (entries.swapIfInBounds i j).toList.Perm entries.toList := by
  rw [Array.swapIfInBounds_def]
  split
  · split
    · exact (Array.swap_perm _ _).toList
    · exact .refl _
  · exact .refl _

theorem fillPlaces_perm (size steps first : Nat) (entries : Array Nat) (source : σ) :
    (fillPlaces size steps first entries source).1.toList.Perm entries.toList := by
  induction steps generalizing first entries source with
  | zero => exact .refl _
  | succ steps ih => exact (ih _ _ _).trans (swapIfInBounds_perm entries _ _)

theorem settlePlaces_perm (last : Nat) (entries : Array Nat) (source : σ) :
    (settlePlaces last entries source).1.toList.Perm entries.toList := by
  induction last generalizing entries source with
  | zero => exact .refl _
  | succ last ih => exact (ih _ _).trans (swapIfInBounds_perm entries _ _)

/-! ### Growing lists of distinct places -/

/-- The newest place takes the place of one that was drawn before. -/
theorem addPlace_perm (policy : Repeated) (newest drawn : Nat) (chosen : List Nat) :
    (addPlace policy newest drawn chosen).Perm
      ((if drawn ∈ chosen then newest else drawn) :: chosen) := by
  have behind : ∀ place, (chosen ++ [place]).Perm (place :: chosen) := by
    intro place
    exact List.perm_append_comm
  unfold addPlace
  cases found : chosen.idxOf? drawn with
  | none =>
    rw [if_neg (List.idxOf?_eq_none_iff.1 found)]
    exact behind drawn
  | some place =>
    have member : drawn ∈ chosen := by
      rw [← List.isSome_idxOf?, found]
      rfl
    obtain ⟨inside, -⟩ := List.idxOf?_eq_some_iff.1 found
    rw [if_pos member]
    cases policy with
    | inFront => exact List.perm_insertIdx newest chosen (Nat.le_of_lt inside)
    | atEnd => exact behind newest

theorem IsChoice.addPlace {newest amount : Nat} {chosen : List Nat}
    (choice : IsChoice newest amount chosen) (policy : Repeated) {drawn : Nat}
    (allowed : drawn ≤ newest) :
    IsChoice (newest + 1) (amount + 1) (addPlace policy newest drawn chosen) := by
  refine IsChoice.perm ?_ (addPlace_perm policy newest drawn chosen)
  by_cases member : drawn ∈ chosen
  -- the newest place was out of reach of all draws before
  · rw [if_pos member]
    refine choice.cons ?_ (Nat.le_refl newest)
    intro old
    exact Nat.lt_irrefl newest (choice.below newest old)
  · rw [if_neg member]
    exact choice.cons member allowed

theorem IsChoice.addPlaces {newest amount : Nat} {chosen : List Nat}
    (choice : IsChoice newest amount chosen) (policy : Repeated) (steps : Nat) (source : σ) :
    IsChoice (newest + steps) (amount + steps) (addPlaces policy steps newest chosen source).1 := by
  induction steps generalizing newest amount chosen source with
  | zero => exact choice
  | succ steps ih =>
    have allowed : (RandomSource.below (newest + 1) source).1 ≤ newest :=
      Nat.le_of_lt_succ (RandomSource.below_lt _ source (Nat.succ_pos newest))
    have grown := ih (choice.addPlace policy allowed) (RandomSource.below (newest + 1) source).2
    rw [Nat.add_right_comm newest 1 steps, Nat.add_right_comm amount 1 steps] at grown
    exact grown

/-- The places are distinct and as many as asked for, whichever method draws them. -/
theorem sampleIndices_isChoice {size amount : Nat} (fits : amount ≤ size) (source : σ) :
    IsChoice size amount (sampleIndices size amount source).1 := by
  have grown : ∀ policy, IsChoice size amount
      (addPlaces policy amount (size - amount) [] source).1 := by
    intro policy
    have added := (IsChoice.nil (size - amount)).addPlaces policy amount source
    rwa [Nat.sub_add_cancel fits, Nat.zero_add] at added
  unfold sampleIndices
  split
  · have all : IsChoice size size (Array.range size).toList := by
      rw [Array.toList_range]
      exact .range size
    exact (all.perm (fillPlaces_perm size amount 0 _ source)).take fits
  · split
    · exact grown .inFront
    · exact (grown .atEnd).perm (settlePlaces_perm _ _ _)

/-! ### Entries -/

variable {α : Type}

theorem length_filterMap_getElem? {entries : List α} {places : List Nat}
    (inside : ∀ place ∈ places, place < entries.length) :
    (places.filterMap (entries[·]?)).length = places.length := by
  induction places with
  | nil => rfl
  | cons place places ih =>
    have first : place < entries.length := inside place (by simp)
    have rest := ih fun other member => inside other (by simp [member])
    rw [List.filterMap_cons_some (List.getElem?_eq_getElem first), List.length_cons, rest,
      List.length_cons]

@[simp] theorem length_sample (entries : List α) (amount : Nat) (source : σ) :
    (sample entries amount source).1.length = min amount entries.length := by
  have choice := sampleIndices_isChoice (Nat.min_le_right amount entries.length) source
  exact (length_filterMap_getElem? choice.below).trans choice.length

theorem mem_of_mem_sample {entries : List α} {amount : Nat} {source : σ} {entry : α}
    (drawn : entry ∈ (sample entries amount source).1) : entry ∈ entries := by
  obtain ⟨place, -, found⟩ := List.mem_filterMap.1 drawn
  exact List.mem_of_getElem? found

/-- What holds of any two entries holds of any two that are drawn, since none is drawn twice. -/
theorem pairwise_sample {related : α → α → Prop} (symmetric : ∀ a b, related a b → related b a)
    {entries : List α} (pairwise : entries.Pairwise related) (amount : Nat) (source : σ) :
    (sample entries amount source).1.Pairwise related := by
  have choice := sampleIndices_isChoice (Nat.min_le_right amount entries.length) source
  refine List.pairwise_filterMap.2 (choice.nodup.imp ?_)
  intro i j differ a atFirst b atSecond
  obtain ⟨firstInside, rfl⟩ := List.getElem?_eq_some_iff.1 atFirst
  obtain ⟨secondInside, rfl⟩ := List.getElem?_eq_some_iff.1 atSecond
  rcases Nat.lt_or_gt_of_ne differ with before | behind
  · exact List.pairwise_iff_getElem.1 pairwise i j firstInside secondInside before
  · exact symmetric _ _ (List.pairwise_iff_getElem.1 pairwise j i secondInside firstInside behind)

end BombMission
