/-!
# Sets of ids

A set of module ids, kept as a list in strictly increasing order of code points. The order makes the
list canonical: sets with the same members are equal, however they were filled.
-/

namespace BombMission

/-- Adds an id to an increasing list of ids. -/
def insertId (id : String) : List String → List String
  | [] => [id]
  | first :: rest =>
    if id < first then id :: first :: rest
    else if id = first then first :: rest
    else first :: insertId id rest

theorem mem_insertId {id other : String} {ids : List String} :
    other ∈ insertId id ids ↔ other = id ∨ other ∈ ids := by
  induction ids with
  | nil => simp [insertId]
  | cons first rest ih =>
    unfold insertId
    split
    · simp
    · split
      next same => simp [same]
      · simp only [List.mem_cons, ih, or_left_comm]

theorem pairwise_insertId {id : String} {ids : List String} (sorted : ids.Pairwise (· < ·)) :
    (insertId id ids).Pairwise (· < ·) := by
  induction ids with
  | nil => simp [insertId]
  | cons first rest ih =>
    have parts := List.pairwise_cons.1 sorted
    unfold insertId
    split
    next below =>
      refine List.pairwise_cons.2 ⟨?_, sorted⟩
      intro other member
      rcases List.mem_cons.1 member with rfl | member
      · exact below
      · exact String.lt_trans below (parts.1 other member)
    · split
      · exact sorted
      next notBelow differs =>
        refine List.pairwise_cons.2 ⟨?_, ih parts.2⟩
        intro other member
        rcases mem_insertId.1 member with rfl | member
        · rcases Std.lt_trichotomy other first with below | same | above
          · exact absurd below notBelow
          · exact absurd same differs
          · exact above
        · exact parts.1 other member

theorem eq_of_pairwise_lt {left right : List String} (leftSorted : left.Pairwise (· < ·))
    (rightSorted : right.Pairwise (· < ·)) (same : ∀ id, id ∈ left ↔ id ∈ right) :
    left = right := by
  induction left generalizing right with
  | nil =>
    cases right with
    | nil => rfl
    | cons first rest => exact absurd ((same first).2 (List.mem_cons_self ..)) (List.not_mem_nil)
  | cons a left ih =>
    cases right with
    | nil => exact absurd ((same a).1 (List.mem_cons_self ..)) (List.not_mem_nil)
    | cons b right =>
      have leftParts := List.pairwise_cons.1 leftSorted
      have rightParts := List.pairwise_cons.1 rightSorted
      have heads : a = b := by
        rcases List.mem_cons.1 ((same a).1 (List.mem_cons_self ..)) with equal | inRight
        · exact equal
        rcases List.mem_cons.1 ((same b).2 (List.mem_cons_self ..)) with equal | inLeft
        · exact equal.symm
        exact absurd (String.lt_trans (leftParts.1 b inLeft) (rightParts.1 a inRight))
          (String.lt_irrefl a)
      subst heads
      congr 1
      refine ih leftParts.2 rightParts.2 fun id => ?_
      constructor
      · intro member
        rcases List.mem_cons.1 ((same id).1 (List.mem_cons_of_mem _ member)) with rfl | inRight
        · exact absurd (leftParts.1 id member) (String.lt_irrefl id)
        · exact inRight
      · intro member
        rcases List.mem_cons.1 ((same id).2 (List.mem_cons_of_mem _ member)) with rfl | inLeft
        · exact absurd (rightParts.1 id member) (String.lt_irrefl id)
        · exact inLeft

structure IdSet where
  toList : List String
  sorted : toList.Pairwise (· < ·)
  deriving DecidableEq

namespace IdSet

def empty : IdSet := ⟨[], .nil⟩

instance : Inhabited IdSet := ⟨empty⟩

def insert (id : String) (set : IdSet) : IdSet :=
  ⟨insertId id set.toList, pairwise_insertId set.sorted⟩

def ofList (ids : List String) : IdSet :=
  ids.foldl (fun set id => set.insert id) empty

instance : Membership String IdSet := ⟨fun set id => id ∈ set.toList⟩

instance (id : String) (set : IdSet) : Decidable (id ∈ set) :=
  inferInstanceAs (Decidable (id ∈ set.toList))

@[simp] theorem mem_toList {id : String} {set : IdSet} : id ∈ set.toList ↔ id ∈ set := Iff.rfl

@[simp] theorem not_mem_empty {id : String} : ¬ id ∈ empty := List.not_mem_nil

@[simp] theorem mem_insert {id other : String} {set : IdSet} :
    other ∈ set.insert id ↔ other = id ∨ other ∈ set := mem_insertId

@[simp] theorem mem_ofList {id : String} {ids : List String} : id ∈ ofList ids ↔ id ∈ ids := by
  have general : ∀ set : IdSet,
      id ∈ ids.foldl (fun set id => set.insert id) set ↔ id ∈ ids ∨ id ∈ set := by
    induction ids with
    | nil => simp
    | cons first rest ih => intro set; simp [ih, or_assoc, or_left_comm]
  simpa [ofList] using general empty

theorem nodup (set : IdSet) : set.toList.Nodup := by
  refine set.sorted.imp ?_
  rintro id _ below rfl
  exact String.lt_irrefl id below

theorem ext {left right : IdSet} (same : ∀ id, id ∈ left ↔ id ∈ right) : left = right := by
  have lists := eq_of_pairwise_lt left.sorted right.sorted same
  cases left
  cases right
  simpa using lists

end IdSet

end BombMission
