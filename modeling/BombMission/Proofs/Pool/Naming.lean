import BombMission.Proofs.Pool.References
import BombMission.Proofs.Token.Quoting

/-!
# Pools of listed ids

A list of ids is read as just these ids, as long as no id has a quote or a separator in it or a blank
at one of its ends, the first one does not start like a profile, and the list is not the keyword of an
aggregate. Ids the catalog knows then come to their modules, in their order.

## Main results

* `idsOf_listedIds`: the ids of a list are read off it again.
* `read_listedIds`: what a list of known ids refers to.
* `resolvePool_quotedPool`: what a pool of quoted ids comes to.
-/

namespace BombMission

open Text

/-- Ids that a pool can name by quoting them, with nothing else to be found in their list. -/
structure AreQuotable (ids : List String) : Prop where
  nonempty : ids ≠ []
  plain : ∀ id ∈ ids, IsPlainId id
  first : ∀ id ∈ ids, ∀ c, id.toList.head? = some c → isBlank c = false
  last : ∀ id ∈ ids, ∀ c, id.toList.getLast? = some c → isBlank c = false
  noKeyword : ∀ a : Aggregate, ids ≠ [a.keyword]
  noProfile : ∀ id, ids.head? = some id → ∀ kind name, ¬ NamesProfile kind id name

/-! ### Blanks around a text -/

theorem trimBlanks_around {front text back : List Char} (frontBlank : ∀ c ∈ front, isBlank c = true)
    (backBlank : ∀ c ∈ back, isBlank c = true) :
    trimBlanks (front ++ text ++ back) = trimBlanks text := by
  obtain ⟨⟨before, behind, whole, beforeBlank, behindBlank⟩, first, last⟩ := isTrimmed_trimBlanks text
  rw [trimBlanks_eq_iff]
  refine ⟨⟨front ++ before, behind ++ back, ?_, ?_, ?_⟩, first, last⟩
  · conv_lhs => rw [whole]
    simp only [List.append_assoc]
  · intro c member
    exact (List.mem_append.1 member).elim (frontBlank c) (beforeBlank c)
  · intro c member
    exact (List.mem_append.1 member).elim (behindBlank c) (backBlank c)

theorem mem_trimBlanks {text : List Char} {c : Char} (member : c ∈ text)
    (solid : isBlank c = false) : c ∈ trimBlanks text := by
  obtain ⟨⟨front, back, whole, frontBlank, backBlank⟩, -, -⟩ := isTrimmed_trimBlanks text
  rw [whole, List.mem_append, List.mem_append] at member
  rcases member with (before | inside) | behind
  · cases solid.symm.trans (frontBlank c before)
  · exact inside
  · cases solid.symm.trans (backBlank c behind)

theorem trimBlanks_prefix {text : List Char}
    (solid : ∀ c, text.head? = some c → isBlank c = false) : trimBlanks text <+: text := by
  obtain ⟨⟨front, back, whole, frontBlank, -⟩, -, -⟩ := isTrimmed_trimBlanks text
  -- a blank in front would be the first character of the text
  cases front with
  | nil => exact ⟨back, whole.symm⟩
  | cons c front =>
    have first : text.head? = some c := by rw [whole]; rfl
    cases (solid c first).symm.trans (frontBlank c List.mem_cons_self)

theorem splitOn_append_right {isMark : Char → Bool} {back : List Char}
    (unmarked : ∀ c ∈ back, isMark c = false) (text : List Char) :
    ∃ pieces last, splitOn isMark text = pieces ++ [last] ∧
      splitOn isMark (text ++ back) = pieces ++ [last ++ back] := by
  induction text with
  | nil => exact ⟨[], [], rfl, splitOn_of_forall_not unmarked⟩
  | cons c text ih =>
    obtain ⟨pieces, last, here, there⟩ := ih
    rw [List.cons_append, splitOn, splitOn, here, there]
    by_cases mark : isMark c = true
    · exact ⟨[] :: pieces, last, if_pos mark, if_pos mark⟩
    · rw [if_neg mark, if_neg mark]
      -- the character joins the first piece, which may be the last one too
      cases pieces with
      | nil => exact ⟨[], c :: last, rfl, rfl⟩
      | cons piece pieces => exact ⟨(c :: piece) :: pieces, last, rfl, rfl⟩

theorem splitOn_append_left {isMark : Char → Bool} {front : List Char}
    (unmarked : ∀ c ∈ front, isMark c = false) (text : List Char) :
    ∃ first pieces, splitOn isMark text = first :: pieces ∧
      splitOn isMark (front ++ text) = (front ++ first) :: pieces := by
  induction front with
  | nil =>
    obtain ⟨first, pieces, here⟩ := List.exists_cons_of_ne_nil (splitOn_ne_nil isMark text)
    exact ⟨first, pieces, here, here⟩
  | cons c front ih =>
    obtain ⟨plain, later⟩ := List.forall_mem_cons.1 unmarked
    obtain ⟨first, pieces, here, there⟩ := ih later
    refine ⟨first, pieces, here, ?_⟩
    rw [List.cons_append, splitOn, there, if_neg (by simp [plain])]
    rfl

theorem isSeparator_of_isBlank {c : Char} (blank : isBlank c = true) : isSeparator c = false := by
  cases separator : isSeparator c with
  | false => rfl
  | true => cases (isBlank_of_isSeparator separator).symm.trans blank

/-- Blanks around a list are no part of its ids. -/
theorem idsOf_around {front back : List Char} (frontBlank : ∀ c ∈ front, isBlank c = true)
    (backBlank : ∀ c ∈ back, isBlank c = true) (text : List Char) :
    Reference.idsOf (String.ofList (front ++ text ++ back)) =
      Reference.idsOf (String.ofList text) := by
  have frontPlain : ∀ c ∈ front, isSeparator c = false :=
    fun c member => isSeparator_of_isBlank (frontBlank c member)
  have backPlain : ∀ c ∈ back, isSeparator c = false :=
    fun c member => isSeparator_of_isBlank (backBlank c member)
  obtain ⟨first, pieces, here, there⟩ := splitOn_append_left frontPlain text
  obtain ⟨others, last, whole, behind⟩ := splitOn_append_right backPlain (front ++ text)
  have trimFirst : trimBlanks (front ++ first) = trimBlanks first := by
    have around := @trimBlanks_around front first [] frontBlank (by simp)
    rwa [List.append_nil] at around
  have trimLast : trimBlanks (last ++ back) = trimBlanks last :=
    @trimBlanks_around [] last back (by simp) backBlank
  simp only [Reference.idsOf, String.toList_ofList]
  -- the blanks behind go with the last piece, and then those in front with the first
  calc (splitOn isSeparator (front ++ text ++ back)).map (fun piece => String.ofList (trimBlanks piece))
      = (splitOn isSeparator (front ++ text)).map fun piece => String.ofList (trimBlanks piece) := by
        rw [behind, whole]
        simp [trimLast]
    _ = (splitOn isSeparator text).map fun piece => String.ofList (trimBlanks piece) := by
        rw [there, here]
        simp [trimFirst]

theorem idsOf_trimBlanks (text : List Char) :
    Reference.idsOf (String.ofList (trimBlanks text)) = Reference.idsOf (String.ofList text) := by
  obtain ⟨⟨front, back, whole, frontBlank, backBlank⟩, -, -⟩ := isTrimmed_trimBlanks text
  have around := idsOf_around frontBlank backBlank (trimBlanks text)
  rw [← around, ← whole]

/-! ### Lists -/

variable {ids : List String}

/-- The ids of a list are read off it again. -/
theorem idsOf_listedIds (plain : ∀ id ∈ ids, IsPlainId id) (nonempty : ids ≠ [])
    (solid : ∀ id ∈ ids, trimBlanks id.toList = id.toList) :
    Reference.idsOf (String.ofList (listedIds ids)) = ids := by
  obtain ⟨id, ids, rfl⟩ := List.exists_cons_of_ne_nil nonempty
  induction ids generalizing id with
  | nil =>
    have unmarked : ∀ c ∈ id.toList, isSeparator c = false :=
      fun c member => (plain id List.mem_cons_self c member).2
    rw [listedIds_cons, List.flatMap_nil, List.append_nil, Reference.idsOf, String.toList_ofList,
      splitOn_of_forall_not unmarked, List.map_singleton, solid id List.mem_cons_self,
      String.ofList_toList]
  | cons next ids ih =>
    obtain ⟨plainId, plainIds⟩ := List.forall_mem_cons.1 plain
    obtain ⟨solidId, solidIds⟩ := List.forall_mem_cons.1 solid
    have unmarked : ∀ c ∈ id.toList, isSeparator c = false :=
      fun c member => (plainId c member).2
    -- behind the separator stands a blank, and then the list of the other ids
    have whole : listedIds (id :: next :: ids) =
        id.toList ++ ',' :: ([' '] ++ listedIds (next :: ids) ++ []) := by
      simp [listedIds_cons]
    have rest := @idsOf_around [' '] [] (by simp [isBlank]) (by simp) (listedIds (next :: ids))
    rw [ih next plainIds (List.cons_ne_nil _ _) solidIds] at rest
    rw [whole, Reference.idsOf, String.toList_ofList, splitOn_eq_splitOnP,
      List.splitOnP_append_cons_of_forall_mem unmarked _ rfl, ← splitOn_eq_splitOnP,
      List.map_cons, solidId, String.ofList_toList]
    rw [Reference.idsOf, String.toList_ofList] at rest
    rw [rest]

/-! ### What a list refers to -/

/-- Behind an id of a list stands a comma, if anything. -/
theorem head_behindId {others : List String} :
    ∀ c, (others.flatMap fun next => ',' :: ' ' :: next.toList).head? = some c → c = ',' := by
  intro c first
  cases others with
  | nil => cases first
  | cons next others => exact (Option.some.inj first).symm

theorem comma_not_mem_of_spellsWord {kind : ModuleKind} {word : List Char}
    (spells : SpellsWord (profileKeyword kind).toList word) : ',' ∉ word := by
  intro member
  have lower : ',' ∈ (profileKeyword kind).toList.map Char.toLower := by
    rw [← spells]
    exact List.mem_map_of_mem member
  revert lower
  cases kind <;> decide

namespace AreQuotable

variable (quotable : AreQuotable ids)
include quotable

theorem trimBlanks_eq {id : String} (member : id ∈ ids) : trimBlanks id.toList = id.toList := by
  rw [trimBlanks_eq_iff]
  exact ⟨⟨[], [], by simp, by simp, by simp⟩, quotable.first id member, quotable.last id member⟩

/-- An aggregate keyword is a single word, and a longer list has a comma. -/
theorem body_ne_keyword (a : Aggregate) :
    String.ofList (trimBlanks (listedIds ids)) ≠ a.keyword := by
  intro same
  obtain ⟨id, others, rfl⟩ := List.exists_cons_of_ne_nil quotable.nonempty
  cases others with
  | nil =>
    rw [listedIds_cons, List.flatMap_nil, List.append_nil, quotable.trimBlanks_eq List.mem_cons_self,
      String.ofList_toList] at same
    exact quotable.noKeyword a (congrArg (fun id => [id]) same)
  | cons next others =>
    have comma : ',' ∈ listedIds (id :: next :: others) := by simp [listedIds_cons]
    have inside : ',' ∈ a.keyword.toList := by
      rw [← same, String.toList_ofList]
      exact mem_trimBlanks comma rfl
    revert inside
    rcases a with ⟨_ | _ | _, _ | _⟩ <;> decide

/-- A list of quotable ids does not start with a blank. -/
theorem head_listedIds :
    ∀ c, (listedIds ids).head? = some c → isBlank c = false := by
  intro c starts
  obtain ⟨id, others, rfl⟩ := List.exists_cons_of_ne_nil quotable.nonempty
  rw [listedIds_cons, List.head?_append] at starts
  cases start : id.toList.head? with
  | some d =>
    rw [start] at starts
    obtain rfl := Option.some.inj starts
    exact quotable.first id List.mem_cons_self d start
  -- the first id may be empty, and then the list starts with a comma
  | none =>
    rw [start] at starts
    rw [head_behindId c starts]
    rfl

/-- A list starts like a profile only when its first id does. -/
theorem body_not_namesProfile (kind : ModuleKind) (name : String) :
    ¬ NamesProfile kind (String.ofList (trimBlanks (listedIds ids))) name := by
  rintro ⟨word, spells, whole⟩
  obtain ⟨back, text⟩ := trimBlanks_prefix quotable.head_listedIds
  obtain ⟨id, others, rfl⟩ := List.exists_cons_of_ne_nil quotable.nonempty
  rw [String.toList_ofList] at whole
  rw [whole, listedIds_cons, List.append_assoc] at text
  rcases List.append_eq_append_iff.1 text with ⟨more, inside, -⟩ | ⟨more, beyond, left⟩
  · exact quotable.noProfile id rfl kind (String.ofList more)
      ⟨word, spells, by rw [inside, String.toList_ofList]⟩
  -- a keyword that goes on behind the first id would have a comma
  · cases more with
    | nil =>
      exact quotable.noProfile id rfl kind "" ⟨word, spells, by simp [beyond]⟩
    | cons c more =>
      have first := head_behindId c (by rw [left]; rfl)
      apply comma_not_mem_of_spellsWord spells
      rw [beyond, ← first]
      exact List.mem_append_right _ List.mem_cons_self

end AreQuotable

/-- Ids that the catalog knows come to their modules, and none of them is a problem. -/
theorem readIds_of_known {catalog : Catalog} {modules : List ModuleRef}
    (known : ∀ m ∈ modules, catalog.classify m.id = .known m.moduleClass) :
    Reference.readIds catalog (modules.map ModuleRef.id) = (.explicit modules, []) := by
  have each : (modules.map ModuleRef.id).filterMap (Reference.knownModule catalog) = modules ∧
      (modules.map ModuleRef.id).filterMap (Reference.idProblem catalog) = [] := by
    induction modules with
    | nil => exact ⟨rfl, rfl⟩
    | cons m modules ih =>
      obtain ⟨first, others⟩ := List.forall_mem_cons.1 known
      obtain ⟨found, fine⟩ := ih others
      simp [Reference.knownModule, Reference.idProblem, first, found, fine]
  rw [Reference.readIds, each.1, each.2]

variable {ctx : Context} {modules : List ModuleRef}

theorem read_listedIds (quotable : AreQuotable (modules.map ModuleRef.id))
    (known : ∀ m ∈ modules, ctx.catalog.classify m.id = .known m.moduleClass) :
    Reference.read ctx (String.ofList (trimBlanks (listedIds (modules.map ModuleRef.id)))) =
      (.explicit modules, []) := by
  have ids : Reference.idsOf (String.ofList (listedIds (modules.map ModuleRef.id))) =
      modules.map ModuleRef.id :=
    idsOf_listedIds quotable.plain quotable.nonempty fun id member => quotable.trimBlanks_eq member
  rw [read_eq_readIds quotable.body_ne_keyword quotable.body_not_namesProfile, idsOf_trimBlanks, ids,
    readIds_of_known known]

/-- A pool of quoted ids comes to one pool of their modules, without a problem and without a draw. -/
theorem resolvePool_quotedPool {σ : Type} [RandomSource σ]
    (quotable : AreQuotable (modules.map ModuleRef.id))
    (known : ∀ m ∈ modules, ctx.catalog.classify m.id = .known m.moduleClass) (count : Nat)
    (source : σ) :
    resolvePool ctx (quotedPool count (modules.map ModuleRef.id)).body count false source =
      ({ pools := [{ count, unique := false, content := .explicit modules }]
         hasSolvable := modules.any ModuleRef.isSolvable
         profile := none
         problems := [] }, source) := by
  simp only [quotedPool, resolvePool, read_listedIds quotable known]
  rfl

end BombMission
