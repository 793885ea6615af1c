import BombMission.Proofs.Pool.Resolution
import BombMission.Proofs.Text.Pieces
import BombMission.Proofs.Token.Body
import Mathlib.Data.List.Forall2

/-!
# What is wrong with a reference

The body of a pool is an aggregate keyword, a profile keyword with a name behind it, or a list of
ids. `ReportsReference` says which problems each of them has, without a word about how a body is
looked up: an aggregate has none, a profile at most one, and a list one for every id that is not
known, in its order.

## Main results

* `reportsReference_iff`: these are the problems that looking a body up gives, and no others.
* `filter_problems_resolvePool`: among the problems of a pool they are all that speak of its reference,
  whether modules are drawn from it or not.
-/

namespace BombMission

open Text

/-! ### Rules -/

/-- The body is the keyword of a profile, in any ASCII case, and the name behind it. -/
def NamesProfile (kind : ModuleKind) (body name : String) : Prop :=
  ∃ word, SpellsWord (profileKeyword kind).toList word ∧ body.toList = word ++ name.toList

/-- The ids of a body are its pieces between commas and plus signs, without the blanks around
them. -/
def ListsIds (body : String) (ids : List String) : Prop :=
  List.Forall₂ (fun piece id => IsTrimmed piece id.toList)
    (body.toList.splitOnP isSeparator) ids

/-- An id is reported when the catalog does not know it, and when it is disabled. -/
inductive ReportsIds (catalog : Catalog) : List String → List Diagnostic → Prop where
  | nil : ReportsIds catalog [] []
  | known {id : String} {moduleClass : ModuleClass} {ids : List String}
      {problems : List Diagnostic} :
      catalog.classify id = .known moduleClass → ReportsIds catalog ids problems →
      ReportsIds catalog (id :: ids) problems
  | disabled {id : String} {ids : List String} {problems : List Diagnostic} :
      catalog.classify id = .disabled → ReportsIds catalog ids problems →
      ReportsIds catalog (id :: ids) (.disabledModule id :: problems)
  | unknown {id : String} {ids : List String} {problems : List Diagnostic} :
      catalog.classify id = .unknown → ReportsIds catalog ids problems →
      ReportsIds catalog (id :: ids) (.unknownModule id :: problems)

/-- The problems with what the body of a pool refers to. -/
inductive ReportsReference (ctx : Context) : String → List Diagnostic → Prop where
  | aggregate (a : Aggregate) : ReportsReference ctx a.keyword []
  | unknownProfile {kind : ModuleKind} {body name : String} :
      NamesProfile kind body name → ctx.profiles.get? name = none →
      ReportsReference ctx body [.unknownProfile name]
  | emptyProfile {kind : ModuleKind} {body name : String} {profile : Profile} :
      NamesProfile kind body name → ctx.profiles.get? name = some profile →
      (∀ m ∈ ctx.catalog.enabled kind, m.id ∈ profile.disabled) →
      ReportsReference ctx body [.emptyProfile name]
  | profile {kind : ModuleKind} {body name : String} {profile : Profile} {m : ModuleRef} :
      NamesProfile kind body name → ctx.profiles.get? name = some profile →
      m ∈ ctx.catalog.enabled kind → m.id ∉ profile.disabled → ReportsReference ctx body []
  | ids {body : String} {ids : List String} {problems : List Diagnostic} :
      (∀ a : Aggregate, body ≠ a.keyword) → (∀ kind name, ¬ NamesProfile kind body name) →
      ListsIds body ids → ReportsIds ctx.catalog ids problems → ReportsReference ctx body problems

/-- Whether a problem is about what a pool refers to. -/
def Diagnostic.isAboutReference : Diagnostic → Bool
  | unknownModule _ | disabledModule _ | unknownProfile _ | emptyProfile _ => true
  | _ => false

/-! ### Lists of ids -/

theorem listsIds_iff {body : String} {ids : List String} :
    ListsIds body ids ↔ Reference.idsOf body = ids := by
  have trims : ∀ (piece : List Char) (id : String),
      IsTrimmed piece id.toList ↔ String.ofList (trimBlanks piece) = id := by
    intro piece id
    rw [← trimBlanks_eq_iff, ← String.toList_inj, String.toList_ofList]
  unfold ListsIds Reference.idsOf
  simp only [trims, splitOn_eq_splitOnP]
  rw [← List.forall₂_map_left_iff, List.forall₂_eq_eq_eq]

theorem reportsIds_iff {catalog : Catalog} {ids : List String} {problems : List Diagnostic} :
    ReportsIds catalog ids problems ↔ ids.filterMap (Reference.idProblem catalog) = problems := by
  constructor
  · intro reports
    induction reports with
    | nil => rfl
    | known known _ ih => simp [Reference.idProblem, known, ih]
    | disabled disabled _ ih => simp [Reference.idProblem, disabled, ih]
    | unknown unknown _ ih => simp [Reference.idProblem, unknown, ih]
  · rintro rfl
    induction ids with
    | nil => exact .nil
    | cons id ids ih =>
      cases found : catalog.classify id with
      | known moduleClass =>
        simpa [Reference.idProblem, found] using ReportsIds.known found ih
      | disabled => simpa [Reference.idProblem, found] using ReportsIds.disabled found ih
      | unknown => simpa [Reference.idProblem, found] using ReportsIds.unknown found ih

/-! ### Keywords -/

theorem namesProfile_iff {kind : ModuleKind} {body name : String} :
    NamesProfile kind body name ↔ Reference.profileBody? kind body = some name := by
  unfold NamesProfile Reference.profileBody?
  rw [Option.map_eq_some_iff]
  constructor
  · rintro ⟨word, spells, whole⟩
    exact ⟨name.toList, dropWordIgnoringCase_eq_some_iff.2 ⟨word, whole, spells⟩,
      String.ofList_toList⟩
  · rintro ⟨behind, dropped, rfl⟩
    obtain ⟨word, whole, spells⟩ := dropWordIgnoringCase_eq_some_iff.1 dropped
    exact ⟨word, spells, by rw [whole, String.toList_ofList]⟩

/-- No aggregate keyword starts with the keyword of a profile. -/
theorem profileBody?_aggregate (kind : ModuleKind) (a : Aggregate) :
    Reference.profileBody? kind a.keyword = none := by
  rcases a with ⟨_ | _ | _, _ | _⟩ <;> cases kind <;> decide

theorem NamesProfile.head {kind : ModuleKind} {body name : String}
    (names : NamesProfile kind body name) :
    (body.toList.map Char.toLower).head? = ((profileKeyword kind).toList.map Char.toLower).head? := by
  obtain ⟨word, spells, whole⟩ := names
  rw [whole, List.map_append, spells]
  cases kind <;> rfl

/-- The two keywords of profiles start with different letters, so a body has one of them at most. -/
theorem NamesProfile.kind_unique {kind other : ModuleKind} {body name otherName : String}
    (names : NamesProfile kind body name) (otherNames : NamesProfile other body otherName) :
    kind = other := by
  have letters := names.head.symm.trans otherNames.head
  revert letters
  cases kind <;> cases other <;> decide

/-! ### Looking a body up -/

theorem ofKeyword?_eq_none {body : String} (other : ∀ a : Aggregate, body ≠ a.keyword) :
    Aggregate.ofKeyword? body = none := by
  cases found : Aggregate.ofKeyword? body with
  | none => rfl
  | some a => exact absurd (Aggregate.keyword_of_ofKeyword? found).symm (other a)

theorem profileBody?_eq_none {kind : ModuleKind} {body : String}
    (other : ∀ name, ¬ NamesProfile kind body name) : Reference.profileBody? kind body = none := by
  cases found : Reference.profileBody? kind body with
  | none => rfl
  | some name => exact absurd (namesProfile_iff.2 found) (other name)

theorem NamesProfile.read_eq {kind : ModuleKind} {body name : String}
    (names : NamesProfile kind body name) (ctx : Context) :
    Reference.read ctx body = Reference.readProfile ctx kind name := by
  have named := namesProfile_iff.1 names
  have noKeyword : Aggregate.ofKeyword? body = none := by
    apply ofKeyword?_eq_none
    rintro a rfl
    cases (profileBody?_aggregate kind a).symm.trans named
  cases kind with
  | solvable => simp only [Reference.read, noKeyword, named]
  | needy =>
    have noSolvable : Reference.profileBody? .solvable body = none := by
      apply profileBody?_eq_none
      intro other otherNames
      cases names.kind_unique otherNames
    simp only [Reference.read, noKeyword, noSolvable, named]

theorem read_eq_readIds {body : String} (noKeyword : ∀ a : Aggregate, body ≠ a.keyword)
    (noProfile : ∀ kind name, ¬ NamesProfile kind body name) (ctx : Context) :
    Reference.read ctx body = Reference.readIds ctx.catalog (Reference.idsOf body) := by
  simp only [Reference.read, ofKeyword?_eq_none noKeyword,
    profileBody?_eq_none (noProfile .solvable), profileBody?_eq_none (noProfile .needy)]

theorem problems_readProfile_none {ctx : Context} {name : String}
    (missing : ctx.profiles.get? name = none) (kind : ModuleKind) :
    (Reference.readProfile ctx kind name).2 = [.unknownProfile name] := by
  simp [Reference.readProfile, missing]

theorem problems_readProfile_some {ctx : Context} {name : String} {profile : Profile}
    (found : ctx.profiles.get? name = some profile) (kind : ModuleKind) :
    (Reference.readProfile ctx kind name).2 =
      if ∀ m ∈ ctx.catalog.enabled kind, m.id ∈ profile.disabled then [.emptyProfile name]
      else [] := by
  simp [Reference.readProfile, found, Profile.enabledModules]

/-- A body has exactly the problems that looking it up gives. -/
theorem reportsReference_iff {ctx : Context} {body : String} {problems : List Diagnostic} :
    ReportsReference ctx body problems ↔ (Reference.read ctx body).2 = problems := by
  constructor
  · intro reports
    cases reports with
    | aggregate a => simp [Reference.read, a.ofKeyword?_keyword]
    | unknownProfile names missing =>
      rw [names.read_eq, problems_readProfile_none missing]
    | emptyProfile names found empty =>
      rw [names.read_eq, problems_readProfile_some found, if_pos empty]
    | profile names found member enabled =>
      rw [names.read_eq, problems_readProfile_some found, if_neg fun all => enabled (all _ member)]
    | ids noKeyword noProfile lists reports =>
      rw [read_eq_readIds noKeyword noProfile, listsIds_iff.1 lists]
      exact reportsIds_iff.1 reports
  · rintro rfl
    -- the three kinds of body are looked for in turn
    by_cases keyword : ∃ a : Aggregate, body = a.keyword
    · obtain ⟨a, rfl⟩ := keyword
      have reports : ReportsReference ctx a.keyword [] := .aggregate a
      simpa [Reference.read, a.ofKeyword?_keyword] using reports
    by_cases profile : ∃ kind name, NamesProfile kind body name
    · obtain ⟨kind, name, names⟩ := profile
      rw [names.read_eq]
      cases found : ctx.profiles.get? name with
      | none =>
        rw [problems_readProfile_none found]
        exact .unknownProfile names found
      | some profile =>
        rw [problems_readProfile_some found]
        split
        next empty => exact .emptyProfile names found empty
        next some =>
          obtain ⟨m, member, enabled⟩ : ∃ m ∈ ctx.catalog.enabled kind, m.id ∉ profile.disabled := by
            simpa using some
          exact .profile names found member enabled
    · have noKeyword : ∀ a : Aggregate, body ≠ a.keyword := not_exists.1 keyword
      have noProfile : ∀ kind name, ¬ NamesProfile kind body name := by simpa using profile
      rw [read_eq_readIds noKeyword noProfile]
      exact .ids noKeyword noProfile (listsIds_iff.2 rfl) (reportsIds_iff.2 rfl)

/-! ### Problems of pools -/

theorem isAboutReference_of_mem_read {ctx : Context} {body : String} {problem : Diagnostic}
    (member : problem ∈ (Reference.read ctx body).2) : problem.isAboutReference = true := by
  have ids : ∀ {ids problems}, ReportsIds ctx.catalog ids problems →
      ∀ problem ∈ problems, problem.isAboutReference = true := by
    intro ids problems reports
    induction reports with
    | nil => simp
    | known _ _ ih => exact ih
    | disabled _ _ ih => exact List.forall_mem_cons.2 ⟨rfl, ih⟩
    | unknown _ _ ih => exact List.forall_mem_cons.2 ⟨rfl, ih⟩
  have reports : ReportsReference ctx body (Reference.read ctx body).2 :=
    reportsReference_iff.2 rfl
  generalize (Reference.read ctx body).2 = problems at member reports
  cases reports with
  | aggregate | profile => cases member
  | unknownProfile | emptyProfile =>
    rw [List.mem_singleton.1 member]
    rfl
  | ids _ _ _ reports => exact ids reports problem member

theorem filter_shortfall (count found : Nat) :
    (shortfall count found).filter Diagnostic.isAboutReference = [] := by
  unfold shortfall
  split
  · rfl
  · split <;> rfl

/-- What is drawn from a reference adds no problem with the reference. -/
theorem filter_problems_resolvePool {σ : Type} [RandomSource σ] (ctx : Context) (body : String)
    (count : Nat) (unique : Bool) (source : σ) :
    (resolvePool ctx body count unique source).1.problems.filter Diagnostic.isAboutReference =
      (Reference.read ctx body).2 := by
  have all : (Reference.read ctx body).2.filter Diagnostic.isAboutReference =
      (Reference.read ctx body).2 :=
    List.filter_eq_self.2 fun problem member => isAboutReference_of_mem_read member
  cases unique with
  | false => rw [problems_resolvePool_plain, all]
  | true =>
    rw [problems_resolvePool_unique, List.filter_append, all, filter_shortfall, List.append_nil]

end BombMission
