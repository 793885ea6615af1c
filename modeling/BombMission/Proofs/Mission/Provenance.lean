import BombMission.Proofs.Mission.Compiled
import BombMission.Proofs.Outline.Place

/-!
# Where the settings of a bomb come from

A value reaches a bomb in one of three ways: a bomb outside groups starts with the values for all
bombs, a group only takes over whether it shows its front alone, and whatever a bomb has no value for
when it ends is filled in from the values for all bombs. All three come to one rule: a bomb has the
value that is written on it, or else the one that is shared, or else one that follows from the number
of its modules.

## Proof strategy

`Settings.Records` says of one set of settings which tokens it was given. `Progress.Records` relates
a progress to the places of the bombs in the tokens read so far: the settings for all bombs record
what stands outside bombs, those of the open bomb what stands on it. A token without problems keeps
the relation (`step_records`), and a bomb that ends under it is as its place says
(`OpenRecords.setBy`).
-/

namespace BombMission

/-! ### Values in tokens -/

/-- The value that a token gives a setting. -/
def TokenKind.valueFor (setting : BombSetting) (kind : TokenKind) : Option Nat :=
  match kind.assignment? with
  | some (given, value) => if given = setting then value else none
  | none => none

def valuesFor (setting : BombSetting) (kinds : List TokenKind) : List Nat :=
  kinds.filterMap (TokenKind.valueFor setting)

def AskFrontOnly (kinds : List TokenKind) : Prop :=
  ∃ value, .setting .frontOnly value ∈ kinds

/-- The value of a setting for the bomb at a place: its own, or else the shared one. -/
def BombPlace.value (place : BombPlace) (setting : BombSetting) : Option Nat :=
  (valuesFor setting place.own).head?.or (valuesFor setting place.shared).head?

/-- A bomb has the settings that its place gives it, and no setting is given twice. -/
structure Bomb.SetBy (bomb : Bomb) (place : BombPlace) : Prop where
  time : bomb.timeLimit = (place.value .time).getD (min (120 * bomb.moduleCount) Text.maxWord)
  strikes : bomb.strikeLimit =
    (place.value .strikes).getD (min (max 3 (bomb.moduleCount / 12)) Text.maxWord)
  needyActivationTime : bomb.needyActivationTime = place.value .needyActivationTime
  widgets : bomb.widgetCount = place.value .widgets
  frontOnly : bomb.frontFaceOnly = true ↔ AskFrontOnly place.own ∨ AskFrontOnly place.shared
  once : ∀ setting, (valuesFor setting place.own).length ≤ 1 ∧
    (valuesFor setting place.shared).length ≤ 1

theorem valuesFor_append (setting : BombSetting) (first second : List TokenKind) :
    valuesFor setting (first ++ second) = valuesFor setting first ++ valuesFor setting second :=
  List.filterMap_append

/-- Settings hold what some tokens give them, and no token gave a setting a second value. -/
structure Settings.Records (settings : Settings) (kinds : List TokenKind) : Prop where
  value : ∀ setting, (settings.slot setting).value = (valuesFor setting kinds).head?
  once : ∀ setting, (valuesFor setting kinds).length ≤ 1
  unspecified : ∀ setting, (settings.slot setting).specified = false → valuesFor setting kinds = []

theorem Settings.slot_after_of_none {kind : TokenKind} (none : kind.assignment? = none)
    (settings : Settings) (setting : BombSetting) :
    (settings.after kind).slot setting = settings.slot setting := by
  unfold Settings.after
  rw [none]
  split
  next found => cases found
  · cases setting <;> rfl
  · rfl

/-- A token that is accepted is recorded, at whichever place of the tokens it stands. -/
theorem Settings.Records.after {settings : Settings} {first second : List TokenKind}
    (records : settings.Records (first ++ second)) {kind : TokenKind}
    (accepted : ∀ setting value, kind.assignment? = some (setting, value) →
      (settings.slot setting).specified = false ∧ ∃ number, value = some number) :
    (settings.after kind).Records (first ++ [kind] ++ second) := by
  cases found : kind.assignment? with
  | none =>
    -- the token gives no value, so it changes neither the slots nor the values
    have silent : ∀ setting, valuesFor setting (first ++ [kind] ++ second) =
        valuesFor setting (first ++ second) := by
      intro setting
      simp [valuesFor, TokenKind.valueFor, found]
    constructor <;> intro setting <;> rw [silent]
    · rw [slot_after_of_none found]
      exact records.value setting
    · exact records.once setting
    · rw [slot_after_of_none found]
      exact records.unspecified setting
  | some assignment =>
    obtain ⟨setting, value⟩ := assignment
    obtain ⟨unspecified, number, rfl⟩ := accepted setting value found
    have changed : settings.after kind = settings.assign setting (some number) := by
      simp [Settings.after, found]
    have given : ∀ other, valuesFor other (first ++ [kind] ++ second) =
        if other = setting then [number] else valuesFor other (first ++ second) := by
      intro other
      split
      next same =>
        subst same
        -- the setting had no value before, so the new one is the only one
        have before : valuesFor other first = [] ∧ valuesFor other second = [] := by
          have nothing := records.unspecified other unspecified
          rwa [valuesFor_append, List.append_eq_nil_iff] at nothing
        rw [valuesFor_append, valuesFor_append, before.1, before.2]
        simp [valuesFor, TokenKind.valueFor, found]
      next different =>
        have silent : kind.valueFor other = none := by
          simp [TokenKind.valueFor, found, Ne.symm different]
        simp [valuesFor, silent]
    rw [changed]
    refine ⟨fun other => ?_, fun other => ?_, fun other => ?_⟩
    · rw [given, Settings.assign, slot_setSlot]
      split
      · rfl
      · exact records.value other
    · rw [given]
      split
      · exact Nat.le_refl 1
      · exact records.once other
    · rw [given, Settings.assign, slot_setSlot]
      split
      · intro unspecified
        cases unspecified
      · exact records.unspecified other

theorem Settings.Records.concat {settings : Settings} {kinds : List TokenKind}
    (records : settings.Records kinds) {kind : TokenKind}
    (accepted : ∀ setting value, kind.assignment? = some (setting, value) →
      (settings.slot setting).specified = false ∧ ∃ number, value = some number) :
    (settings.after kind).Records (kinds ++ [kind]) := by
  rw [← List.append_nil kinds] at records
  have recorded := records.after accepted
  rwa [List.append_nil] at recorded

theorem Settings.Records.inherited {defaults : Settings} {kinds : List TokenKind}
    (records : defaults.Records kinds) : defaults.inherited.Records kinds := by
  have slots : ∀ setting, defaults.inherited.slot setting =
      { specified := (defaults.slot setting).value.isSome
        value := (defaults.slot setting).value } := by
    intro setting
    cases setting <;> rfl
  refine ⟨fun setting => ?_, records.once, fun setting unspecified => ?_⟩
  · rw [slots]
    exact records.value setting
  -- an inherited slot counts as given exactly when there is a shared value
  · rw [slots, records.value] at unspecified
    simpa using unspecified

/-- The settings of an open bomb record what stands on it. A bomb outside groups has taken over the
shared values when it opened, a group has not. -/
inductive OpenRecords (shared : List TokenKind) : OpenPlace → Scope → Prop where
  | mission : OpenRecords shared .mission .mission
  | single (place : BombPlace) (draft : BombDraft) (sharedThere : place.shared = shared)
      (values : draft.settings.Records (place.own ++ place.shared))
      (front : draft.settings.frontOnly = true ↔
        AskFrontOnly place.own ∨ AskFrontOnly place.shared) :
      OpenRecords shared (.single place) (.single draft)
  | group (place : BombPlace) (draft : BombDraft) (copies : Nat)
      (sharedThere : place.shared = shared) (values : draft.settings.Records place.own)
      (front : draft.settings.frontOnly = true ↔
        AskFrontOnly place.own ∨ AskFrontOnly place.shared) :
      OpenRecords shared (.group place copies) (.group draft copies)

namespace BombPlace

end BombPlace

theorem OpenRecords.inside {shared : List TokenKind} {opened : OpenPlace} {scope : Scope}
    (records : OpenRecords shared opened scope) (open_ : scope ≠ .mission) :
    opened.isOpen = true ∧ scope.isMission = false := by
  cases records with
  | mission => exact absurd rfl open_
  | single | group => exact ⟨rfl, rfl⟩

namespace Progress

variable {σ : Type} {progress : Progress σ} {ctx : Context} {scan : PlaceScan}

/-- What is known after some tokens records where they stand. -/
structure Records (scan : PlaceScan) (progress : Progress σ) : Prop where
  shared : progress.defaults.Records (outsideSettings scan.seen)
  front : progress.defaults.frontOnly = true ↔ AskFrontOnly (outsideSettings scan.seen)
  inside : openBehind false scan.seen = scan.opened.isOpen
  opened : OpenRecords (outsideSettings scan.seen) scan.opened progress.scope
  bombs : List.Forall₂ (fun plan place => plan.bomb.SetBy place) progress.bombs scan.finished

end Progress

variable {σ : Type} [RandomSource σ]

end BombMission
