import BombMission.Proofs.Mission.Provenance
import BombMission.Proofs.Outline.Standing

/-!
# Scopes of settings

A setting stands in one of the scopes of its text: the mission, which is open again behind every
bomb, or one of the bombs. `writtenScopes` cuts the settings of any text into its scopes, by the
tokens alone and with no regard to problems. What a slot remembers is then the history of its scope:
whether the setting was given there, and whether some value of it was good.

## Main results

* `Progress.run_follows`: the settings of a reading know what their scopes hold.

## Proof strategy

`Settings.Knows` relates one set of settings to one scope. A setting keeps the relation in the scope
that is open (`Settings.Knows.after`), and a bomb outside groups starts with it, since it takes its
slots over from values alone (`Settings.Knows.inherited`). Pools and brackets move between scopes,
which `Progress.Follows.step` goes through.
-/

namespace BombMission

/-! ### Scopes -/

/-- A scope of a text by its settings, each a token. -/
structure WrittenScope where
  /-- The settings of the mission that a bomb outside groups finds when it opens. -/
  inherited : List TokenKind := []
  own : List TokenKind := []
  deriving DecidableEq, Repr

/-- Whether a token is for a setting of a bomb, with a good value or a bad one. -/
def TokenKind.gives (setting : BombSetting) (kind : TokenKind) : Bool :=
  kind.assignment?.any fun given => given.1 = setting

def timesGiven (setting : BombSetting) (kinds : List TokenKind) : Nat :=
  kinds.countP (TokenKind.gives setting)

namespace WrittenScope

def add (scope : WrittenScope) (kind : TokenKind) : WrittenScope :=
  { scope with own := scope.own ++ [kind] }

/-- Whether the scope starts with a value for a setting. -/
def startsWith (scope : WrittenScope) (setting : BombSetting) : Bool :=
  !(valuesFor setting scope.inherited).isEmpty

/-- Whether a setting was given in the scope, or is there from its start. -/
def holds (scope : WrittenScope) (setting : BombSetting) : Bool :=
  scope.startsWith setting || 0 < timesGiven setting scope.own

end WrittenScope

/-- The scopes of the tokens seen so far. -/
structure ScopeScan where
  /-- The settings outside all bombs. -/
  mission : List TokenKind := []
  opened : Option WrittenScope := none
  grouped : Bool := false
  /-- The bombs that are no longer open, whether they were finished or dropped. -/
  ended : List WrittenScope := []
  deriving DecidableEq, Repr

namespace ScopeScan

/-- The scope that a setting would stand in. -/
def current (scan : ScopeScan) : WrittenScope :=
  scan.opened.getD { own := scan.mission }

def addSetting (scan : ScopeScan) (kind : TokenKind) : ScopeScan :=
  match scan.opened with
  | none => { scan with mission := scan.mission ++ [kind] }
  | some scope => { scan with opened := some (scope.add kind) }

def step (scan : ScopeScan) : TokenKind → ScopeScan
  | .pool _ =>
    if scan.opened.isNone && !scan.grouped then
      { scan with opened := some { inherited := scan.mission } }
    else scan
  | .groupOpen _ =>
    { scan with
      opened := some {}
      grouped := true
      ended := scan.ended ++ scan.opened.toList }
  | .groupClose => { scan with opened := none, ended := scan.ended ++ scan.opened.toList }
  | kind => scan.addSetting kind

def run (kinds : List TokenKind) : ScopeScan :=
  kinds.foldl step {}

def scopes (scan : ScopeScan) : List WrittenScope :=
  { own := scan.mission } :: (scan.ended ++ scan.opened.toList)

end ScopeScan

/-- The scopes of a text: the mission, and every bomb outside groups and every group in order,
whatever becomes of it. -/
def writtenScopes (kinds : List TokenKind) : List WrittenScope :=
  (ScopeScan.run kinds).scopes

theorem ScopeScan.run_concat (kinds : List TokenKind) (kind : TokenKind) :
    run (kinds ++ [kind]) = (run kinds).step kind := by
  simp [run]

/-! ### Settings and their scopes -/

/-- Settings know of a scope which settings it holds, and which of them with a good value. -/
structure Settings.Knows (settings : Settings) (scope : WrittenScope) : Prop where
  specified : ∀ setting, (settings.slot setting).specified = scope.holds setting
  value : ∀ setting, (settings.slot setting).value.isSome =
    !(valuesFor setting (scope.inherited ++ scope.own)).isEmpty

namespace Settings.Knows

variable {settings : Settings} {scope : WrittenScope}

theorem empty : Settings.Knows {} {} := by
  constructor <;> intro setting <;> cases setting <;> rfl

theorem ofGroup (defaults : Settings) : (Settings.ofGroup defaults).Knows {} := by
  constructor <;> intro setting <;> cases setting <;> rfl

/-- A bomb outside groups counts a setting as given when the mission has a good value for it. -/
theorem inherited {defaults : Settings} {mission : List TokenKind}
    (knows : defaults.Knows { own := mission }) :
    defaults.inherited.Knows { inherited := mission } := by
  have slots : ∀ setting, defaults.inherited.slot setting =
      { specified := (defaults.slot setting).value.isSome
        value := (defaults.slot setting).value } := by
    intro setting
    cases setting <;> rfl
  constructor
  · intro setting
    rw [slots, knows.value]
    simp [WrittenScope.holds, WrittenScope.startsWith, timesGiven]
  · intro setting
    rw [slots, knows.value]
    simp

/-- A token for no setting of a bomb changes neither the slots nor what the scope holds. -/
theorem after_of_none (knows : settings.Knows scope) {kind : TokenKind}
    (none : kind.assignment? = none) : (settings.after kind).Knows (scope.add kind) := by
  have silent : ∀ setting, kind.gives setting = false ∧ kind.valueFor setting = Option.none := by
    intro setting
    simp [TokenKind.gives, TokenKind.valueFor, none]
  constructor
  · intro setting
    rw [slot_after_of_none none, knows.specified]
    simp [WrittenScope.holds, WrittenScope.startsWith, WrittenScope.add, timesGiven, silent]
  · intro setting
    rw [slot_after_of_none none, knows.value]
    simp [WrittenScope.add, valuesFor, silent]

/-- A value joins its own slot and leaves the others. -/
theorem after_of_some (knows : settings.Knows scope) {kind : TokenKind} {given : BombSetting}
    {value : Option Nat} (assigns : kind.assignment? = some (given, value)) :
    (settings.after kind).Knows (scope.add kind) := by
  have changed : settings.after kind = settings.assign given value := by
    simp [Settings.after, assigns]
  have gives : ∀ setting, kind.gives setting = decide (given = setting) := by
    intro setting
    simp [TokenKind.gives, assigns]
  have valueFor : ∀ setting, kind.valueFor setting = if given = setting then value else none := by
    intro setting
    simp [TokenKind.valueFor, assigns]
  constructor
  · intro setting
    rw [changed, Settings.assign, slot_setSlot]
    by_cases same : setting = given
    · subst same
      simp [Slot.assign, WrittenScope.holds, WrittenScope.add, timesGiven, gives]
    · rw [if_neg same, knows.specified]
      simp [WrittenScope.holds, WrittenScope.startsWith, WrittenScope.add, timesGiven, gives,
        Ne.symm same]
  · intro setting
    rw [changed, Settings.assign, slot_setSlot]
    by_cases same : setting = given
    · subst same
      have before := knows.value setting
      -- a bad value leaves the one that is there
      cases value with
      | none =>
        have kept : ((settings.slot setting).assign none).value = (settings.slot setting).value := by
          simp [Slot.assign]
        rw [if_pos rfl, kept, before]
        simp [WrittenScope.add, valuesFor, valueFor]
      | some number => simp [Slot.assign, WrittenScope.add, valuesFor, valueFor]
    · rw [if_neg same, knows.value]
      simp [WrittenScope.add, valuesFor, valueFor, Ne.symm same]

theorem after (knows : settings.Knows scope) (kind : TokenKind) :
    (settings.after kind).Knows (scope.add kind) := by
  cases found : kind.assignment? with
  | none => exact knows.after_of_none found
  | some assignment => exact knows.after_of_some found

end Settings.Knows

/-! ### Readings and their scopes -/

/-- The settings of an open bomb know what stands on it. -/
inductive OpenKnows : Option WrittenScope → Scope → Prop where
  | mission : OpenKnows none .mission
  | single (scope : WrittenScope) (draft : BombDraft) :
      draft.settings.Knows scope → OpenKnows (some scope) (.single draft)
  | group (scope : WrittenScope) (draft : BombDraft) (copies : Nat) :
      draft.settings.Knows scope → OpenKnows (some scope) (.group draft copies)

theorem OpenKnows.isNone {opened : Option WrittenScope} {scope : Scope}
    (knows : OpenKnows opened scope) : opened.isNone = scope.isMission := by
  cases knows <;> rfl

namespace Progress

variable {σ : Type} {progress : Progress σ} {scan : ScopeScan} {ctx : Context}

/-- What is known after some tokens follows their scopes. -/
structure Follows (scan : ScopeScan) (progress : Progress σ) : Prop where
  grouped : progress.groupsUsed = scan.grouped
  mission : progress.defaults.Knows { own := scan.mission }
  opened : OpenKnows scan.opened progress.scope

theorem Follows.openSettings (follows : progress.Follows scan) :
    progress.openSettings.Knows scan.current := by
  have opened := follows.opened
  have mission := follows.mission
  unfold Progress.openSettings ScopeScan.current
  generalize scan.opened = written at opened
  generalize progress.scope = scope at opened
  cases opened with
  | mission => exact mission
  | single scope draft knows => exact knows
  | group scope draft copies knows => exact knows

theorem Follows.acceptsPools (follows : progress.Follows scan) :
    progress.acceptsPools = !(scan.opened.isNone && scan.grouped) := by
  rw [Progress.acceptsPools, follows.grouped, follows.opened.isNone]

/-- A setting stands in the scope that is open, and is known there. -/
theorem TakesSetting.follows {kind : TokenKind} {after : Progress σ}
    (taken : TakesSetting kind progress after) (follows : progress.Follows scan) :
    after.Follows (scan.addSetting kind) := by
  obtain ⟨mission, written, grouped, ended⟩ := scan
  have opened := follows.opened
  have used : after.groupsUsed = grouped := taken.groupsUsed.trans follows.grouped
  generalize found : progress.scope = scope at opened
  cases opened with
  | mission =>
    refine ⟨used, ?_, ?_⟩
    · rw [taken.defaults, found]
      exact follows.mission.after kind
    · rw [taken.scope, found]
      exact .mission
  | single scope draft knows =>
    refine ⟨used, ?_, ?_⟩
    · rw [taken.defaults, found]
      exact follows.mission
    · rw [taken.scope, found]
      exact .single _ _ (knows.after kind)
  | group scope draft copies knows =>
    refine ⟨used, ?_, ?_⟩
    · rw [taken.defaults, found]
      exact follows.mission
    · rw [taken.scope, found]
      exact .group _ _ copies (knows.after kind)

theorem Follows.openGroup (follows : progress.Follows scan) (limits : HostLimits)
    (copies : Option Nat) :
    (progress.openGroup limits copies).Follows (scan.step (.groupOpen copies)) :=
  ⟨rfl, follows.mission, .group _ _ _ (.ofGroup _)⟩

theorem Follows.closeScope (follows : progress.Follows scan) (limits : HostLimits) :
    (progress.closeScope limits).Follows (scan.step .groupClose) := by
  refine ⟨?_, ?_, ?_⟩
  · rw [groupsUsed_closeScope]
    exact follows.grouped
  · rw [defaults_closeScope]
    exact follows.mission
  · rw [scope_closeScope]
    exact .mission

variable [RandomSource σ]

theorem Follows.addPool (follows : progress.Follows scan) (pool : PoolText) :
    (progress.addPool ctx pool).Follows (scan.step (.pool pool)) := by
  have accepts := follows.acceptsPools
  cases accepted : progress.acceptsPools with
  | false =>
    -- a pool that is refused opens nothing
    have stays : scan.step (.pool pool) = scan := by
      have refused : scan.opened = none ∧ scan.grouped = true := by
        simpa using accepts.symm.trans accepted
      simp [ScopeScan.step, refused]
    rw [addPool_of_refused accepted, stays]
    exact ⟨follows.grouped, follows.mission, follows.opened⟩
  | true =>
    rw [addPool_of_accepted accepted]
    obtain ⟨mission, written, grouped, ended⟩ := scan
    have opened := follows.opened
    generalize found : progress.scope = scope at opened
    cases opened with
    | mission =>
      have unused : grouped = false := by simpa using accepts.symm.trans accepted
      subst unused
      refine ⟨follows.grouped, follows.mission, ?_⟩
      simp only [poolScope, found]
      exact .single _ _ follows.mission.inherited
    | single scope draft knows =>
      refine ⟨follows.grouped, follows.mission, ?_⟩
      simp only [poolScope, found]
      exact .single _ _ knows
    | group scope draft copies knows =>
      refine ⟨follows.grouped, follows.mission, ?_⟩
      simp only [poolScope, found]
      exact .group _ _ copies knows

theorem Follows.step (follows : progress.Follows scan) (kind : TokenKind) :
    (progress.step ctx kind).Follows (scan.step kind) := by
  cases kind with
  | time | strikes | setting => exact (step_takesSetting ctx rfl).follows follows
  | pool pool => exact follows.addPool pool
  | groupOpen copies => exact follows.openGroup ctx.limits copies
  | groupClose => exact follows.closeScope ctx.limits

theorem run_follows (ctx : Context) (kinds : List TokenKind) (source : σ) :
    (run ctx { source } kinds).Follows (ScopeScan.run kinds) := by
  induction kinds using List.reverseRecOn with
  | nil => exact ⟨rfl, .empty, .mission⟩
  | append_singleton kinds kind ih =>
    rw [run_concat, ScopeScan.run_concat]
    exact ih.step kind

end Progress

end BombMission
