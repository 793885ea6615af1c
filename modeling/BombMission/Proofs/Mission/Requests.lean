import BombMission.Proofs.Mission.Compiled
import BombMission.Proofs.Outline.Standing
import BombMission.Proofs.Token.Grammar

/-!
# Requests for the mission as a whole

Pacing, the factory mode and the rule seed are asked for anywhere but in groups: outside bombs, on a
bomb outside groups, between groups, or on a bomb that a bracket drops later on. What a mission has of
them follows from the values that are given anywhere in its text, and none but pacing is given twice.

## Main results

* `missionSetting_of_insideGroup`: none of them is asked for inside a group.
* `Progress.run_reads`: what was read of them is what the tokens so far ask for.
* `readNonNegative_eq_some_iff` and `FactoryMode.ofId?_eq_some_iff`: which values are good.
* `compile_settledBy`: how the settings of a compiled mission follow from its text.

## Proof strategy

`ReadOnce` ties what was read to the values given so far: there is none, or one that could be read. A
second one would have been a problem, so a token keeps this (`Progress.Reads.step`).
-/

namespace BombMission

open Text

/-! ### Values -/

/-- The value that a token gives a setting with this keyword, where there is room for one. -/
def TokenKind.valueUnder? (name : SettingName) : TokenKind → Option (Option String)
  | setting given value => if given = name then some value else none
  | time _ | strikes _ | pool _ | groupOpen _ | groupClose => none

/-- The values that a text gives a setting, wherever they stand. -/
def valuesUnder (name : SettingName) (kinds : List TokenKind) : List (Option String) :=
  kinds.filterMap (TokenKind.valueUnder? name)

theorem valuesUnder_concat (name : SettingName) (kinds : List TokenKind) (kind : TokenKind) :
    valuesUnder name (kinds ++ [kind]) =
      valuesUnder name kinds ++ (kind.valueUnder? name).toList := by
  simp only [valuesUnder, List.filterMap_append]
  cases found : kind.valueUnder? name <;> simp [found]

theorem valuesUnder_self (name : SettingName) (kinds : List TokenKind) (value : Option String) :
    valuesUnder name (kinds ++ [.setting name value]) = valuesUnder name kinds ++ [value] := by
  rw [valuesUnder_concat]
  simp [TokenKind.valueUnder?]

theorem valuesUnder_other {name given : SettingName} (other : given ≠ name)
    (kinds : List TokenKind) (value : Option String) :
    valuesUnder name (kinds ++ [.setting given value]) = valuesUnder name kinds := by
  rw [valuesUnder_concat]
  simp [TokenKind.valueUnder?, other]

/-- A token for no setting of the mission gives none of them a value. -/
theorem valuesUnder_of_none {name : SettingName} {kind : TokenKind}
    (wide : (TokenKind.setting name none).missionSetting? ≠ none)
    (other : kind.missionSetting? = none) (kinds : List TokenKind) :
    valuesUnder name (kinds ++ [kind]) = valuesUnder name kinds := by
  cases kind with
  | setting given value =>
    apply valuesUnder_other
    rintro rfl
    apply wide
    cases given <;> exact other
  | time | strikes | pool | groupOpen | groupClose => simp [valuesUnder_concat, TokenKind.valueUnder?]

theorem mem_valuesUnder {name : SettingName} {kinds : List TokenKind} {value : Option String} :
    value ∈ valuesUnder name kinds ↔ .setting name value ∈ kinds := by
  simp only [valuesUnder, List.mem_filterMap]
  constructor
  · rintro ⟨kind, member, given⟩
    cases kind with
    | setting other text =>
      simp only [TokenKind.valueUnder?, Option.ite_none_right_eq_some, Option.some.injEq] at given
      obtain ⟨rfl, rfl⟩ := given
      exact member
    | time | strikes | pool | groupOpen | groupClose => cases given
  · intro member
    exact ⟨_, member, by simp [TokenKind.valueUnder?]⟩

/-- Decimal digits, and at least one. -/
def IsDecimal (digits : List Char) : Prop :=
  digits ≠ [] ∧ ∀ c ∈ digits, c.isDigit = true

/-- A whole number and how it is written, with any number of leading zeros. -/
inductive WritesInteger : List Char → Int → Prop where
  | unsigned {digits : List Char} : IsDecimal digits → WritesInteger digits (digitsValue digits)
  | positive {digits : List Char} :
      IsDecimal digits → WritesInteger ('+' :: digits) (digitsValue digits)
  | negative {digits : List Char} :
      IsDecimal digits → WritesInteger ('-' :: digits) (-(digitsValue digits))

/-- How a mission has a factory mode: its text asks for none, or once for one by its id. -/
inductive AsksFactory : List (Option String) → Option FactoryMode → Prop where
  | none : AsksFactory [] none
  | one {text : String} {mode : FactoryMode} :
      (∀ other : FactoryMode, SpellsWord other.id.toList text.toList ↔ other = mode) →
      AsksFactory [some text] (some mode)

/-- How a mission has a rule seed: its text asks for none, or once for a random one or for the one
that is written there. -/
inductive AsksSeed : List (Option String) → Option RuleSeedSetting → Prop where
  | none : AsksSeed [] none
  | random {value : Nat} :
      1 ≤ value → value ≤ 999 → AsksSeed [some "random"] (some { requested := .random, value })
  | fixed {text : String} {seed : Nat} :
      text ≠ "random" → WritesInteger text.toList seed → seed ≤ 0x7FFFFFFF →
      AsksSeed [some text] (some { requested := .fixed seed, value := seed })

/-- The settings of a mission as a whole are those that its text asks for outside groups. -/
structure Mission.SettledBy (kinds : List TokenKind) (mission : Mission) : Prop where
  outside : ∀ front copies inside back,
    kinds = front ++ .groupOpen copies :: (inside ++ .groupClose :: back) → .groupClose ∉ inside →
      ∀ kind ∈ inside, kind.missionSetting? = none
  pacing : mission.pacingEventsEnabled = false ↔ ∃ value, .setting .noPacing value ∈ kinds
  factoryMode : AsksFactory (valuesUnder .factory kinds) mission.factoryMode
  ruleSeed : AsksSeed (valuesUnder .ruleSeed kinds) mission.ruleSeed

/-! ### Good values -/

theorem readDigits_eq_some_iff {limit n : Nat} {word : List Char} :
    readDigits limit word = some n ↔ IsDecimal word ∧ digitsValue word = n ∧ n ≤ limit := by
  simp only [readDigits, IsDecimal, Option.ite_none_right_eq_some, Option.some.injEq,
    List.all_eq_true]
  constructor
  · rintro ⟨⟨some, decimal, within⟩, rfl⟩
    exact ⟨⟨some, decimal⟩, rfl, within⟩
  · rintro ⟨⟨some, decimal⟩, rfl, within⟩
    exact ⟨⟨some, decimal, within⟩, rfl⟩

/-- Digits start with no sign. -/
theorem IsDecimal.readNonNegative {limit : Nat} {digits : List Char} (decimal : IsDecimal digits) :
    Text.readNonNegative limit digits = readDigits limit digits := by
  obtain ⟨c, rest, rfl⟩ := List.exists_cons_of_ne_nil decimal.1
  have digit := decimal.2 c List.mem_cons_self
  unfold Text.readNonNegative
  split
  next minus =>
    obtain ⟨rfl, -⟩ := List.cons.inj minus
    cases digit
  · unfold readNumber
    split
    next plus =>
      obtain ⟨rfl, -⟩ := List.cons.inj plus
      cases digit
    -- without a sign both readers come down to the digits
    · rfl

/-- A word is read as the number that it writes, when that is from zero up to the limit. -/
theorem readNonNegative_eq_some_iff {limit n : Nat} {word : List Char} :
    readNonNegative limit word = some n ↔ WritesInteger word n ∧ n ≤ limit := by
  constructor
  · intro read
    unfold readNonNegative at read
    split at read
    next digits =>
      -- behind a minus sign only zero is read
      obtain ⟨decimal, value, within⟩ := readDigits_eq_some_iff.1 read
      have zero : (n : Int) = -(digitsValue digits : Int) := by omega
      exact ⟨zero ▸ .negative decimal, by omega⟩
    · unfold readNumber at read
      split at read
      · obtain ⟨decimal, rfl, within⟩ := readDigits_eq_some_iff.1 read
        exact ⟨.positive decimal, within⟩
      · obtain ⟨decimal, rfl, within⟩ := readDigits_eq_some_iff.1 read
        exact ⟨.unsigned decimal, within⟩
  · rintro ⟨writes, within⟩
    -- the number is generalised, since the three forms write different ones
    generalize written : (n : Int) = number at writes
    cases writes with
    | unsigned decimal =>
      rw [decimal.readNonNegative, readDigits_eq_some_iff]
      exact ⟨decimal, by omega, within⟩
    | positive decimal => exact readDigits_eq_some_iff.2 ⟨decimal, by omega, within⟩
    | negative decimal => exact readDigits_eq_some_iff.2 ⟨decimal, by omega, by omega⟩

namespace FactoryMode

/-- No two modes have ids that differ in case alone. -/
theorem eq_of_equalIgnoringCase : ∀ a ∈ all, ∀ b ∈ all, equalIgnoringCase a.id b.id = true → a = b := by
  decide +kernel

theorem ofId?_eq_some_iff {text : String} {mode : FactoryMode} :
    ofId? text = some mode ↔ SpellsWord mode.id.toList text.toList := by
  have spells : ∀ other : FactoryMode, equalIgnoringCase other.id text = true ↔
      SpellsWord other.id.toList text.toList := by
    intro other
    simp only [equalIgnoringCase, SpellsWord, beq_iff_eq]
    exact eq_comm
  unfold ofId?
  constructor
  · intro found
    have matched := List.find?_some found
    exact (spells mode).1 matched
  · intro spelled
    cases found : all.find? fun mode => equalIgnoringCase mode.id text with
    | none =>
      have unlisted := List.find?_eq_none.1 found mode (mem_all mode)
      exact absurd ((spells mode).2 spelled) unlisted
    | some other =>
      have matched := List.find?_some found
      have listed : SpellsWord other.id.toList text.toList := (spells other).1 matched
      -- another mode may come first in the list, but then it has the same id
      have alike : equalIgnoringCase other.id mode.id = true := by
        simp only [equalIgnoringCase, beq_iff_eq]
        rw [← listed, spelled]
      rw [eq_of_equalIgnoringCase other (mem_all other) mode (mem_all mode) alike]

end FactoryMode

/-! ### Readings -/

/-- There is no value, or a single one that can be read. -/
inductive ReadOnce {α : Type} (read : Option String → Option α) :
    List (Option String) → Option α → Prop where
  | none : ReadOnce read [] none
  | one {value : Option String} {a : α} : read value = some a → ReadOnce read [value] (some a)

theorem ReadOnce.eq_nil {α : Type} {read : Option String → Option α} {values : List (Option String)}
    (once : ReadOnce read values Option.none) : values = [] := by
  cases once
  rfl

/-- What was read of the settings of the mission is what some tokens ask for. -/
structure MissionSettings.Reads (kinds : List TokenKind) (settings : MissionSettings) : Prop where
  pacing : settings.pacingEventsEnabled = (valuesUnder .noPacing kinds).isEmpty
  specified : settings.factorySpecified = settings.factoryMode.isSome
  factoryMode : ReadOnce (fun value => FactoryMode.ofId? (value.getD ""))
    (valuesUnder .factory kinds) settings.factoryMode
  ruleSeed : ReadOnce readRuleSeed (valuesUnder .ruleSeed kinds) settings.ruleSeed

namespace MissionSettings.Reads

variable {settings : MissionSettings} {done : List TokenKind} (reads : settings.Reads done)
include reads

/-! Each of the three settings changes its own field and leaves the values of the others. -/

theorem after_of_none {kind : TokenKind} (other : kind.missionSetting? = none) :
    (settings.after kind).Reads (done ++ [kind]) := by
  rw [MissionSettings.after_of_none other]
  refine ⟨?_, reads.specified, ?_, ?_⟩ <;> rw [valuesUnder_of_none (by decide) other]
  · exact reads.pacing
  · exact reads.factoryMode
  · exact reads.ruleSeed

theorem after_noPacing (value : Option String) :
    (settings.after (.setting .noPacing value)).Reads (done ++ [.setting .noPacing value]) := by
  refine ⟨?_, reads.specified, ?_, ?_⟩
  · rw [valuesUnder_self]
    simp [MissionSettings.after]
  · rw [valuesUnder_other (by decide)]
    exact reads.factoryMode
  · rw [valuesUnder_other (by decide)]
    exact reads.ruleSeed

theorem after_factory {value : Option String} {mode : FactoryMode}
    (unspecified : settings.factorySpecified = false)
    (good : FactoryMode.ofId? (value.getD "") = some mode) :
    (settings.after (.setting .factory value)).Reads (done ++ [.setting .factory value]) := by
  -- no mode was given before, so this one is the only one
  have before : settings.factoryMode = none := by
    have given := reads.specified.symm.trans unspecified
    simpa using given
  have first : valuesUnder .factory done = [] := (before ▸ reads.factoryMode).eq_nil
  have chosen : (settings.after (.setting .factory value)).factoryMode = some mode := good
  refine ⟨?_, ?_, ?_, ?_⟩
  · rw [valuesUnder_other (by decide)]
    exact reads.pacing
  · rw [chosen]
    rfl
  · rw [valuesUnder_self, first, chosen]
    exact .one good
  · rw [valuesUnder_other (by decide)]
    exact reads.ruleSeed

theorem after_ruleSeed {value : Option String} {seed : RuleSeed} (unasked : settings.ruleSeed = none)
    (good : readRuleSeed value = some seed) :
    (settings.after (.setting .ruleSeed value)).Reads (done ++ [.setting .ruleSeed value]) := by
  -- here it is the seed itself that shows whether one was given
  have first : valuesUnder .ruleSeed done = [] := (unasked ▸ reads.ruleSeed).eq_nil
  have chosen : (settings.after (.setting .ruleSeed value)).ruleSeed = some seed := good
  refine ⟨?_, reads.specified, ?_, ?_⟩
  · rw [valuesUnder_other (by decide)]
    exact reads.pacing
  · rw [valuesUnder_other (by decide)]
    exact reads.factoryMode
  · rw [valuesUnder_self, first, chosen]
    exact .one good

end MissionSettings.Reads

namespace Progress

variable {σ : Type} [RandomSource σ] {progress : Progress σ} {ctx : Context}

/-- A token without a problem keeps what was read tied to the values that were given. -/
theorem Reads.step {done : List TokenKind} {kind : TokenKind}
    (reads : progress.missionSettings.Reads done)
    (clean : (progress.step ctx kind).diagnostics = []) :
    (progress.step ctx kind).missionSettings.Reads (done ++ [kind]) := by
  rw [missionSettings_step_of_clean clean]
  cases found : kind.missionSetting? with
  | none => exact reads.after_of_none found
  | some asked =>
    cases kind with
    | setting name value =>
      cases name with
      | noPacing => exact reads.after_noPacing value
      | factory =>
        obtain ⟨-, unspecified, -, mode, good, -⟩ := setFactory_of_clean clean
        exact reads.after_factory unspecified good
      | ruleSeed =>
        obtain ⟨-, unasked, seed, good, -⟩ := setRuleSeed_of_clean clean
        exact reads.after_ruleSeed unasked good
      | strikes | needyActivationTime | widgets | frontOnly => cases found
    | time | strikes | pool | groupOpen | groupClose => cases found

theorem run_reads (kinds : List TokenKind) (source : σ)
    (clean : (run ctx { source } kinds).diagnostics = []) :
    (run ctx { source } kinds).missionSettings.Reads kinds := by
  apply clean_run_induction (motive := fun done reached => reached.missionSettings.Reads done)
  · intro done kind reached reads clean
    exact Reads.step reads clean
  · exact ⟨rfl, rfl, .none, .none⟩
  · exact clean

/-! ### Groups -/

/-- Inside a group a setting of the mission is a problem. -/
theorem missionSetting_of_insideGroup {before after : List TokenKind} {kind : TokenKind} {source : σ}
    (clean : (run ctx { source } (before ++ kind :: after)).diagnostics = [])
    (inside : insideGroup before = true) : kind.missionSetting? = none := by
  have reached : ((run ctx { source } before).step ctx kind).diagnostics = [] := by
    rw [run_append, run_cons] at clean
    have grown : ((run ctx { source } before).step ctx kind).diagnostics <+: _ :=
      prefix_run ctx after
    rw [clean] at grown
    exact List.prefix_nil.1 grown
  have group : (run ctx { source } before).scope.isGroup = true :=
    (isGroup_run ctx before source).trans inside
  have never : ¬ (run ctx { source } before).scope.isGroup = false := by simp [group]
  cases kind with
  | setting name value =>
    cases name with
    | noPacing => exact absurd (disablePacing_of_clean reached).1 never
    | factory => exact absurd (setFactory_of_clean reached).1 never
    | ruleSeed => exact absurd (setRuleSeed_of_clean reached).1 never
    | strikes | needyActivationTime | widgets | frontOnly => rfl
  | time | strikes | pool | groupOpen | groupClose => rfl

end Progress

/-- Behind an opening bracket a group is open until a closing one. -/
theorem insideGroup_of_open (front inside : List TokenKind) (copies : Option Nat)
    (unclosed : .groupClose ∉ inside) : insideGroup (front ++ .groupOpen copies :: inside) = true := by
  -- the last bracket decides, so the induction takes off what stands behind the others
  induction inside using List.reverseRecOn with
  | nil =>
    rw [insideGroup_concat]
    rfl
  | append_singleton inside kind ih =>
    simp only [List.mem_append, List.mem_singleton, not_or] at unclosed
    rw [← List.cons_append, ← List.append_assoc, insideGroup_concat, ih unclosed.1]
    cases kind with
    | groupClose => exact absurd rfl unclosed.2
    | time | strikes | setting | pool | groupOpen => rfl

/-! ### Compiled missions -/

theorem ReadOnce.asksFactory {values : List (Option String)} {mode : Option FactoryMode}
    (once : ReadOnce (fun value => FactoryMode.ofId? (value.getD "")) values mode) :
    AsksFactory values mode := by
  cases once with
  | none => exact .none
  | @one value mode good =>
    cases value with
    | none => cases good
    | some text =>
      apply AsksFactory.one
      intro other
      rw [← FactoryMode.ofId?_eq_some_iff, show FactoryMode.ofId? text = some mode from good]
      exact ⟨fun same => (Option.some.inj same).symm, fun same => same ▸ rfl⟩

theorem readRuleSeed_eq_random_iff {text : String} :
    readRuleSeed (some text) = some .random ↔ text = "random" := by
  by_cases random : text = "random"
  · simp [readRuleSeed, random]
  · simp [readRuleSeed, random]

theorem readRuleSeed_eq_fixed_iff {text : String} {seed : Nat} :
    readRuleSeed (some text) = some (.fixed seed) ↔
      text ≠ "random" ∧ WritesInteger text.toList seed ∧ seed ≤ maxRuleSeed := by
  by_cases random : text = "random"
  · simp [readRuleSeed, random]
  · simp [readRuleSeed, random, readNonNegative_eq_some_iff]

section Compiled

variable {σ : Type} [RandomSource σ] {ctx : Context} {text : String} {source : σ} {mission : Mission}

/-- The seed that a request comes to. A random one stays within its range, however it is drawn. -/
theorem ReadOnce.asksSeed {values : List (Option String)} {requested : Option RuleSeed}
    (once : ReadOnce readRuleSeed values requested) {limits : HostLimits}
    (offered : requested.isSome = true → limits.ruleSeed = true) (source : σ) :
    AsksSeed values (settleRuleSeed limits requested source).1 := by
  cases once with
  | none => exact .none
  | @one value requested good =>
    cases value with
    | none => cases good
    | some text =>
      simp only [settleRuleSeed, offered rfl, if_true]
      cases requested with
      | random =>
        obtain rfl := readRuleSeed_eq_random_iff.1 good
        have below := RandomSource.below_lt maxRandomRuleSeed source (by decide)
        apply AsksSeed.random
        · omega
        · exact Nat.add_comm .. ▸ below
      | fixed seed =>
        obtain ⟨other, writes, within⟩ := readRuleSeed_eq_fixed_iff.1 good
        exact .fixed other writes within

/-- The pacing of a compiled mission, its factory mode and its rule seed are what its text asks for,
wherever it does so. It does so outside groups only, and at most once for the latter two. -/
theorem compile_settledBy (made : (compile ctx text source).1 = .ok mission) :
    mission.SettledBy ((scanTokens text).map Token.kind) := by
  obtain ⟨clean, seeded, first, extra, -, rfl⟩ := compile_eq_ok_iff.1 made
  have running : (Progress.run ctx { source } ((scanTokens text).map Token.kind)).diagnostics = [] :=
    Progress.clean_of_finish clean
  have reads : (readMissionText ctx text source).missionSettings.Reads
      ((scanTokens text).map Token.kind) := by
    have settings : (readMissionText ctx text source).missionSettings =
        (Progress.run ctx { source } ((scanTokens text).map Token.kind)).missionSettings :=
      Progress.missionSettings_finish ctx.limits
    rw [settings]
    exact Progress.run_reads _ source running
  constructor
  · intro front copies inside back whole unclosed kind member
    -- what stands between the brackets in front of the token leaves the group open
    obtain ⟨before, after, rfl⟩ := List.append_of_mem member
    have split : (scanTokens text).map Token.kind =
        (front ++ .groupOpen copies :: before) ++ kind :: (after ++ .groupClose :: back) := by
      simp [whole]
    rw [split] at running
    apply Progress.missionSetting_of_insideGroup running
    apply insideGroup_of_open
    intro closes
    exact unclosed (List.mem_append_left _ closes)
  · simp only [← mem_valuesUnder]
    have pacing : (readMissionText ctx text source).pacingEventsEnabled = _ := reads.pacing
    change (readMissionText ctx text source).pacingEventsEnabled = false ↔ _
    rw [pacing, List.isEmpty_eq_false_iff_exists_mem]
  · exact reads.factoryMode.asksFactory
  · exact reads.ruleSeed.asksSeed seeded _

/-- A mode in capitals in front of a group, and a seed with a sign behind a bomb that is dropped. -/
theorem compile_settledBy_dropped : ∃ mission,
    (compile { limits := { ruleSeed := true } } "factory:FINITE Maze ruleseed:+07) (Wires) nopacing"
        (SplitMix.ofSeed 0)).1 = .ok mission ∧
      mission.pacingEventsEnabled = false ∧ mission.factoryMode = some .finite ∧
      mission.appliedRuleSeed = some 7 := by
  have makes : (compile { limits := { ruleSeed := true } }
      "factory:FINITE Maze ruleseed:+07) (Wires) nopacing" (SplitMix.ofSeed 0)).1.toOption.map
        (fun mission => mission.appliedRuleSeed) = some (some 7) := by
    decide +kernel
  obtain ⟨mission, found, seed⟩ := Option.map_eq_some_iff.1 makes
  have made := eq_ok_of_toOption found
  have settled := compile_settledBy made
  refine ⟨mission, made, ?_, ?_, seed⟩
  · apply settled.pacing.2
    exact ⟨none, by decide +kernel⟩
  · have asked := settled.factoryMode
    have given : valuesUnder .factory ((scanTokens
        "factory:FINITE Maze ruleseed:+07) (Wires) nopacing").map Token.kind) =
          [some "FINITE"] := by
      decide +kernel
    rw [given] at asked
    generalize mission.factoryMode = mode at asked ⊢
    cases asked with
    | one spelled => rw [(spelled .finite).1 (FactoryMode.ofId?_eq_some_iff.1 (by decide))]

end Compiled

end BombMission
