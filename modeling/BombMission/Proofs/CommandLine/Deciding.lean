import BombMission.Proofs.CommandLine.Spellings

/-!
# Arguments that decide

Arguments are read from left to right until one decides what the command line comes to: it asks for
help or the version, it makes no sense, or it starts the mission text. `Options.ReadsTo` passes over
the arguments in front, which only change options, and `Options.Settles` lists what may be said by
the one that decides.

## Main results

* `Options.read_eq_iff`: what a command line comes to is what its first deciding argument says.
* `Options.ComesTo.of_input_eq`: help, the version and refusals depend on no option that was read but
  the mission text.
* `Options.ComesTo.json`: a run prints JSON once that was asked for.
-/

namespace BombMission.CommandLine

namespace Options

/-! ### Deciding arguments -/

/-- The arguments are words of mission text and nothing else. Blank ones behind the mark are none. -/
inductive AreWords : List String → Option String → Prop where
  | blank {mark : String} {words : List String} : Argument.ofText mark = .endOfOptions →
      Text.isBlankText (" ".intercalate words) = true → AreWords (mark :: words) none
  | marked {mark : String} {words : List String} : Argument.ofText mark = .endOfOptions →
      Text.isBlankText (" ".intercalate words) = false →
      AreWords (mark :: words) (some (" ".intercalate words))
  | plain {word : String} {rest : List String} : Argument.ofText word = .mission →
      AreWords (word :: rest) (some (" ".intercalate (word :: rest)))

/-- The first of the arguments decides what all of them come to, or there are none. -/
inductive Settles (options : Options) : List String → Except UsageError Invocation → Prop where
  | nil : Settles options [] (.ok (.run options))
  | help {text : String} {rest : List String} : Argument.ofText text = .help →
      Settles options (text :: rest) (.ok .help)
  | version {text : String} {rest : List String} : Argument.ofText text = .version →
      Settles options (text :: rest) (.ok .version)
  | unknown {text : String} {rest : List String} : Argument.ofText text = .unknown →
      Settles options (text :: rest) (.error (.unknownOption text))
  | missing {text : String} {option : Valued} : Argument.ofText text = .valued option →
      Settles options [text] (.error (.missingValue option))
  | separate {text value : String} {rest : List String} {option : Valued} {problem : UsageError} :
      Argument.ofText text = .valued option → options.Refuses option value problem →
      Settles options (text :: value :: rest) (.error problem)
  | attached {text value : String} {rest : List String} {option : Valued} {problem : UsageError} :
      Argument.ofText text = .attached option value → options.Refuses option value problem →
      Settles options (text :: rest) (.error problem)
  | noWords {words : List String} : AreWords words none → Settles options words (.ok (.run options))
  | words {words : List String} {text : String} : AreWords words (some text) →
      options.input = none → Settles options words (.ok (.run { options with input := some text }))
  | repeated {words : List String} {text other : String} : AreWords words (some text) →
      options.input = some other → Settles options words (.error .repeatedInput)

/-- Arguments that decide nothing stand in front, and the ones behind them decide. -/
def ComesTo (options : Options) (arguments : List String)
    (verdict : Except UsageError Invocation) : Prop :=
  ∃ front rest before, arguments = front ++ rest ∧ ReadsTo options front before ∧
    before.Settles rest verdict

variable {options : Options} {option : Valued} {value : String}

/-! ### Command lines -/

theorem settles_setInput {words : List String} {text : String}
    (areWords : AreWords words (some text)) :
    options.Settles words ((options.setInput text).map .run) := by
  cases input : options.input with
  | none =>
    rw [setInput_of_none input]
    exact .words areWords input
  | some other =>
    rw [setInput_of_some input]
    exact .repeated areWords input

theorem settles_setRemaining {mark : String} {words : List String}
    (spells : Argument.ofText mark = .endOfOptions) :
    options.Settles (mark :: words) ((options.setRemaining words).map .run) := by
  rw [setRemaining]
  split
  next blank => exact .noWords (.blank spells blank)
  next some => exact settles_setInput (.marked spells (by simpa using some))

theorem AreWords.read_eq_none {words : List String} (areWords : AreWords words none) :
    options.read words = .ok (.run options) := by
  cases areWords with
  | blank spells blank =>
    rw [Options.read, spells]
    simp [setRemaining, blank, Except.map]

theorem AreWords.read_eq_some {words : List String} {text : String}
    (areWords : AreWords words (some text)) :
    options.read words = (options.setInput text).map .run := by
  cases areWords with
  | marked spells some =>
    rw [Options.read, spells]
    simp [setRemaining, some]
  | plain spells => rw [Options.read, spells]

theorem Settles.read_eq {arguments : List String} {verdict : Except UsageError Invocation}
    (settles : options.Settles arguments verdict) : options.read arguments = verdict := by
  cases settles with
  | nil => rfl
  | help spells | version spells | unknown spells | missing spells => rw [Options.read, spells]
  | separate spells refuses | attached spells refuses =>
    rw [Options.read, spells]
    simp only [setValue_eq_error_iff.2 refuses]
  | noWords areWords => exact areWords.read_eq_none
  | words areWords none =>
    rw [areWords.read_eq_some, setInput_of_none none]
    rfl
  | repeated areWords input =>
    rw [areWords.read_eq_some, setInput_of_some input]
    rfl

theorem Settles.comesTo {arguments : List String} {verdict : Except UsageError Invocation}
    (settles : options.Settles arguments verdict) : options.ComesTo arguments verdict :=
  ⟨[], arguments, options, rfl, .nil _, settles⟩

theorem comesTo_read (options : Options) (arguments : List String) :
    options.ComesTo arguments (options.read arguments) := by
  fun_induction Options.read options arguments with
  | case1 options => exact Settles.nil.comesTo
  | case2 options text rest spells => exact (Settles.help spells).comesTo
  | case3 options text rest spells => exact (Settles.version spells).comesTo
  | case4 options text rest switch spells ih =>
    obtain ⟨front, behind, before, rfl, reads, settles⟩ := ih
    exact ⟨text :: front, behind, before, rfl, .switch spells reads, settles⟩
  | case5 options text option spells => exact (Settles.missing spells).comesTo
  | case6 options text option spells value rest problem refused =>
    exact (Settles.separate spells (setValue_eq_error_iff.1 refused)).comesTo
  | case7 options text option spells value rest next given ih =>
    obtain ⟨front, behind, before, rfl, reads, settles⟩ := ih
    exact ⟨text :: value :: front, behind, before, rfl, .separate spells given reads, settles⟩
  | case8 options text rest option value spells problem refused =>
    exact (Settles.attached spells (setValue_eq_error_iff.1 refused)).comesTo
  | case9 options text rest option value spells next given ih =>
    obtain ⟨front, behind, before, rfl, reads, settles⟩ := ih
    exact ⟨text :: front, behind, before, rfl, .attached spells given reads, settles⟩
  | case10 options text rest spells => exact (settles_setRemaining spells).comesTo
  | case11 options text rest spells => exact (Settles.unknown spells).comesTo
  | case12 options text rest spells => exact (settles_setInput (.plain spells)).comesTo

/-- A command line comes to what its first deciding argument says. -/
theorem read_eq_iff {arguments : List String} {verdict : Except UsageError Invocation} :
    options.read arguments = verdict ↔ options.ComesTo arguments verdict := by
  constructor
  · rintro rfl
    exact comesTo_read options arguments
  · rintro ⟨front, rest, before, rfl, reads, settles⟩
    rw [reads.read_append, settles.read_eq]

theorem ReadsTo.comesTo_append_iff {front rest : List String} {before : Options}
    {verdict : Except UsageError Invocation} (reads : ReadsTo options front before) :
    options.ComesTo (front ++ rest) verdict ↔ before.ComesTo rest verdict := by
  rw [← read_eq_iff, ← read_eq_iff, reads.read_append]

/-! ### Options that were read -/

variable {other : Options}

theorem Takes.exists_of_input_eq {next : Options} (takes : options.Takes option value next)
    (same : other.input = options.input) :
    ∃ otherNext, other.Takes option value otherNext ∧ otherNext.input = next.input := by
  cases takes with
  | modules => exact ⟨_, .modules, same⟩
  | profiles => exact ⟨_, .profiles, same⟩
  | maxModules read => exact ⟨_, .maxModules read, same⟩
  | seed read => exact ⟨_, .seed read, same⟩
  | input none => exact ⟨_, .input (same.trans none), rfl⟩

theorem ReadsTo.exists_of_input_eq {front : List String} {final : Options}
    (reads : ReadsTo options front final) (same : other.input = options.input) :
    ∃ otherFinal, ReadsTo other front otherFinal ∧ otherFinal.input = final.input := by
  induction reads generalizing other with
  | nil options => exact ⟨other, .nil other, same⟩
  | @switch options _ _ _ switch spells _ ih =>
    have turned : (other.turn switch).input = (options.turn switch).input := by
      rw [input_turn, input_turn, same]
    obtain ⟨otherFinal, reads, kept⟩ := ih turned
    exact ⟨otherFinal, .switch spells reads, kept⟩
  | separate spells given _ ih =>
    obtain ⟨next, takes, changed⟩ := (setValue_eq_ok_iff.1 given).exists_of_input_eq same
    obtain ⟨otherFinal, reads, kept⟩ := ih changed
    exact ⟨otherFinal, .separate spells (setValue_eq_ok_iff.2 takes) reads, kept⟩
  | attached spells given _ ih =>
    obtain ⟨next, takes, changed⟩ := (setValue_eq_ok_iff.1 given).exists_of_input_eq same
    obtain ⟨otherFinal, reads, kept⟩ := ih changed
    exact ⟨otherFinal, .attached spells (setValue_eq_ok_iff.2 takes) reads, kept⟩

theorem Refuses.of_input_eq {problem : UsageError}
    (refuses : options.Refuses option value problem) (same : other.input = options.input) :
    other.Refuses option value problem := by
  cases refuses with
  | notNumber numeric none => exact .notNumber numeric none
  | repeated input => exact .repeated (same.trans input)

theorem Settles.of_input_eq {arguments : List String} {verdict : Except UsageError Invocation}
    (settles : options.Settles arguments verdict) (same : other.input = options.input)
    (decided : ∀ final, verdict ≠ .ok (.run final)) : other.Settles arguments verdict := by
  cases settles with
  | nil | noWords | words => exact absurd rfl (decided _)
  | help spells => exact .help spells
  | version spells => exact .version spells
  | unknown spells => exact .unknown spells
  | missing spells => exact .missing spells
  | separate spells refuses => exact .separate spells (refuses.of_input_eq same)
  | attached spells refuses => exact .attached spells (refuses.of_input_eq same)
  | repeated areWords input => exact .repeated areWords (same.trans input)

/-- Help, the version and refusals do not depend on the options but for the mission text. -/
theorem ComesTo.of_input_eq {arguments : List String} {verdict : Except UsageError Invocation}
    (comes : options.ComesTo arguments verdict) (same : other.input = options.input)
    (decided : ∀ final, verdict ≠ .ok (.run final)) : other.ComesTo arguments verdict := by
  obtain ⟨front, rest, before, whole, reads, settles⟩ := comes
  obtain ⟨otherBefore, otherReads, kept⟩ := reads.exists_of_input_eq same
  exact ⟨front, rest, otherBefore, whole, otherReads, settles.of_input_eq kept decided⟩

theorem json_turn (asked : options.json = true) (switch : Switch) :
    (options.turn switch).json = true := by
  cases switch with
  | json => rfl
  | color | noColor | list | noMultipleBombs | noFactory | ruleSeedModifier => exact asked

theorem Takes.json {next : Options} (takes : options.Takes option value next) :
    next.json = options.json := by
  cases takes <;> rfl

theorem ReadsTo.json {front : List String} {final : Options} (reads : ReadsTo options front final)
    (asked : options.json = true) : final.json = true := by
  induction reads with
  | nil => exact asked
  | switch _ _ ih => exact ih (json_turn asked _)
  | separate _ given _ ih | attached _ given _ ih =>
    exact ih ((setValue_eq_ok_iff.1 given).json.trans asked)

/-- What was asked for once holds for the whole run. -/
theorem ComesTo.json {arguments : List String} {final : Options}
    (comes : options.ComesTo arguments (.ok (.run final))) (asked : options.json = true) :
    final.json = true := by
  obtain ⟨front, rest, before, -, reads, settles⟩ := comes
  have kept := reads.json asked
  cases settles with
  | nil | noWords | words => exact kept

end Options

end BombMission.CommandLine
