import BombMission.CommandLine.Options
import Mathlib.Data.List.Infix

/-!
# Two spellings of an option with its value

The value of an option stands in the argument behind it. The mission text and the seed may also stand
in the same argument, behind an equals sign. Both spellings are meant to say the same, wherever they
stand among the arguments. They do so for every value but one that starts like such an argument
itself: its start is dropped along with the one in front of it, as often as it repeats.

## Main results

* `Options.setValue_eq_ok_iff`, `Options.setValue_eq_error_iff`: the values that an option takes.
* `Options.ReadsTo.read_append`: arguments that end nothing only change the options.
* `OptionPlace.readAttached_eq`: what an attached value is read as, at every place.
* `Options.input_read`: a mission text that was given stays as it is.
* `attached_agrees_iff`: the values for which both spellings agree.
-/

namespace BombMission.CommandLine

/-! ### Starts that are dropped -/

section Starts

variable {start text : List Char}

theorem dropStarts_of_not_prefix (other : ¬ start <+: text) : dropStarts start text = text := by
  rw [dropStarts, dif_neg fun repeats => other repeats.2]

theorem dropStarts_append (nonempty : start ≠ []) :
    dropStarts start (start ++ text) = dropStarts start text := by
  rw [dropStarts, dif_pos ⟨nonempty, List.prefix_append start text⟩, List.drop_left]

theorem dropStarts_suffix (start text : List Char) : dropStarts start text <:+ text := by
  fun_induction dropStarts start text with
  | case1 text repeats ih => exact ih.trans (List.drop_suffix _ _)
  | case2 text other => exact List.suffix_refl _

/-- Something is dropped as soon as the text has the start. -/
theorem dropStarts_eq_self_iff (nonempty : start ≠ []) :
    dropStarts start text = text ↔ ¬ start <+: text := by
  constructor
  · rintro same ⟨rest, rfl⟩
    rw [dropStarts_append nonempty] at same
    have shorter := (dropStarts_suffix start rest).length_le
    rw [same, List.length_append] at shorter
    have positive := List.length_pos_iff.2 nonempty
    omega
  · exact dropStarts_of_not_prefix

end Starts

/-! ### Attached values -/

namespace Valued

/-- What a value is read as when it stands in the argument of its option. -/
def attachedValue (option : Valued) (value : String) : String :=
  String.ofList (dropStarts option.attachment.toList value.toList)

theorem attachment_ne_nil (option : Valued) : option.attachment.toList ≠ [] := by
  cases option <;> decide

theorem attachedValue_eq_self_iff {option : Valued} {value : String} :
    option.attachedValue value = value ↔ ¬ option.attachment.toList <+: value.toList := by
  rw [attachedValue, ← String.toList_inj, String.toList_ofList,
    dropStarts_eq_self_iff option.attachment_ne_nil]

end Valued

section Attached

variable {option : Valued} (value : String)

theorem attached_starts (option : Valued) (value : String) :
    option.attachment.toList <+: (option.attachment ++ value).toList := by
  rw [String.toList_append]
  exact List.prefix_append _ _

theorem attached_ne_of_not_prefix {word : String} (other : ¬ option.attachment.toList <+: word.toList) :
    option.attachment ++ value ≠ word := by
  rintro rfl
  exact other (attached_starts option value)

theorem switch?_attached (option : Valued) : switch? (option.attachment ++ value) = none := by
  rw [switch?, List.find?_eq_none]
  intro switch _ same
  refine attached_ne_of_not_prefix value ?_ (of_decide_eq_true same).symm
  cases option <;> cases switch <;> decide

theorem valued?_attached (option : Valued) : valued? (option.attachment ++ value) = none := by
  have notShort : option.attachment ++ value ≠ "-i" := by
    apply attached_ne_of_not_prefix
    cases option <;> decide
  rw [valued?, if_neg notShort, List.find?_eq_none]
  intro other _ same
  refine attached_ne_of_not_prefix value ?_ (of_decide_eq_true same).symm
  cases option <;> cases other <;> decide

theorem attached?_attached (attachable : option ∈ Valued.attachable) :
    attached? (option.attachment ++ value) = some (option, option.attachedValue value) := by
  have begins := attached_starts option value
  have dropped : String.ofList (dropStarts option.attachment.toList
      (option.attachment ++ value).toList) = option.attachedValue value := by
    rw [String.toList_append, dropStarts_append option.attachment_ne_nil]
    rfl
  cases option with
  | input =>
    simp only [attached?, Valued.attachable, List.findSome?_cons, if_pos begins, dropped]
  | seed =>
    -- the start of the mission text is tried first
    have notInput : ¬ Valued.input.attachment.toList <+:
        (Valued.seed.attachment ++ value).toList := by
      simp [Valued.attachment, Valued.spelling]
    simp only [attached?, Valued.attachable, List.findSome?_cons, if_neg notInput, if_pos begins,
      dropped]
  | modules | profiles | maxModules => simp [Valued.attachable] at attachable

/-- An argument with an attached value is none of the words that are read as a whole. -/
theorem ofText_attached (attachable : option ∈ Valued.attachable) :
    Argument.ofText (option.attachment ++ value) =
      .attached option (option.attachedValue value) := by
  have whole : ∀ word ∈ ["-h", "--help", "-V", "--version", "--"],
      option.attachment ++ value ≠ word := by
    intro word member
    apply attached_ne_of_not_prefix
    revert word
    cases option <;> decide
  have help : ¬ (option.attachment ++ value = "-h" ∨ option.attachment ++ value = "--help") :=
    not_or.2 ⟨whole _ (by decide), whole _ (by decide)⟩
  have version : ¬ (option.attachment ++ value = "-V" ∨ option.attachment ++ value = "--version") :=
    not_or.2 ⟨whole _ (by decide), whole _ (by decide)⟩
  rw [Argument.ofText, if_neg help, if_neg version, if_neg (whole "--" (by decide)),
    switch?_attached, valued?_attached, attached?_attached value attachable]

end Attached

namespace Options

/-! ### Values of options -/

/-- What the options are with a value that an option takes. -/
inductive Takes (options : Options) : Valued → String → Options → Prop where
  | modules {path : String} : Takes options .modules path { options with modules := some path }
  | profiles {path : String} : Takes options .profiles path { options with profiles := some path }
  | maxModules {value : String} {n : Nat} : Text.readNumber maxNumber value.toList = some n →
      Takes options .maxModules value
        { options with limits := { options.limits with maxModules := n } }
  | seed {value : String} {n : Nat} : Text.readNumber maxNumber value.toList = some n →
      Takes options .seed value { options with seed := some n }
  | input {text : String} : options.input = none →
      Takes options .input text { options with input := some text }

/-- The value is none that the option takes: it is no number, or there is a mission text already. -/
inductive Refuses (options : Options) : Valued → String → UsageError → Prop where
  | notNumber {option : Valued} {value : String} : option = .maxModules ∨ option = .seed →
      Text.readNumber maxNumber value.toList = none →
      Refuses options option value (.invalidNumber option value)
  | repeated {text value : String} : options.input = some text →
      Refuses options .input value .repeatedInput

variable {options : Options} {option : Valued} {value : String}

theorem setInput_of_some {text : String} (input : options.input = some text) :
    options.setInput value = .error .repeatedInput := by
  rw [setInput, input]
  rfl

theorem setInput_of_none {text : String} (none : options.input = none) :
    options.setInput text = .ok { options with input := some text } := by
  rw [setInput, none]
  rfl

theorem setValue_eq_ok_iff {next : Options} :
    options.setValue option value = .ok next ↔ options.Takes option value next := by
  constructor
  · intro given
    cases option with
    | modules =>
      cases given
      exact .modules
    | profiles =>
      cases given
      exact .profiles
    | maxModules | seed =>
      rw [setValue, readNumber] at given
      cases read : Text.readNumber maxNumber value.toList with
      | none =>
        rw [read] at given
        cases given
      | some n =>
        rw [read] at given
        cases given
        constructor
        exact read
    | input =>
      cases input : options.input with
      | none =>
        rw [setValue, setInput_of_none input] at given
        cases given
        exact .input input
      | some text =>
        rw [setValue, setInput_of_some input] at given
        cases given
  · intro takes
    cases takes with
    | modules | profiles => rfl
    | maxModules read | seed read =>
      rw [setValue, readNumber, read]
      rfl
    | input none => exact setInput_of_none none

theorem setValue_eq_error_iff {problem : UsageError} :
    options.setValue option value = .error problem ↔ options.Refuses option value problem := by
  constructor
  · intro refused
    cases option with
    | modules | profiles => cases refused
    | maxModules | seed =>
      rw [setValue, readNumber] at refused
      cases read : Text.readNumber maxNumber value.toList with
      | some n =>
        rw [read] at refused
        cases refused
      | none =>
        rw [read] at refused
        cases refused
        exact .notNumber (by simp) read
    | input =>
      cases input : options.input with
      | none =>
        rw [setValue, setInput_of_none input] at refused
        cases refused
      | some text =>
        rw [setValue, setInput_of_some input] at refused
        cases refused
        exact .repeated input
  · intro refuses
    cases refuses with
    | notNumber numeric none =>
      rcases numeric with rfl | rfl <;>
      · rw [setValue, readNumber, none]
        rfl
    | repeated input => exact setInput_of_some input

/-! ### Arguments in front -/

/-- The options that whole arguments at the front of a command line come to: switches and options
with their values, none of which ends the reading. -/
inductive ReadsTo : Options → List String → Options → Prop where
  | nil (options : Options) : ReadsTo options [] options
  | switch {options final : Options} {text : String} {rest : List String} {switch : Switch} :
      Argument.ofText text = .switch switch → ReadsTo (options.turn switch) rest final →
      ReadsTo options (text :: rest) final
  | separate {options next final : Options} {text value : String} {rest : List String}
      {option : Valued} :
      Argument.ofText text = .valued option → options.setValue option value = .ok next →
      ReadsTo next rest final → ReadsTo options (text :: value :: rest) final
  | attached {options next final : Options} {text value : String} {rest : List String}
      {option : Valued} :
      Argument.ofText text = .attached option value → options.setValue option value = .ok next →
      ReadsTo next rest final → ReadsTo options (text :: rest) final

variable {final : Options} {front rest : List String}

/-- Arguments that end nothing only change the options. -/
theorem ReadsTo.read_append (reads : ReadsTo options front final) :
    options.read (front ++ rest) = final.read rest := by
  induction reads with
  | nil options => rfl
  | switch spells _ ih => rw [List.cons_append, Options.read, spells, ← ih]
  | separate spells given _ ih =>
    rw [List.cons_append, List.cons_append, Options.read, spells, ← ih]
    simp only [given]
  | attached spells given _ ih =>
    rw [List.cons_append, Options.read, spells, ← ih]
    simp only [given]

/-- An option is read in the same way from both spellings, when they give the same value. -/
theorem read_separate_eq {option : Valued} {spelling text value : String}
    (spells : Argument.ofText spelling = .valued option)
    (attached : Argument.ofText text = .attached option value) :
    options.read (spelling :: value :: rest) = options.read (text :: rest) := by
  rw [Options.read, Options.read, spells, attached]

theorem input_of_setInput {value : String} {next : Options}
    (given : options.setInput value = .ok next) : next.input = some value := by
  unfold setInput at given
  split at given
  · cases given
  · cases given
    rfl

theorem input_turn (options : Options) (switch : Switch) :
    (options.turn switch).input = options.input := by
  cases switch <;> rfl

/-- Another mission text is refused, and no other option changes the text. -/
theorem input_setValue {text : String} {next : Options} (input : options.input = some text)
    (given : options.setValue option value = .ok next) : next.input = some text := by
  cases setValue_eq_ok_iff.1 given with
  | modules | profiles | maxModules | seed => exact input
  | input none => cases none.symm.trans input

/-- Words behind the options are no text beside one that was given. -/
theorem input_setRemaining {words : List String} {text : String} {next : Options}
    (input : options.input = some text) (given : options.setRemaining words = .ok next) :
    next.input = some text := by
  simp only [setRemaining] at given
  split at given
  · cases given
    exact input
  · rw [setInput_of_some input] at given
    cases given

/-- A mission text that was given stays as it is, whatever follows. -/
theorem input_read {arguments : List String} {text : String} (input : options.input = some text)
    (runs : options.read arguments = .ok (.run final)) : final.input = some text := by
  fun_induction Options.read options arguments with
  | case1 options =>
    cases runs
    exact input
  | case4 options text rest switch spells ih => exact ih (by rw [input_turn, input]) runs
  | case7 options text option spells value rest next given ih =>
    exact ih (input_setValue input given) runs
  | case9 options text rest option value spells next given ih =>
    exact ih (input_setValue input given) runs
  | case10 options text rest spells =>
    cases given : options.setRemaining rest with
    | error problem =>
      rw [given] at runs
      cases runs
    | ok next =>
      rw [given] at runs
      cases runs
      exact input_setRemaining input given
  | case12 options text rest spells =>
    rw [setInput_of_some input] at runs
    cases runs
  | case2 | case3 | case5 | case6 | case8 | case11 => cases runs

end Options

/-! ### Places of an option -/

/-- Where an option with a value stands on a command line: behind arguments that end nothing. -/
structure OptionPlace (option : Valued) where
  isTerminal : Bool
  front : List String
  /-- The options when the reading comes to the place. -/
  before : Options
  reads : Options.ReadsTo { colored := isTerminal } front before
  spelling : String
  spells : Argument.ofText spelling = .valued option
  rest : List String

namespace OptionPlace

variable {option : Valued} (place : OptionPlace option) (value : String)

/-- Reads the command line with the value in an argument of its own. -/
def readSeparate : Except UsageError Invocation :=
  Invocation.read place.isTerminal (place.front ++ place.spelling :: value :: place.rest)

/-- Reads the command line with the value in the argument of the option. -/
def readAttached : Except UsageError Invocation :=
  Invocation.read place.isTerminal
    (place.front ++ (option.attachment ++ value) :: place.rest)

/-- The option alone on a command line. -/
def alone (option : Valued) : OptionPlace option where
  isTerminal := false
  front := []
  before := {}
  reads := .nil _
  spelling := option.spelling
  spells := by cases option <;> decide
  rest := []

theorem readSeparate_eq :
    place.readSeparate value = place.before.read (place.spelling :: value :: place.rest) :=
  place.reads.read_append

/-- An attached value is read as a separate one without its starts. -/
theorem readAttached_eq (attachable : option ∈ Valued.attachable) :
    place.readAttached value = place.readSeparate (option.attachedValue value) := by
  rw [readSeparate_eq, Options.read_separate_eq place.spells (ofText_attached value attachable)]
  exact place.reads.read_append

end OptionPlace

/-- A separate mission text is the text of the run, letter for letter. -/
theorem input_of_readSeparate (place : OptionPlace .input) {value : String} {final : Options}
    (runs : place.readSeparate value = .ok (.run final)) : final.input = some value := by
  rw [place.readSeparate_eq, Options.read, place.spells] at runs
  simp only at runs
  split at runs
  · cases runs
  next given => exact Options.input_read (Options.input_of_setInput given) runs

/-- No number starts like an option, so the separate spelling of such a seed is refused. -/
theorem readNumber_of_prefix {option : Valued} {value : String}
    (begins : option.attachment.toList <+: value.toList) :
    readNumber option value = .error (.invalidNumber option value) := by
  obtain ⟨rest, whole⟩ := begins
  obtain ⟨more, dash⟩ : ∃ more, option.attachment.toList = '-' :: more := by
    cases option <;> exact ⟨_, rfl⟩
  rw [dash, List.cons_append] at whole
  have none : Text.readNumber maxNumber value.toList = none := by
    rw [← whole]
    simp [Text.readNumber, Text.readDigits]
  rw [readNumber, none]

theorem readSeparate_alone_seed (value : String) :
    (OptionPlace.alone .seed).readSeparate value =
      (readNumber .seed value).map fun n => .run { seed := some n } := by
  have spells : Argument.ofText Valued.seed.spelling = .valued .seed := by decide
  simp only [OptionPlace.readSeparate_eq, OptionPlace.alone, Options.read, spells, Options.setValue]
  cases readNumber .seed value <;> rfl

/-- Alone on a command line, a value that starts like the option is told from all others. -/
theorem eq_of_readSeparate_alone {option : Valued} (attachable : option ∈ Valued.attachable)
    {value other : String} (begins : option.attachment.toList <+: value.toList)
    (same : (OptionPlace.alone option).readSeparate other =
      (OptionPlace.alone option).readSeparate value) : other = value := by
  cases option with
  | input =>
    have runs : (OptionPlace.alone .input).readSeparate value =
        .ok (.run { input := some value }) := by
      rfl
    have kept := input_of_readSeparate _ (same.trans runs)
    exact (Option.some.inj kept).symm
  | seed =>
    rw [readSeparate_alone_seed, readSeparate_alone_seed, readNumber_of_prefix begins] at same
    unfold readNumber at same
    -- the refusal of a number names it
    split at same
    · cases same
    · cases same
      rfl
  | modules | profiles | maxModules => simp [Valued.attachable] at attachable

/-- Both spellings agree at every place exactly for the values that do not start like the option with
an equals sign. Any other value is read without these starts, where the separate spelling keeps it
letter for letter. -/
theorem attached_agrees_iff (option : Valued) (attachable : option ∈ Valued.attachable)
    (value : String) :
    ((∀ place : OptionPlace option, place.readAttached value = place.readSeparate value) ↔
      ¬ option.attachment.toList <+: value.toList) ∧
    (∀ place : OptionPlace option,
      place.readAttached value = place.readSeparate (option.attachedValue value)) ∧
    ∀ (place : OptionPlace .input) (final : Options),
      (place.readSeparate value = .ok (.run final) → final.input = some value) ∧
      (place.readAttached value = .ok (.run final) →
        final.input = some (Valued.attachedValue .input value)) := by
  refine ⟨⟨?_, ?_⟩, fun place => place.readAttached_eq value attachable, ?_⟩
  · intro agree begins
    have same := agree (OptionPlace.alone option)
    rw [OptionPlace.readAttached_eq _ value attachable] at same
    have kept := eq_of_readSeparate_alone attachable begins same
    exact Valued.attachedValue_eq_self_iff.1 kept begins
  · intro other place
    rw [place.readAttached_eq value attachable, Valued.attachedValue_eq_self_iff.2 other]
  · intro place final
    refine ⟨input_of_readSeparate place, ?_⟩
    intro runs
    rw [place.readAttached_eq value (by decide)] at runs
    exact input_of_readSeparate place runs

/-- The mission text behind a switch and a seed. -/
def seededPlace : OptionPlace .input where
  isTerminal := true
  front := ["--json", "--seed", "7"]
  before := { json := true, seed := some 7, colored := true }
  reads := by
    have json : Argument.ofText "--json" = .switch .json := by decide
    have seed : Argument.ofText "--seed" = .valued .seed := by decide
    exact .switch json (.separate seed rfl (.nil _))
  spelling := "-i"
  spells := by decide
  rest := ["--list"]

/-- A text that looks like another option, with an equals sign of its own. -/
theorem attached_agrees_seeded :
    Invocation.read true ["--json", "--seed", "7", "--input=--seed=5 Wires", "--list"] =
        Invocation.read true ["--json", "--seed", "7", "-i", "--seed=5 Wires", "--list"] ∧
      ¬ Valued.input.attachment.toList <+: "--seed=5 Wires".toList := by
  have other : ¬ Valued.input.attachment.toList <+: "--seed=5 Wires".toList := by decide
  obtain ⟨agree, -, -⟩ := attached_agrees_iff .input (by decide) "--seed=5 Wires"
  exact ⟨agree.2 other seededPlace, other⟩

/-- A mission text that starts like the option loses its start in one of the spellings. -/
theorem attached_start_dropped :
    Invocation.read false ["--input=--input=Wires"] =
        .ok (.run { input := some "Wires" }) ∧
      Invocation.read false ["--input", "--input=Wires"] =
        .ok (.run { input := some "--input=Wires" }) := by
  refine ⟨?_, rfl⟩
  have dropped : Valued.attachedValue .input "--input=Wires" = "Wires" := by
    decide +kernel
  have attached := (OptionPlace.alone .input).readAttached_eq "--input=Wires" (by decide)
  rw [dropped] at attached
  exact attached

end BombMission.CommandLine
