import BombMission.CommandLine.Argument
import BombMission.Context
import BombMission.Text.Blank

/-!
# Reading the command line

Arguments are read from left to right. The first one that asks for help or the version, or that
makes no sense, decides what happens. The first word that is no option starts the mission text,
which all further arguments belong to.
-/

namespace BombMission.CommandLine

structure Options where
  input : Option String := none
  modules : Option String := none
  profiles : Option String := none
  limits : HostLimits := {}
  seed : Option Nat := none
  json : Bool := false
  list : Bool := false
  colored : Bool := false
  deriving DecidableEq, Repr

inductive Invocation where
  | help
  | version
  | run (options : Options)
  deriving DecidableEq, Repr

inductive UsageError where
  | unknownOption (text : String)
  | missingValue (option : Valued)
  | invalidNumber (option : Valued) (value : String)
  | repeatedInput
  deriving DecidableEq, Repr

def UsageError.message : UsageError → String
  | unknownOption text => "error: unknown option '" ++ text ++ "'"
  | missingValue option => "error: " ++ option.spelling ++ " expects a value"
  | invalidNumber option value =>
    "error: invalid " ++ option.spelling ++ " '" ++ value ++
      "' (expected a non-negative integer)"
  | repeatedInput => "error: input provided multiple times"

/-- The greatest number that an option may have, of sixty-four bits. -/
def maxNumber : Nat := 0xFFFFFFFFFFFFFFFF

def readNumber (option : Valued) (value : String) : Except UsageError Nat :=
  match Text.readNumber maxNumber value.toList with
  | some n => .ok n
  | none => .error (.invalidNumber option value)

namespace Options

def turn (options : Options) : Switch → Options
  | .color => { options with colored := true }
  | .noColor => { options with colored := false }
  | .json => { options with json := true }
  | .list => { options with list := true }
  | .noMultipleBombs =>
    { options with limits := { options.limits with multipleBombs := false } }
  | .noFactory => { options with limits := { options.limits with factory := false } }
  | .ruleSeedModifier => { options with limits := { options.limits with ruleSeed := true } }

/-- Gives the mission text, which may be done once. -/
def setInput (options : Options) (text : String) : Except UsageError Options :=
  if options.input.isSome then .error .repeatedInput else .ok { options with input := some text }

def setValue (options : Options) (option : Valued) (value : String) :
    Except UsageError Options :=
  match option with
  | .modules => .ok { options with modules := some value }
  | .profiles => .ok { options with profiles := some value }
  | .maxModules => do
    let n ← readNumber option value
    .ok { options with limits := { options.limits with maxModules := n } }
  | .seed => do
    let n ← readNumber option value
    .ok { options with seed := some n }
  | .input => options.setInput value

/-- Gives the words behind all options as mission text. No words give no text. -/
def setRemaining (options : Options) (words : List String) : Except UsageError Options :=
  let text := " ".intercalate words
  if Text.isBlankText text then .ok options else options.setInput text

def read (options : Options) : List String → Except UsageError Invocation
  | [] => .ok (.run options)
  | text :: rest =>
    match Argument.ofText text with
    | .help => .ok .help
    | .version => .ok .version
    | .switch switch => (options.turn switch).read rest
    | .valued option =>
      match rest with
      | [] => .error (.missingValue option)
      | value :: rest =>
        match options.setValue option value with
        | .error problem => .error problem
        | .ok options => options.read rest
    | .attached option value =>
      match options.setValue option value with
      | .error problem => .error problem
      | .ok options => options.read rest
    -- from here on every argument is a word of the mission text
    | .endOfOptions => (options.setRemaining rest).map Invocation.run
    | .unknown => .error (.unknownOption text)
    | .mission => (options.setInput (" ".intercalate (text :: rest))).map Invocation.run

end Options

/-- Reads a command line. Reports are coloured at the start when a person reads them. -/
def Invocation.read (isTerminal : Bool) (arguments : List String) :
    Except UsageError Invocation :=
  Options.read { colored := isTerminal } arguments

end BombMission.CommandLine
