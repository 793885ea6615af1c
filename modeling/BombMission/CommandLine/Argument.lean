import BombMission.Text.Numeral

/-!
# Arguments

Each argument of the command line is an option, the mark behind which everything is mission text, or
the first word of the mission text itself. Two options may have their value in the same argument,
behind an equals sign.
-/

namespace BombMission.CommandLine

inductive Switch where
  | color
  | noColor
  | json
  | list
  | noMultipleBombs
  | noFactory
  | ruleSeedModifier
  deriving DecidableEq, Repr

namespace Switch

def all : List Switch :=
  [color, noColor, json, list, noMultipleBombs, noFactory, ruleSeedModifier]

def spelling : Switch → String
  | color => "--color"
  | noColor => "--no-color"
  | json => "--json"
  | list => "--list"
  | noMultipleBombs => "--no-multiple-bombs"
  | noFactory => "--no-factory"
  | ruleSeedModifier => "--ruleseed-modifier"

end Switch

inductive Valued where
  | modules
  | profiles
  | maxModules
  | seed
  | input
  deriving DecidableEq, Repr

namespace Valued

def all : List Valued :=
  [modules, profiles, maxModules, seed, input]

def spelling : Valued → String
  | modules => "--modules"
  | profiles => "--profiles"
  | maxModules => "--max-modules"
  | seed => "--seed"
  | input => "--input"

def attachable : List Valued :=
  [input, seed]

/-- The start of an argument with the option and its value. -/
def attachment (option : Valued) : String :=
  option.spelling ++ "="

end Valued

inductive Argument where
  | help
  | version
  | switch (switch : Switch)
  | valued (option : Valued)
  | attached (option : Valued) (value : String)
  /-- Everything after this argument is mission text. -/
  | endOfOptions
  | unknown
  /-- The first word of the mission text. -/
  | mission
  deriving DecidableEq, Repr

/-- The text without a start that it may have, as often as it has it. -/
def dropStarts (start text : List Char) : List Char :=
  if _repeats : start ≠ [] ∧ start <+: text then dropStarts start (text.drop start.length) else text
termination_by text.length
decreasing_by
  have bound := _repeats.2.length_le
  have positive := List.length_pos_iff.2 _repeats.1
  rw [List.length_drop]
  omega

def attached? (text : String) : Option (Valued × String) :=
  Valued.attachable.findSome? fun option =>
    let start := option.attachment.toList
    if start <+: text.toList then some (option, String.ofList (dropStarts start text.toList))
    else none

def switch? (text : String) : Option Switch :=
  Switch.all.find? fun switch => switch.spelling = text

/-- The option with a value that has this spelling, or its short one. -/
def valued? (text : String) : Option Valued :=
  if text = "-i" then some .input else Valued.all.find? fun option => option.spelling = text

def Argument.ofText (text : String) : Argument :=
  -- whole spellings come before the starts that carry a value
  if text = "-h" ∨ text = "--help" then .help
  else if text = "-V" ∨ text = "--version" then .version
  else if text = "--" then .endOfOptions
  else
    match switch? text, valued? text, attached? text with
    | some found, _, _ => .switch found
    | none, some option, _ => .valued option
    | none, none, some (option, value) => .attached option value
    | none, none, none => if text.toList.head? = some '-' then .unknown else .mission

end BombMission.CommandLine
