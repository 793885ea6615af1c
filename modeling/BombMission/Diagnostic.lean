/-!
# Diagnostics

Every problem of a mission text is one `Diagnostic`. Problems never stop a compilation; they are
collected in the order in which they are found, and a mission is made only when there are none.
-/

namespace BombMission

/-- The settings that every bomb has for itself. -/
inductive BombSetting where
  | time
  | strikes
  | needyActivationTime
  | widgets
  deriving DecidableEq, Repr

def BombSetting.label : BombSetting → String
  | time => "Time"
  | strikes => "Strikes"
  | needyActivationTime => "Needy activation time"
  | widgets => "Widget count"

/-- The settings that a mission has as a whole. -/
inductive MissionSetting where
  | pacing
  | factory
  | ruleSeed
  deriving DecidableEq, Repr

def MissionSetting.label : MissionSetting → String
  | pacing => "nopacing"
  | factory => "Factory mode"
  | ruleSeed => "Rule seed"

inductive Diagnostic where
  | unclosedQuote
  | unexpectedOpen
  | unexpectedClose
  | unexpectedPool
  | unclosedGroup
  | invalidPoolCount
  | invalidRepeatCount
  | duplicate (setting : BombSetting)
  | duplicateForMission (setting : MissionSetting)
  | insideGroup (setting : MissionSetting)
  | invalidValue (setting : BombSetting)
  | invalidRuleSeed
  | invalidFactoryMode
  | unknownModule (id : String)
  | disabledModule (id : String)
  | unknownProfile (name : String)
  | emptyProfile (name : String)
  | noValidModules
  | uniqueShortfall (requested found : Nat)
  /-- The bomb carries its number when groups number the bombs. -/
  | noSolvableModules (bomb : Option Nat)
  | tooManyModules (count limit : Nat) (bomb : Option Nat)
  | multipleBombsUnavailable
  | factoryUnavailable
  | ruleSeedUnavailable
  deriving DecidableEq, Repr

namespace Diagnostic

/-- The end of a message about a numbered bomb. -/
def onBomb : Option Nat → String
  | none => ""
  | some number => " on bomb " ++ toString number

def invalidValueMessage : BombSetting → String
  | .time => "Invalid time limit"
  | .strikes => "Invalid strike limit"
  | .needyActivationTime => "Invalid needy activation time"
  | .widgets => "Invalid widget count"

def message : Diagnostic → String
  | unclosedQuote => "Unclosed quote"
  | unexpectedOpen => "Unexpected '('"
  | unexpectedClose => "Unexpected ')'"
  | unexpectedPool => "Unexpected module pool"
  | unclosedGroup => "Missing ')' at end of mission"
  | invalidPoolCount => "Invalid module pool count"
  | invalidRepeatCount => "Invalid bomb repeat count"
  | duplicate setting => setting.label ++ " specified multiple times"
  | duplicateForMission setting => setting.label ++ " specified multiple times"
  | insideGroup setting => setting.label ++ " cannot be a bomb-level setting"
  | invalidValue setting => invalidValueMessage setting
  | invalidRuleSeed => "Invalid rule seed"
  | invalidFactoryMode => "Invalid factory mode"
  | unknownModule id => "'" ++ id ++ "' is an unknown module ID."
  | disabledModule id => "'" ++ id ++ "' is disabled."
  | unknownProfile name => "No profile named '" ++ name ++ "' was found."
  | emptyProfile name => "Profile '" ++ name ++ "' enables no valid modules."
  | noValidModules => "No valid modules found"
  | uniqueShortfall requested found =>
    "Requested " ++ toString requested ++ " unique modules but only found " ++ toString found ++
      " valid modules"
  | noSolvableModules bomb => "No solvable modules" ++ onBomb bomb
  | tooManyModules count limit bomb =>
    "Too many modules for any bomb casing (" ++ toString count ++ " > " ++ toString limit ++ ")" ++
      onBomb bomb
  | multipleBombsUnavailable => "Multiple Bombs does not seem to be enabled"
  | factoryUnavailable => "Factory does not seem to be enabled"
  | ruleSeedUnavailable => "Rule seed modifier mod is not installed or disabled."

end Diagnostic

/-- A failed compilation: every problem in the order found. -/
structure CompileError where
  diagnostics : List Diagnostic
  deriving DecidableEq, Repr

namespace CompileError

/-- The messages that a summary shows when it is opened without a limit of its own. -/
def shownProblems : Nat := 5

/-- The first messages up to the limit, one to a line, and how many more there are. -/
def summary (error : CompileError) (limit : Nat) : String :=
  let shown := (error.diagnostics.take limit).map Diagnostic.message
  let hidden := error.diagnostics.length - limit
  "\n".intercalate (if 0 < hidden then shown ++ [toString hidden ++ " more"] else shown)

def message (error : CompileError) : String :=
  "mission has " ++ toString error.diagnostics.length ++ " problem(s):\n" ++
    error.summary shownProblems

end CompileError

end BombMission
