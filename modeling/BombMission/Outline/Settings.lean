import BombMission.Diagnostic
import BombMission.Mission.Basic
import BombMission.Text.Numeral
import BombMission.Token.Basic

/-!
# Settings while a mission is read

The mission and every open bomb have a slot for each of the settings that a bomb has for itself. A
slot remembers whether its setting was given, with a good value or a bad one, so that a second one
is noticed, and the last good value.
-/

namespace BombMission

open Text

/-- One setting: whether it was given, and its last good value. -/
structure Slot where
  specified : Bool := false
  value : Option Nat := none
  deriving DecidableEq, Repr

/-- The slot after its setting was given. A bad value leaves the value as it was. -/
def Slot.assign (slot : Slot) (value : Option Nat) : Slot :=
  { specified := true, value := value <|> slot.value }

/-- The settings of a bomb, or those for all bombs. -/
structure Settings where
  time : Slot := {}
  strikes : Slot := {}
  needyActivationTime : Slot := {}
  widgets : Slot := {}
  frontOnly : Bool := false
  deriving DecidableEq, Repr

namespace Settings

def slot (settings : Settings) : BombSetting → Slot
  | .time => settings.time
  | .strikes => settings.strikes
  | .needyActivationTime => settings.needyActivationTime
  | .widgets => settings.widgets

def setSlot (settings : Settings) (setting : BombSetting) (slot : Slot) : Settings :=
  match setting with
  | .time => { settings with time := slot }
  | .strikes => { settings with strikes := slot }
  | .needyActivationTime => { settings with needyActivationTime := slot }
  | .widgets => { settings with widgets := slot }

@[simp] theorem slot_setSlot (settings : Settings) (setting other : BombSetting) (slot : Slot) :
    (settings.setSlot setting slot).slot other =
      if other = setting then slot else settings.slot other := by
  cases setting <;> cases other <;> rfl

@[simp] theorem frontOnly_setSlot (settings : Settings) (setting : BombSetting) (slot : Slot) :
    (settings.setSlot setting slot).frontOnly = settings.frontOnly := by
  cases setting <;> rfl

/-- The settings a bomb outside groups starts with: those for all bombs, where a setting counts as
given when it has a value. -/
def inherited (defaults : Settings) : Settings :=
  let inherit (slot : Slot) : Slot := { specified := slot.value.isSome, value := slot.value }
  { time := inherit defaults.time
    strikes := inherit defaults.strikes
    needyActivationTime := inherit defaults.needyActivationTime
    widgets := inherit defaults.widgets
    frontOnly := defaults.frontOnly }

/-- The settings a bomb of a group starts with. Other values for all bombs are filled in only when
the group is closed. -/
def ofGroup (defaults : Settings) : Settings :=
  { frontOnly := defaults.frontOnly }

/-- The value of a setting for a bomb: its own, or else the one for all bombs. -/
def valueOr (settings defaults : Settings) (setting : BombSetting) : Option Nat :=
  (settings.slot setting).value <|> (defaults.slot setting).value

end Settings

def positive? (n : Nat) : Option Nat :=
  if 0 < n then some n else none

/-- A time limit, which must fit a word and be at least one second. -/
def timeLimit? (seconds : Nat) : Option Nat :=
  if seconds ≤ maxWord then positive? seconds else none

def settingNumber (value : Option String) : Option Nat :=
  value.bind fun text => readNumber maxWord text.toList

/-- The greatest seed that may be asked for, of thirty-one bits. -/
def maxRuleSeed : Nat := 0x7FFFFFFF

def readRuleSeed (value : Option String) : Option RuleSeed :=
  value.bind fun text =>
    if text = "random" then some .random
    else (readNonNegative maxRuleSeed text.toList).map .fixed

end BombMission
