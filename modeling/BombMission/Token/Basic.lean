/-!
# Tokens of mission text

The text of a mission is a sequence of tokens with blanks and comments between them: times, strike
limits, settings, pools of modules and the brackets of groups. A token keeps where it stands in the
text, counted in bytes of its UTF-8 form.
-/

namespace BombMission

/-- The settings that are written as a keyword. -/
inductive SettingName where
  | strikes
  | needyActivationTime
  | widgets
  | noPacing
  | frontOnly
  | factory
  | ruleSeed
  deriving DecidableEq, Repr

namespace SettingName

/-- Every setting, in the order in which their keywords are tried. -/
def all : List SettingName :=
  [strikes, needyActivationTime, widgets, noPacing, frontOnly, factory, ruleSeed]

def keyword : SettingName → String
  | strikes => "strikes"
  | needyActivationTime => "needyactivationtime"
  | widgets => "widgets"
  | noPacing => "nopacing"
  | frontOnly => "frontonly"
  | factory => "factory"
  | ruleSeed => "ruleseed"

theorem mem_all (name : SettingName) : name ∈ all := by
  cases name <;> decide

end SettingName

/-- A pool as it is written: its body without quotes and outer blanks, the count before it, whether
a mark asks for distinct modules, and whether a quote in it was never closed. -/
structure PoolText where
  body : String
  count : Option Nat
  unique : Bool
  unclosedQuote : Bool
  deriving DecidableEq, Repr

inductive TokenKind where
  | time (seconds : Nat)
  | strikes (limit : Nat)
  | setting (name : SettingName) (value : Option String)
  | pool (pool : PoolText)
  /-- An opening bracket, with the number of bombs the group makes. -/
  | groupOpen (copies : Option Nat)
  | groupClose
  deriving DecidableEq, Repr

/-- A token with the bytes it takes up, from `start` to before `stop`, and the text they hold. -/
structure Token where
  kind : TokenKind
  start : Nat
  stop : Nat
  spelling : String
  deriving DecidableEq, Repr

end BombMission
