import BombMission.Text.AsciiCase

/-!
# Factory modes

The factory hands out the bombs of a mission one after the other. Its mode says whether they come to
an end, and whether time and strikes are carried from bomb to bomb.
-/

namespace BombMission

/-- How the factory hands out bombs. -/
inductive FactoryMode where
  | static
  | finite
  | finiteGlobalTime
  | finiteGlobalStrikes
  | finiteGlobalTimeStrikes
  | infinite
  | infiniteGlobalTime
  | infiniteGlobalStrikes
  | infiniteGlobalTimeStrikes
  deriving DecidableEq, Repr

namespace FactoryMode

def all : List FactoryMode :=
  [static, finite, finiteGlobalTime, finiteGlobalStrikes, finiteGlobalTimeStrikes, infinite,
   infiniteGlobalTime, infiniteGlobalStrikes, infiniteGlobalTimeStrikes]

def id : FactoryMode → String
  | static => "static"
  | finite => "finite"
  | finiteGlobalTime => "finitegtime"
  | finiteGlobalStrikes => "finitegstrikes"
  | finiteGlobalTimeStrikes => "finitegtimestrikes"
  | infinite => "infinite"
  | infiniteGlobalTime => "infinitegtime"
  | infiniteGlobalStrikes => "infinitegstrikes"
  | infiniteGlobalTimeStrikes => "infinitegtimestrikes"

def displayName : FactoryMode → String
  | static => "Factory: Static"
  | finite => "Factory: Finite"
  | finiteGlobalTime => "Factory: Finite + global time"
  | finiteGlobalStrikes => "Factory: Finite + global strikes"
  | finiteGlobalTimeStrikes => "Factory: Finite + global time and strikes"
  | infinite => "Factory: Infinite"
  | infiniteGlobalTime => "Factory: Infinite + global time"
  | infiniteGlobalStrikes => "Factory: Infinite + global strikes"
  | infiniteGlobalTimeStrikes => "Factory: Infinite + global time and strikes"

/-- The name under which the host knows the mode. -/
def hostName : FactoryMode → String
  | static => "Static"
  | finite => "Finite"
  | finiteGlobalTime => "FiniteGlobalTime"
  | finiteGlobalStrikes => "FiniteGlobalStrikes"
  | finiteGlobalTimeStrikes => "FiniteGlobalTimeStrikes"
  | infinite => "Infinite"
  | infiniteGlobalTime => "InfiniteGlobalTime"
  | infiniteGlobalStrikes => "InfiniteGlobalStrikes"
  | infiniteGlobalTimeStrikes => "InfiniteGlobalTimeStrikes"

def ofId? (text : String) : Option FactoryMode :=
  all.find? fun mode => Text.equalIgnoringCase mode.id text

/-- The place of the mode in the order of the host. -/
def index (mode : FactoryMode) : Nat :=
  all.idxOf mode

theorem mem_all (mode : FactoryMode) : mode ∈ all := by
  cases mode <;> decide

theorem index_injective {a b : FactoryMode} (same : a.index = b.index) : a = b := by
  cases a <;> cases b <;> simp_all +decide

end FactoryMode

end BombMission
