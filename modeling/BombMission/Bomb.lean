import BombMission.Module.Aggregate

/-!
# Bombs

A bomb is a time limit, a strike limit, a few optional settings and a list of pools. A pool fills a
number of places on the bomb from its content: an aggregate, the modules a profile leaves enabled,
or a list of modules. Three further contents are *markers*: they carry no modules but tell the host
about further bombs and about the factory, and stand only behind the pools of a mission's first
bomb.
-/

namespace BombMission

/-- What the places of a pool are filled from. -/
inductive PoolContent where
  | aggregate (aggregate : Aggregate)
  | profile (name : String) (kind : ModuleKind) (modules : List ModuleRef)
  | explicit (modules : List ModuleRef)
  /-- Marker: the pool counts the bombs of the mission beyond the first, as far as a word goes. -/
  | extraBombs
  /-- Marker: the written form of the bomb with this index. -/
  | serializedBomb (index : Nat) (config : String)
  /-- Marker: the factory runs in the mode whose index the pool counts. -/
  | factoryMode
  deriving DecidableEq, Repr

/-- Whether a content speaks to the host instead of holding modules. -/
def PoolContent.isMarker : PoolContent → Bool
  | extraBombs | serializedBomb .. | factoryMode => true
  | _ => false

/-- A number of places and what they are filled from. -/
structure Pool where
  count : Nat
  unique : Bool := false
  content : PoolContent
  deriving DecidableEq, Repr

/-- A finished bomb. Times are in seconds. -/
structure Bomb where
  timeLimit : Nat
  strikeLimit : Nat
  needyActivationTime : Option Nat
  widgetCount : Option Nat
  frontFaceOnly : Bool
  pools : List Pool
  deriving DecidableEq, Repr

def moduleCount (pools : List Pool) : Nat :=
  pools.foldr (fun pool total => pool.count + total) 0

def Bomb.moduleCount (bomb : Bomb) : Nat :=
  BombMission.moduleCount bomb.pools

@[simp] theorem moduleCount_nil : moduleCount [] = 0 := rfl

@[simp] theorem moduleCount_cons (pool : Pool) (pools : List Pool) :
    moduleCount (pool :: pools) = pool.count + moduleCount pools := rfl

@[simp] theorem moduleCount_append (left right : List Pool) :
    moduleCount (left ++ right) = moduleCount left + moduleCount right := by
  induction left with
  | nil => simp
  | cons pool left ih => simp [ih, Nat.add_assoc]

end BombMission
