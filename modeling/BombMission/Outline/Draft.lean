import BombMission.Outline.Settings
import BombMission.Pool.Resolution

/-!
# Bombs while a mission is read

A bomb is open from its first token to the bracket that closes its group, or to the end of the text
when it stands outside groups. Its limits follow from the number of its places unless they are
given.
-/

namespace BombMission

open Text

structure BombDraft where
  settings : Settings
  pools : List Pool := []
  hasSolvable : Bool := false
  profiles : List String := []
  deriving DecidableEq, Repr

/-- A finished bomb and the profiles its pools refer to. -/
structure PlannedBomb where
  bomb : Bomb
  profiles : List String
  deriving DecidableEq, Repr

/-- The time limit of a bomb with so many places: two minutes for each, as far as a word goes. -/
def defaultTimeLimit (places : Nat) : Nat :=
  min (120 * places) maxWord

/-- The strike limit of a bomb with so many places: three, or one for every twelve of them. -/
def defaultStrikeLimit (places : Nat) : Nat :=
  min (max 3 (places / 12)) maxWord

namespace BombDraft

def places (draft : BombDraft) : Nat :=
  moduleCount draft.pools

def add (draft : BombDraft) (resolution : Resolution) : BombDraft :=
  { draft with
    pools := draft.pools ++ resolution.pools
    hasSolvable := draft.hasSolvable || resolution.hasSolvable
    profiles := draft.profiles ++ resolution.profile.toList }

/-- The problems of the bomb as a whole. Bombs of groups are numbered. -/
def problems (draft : BombDraft) (limits : HostLimits) (number : Option Nat) :
    List Diagnostic :=
  (if draft.hasSolvable then [] else [.noSolvableModules number]) ++
  (if limits.maxModules < draft.places then
    [.tooManyModules draft.places limits.maxModules number] else [])

/-- The finished bomb, with the settings for all bombs where it has none of its own. -/
def plan (draft : BombDraft) (defaults : Settings) : PlannedBomb :=
  let value := draft.settings.valueOr defaults
  { bomb :=
      { timeLimit := (value .time).getD (defaultTimeLimit draft.places)
        strikeLimit := (value .strikes).getD (defaultStrikeLimit draft.places)
        needyActivationTime := value .needyActivationTime
        widgetCount := value .widgets
        frontFaceOnly := draft.settings.frontOnly
        pools := draft.pools }
    profiles := draft.profiles }

end BombDraft

/-- What is open at some place of the text. -/
inductive Scope where
  /-- No bomb: settings are for all bombs. -/
  | mission
  | single (draft : BombDraft)
  /-- A group, which makes so many copies of its bomb. -/
  | group (draft : BombDraft) (copies : Nat)
  deriving DecidableEq, Repr

namespace Scope

def isGroup : Scope → Bool
  | group .. => true
  | _ => false

def isMission : Scope → Bool
  | mission => true
  | _ => false

def draft? : Scope → Option BombDraft
  | mission => none
  | single draft => some draft
  | group draft _ => some draft

def mapDraft (change : BombDraft → BombDraft) : Scope → Scope
  | mission => mission
  | single draft => single (change draft)
  | group draft copies => group (change draft) copies

end Scope

end BombMission
