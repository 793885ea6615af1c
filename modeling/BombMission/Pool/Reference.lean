import BombMission.Bomb
import BombMission.Context
import BombMission.Diagnostic
import BombMission.Text.AsciiCase
import BombMission.Text.Split
import BombMission.Token.PoolBody

/-!
# What pools refer to

The body of a pool is the keyword of an aggregate, the keyword of a profile with a name behind it,
or a list of module ids. `Reference.read` looks it up; bad ids of a list are reported one by one,
and the others still count.
-/

namespace BombMission

open Text

inductive Reference where
  | aggregate (aggregate : Aggregate)
  | profile (name : String) (kind : ModuleKind) (modules : List ModuleRef)
  | explicit (modules : List ModuleRef)
  deriving DecidableEq, Repr

namespace Reference

/-- Whether a bomb gets a solvable module from a pool with this reference. -/
def hasSolvable : Reference → Bool
  | aggregate a => a.kind = .solvable
  | profile _ kind modules => kind = .solvable && !modules.isEmpty
  | explicit modules => modules.any ModuleRef.isSolvable

/-- The content of a pool that draws from the whole reference. -/
def content : Reference → PoolContent
  | aggregate a => .aggregate a
  | profile name kind modules => .profile name kind modules
  | explicit modules => .explicit modules

def modules (catalog : Catalog) : Reference → List ModuleRef
  | aggregate a => catalog.expand a
  | profile _ _ modules => modules
  | explicit modules => modules

def profileName (profiles : ProfileRegistry) : Reference → Option String
  | profile name _ _ => if (profiles.get? name).isSome then some name else none
  | _ => none

def readProfile (ctx : Context) (kind : ModuleKind) (name : String) :
    Reference × List Diagnostic :=
  match ctx.profiles.get? name with
  | none => (.profile name kind [], [.unknownProfile name])
  | some found =>
    let modules := found.enabledModules ctx.catalog kind
    (.profile name kind modules, if modules.isEmpty then [.emptyProfile name] else [])

def idsOf (body : String) : List String :=
  (splitOn isSeparator body.toList).map fun piece => String.ofList (trimBlanks piece)

def knownModule (catalog : Catalog) (id : String) : Option ModuleRef :=
  match catalog.classify id with
  | .known moduleClass => some { id, moduleClass }
  | _ => none

def idProblem (catalog : Catalog) (id : String) : Option Diagnostic :=
  match catalog.classify id with
  | .known _ => none
  | .disabled => some (.disabledModule id)
  | .unknown => some (.unknownModule id)

def readIds (catalog : Catalog) (ids : List String) : Reference × List Diagnostic :=
  (.explicit (ids.filterMap (knownModule catalog)), ids.filterMap (idProblem catalog))

/-- The name behind the keyword of a profile. -/
def profileBody? (kind : ModuleKind) (body : String) : Option String :=
  (dropWordIgnoringCase (profileKeyword kind).toList body.toList).map String.ofList

def read (ctx : Context) (body : String) : Reference × List Diagnostic :=
  match Aggregate.ofKeyword? body with
  | some a => (.aggregate a, [])
  | none =>
    match profileBody? .solvable body with
    | some name => readProfile ctx .solvable name
    | none =>
      match profileBody? .needy body with
      | some name => readProfile ctx .needy name
      | none => readIds ctx.catalog (idsOf body)

end Reference

end BombMission
