import BombMission.Pool.Reference
import BombMission.Random.Sample

/-!
# Resolving pools

A plain pool becomes one descriptor for everything it refers to. A unique pool becomes one
descriptor for each of its places, with one module drawn without repetition, so no module stands in
two of them.
-/

namespace BombMission

/-- What the text of one pool comes to. -/
structure Resolution where
  pools : List Pool
  hasSolvable : Bool
  /-- The profile the pool refers to, when it exists. -/
  profile : Option String
  problems : List Diagnostic
  deriving DecidableEq, Repr

/-- The modules without those whose id came before. -/
def firstOfEachId : List ModuleRef → List ModuleRef
  | [] => []
  | m :: modules => m :: (firstOfEachId modules).filter fun other => other.id ≠ m.id

/-- The problem with drawing so many distinct modules from so many. -/
def shortfall (count found : Nat) : List Diagnostic :=
  if found = 0 then [.noValidModules]
  else if found < count then [.uniqueShortfall count found]
  else []

def drawnPool (m : ModuleRef) : Pool :=
  { count := 1, unique := true, content := .explicit [m] }

/-- Resolves the body of a pool with a number of places. -/
def resolvePool {σ : Type} [RandomSource σ] (ctx : Context) (body : String) (count : Nat)
    (unique : Bool) (source : σ) : Resolution × σ :=
  let (reference, problems) := Reference.read ctx body
  let hasSolvable := reference.hasSolvable
  let profile := reference.profileName ctx.profiles
  -- the flags speak of the reference, whatever is drawn from it
  if unique then
    let candidates := firstOfEachId (reference.modules ctx.catalog)
    let (drawn, source) := sample candidates count source
    ({ pools := drawn.map drawnPool, hasSolvable, profile
       problems := problems ++ shortfall count candidates.length }, source)
  else
    ({ pools := [{ count, content := reference.content }], hasSolvable, profile, problems }, source)

theorem nodup_firstOfEachId (modules : List ModuleRef) :
    ((firstOfEachId modules).map ModuleRef.id).Nodup := by
  induction modules with
  | nil => exact .nil
  | cons m modules ih =>
    simp only [firstOfEachId, List.map_cons, List.nodup_cons, List.mem_map, List.mem_filter]
    refine ⟨?_, ih.sublist (List.filter_sublist.map _)⟩
    rintro ⟨other, ⟨-, differs⟩, same⟩
    simp [same] at differs

end BombMission
