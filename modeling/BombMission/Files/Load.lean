import BombMission.Catalog.Snapshot
import BombMission.Files.Host
import BombMission.IdMap
import BombMission.Profile.Snapshot
import BombMission.Text.Split

/-!
# Loading snapshots

A catalog is loaded from one file. The profiles of a directory are loaded from its files with the
extension `json`, each under the name of its file without the extension; a file that is not a
profile is passed over, so it never hides the others, and so is a name that is not text. A directory
that does not exist holds no profiles, and one that cannot be listed does not load.
-/

namespace BombMission

inductive LoadProblem where
  | unreadable (path : String) (cause : ReadProblem)
  | invalid (path : String) (problem : Json.Problem)
  | missingDisabledList (path : String)

def LoadProblem.message : LoadProblem → String
  | unreadable path cause => "io error reading " ++ path ++ ": " ++ cause.message
  | invalid path problem => "invalid json in " ++ path ++ ": " ++ problem.message
  | missingDisabledList path => "profile " ++ path ++ " has no disabled list"

/-- The catalog in a file that was read, or not, from a path. -/
def Catalog.ofFile (path : String) (content : Except ReadProblem String) :
    Except LoadProblem Catalog :=
  match content with
  | .error cause => .error (.unreadable path cause)
  | .ok text =>
    match Catalog.read text with
    | .error problem => .error (.invalid path problem)
    | .ok catalog => .ok catalog

def Profile.ofText (path text : String) : Except LoadProblem Profile :=
  match ProfileSnapshot.read text with
  | .error problem => .error (.invalid path problem)
  | .ok snapshot =>
    match snapshot.profile? with
    | none => .error (.missingDisabledList path)
    | some found => .ok found

/-- The profile in a file that was read, or not, from a path. -/
def Profile.ofFile (path : String) (content : Except ReadProblem String) :
    Except LoadProblem Profile :=
  match content with
  | .error cause => .error (.unreadable path cause)
  | .ok text => Profile.ofText path text

def profileExtension : String := "json"

def namePieces (name : String) : List String :=
  (Text.splitOn (· == '.') name.toList).map String.ofList

/-- The name of the profile in a file with this name, when its extension is that of profiles. The
extension is behind the last dot, unless that dot is the first character. -/
def profileName? (fileName : String) : Option String :=
  let pieces := namePieces fileName
  let stem := ".".intercalate pieces.dropLast
  if pieces.getLast? = some profileExtension ∧ stem ≠ "" then some stem else none

/-- A file of a directory, by its name, and its text when it could be read. -/
abbrev NamedFile := String × Except ReadProblem String

/-- Adds the profile of a file to a registry, when there is one. -/
def ProfileRegistry.addFile (registry : ProfileRegistry) (file : NamedFile) : ProfileRegistry :=
  match profileName? file.1, Profile.ofFile file.1 file.2 with
  | some name, .ok found => registry.insert name found
  | _, _ => registry

def ProfileRegistry.ofFiles (files : List NamedFile) : ProfileRegistry :=
  files.foldl addFile .empty

variable {m : Type → Type} [Monad m]

def Catalog.load (host : Host m) (path : String) : m (Except LoadProblem Catalog) := do
  let content ← host.readFile path
  return Catalog.ofFile path content

def pathIn (directory name : String) : String :=
  if directory.toList.getLast? = some '/' then directory ++ name else directory ++ "/" ++ name

/-- The files of a directory that may hold profiles, in order of their names. -/
def profileFiles (names : List ByteArray) : List String :=
  ((names.filterMap String.fromUTF8?).filter fun name => (profileName? name).isSome).mergeSort
    fun a b => a ≤ b

def ProfileRegistry.load (host : Host m) (path : String) : m ProfileRegistry := do
  match ← host.listDirectory path with
  | none => return .empty
  | some names =>
    let files ← (profileFiles names).mapM fun name => do
      return (name, ← host.readFile (pathIn path name))
    return ProfileRegistry.ofFiles files

/-- Loads the profiles of a directory, when it can be listed. -/
def ProfileRegistry.loadListed (host : Host m) (path : String) :
    m (Except LoadProblem ProfileRegistry) := do
  match ← host.listingProblem path with
  | some cause => return .error (.unreadable path cause)
  | none =>
    let profiles ← ProfileRegistry.load host path
    return .ok profiles

end BombMission
