import BombMission.Files.Host
import BombMission.Text.Split

/-!
# File trees

A file tree is a host whose files are all known beforehand. Paths start at the root of the tree;
every step of one but the last has to lead to a directory, a lone dot stays where it is, and two
dots lead back.
-/

namespace BombMission

/-- What stands at a place of a file tree. -/
inductive FileNode where
  | file (bytes : ByteArray)
  | directory

/-- A file tree: the names that lead from the root to a place, and what stands there. The
directories on the way to a place need not be listed, and of two entries for a place the first
counts. -/
structure FileTree where
  places : List (List String × FileNode) := []

namespace FileTree

def stepsOf (path : String) : List String :=
  (Text.splitOn (· == '/') path.toList).map String.ofList

def isIdle (step : String) : Bool :=
  step = "" || step = "."

def next (place : List String) (step : String) : List String :=
  if isIdle step then place
  else if step = ".." then place.dropLast
  else place ++ [step]

def add (tree : FileTree) (path : String) (node : FileNode) : FileTree :=
  ⟨((stepsOf path).foldl next [], node) :: tree.places⟩

def hasBelow (tree : FileTree) (place : List String) : Bool :=
  tree.places.any fun entry => place.isPrefixOf entry.1 && place ≠ entry.1

/-- What stands at a place. The root is a directory. -/
def node? (tree : FileTree) (place : List String) : Option FileNode :=
  match tree.places.find? fun entry => entry.1 = place with
  | some entry => some entry.2
  | none => if place = [] ∨ tree.hasBelow place then some .directory else none

def walk (tree : FileTree) (place : List String) (step : String) :
    Except ReadProblem (List String) :=
  match tree.node? place with
  | none => .error .notFound
  | some (.file _) => .error .notDirectory
  | some .directory => .ok (next place step)

def place (tree : FileTree) (path : String) : Except ReadProblem (List String) :=
  if path = "" then .error .notFound
  else (stepsOf path).foldlM tree.walk []

/-- What stands at the end of a path. -/
def find (tree : FileTree) (path : String) : Except ReadProblem FileNode := do
  let place ← tree.place path
  match tree.node? place with
  | some node => .ok node
  | none => .error .notFound

def readFile (tree : FileTree) (path : String) : Except ReadProblem String := do
  match ← tree.find path with
  | .directory => .error .isDirectory
  | .file bytes => textOfBytes bytes

/-- The name of the next step from a place towards another one. -/
def stepTowards (place other : List String) : Option String :=
  if place.isPrefixOf other then other[place.length]? else none

def listDirectory (tree : FileTree) (path : String) : Option (List String) :=
  match tree.place path with
  | .error _ => none
  | .ok place =>
    match tree.node? place with
    | some .directory =>
      some (tree.places.filterMap fun entry => stepTowards place entry.1).eraseDups
    | _ => none

/-- The host with these files and this standard input, whose seed is zero and whose clock stands
still. -/
def host (tree : FileTree) (input : ByteArray) : Host Id :=
  { readFile := tree.readFile
    listDirectory := fun path => (tree.listDirectory path).map (List.map String.toUTF8)
    listingProblem := fun _ => none
    readInput := textOfBytes input
    freshSeed := (0 : Nat)
    clock := (0 : Nat)
    isTerminal := false }

end FileTree

end BombMission
