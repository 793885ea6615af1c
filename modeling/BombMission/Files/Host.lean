/-!
# The files of a host

Snapshots are read from files. `Host` is all that the program needs of the computer it runs on;
reading may fail for a few reasons, each with a wording of its own.
-/

namespace BombMission

inductive ReadProblem where
  | notFound
  /-- A step of the path leads through something that is no directory. -/
  | notDirectory
  | isDirectory
  /-- The bytes are not UTF-8. -/
  | notText
  /-- Any other reason, in the words of the host. -/
  | failed (reason : String)
  deriving DecidableEq, Repr

def ReadProblem.message : ReadProblem → String
  | notFound => "No such file or directory (os error 2)"
  | notDirectory => "Not a directory (os error 20)"
  | isDirectory => "Is a directory (os error 21)"
  | notText => "stream did not contain valid UTF-8"
  | failed reason => reason

def textOfBytes (bytes : ByteArray) : Except ReadProblem String :=
  match String.fromUTF8? bytes with
  | some text => .ok text
  | none => .error .notText

/-- What the program needs of the computer it runs on. -/
structure Host (m : Type → Type) where
  readFile : String → m (Except ReadProblem String)
  /-- The names in the directory at a path, when there is one. They need not be text. -/
  listDirectory : String → m (Option (List ByteArray))
  /-- Why the directory at a path cannot be listed, when there is one that cannot. -/
  listingProblem : String → m (Option ReadProblem)
  readInput : m (Except ReadProblem String)
  freshSeed : m Nat
  /-- Nanoseconds on a clock that only moves on. -/
  clock : m Nat
  /-- Whether the output is read by a person. -/
  isTerminal : m Bool

end BombMission
