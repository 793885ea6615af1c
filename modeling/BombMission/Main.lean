import BombMission.CommandLine.Run

/-!
# The program

The command line of the machine the program runs on.
-/

namespace BombMission

def readProblemOf : IO.Error → ReadProblem
  | .noFileOrDirectory .. => .notFound
  | .inappropriateType .. => .notDirectory
  | problem => .failed (toString problem)

partial def readBytes (stream : IO.FS.Stream) (read : ByteArray) : IO ByteArray := do
  let bytes ← stream.read 65536
  if bytes.isEmpty then return read else readBytes stream (read ++ bytes)

def readText (bytes : IO ByteArray) : IO (Except ReadProblem String) := do
  match ← bytes.toBaseIO with
  | .error problem => return .error (readProblemOf problem)
  | .ok bytes => return textOfBytes bytes

def machine : Host IO :=
  { readFile := fun path => do
      if ← (System.mkFilePath [path]).isDir then return .error .isDirectory
      readText (IO.FS.readBinFile path)
    listDirectory := fun path => do
      match ← (System.mkFilePath [path]).readDir.toBaseIO with
      | .error _ => return none
      | .ok entries => return some (entries.toList.map fun entry => entry.fileName.toUTF8)
    listingProblem := fun path => do
      let directory := System.mkFilePath [path]
      if ← directory.isDir then
        match ← directory.readDir.toBaseIO with
        | .error problem => return some (readProblemOf problem)
        | .ok _ => return none
      else return none
    readInput := do
      let input ← IO.getStdin
      readText (readBytes input .empty)
    freshSeed := do
      let bytes ← IO.getRandomBytes 8
      return bytes.toList.foldl (fun seed byte => 256 * seed + byte.toNat) 0
    clock := IO.monoNanosNow
    isTerminal := do
      let output ← IO.getStdout
      output.isTty }

end BombMission

def main (arguments : List String) : IO UInt32 := do
  let outcome ← BombMission.CommandLine.run BombMission.machine arguments
  IO.print outcome.output
  IO.eprint outcome.errors
  return outcome.code
