import BombMission.CommandLine.Help
import BombMission.CommandLine.Options
import BombMission.Files.Load
import BombMission.Mission.Written
import BombMission.Random.ChaCha
import BombMission.Report.Listing

/-!
# Running the program

A run reads the command line, loads the snapshots it names, and then lists what pools may name or
compiles a mission. It ends with an exit code and what goes to the two output streams: zero for
success, one for a mission with problems or a snapshot that did not load, two for a command line
that makes no sense or a missing mission.
-/

namespace BombMission.CommandLine

structure Outcome where
  code : UInt32 := 0
  output : String := ""
  errors : String := ""
  deriving DecidableEq, Repr

def line (text : String) : String :=
  text ++ "\n"

namespace Outcome

def printed (text : String) : Outcome :=
  { output := line text }

def failed (code : UInt32) (message : String) : Outcome :=
  { code, errors := line message }

def reportText (rows : List String) : String :=
  String.join (rows.map line)

/-- The end of a run that compiled a mission, with a report. -/
def ofReport (colored : Bool) (compilation : Compilation) (timings : Timings) : Outcome :=
  { code := match compilation.result with
      | .ok _ => 0
      | .error _ => 1
    output := reportText (Report.compilation colored compilation timings) }

/-- The end of a run that compiled a mission, with the mission as JSON. -/
def ofResult : Except CompileError Mission → Outcome
  | .ok mission => printed mission.toJson.indented
  | .error error => failed 1 (error.summary CompileError.shownProblems)

end Outcome

variable {m : Type → Type} [Monad m]

def Options.loadContext (options : Options) (host : Host m) :
    m (Except LoadProblem Context) := do
  let catalog ← match options.modules with
    | none => pure (.ok .vanilla)
    | some path => Catalog.load host path
  match catalog with
  | .error problem => return .error problem
  | .ok catalog =>
    let profiles ← match options.profiles with
      | none => pure (.ok .empty)
      | some path => ProfileRegistry.loadListed host path
    match profiles with
    | .error problem => return .error problem
    | .ok profiles => return .ok { catalog, profiles, limits := options.limits }

/-- Compiles a mission step by step and takes the time. -/
def compileTimed {σ : Type} [RandomSource σ] (host : Host m) (ctx : Context) (text : String)
    (source : σ) : m (Compilation × Timings) := do
  let started ← host.clock
  let tokens := scanTokens text
  let scanned ← host.clock
  let (outline, source) := Outline.ofTokens ctx (tokens.map Token.kind) source
  let read ← host.clock
  let (result, _) := outline.assemble ctx.limits source
  let assembled ← host.clock
  return ({ text, tokens, result },
    { total := ⟨assembled - started⟩
      scanning := ⟨scanned - started⟩
      reading := ⟨read - scanned⟩
      assembly := ⟨assembled - read⟩ })

def Options.compile (options : Options) (host : Host m) (ctx : Context) (text : String) :
    m Outcome := do
  if Text.isBlankText text then
    return .failed 2 (line "error: no input provided" ++ line "" ++ help)
  let seed ← match options.seed with
    | some seed => pure seed
    | none => host.freshSeed
  let (compilation, timings) ← compileTimed host ctx text (ChaCha.ofSeed seed)
  if options.json then return .ofResult compilation.result
  else return .ofReport options.colored compilation timings

def Options.run (options : Options) (host : Host m) : m Outcome := do
  match ← options.loadContext host with
  | .error problem => return .failed 1 ("error: " ++ problem.message)
  | .ok ctx =>
    if options.list then
      return { output := Outcome.reportText (Report.listing options.colored ctx) }
    else
      match options.input with
      | some text => options.compile host ctx text
      | none =>
        match ← host.readInput with
        | .error problem =>
          return .failed 2 ("error: failed to read stdin: " ++ problem.message)
        | .ok text => options.compile host ctx text

def run (host : Host m) (arguments : List String) : m Outcome := do
  match Invocation.read (← host.isTerminal) arguments with
  | .error problem => return .failed 2 problem.message
  | .ok .help => return .printed help
  | .ok .version => return .printed version
  | .ok (.run options) => options.run host

end BombMission.CommandLine
