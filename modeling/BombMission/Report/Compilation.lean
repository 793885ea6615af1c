import BombMission.Clock
import BombMission.Compile
import BombMission.Report.Duration
import BombMission.Report.Palette
import BombMission.Text.Split
import BombMission.Token.Preview

/-!
# Reports on compilations

The report on a compilation has a row for each token, then the bombs of the mission or the first
problems, and the time it all took.
-/

namespace BombMission

structure Timings where
  total : Duration
  scanning : Duration
  reading : Duration
  assembly : Duration
  deriving DecidableEq, Repr

namespace Report

def sectionTitle (colored : Bool) (title : String) : List String :=
  ["", paint colored .gray ("━━━ " ++ title ++ " ━━━")]

def kindWidth : Nat := 8

/-- The row for a token: its place, kind, text and meaning. -/
def tokenRow (colored : Bool) (token : Token) : String :=
  let place := toString token.start ++ ".." ++ toString token.stop
  "  " ++ paint colored .yellow place ++
    " " ++ paint colored .blue (padTo kindWidth token.kind.name) ++
    " " ++ paint colored .bold token.spelling ++
    " " ++ paint colored .dim token.preview

def tokenRows (colored : Bool) (tokens : List Token) : List String :=
  if tokens.isEmpty then [paint colored .dim "  No tokens produced"]
  else tokens.map (tokenRow colored)

def describe : PoolContent → String
  | .aggregate a => a.description
  | .profile name kind modules =>
    let kindText := match kind with
      | .solvable => ""
      | .needy => "needy "
    "[" ++ kindText ++ "profile " ++ name ++ ": " ++ toString modules.length ++ " module(s)]"
  | .explicit modules => ", ".intercalate (modules.map ModuleRef.id)
  | .extraBombs => "[extra bombs]"
  | .serializedBomb index _ => "[bomb " ++ toString (index + 1) ++ " config]"
  | .factoryMode => "[factory mode]"

def poolRow (colored : Bool) (pool : Pool) : String :=
  "      " ++ toString pool.count ++ "x " ++ describe pool.content ++
    paint colored .dim (if pool.unique then " (unique)" else "")

/-- The row for the profiles of a bomb, when there are some. -/
def profileRows (colored : Bool) (names : List String) : List String :=
  if names.isEmpty then []
  else
    ["      " ++ paint colored .dim "profiles:" ++ " " ++
      paint colored .cyan (", ".intercalate names)]

def bombRows (colored : Bool) (place : Nat) (bomb : Bomb) (profiles : List String) :
    List String :=
  ["  " ++ paint colored .gray ("[bomb " ++ toString (place + 1) ++ "]") ++
      " " ++ paint colored .green (Clock.render bomb.timeLimit) ++
      " " ++ paint colored .green (toString bomb.strikeLimit ++ " strike(s)") ++
      " " ++ paint colored .dim "│" ++
      " " ++ paint colored .yellow (toString bomb.moduleCount ++ " module(s)")] ++
    bomb.pools.map (poolRow colored) ++ profileRows colored profiles

def missionRow (colored : Bool) (mission : Mission) : String :=
  let pacing := if mission.pacingEventsEnabled then "on" else "off"
  let factory := match mission.factoryMode with
    | none => "off"
    | some mode => mode.displayName
  let seed := match mission.ruleSeed with
    | none => "default"
    | some setting => toString setting.value
  "  " ++ paint colored .bold mission.displayName ++ "  │  pacing " ++ pacing ++
    "  │  factory " ++ factory ++ "  │  rule seed " ++ seed

def missionRows (colored : Bool) (mission : Mission) : List String :=
  missionRow colored mission ::
    (mission.bombs.mapIdx fun place bomb =>
      bombRows colored place bomb (mission.moduleProfiles[place]?.getD [])).flatten

/-- The rows for problems: the first of them and how many more there are. -/
def problemRows (colored : Bool) (error : CompileError) : List String :=
  (Text.lines (error.summary CompileError.shownProblems)).map fun line =>
    "  " ++ paint colored .red "✗" ++ " " ++ line

def resultRows (colored : Bool) : Except CompileError Mission → List String
  | .ok mission => sectionTitle colored "Mission" ++ missionRows colored mission
  | .error error => sectionTitle colored "Problems" ++ problemRows colored error

def timingRow (colored : Bool) (timings : Timings) : String :=
  "  Total: " ++ paint colored .green timings.total.render ++
    "  │  Lex: " ++ paint colored .cyan timings.scanning.render ++
    "  │  Parse: " ++ paint colored .cyan timings.reading.render ++
    "  │  Assemble: " ++ paint colored .dim timings.assembly.render

def heading (colored : Bool) (text : String) : String :=
  paint colored .bold (paint colored .cyan ("⚙  Compiling: \"" ++ Text.trim text ++ "\""))

def compilation (colored : Bool) (compilation : Compilation) (timings : Timings) : List String :=
  ["", heading colored compilation.text] ++
    sectionTitle colored "Tokens" ++ tokenRows colored compilation.tokens ++
    resultRows colored compilation.result ++
    sectionTitle colored "Timing" ++ [timingRow colored timings, ""]

end Report

end BombMission
