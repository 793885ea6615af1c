import BombMission.Mission.Assembly
import BombMission.Token.Scan

/-!
# Compiling mission text

`compile` turns the text of a mission into the mission, or into every problem of the text.
`compileVerbose` keeps the tokens as well. Chance enters through the random source alone: equal
texts, contexts and sources give equal results.
-/

namespace BombMission

variable {σ : Type} [RandomSource σ]

/-- Compiles the tokens of a mission. Also gives the source after all draws. -/
def compileTokens (ctx : Context) (tokens : List Token) (source : σ) :
    Except CompileError Mission × σ :=
  let (outline, source) := Outline.ofTokens ctx (tokens.map Token.kind) source
  outline.assemble ctx.limits source

def compile (ctx : Context) (text : String) (source : σ) : Except CompileError Mission × σ :=
  compileTokens ctx (scanTokens text) source

structure Compilation where
  text : String
  tokens : List Token
  result : Except CompileError Mission

def compileVerbose (ctx : Context) (text : String) (source : σ) : Compilation × σ :=
  let tokens := scanTokens text
  let (result, source) := compileTokens ctx tokens source
  ({ text, tokens, result }, source)

theorem result_compileVerbose (ctx : Context) (text : String) (source : σ) :
    (compileVerbose ctx text source).1.result = (compile ctx text source).1 := rfl

end BombMission
