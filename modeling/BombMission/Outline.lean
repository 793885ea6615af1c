import BombMission.Outline.Progress

/-!
# The outline of a mission

The outline is everything the tokens of a mission say: the bombs in order, the settings of the
mission and the problems found. Whether a mission can be made of it is decided afterwards.
-/

namespace BombMission

/-- What the tokens of a mission say. -/
structure Outline where
  bombs : List PlannedBomb
  pacingEventsEnabled : Bool
  factoryMode : Option FactoryMode
  ruleSeed : Option RuleSeed
  diagnostics : List Diagnostic
  deriving DecidableEq, Repr

/-- What is known once all tokens are taken in. -/
def Progress.outline {σ : Type} (progress : Progress σ) : Outline :=
  { bombs := progress.bombs
    pacingEventsEnabled := progress.pacingEventsEnabled
    factoryMode := progress.factoryMode
    ruleSeed := progress.ruleSeed
    diagnostics := progress.diagnostics }

/-- The progress after the tokens of a whole mission. -/
def readTokens {σ : Type} [RandomSource σ] (ctx : Context) (kinds : List TokenKind) (source : σ) :
    Progress σ :=
  (Progress.run ctx { source } kinds).finish ctx.limits

/-- The outline of a mission, and the source after the draws of its pools. -/
def Outline.ofTokens {σ : Type} [RandomSource σ] (ctx : Context) (kinds : List TokenKind)
    (source : σ) : Outline × σ :=
  let progress := readTokens ctx kinds source
  (progress.outline, progress.source)

end BombMission
