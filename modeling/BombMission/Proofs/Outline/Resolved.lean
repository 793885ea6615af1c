import BombMission.Proofs.Outline.Step

/-!
# Tokens with what their pools come to

Pools draw from the random source one after the other, so what a pool comes to depends on the pools
before it. `resolveTokens` settles this once for a whole text: it keeps the tokens and puts to each
pool its resolution. The shape of a text can then be said of a list of resolved tokens without a word
about the source.
-/

namespace BombMission

/-- A token of a mission text, a pool together with what it comes to. -/
inductive ResolvedToken where
  /-- A time, a strike limit or a setting written as a keyword. -/
  | setting (kind : TokenKind) (isSetting : kind.isSetting = true)
  | pool (text : PoolText) (resolution : Resolution)
  | groupOpen (copies : Option Nat)
  | groupClose
  deriving DecidableEq, Repr

variable {σ : Type} [RandomSource σ]

/-- Resolves one token. Only a pool draws from the source. -/
def resolveToken (ctx : Context) (kind : TokenKind) (source : σ) : ResolvedToken × σ :=
  match kind with
  | .pool pool => (.pool pool (pool.resolve ctx source).1, (pool.resolve ctx source).2)
  | .groupOpen copies => (.groupOpen copies, source)
  | .groupClose => (.groupClose, source)
  | .time seconds => (.setting (.time seconds) rfl, source)
  | .strikes limit => (.setting (.strikes limit) rfl, source)
  | .setting name value => (.setting (.setting name value) rfl, source)

/-- Resolves tokens in order. Also gives the source after the draws of all pools. -/
def resolveTokens (ctx : Context) : List TokenKind → σ → List ResolvedToken × σ
  | [], source => ([], source)
  | kind :: kinds, source =>
    let (token, source) := resolveToken ctx kind source
    let (tokens, source) := resolveTokens ctx kinds source
    (token :: tokens, source)

theorem resolveTokens_append (ctx : Context) (first second : List TokenKind) (source : σ) :
    resolveTokens ctx (first ++ second) source =
      ((resolveTokens ctx first source).1 ++
        (resolveTokens ctx second (resolveTokens ctx first source).2).1,
       (resolveTokens ctx second (resolveTokens ctx first source).2).2) := by
  induction first generalizing source with
  | nil => rfl
  | cons kind first ih => simp [resolveTokens, ih]

theorem resolveTokens_concat (ctx : Context) (kinds : List TokenKind) (kind : TokenKind)
    (source : σ) :
    resolveTokens ctx (kinds ++ [kind]) source =
      ((resolveTokens ctx kinds source).1 ++
        [(resolveToken ctx kind (resolveTokens ctx kinds source).2).1],
       (resolveToken ctx kind (resolveTokens ctx kinds source).2).2) := by
  rw [resolveTokens_append]
  rfl

namespace ResolvedToken

/-- The token as it is written. -/
def kind : ResolvedToken → TokenKind
  | setting kind _ => kind
  | pool text _ => .pool text
  | groupOpen copies => .groupOpen copies
  | groupClose => .groupClose

/-- The pools that the token puts on a bomb. -/
def pools : ResolvedToken → List Pool
  | pool _ resolution => resolution.pools
  | _ => []

/-- The profile that the token refers to, when it exists. -/
def profile : ResolvedToken → Option String
  | pool _ resolution => resolution.profile
  | _ => none

/-- Whether the token is a pool that counts as one with a solvable module. -/
def hasSolvable : ResolvedToken → Bool
  | pool _ resolution => resolution.hasSolvable
  | _ => false

end ResolvedToken

theorem map_kind_resolveTokens (ctx : Context) (kinds : List TokenKind) (source : σ) :
    (resolveTokens ctx kinds source).1.map ResolvedToken.kind = kinds := by
  induction kinds generalizing source with
  | nil => rfl
  | cons kind kinds ih =>
    simp only [resolveTokens, List.map_cons, ih]
    cases kind <;> rfl

theorem exists_source_of_mem_resolveTokens {ctx : Context} {kinds : List TokenKind} {source : σ}
    {pool : PoolText} {resolution : Resolution}
    (member : .pool pool resolution ∈ (resolveTokens ctx kinds source).1) :
    ∃ before : σ, resolution = (pool.resolve ctx before).1 := by
  induction kinds generalizing source with
  | nil => cases member
  | cons kind kinds ih =>
    rcases List.mem_cons.1 member with first | later
    · cases kind with
      | pool other =>
        obtain ⟨rfl, rfl⟩ := ResolvedToken.pool.inj first
        exact ⟨source, rfl⟩
      | time | strikes | setting | groupOpen | groupClose => cases first
    · exact ih later

/-- Settings and pools in any order, which is what stands on one bomb. -/
def IsBody (tokens : List ResolvedToken) : Prop :=
  ∀ token ∈ tokens, (∃ kind isSetting, token = .setting kind isSetting) ∨
    ∃ text resolution, token = .pool text resolution

def IsSettings (tokens : List ResolvedToken) : Prop :=
  ∀ token ∈ tokens, ∃ kind isSetting, token = .setting kind isSetting

/-- The text of a bomb outside groups: settings, a pool, and then settings and pools. -/
def IsSingle (tokens : List ResolvedToken) : Prop :=
  ∃ settings text resolution rest, tokens = settings ++ .pool text resolution :: rest ∧
    IsSettings settings ∧ IsBody rest

/-- The pools of some tokens in order. -/
def poolsOf (tokens : List ResolvedToken) : List Pool :=
  tokens.flatMap ResolvedToken.pools

/-- The profiles that some tokens refer to, in order and as often as they do. -/
def profilesOf (tokens : List ResolvedToken) : List String :=
  tokens.filterMap ResolvedToken.profile

end BombMission
