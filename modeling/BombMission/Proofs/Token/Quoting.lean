import BombMission.Proofs.Token.Recognition
import Mathlib.Data.List.Induction

/-!
# Quoted ids

Quotes keep an id together. Whatever its characters say elsewhere, a blank, a bracket, a comment, a
count, a time or the name of a setting, between quotes they belong to the id. So a count and a list of
quoted ids are one pool, as long as no id has a quote itself.

## Main results

* `bodyRun_quotedList`: quoted ids are a body.
* `scanTokens_quotedText`: the text of a count and quoted ids is one pool token.
-/

namespace BombMission

open Text

/-! ### Texts -/

/-- Ids with a comma and a blank between them. -/
def listedIds (ids : List String) : List Char :=
  [',', ' '].intercalate (ids.map String.toList)

def quoted (id : String) : List Char :=
  '"' :: (id.toList ++ ['"'])

/-- Quoted ids with a comma and a blank between them. -/
def quotedList (ids : List String) : List Char :=
  [',', ' '].intercalate (ids.map quoted)

/-- A pool of some places and ids, each of them quoted. -/
def quotedText (count : Nat) (ids : List String) : String :=
  toString count ++ "*" ++ String.ofList (quotedList ids)

/-- An id has no quote in it, and no mark that ends an id of a list. -/
def IsPlainId (id : String) : Prop :=
  ∀ c ∈ id.toList, isQuoteMark c = false ∧ isSeparator c = false

/-- What stands between ids goes to the ids behind it, so that lists are built from the front. -/
theorem intercalate_cons_eq {α : Type} (separator first : List α) (rest : List (List α)) :
    separator.intercalate (first :: rest) =
      first ++ rest.flatMap fun next => separator ++ next := by
  induction rest generalizing first with
  | nil => simp
  | cons next rest ih =>
    rw [List.intercalate_cons_cons, ih, List.flatMap_cons]
    simp only [List.append_assoc]

theorem listedIds_cons (id : String) (ids : List String) :
    listedIds (id :: ids) = id.toList ++ ids.flatMap fun next => ',' :: ' ' :: next.toList := by
  rw [listedIds, List.map_cons, intercalate_cons_eq, List.flatMap_map]
  rfl

theorem quotedList_cons (id : String) (ids : List String) :
    quotedList (id :: ids) = quoted id ++ ids.flatMap fun next => ',' :: ' ' :: quoted next := by
  rw [quotedList, List.map_cons, intercalate_cons_eq, List.flatMap_map]
  rfl

/-! ### Bodies -/

variable {ids : List String}

theorem IsPlainId.mark_not_mem {id : String} (plain : IsPlainId id) : '"' ∉ id.toList := by
  intro member
  cases (plain _ member).1

theorem bodyRun_quoted {id : String} (plain : IsPlainId id) {run : List Char} {unclosed : Bool}
    (isRun : BodyRun run unclosed) : BodyRun (quoted id ++ run) unclosed := by
  have marked : quoted id ++ run = '"' :: (id.toList ++ '"' :: run) := by simp [quoted]
  rw [marked]
  exact .quoted rfl plain.mark_not_mem isRun

/-- Quoted ids are a body that leaves no quote open. -/
theorem bodyRun_quotedList (plain : ∀ id ∈ ids, IsPlainId id) : BodyRun (quotedList ids) false := by
  have behind : ∀ rest : List String, (∀ id ∈ rest, IsPlainId id) →
      BodyRun (rest.flatMap fun next => ',' :: ' ' :: quoted next) false := by
    intro rest plain
    induction rest with
    | nil => exact .nil
    | cons next rest ih =>
      obtain ⟨first, others⟩ := List.forall_mem_cons.1 plain
      have isRun := bodyRun_quoted first (ih others)
      -- the blank belongs to the comma in front of it
      have blank : ∀ b ∈ [' '], isBlank b = true := by simp [isBlank]
      exact @BodyRun.separator ',' [' '] _ false rfl blank isRun
  cases ids with
  | nil => exact .nil
  | cons id ids =>
    obtain ⟨first, others⟩ := List.forall_mem_cons.1 plain
    rw [quotedList_cons]
    exact bodyRun_quoted first (behind ids others)

theorem filter_quoted {id : String} (plain : IsPlainId id) :
    (quoted id).filter (fun c => !isQuoteMark c) = id.toList := by
  have kept : id.toList.filter (fun c => !isQuoteMark c) = id.toList := by
    rw [List.filter_eq_self]
    intro c member
    simp [(plain c member).1]
  rw [quoted, List.filter_cons_of_neg (by decide), List.filter_append, kept]
  simp [isQuoteMark]

/-- Without its quotes a list is the list of the bare ids. -/
theorem filter_quotedList (plain : ∀ id ∈ ids, IsPlainId id) :
    (quotedList ids).filter (fun c => !isQuoteMark c) = listedIds ids := by
  have behind : ∀ rest : List String, (∀ id ∈ rest, IsPlainId id) →
      (rest.flatMap fun next => ',' :: ' ' :: quoted next).filter (fun c => !isQuoteMark c) =
        rest.flatMap fun next => ',' :: ' ' :: next.toList := by
    intro rest plain
    induction rest with
    | nil => rfl
    | cons next rest ih =>
      obtain ⟨first, others⟩ := List.forall_mem_cons.1 plain
      have apart : (',' :: ' ' :: quoted next).filter (fun c => !isQuoteMark c) =
          ',' :: ' ' :: next.toList := by
        rw [List.filter_cons_of_pos (by decide), List.filter_cons_of_pos (by decide),
          filter_quoted first]
      rw [List.flatMap_cons, List.filter_append, ih others, apart, List.flatMap_cons]
  cases ids with
  | nil => rfl
  | cons id ids =>
    obtain ⟨first, others⟩ := List.forall_mem_cons.1 plain
    rw [quotedList_cons, List.filter_append, filter_quoted first, behind ids others, listedIds_cons]

/-- A list of quoted ids starts with a quote and ends with one. -/
theorem quotedList_ends (nonempty : ids ≠ []) :
    (∃ behind, quotedList ids = '"' :: behind) ∧ ∃ front, quotedList ids = front ++ ['"'] := by
  obtain ⟨id, ids, rfl⟩ := List.exists_cons_of_ne_nil nonempty
  constructor
  · rw [quotedList_cons]
    exact ⟨_, rfl⟩
  · rw [quotedList_cons]
    -- the last id may be the first one
    induction ids using List.reverseRecOn with
    | nil => exact ⟨'"' :: id.toList, by simp [quoted]⟩
    | append_singleton ids last _ =>
      refine ⟨quoted id ++ (ids.flatMap fun next => ',' :: ' ' :: quoted next) ++
        ',' :: ' ' :: '"' :: last.toList, ?_⟩
      simp [quoted]

theorem splitBody_quotedList (plain : ∀ id ∈ ids, IsPlainId id) (nonempty : ids ≠ []) :
    splitBody .plain (quotedList ids) = ⟨quotedList ids, [], false⟩ := by
  obtain ⟨⟨behind, starts⟩, -⟩ := quotedList_ends nonempty
  have body : IsPoolBody (quotedList ids) [] false := by
    refine ⟨⟨bodyRun_quotedList plain, by simp⟩, by simp [starts], ?_⟩
    -- the list is the whole text, so no run at its front is longer
    intro run more flag same _
    have sizes := congrArg List.length same
    simp only [List.length_append, List.length_nil] at sizes
    omega
  have split := (splitBody_plain_iff.2 body).1
  rwa [List.append_nil] at split

/-- The pool that a count and quoted ids make. -/
def quotedPool (count : Nat) (ids : List String) : PoolText :=
  { body := String.ofList (trimBlanks (listedIds ids))
    count := some count
    unique := false
    unclosedQuote := false }

/-- A mark for distinct modules inside the quotes is none. -/
theorem pool_quotedList (plain : ∀ id ∈ ids, IsPlainId id) (nonempty : ids ≠ []) (count : Nat) :
    (⟨quotedList ids, [], false⟩ : BodySplit).pool (some count) false = quotedPool count ids := by
  obtain ⟨-, front, ends⟩ := quotedList_ends nonempty
  have unmarked : (⟨quotedList ids, [], false⟩ : BodySplit).endsUnique = false := by
    simp [BodySplit.endsUnique, ends]
  rw [BodySplit.pool, unmarked]
  simp [quotedPool, bareBody, filter_quotedList plain]

/-! ### Counts -/

/-- A number of up to nine digits. -/
theorem isShortNumeral_toDigits {n : Nat} (small : n < 1000000000) :
    IsShortNumeral (Nat.toDigits 10 n) n := by
  constructor
  · intro c member
    exact Nat.isDigit_of_mem_toDigits (by decide) (by decide) member
  · exact List.length_pos_iff.2 Nat.toDigits_ne_nil
  · exact (Nat.length_toDigits_le_iff (by decide) (by decide)).2 small
  · exact (Nat.ofDigitChars_toDigits (by decide) (by decide)).symm

/-! ### Tokens -/

theorem toList_quotedText (count : Nat) (ids : List String) :
    (quotedText count ids).toList = Nat.toDigits 10 count ++ '*' :: quotedList ids := by
  simp [quotedText]

theorem takeToken_quotedText {count : Nat} (small : count < 1000000000)
    (plain : ∀ id ∈ ids, IsPlainId id) (nonempty : ids ≠ []) :
    takeToken (quotedText count ids).toList = some (.pool (quotedPool count ids), []) := by
  obtain ⟨⟨behind, starts⟩, -⟩ := quotedList_ends nonempty
  have goesOn : GoesOn (quotedList ids) := ⟨'"', behind, starts, rfl, by decide⟩
  have isCount := IsCount.starred (isShortNumeral_toDigits small)
  rw [toList_quotedText, List.append_cons, takeToken_counted isCount goesOn,
    groupOrPool_of_not_bracket (by simp [starts]), TokenRule.pool]
  simp only [splitBody_quotedList plain nonempty, pool_quotedList plain nonempty]
  rw [if_neg (by simp [starts])]

/-- A count and quoted ids are one pool token, which takes up the whole text. -/
theorem scanTokens_quotedText {count : Nat} (small : count < 1000000000)
    (plain : ∀ id ∈ ids, IsPlainId id) (nonempty : ids ≠ []) :
    scanTokens (quotedText count ids) =
      [{ kind := .pool (quotedPool count ids)
         start := 0
         stop := (quotedText count ids).utf8ByteSize
         spelling := quotedText count ids }] := by
  have taken := takeToken_quotedText small plain nonempty
  have solid : skipGap (quotedText count ids).toList = (quotedText count ids).toList := by
    apply skipGap_of_not_startsGap
    obtain ⟨c, more, digits, digit⟩ := (isShortNumeral_toDigits small).exists_cons
    rw [toList_quotedText, digits, List.cons_append]
    -- a digit is no blank, and it starts no comment
    rintro (⟨d, first, blank⟩ | ⟨after, same⟩ | ⟨after, same⟩)
    · obtain rfl := Option.some.inj first
      cases (isBlank_of_isDigit digit).symm.trans blank
    · obtain ⟨rfl, -⟩ := List.cons.inj same
      cases digit
    · obtain ⟨rfl, -⟩ := List.cons.inj same
      cases digit
  have nothing : Lexeme.scan [] = [] := Lexeme.scan_of_none (by decide +kernel)
  rw [← solid] at taken
  rw [scanTokens, Lexeme.scan_of_some taken, solid, nothing]
  have whole : dropSuffix (quotedText count ids).toList [] = (quotedText count ids).toList := by
    simp [dropSuffix]
  have none : dropSuffix (quotedText count ids).toList (quotedText count ids).toList = [] := by
    simp [dropSuffix]
  have size : byteSize (quotedText count ids).toList = (quotedText count ids).utf8ByteSize := by
    rw [← utf8ByteSize_ofList, String.ofList_toList]
  simp [Lexeme.tokens, whole, none, size]

end BombMission
