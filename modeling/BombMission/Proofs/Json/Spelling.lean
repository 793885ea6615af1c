import BombMission.Json.Reader
import BombMission.Proofs.Json.Readable

/-!
# Spellings of JSON values

A value may be written with any white space between its parts. `Spells` is the relation between a
value and the texts that are the value with white space somewhere; strings have their escapes of the
written form, and numbers and words have one form only. The compact form and the indented one are two
of the spellings.

## Main results

* `spells_compactChars` and `spells_indentedChars`: the two written forms are spellings.
* `Spells.starts`: a spelling tells what kind of value it is of.
-/

namespace BombMission.Json

/-! ### White space -/

/-- Nothing but characters that may stand between the parts of a value. -/
def IsSpaces (text : List Char) : Prop :=
  ∀ c ∈ text, isSpace c = true

theorem isSpaces_nil : IsSpaces [] := by
  simp [IsSpaces]

theorem isSpaces_lineStart (depth : Nat) : IsSpaces (lineStart depth) := by
  intro c member
  rcases List.mem_cons.1 member with rfl | blank
  · rfl
  · rw [List.eq_of_mem_replicate blank]
    rfl

theorem IsSpaces.skipSpace_append {spaces : List Char} (blank : IsSpaces spaces)
    (rest : List Char) : skipSpace (spaces ++ rest) = skipSpace rest :=
  List.dropWhile_append_of_pos blank

theorem IsSpaces.skipSpace_eq {spaces : List Char} (blank : IsSpaces spaces) :
    skipSpace spaces = [] := by
  simpa [skipSpace] using blank.skipSpace_append []

/-! ### Spellings -/

section Lists

variable {α : Type}

/-- The second and all later things of a list, each behind a comma, and the white space at the end. -/
inductive SpellsRest (spells : α → List Char → Prop) : List α → List Char → Prop where
  | nil {after : List Char} : IsSpaces after → SpellsRest spells [] after
  | cons {item : α} {items : List α} {before after spelling rest : List Char} :
      IsSpaces before → IsSpaces after → spells item spelling → SpellsRest spells items rest →
      SpellsRest spells (item :: items) (before ++ ',' :: (after ++ (spelling ++ rest)))

/-- What stands between the brackets of a list. -/
inductive SpellsAll (spells : α → List Char → Prop) : List α → List Char → Prop where
  | nil {inside : List Char} : IsSpaces inside → SpellsAll spells [] inside
  | cons {item : α} {items : List α} {before spelling rest : List Char} :
      IsSpaces before → spells item spelling → SpellsRest spells items rest →
      SpellsAll spells (item :: items) (before ++ (spelling ++ rest))

variable {spells : α → List Char → Prop} {items : List α} {text : List Char}

theorem SpellsRest.length_le (spelled : SpellsRest spells items text) :
    items.length ≤ text.length := by
  induction spelled with
  | nil => exact Nat.zero_le _
  | cons before after first others ih =>
    simp only [List.length_cons, List.length_append]
    omega

theorem SpellsAll.length_le (spelled : SpellsAll spells items text) :
    items.length ≤ text.length + 1 := by
  cases spelled with
  | nil => exact Nat.zero_le _
  | cons before first others =>
    have later := others.length_le
    simp only [List.length_cons, List.length_append]
    omega

end Lists

/-- A key and its value, with white space around the colon. -/
inductive SpellsMember (spells : Json → List Char → Prop) : String × Json → List Char → Prop where
  | mk {key : String} {value : Json} {before after spelling : List Char} :
      IsSpaces before → IsSpaces after → spells value spelling →
      SpellsMember spells (key, value) (escape key ++ (before ++ ':' :: (after ++ spelling)))

/-- The text is the value, with any white space between its parts. -/
inductive Spells : Json → List Char → Prop where
  | null : Spells .null "null".toList
  | boolean (value : Bool) : Spells (.boolean value) (booleanName value)
  | number (value : Nat) : Spells (.number value) (Nat.toDigits 10 value)
  | string (value : String) : Spells (.string value) (escape value)
  | list {items : List Json} {inside : List Char} :
      SpellsAll Spells items inside → Spells (.list items) ('[' :: (inside ++ [']']))
  | record {members : List (String × Json)} {inside : List Char} :
      SpellsAll (SpellsMember Spells) members inside →
      Spells (.record members) ('\x7b' :: (inside ++ ['\x7d']))

/-- A text that holds the value and nothing else. -/
def IsTextOf (value : Json) (text : String) : Prop :=
  ∃ before spelling after, text.toList = before ++ (spelling ++ after) ∧ IsSpaces before ∧
    IsSpaces after ∧ Spells value spelling

/-! ### First signs -/

/-- The first sign of a spelling is that of the compact form, so it tells the kind of value. -/
theorem Spells.starts {value : Json} {spelling : List Char} (spells : Spells value spelling) :
    ∃ first more, spelling = first :: more ∧ kindOfFirst first = value.ctorIdx := by
  cases spells with
  | null => exact compactChars_start .null
  | boolean value => exact compactChars_start (.boolean value)
  | number value => exact compactChars_start (.number value)
  | string value => exact compactChars_start (.string value)
  | list _ => exact ⟨'[', _, rfl, rfl⟩
  | record _ => exact ⟨'\x7b', _, rfl, rfl⟩

theorem kindOfFirst_of_isSpace {c : Char} (space : isSpace c = true) : kindOfFirst c = 6 := by
  simp only [isSpace, Bool.or_eq_true, decide_eq_true_eq] at space
  rcases space with ((rfl | rfl) | rfl) | rfl <;> rfl

theorem isSpace_of_kindOfFirst {c : Char} (kind : kindOfFirst c ≠ 6) : isSpace c = false := by
  cases space : isSpace c with
  | false => rfl
  | true => exact absurd (kindOfFirst_of_isSpace space) kind

theorem ctorIdx_ne_six (value : Json) : value.ctorIdx ≠ 6 := by
  intro last
  cases value <;> cases last

/-- No spelling starts with white space or a sign that announces no value. -/
theorem Spells.starts_solid {value : Json} {spelling : List Char} (spells : Spells value spelling) :
    ∃ first more, spelling = first :: more ∧ isSpace first = false ∧ kindOfFirst first ≠ 6 := by
  obtain ⟨first, more, whole, kind⟩ := spells.starts
  have known : kindOfFirst first ≠ 6 := kind ▸ ctorIdx_ne_six value
  exact ⟨first, more, whole, isSpace_of_kindOfFirst known, known⟩

/-! ### Written forms -/

section Compact

variable {α : Type} {spells : α → List Char → Prop} {write : α → List Char}

theorem spellsRest_flatMap {items : List α} (each : ∀ item ∈ items, spells item (write item)) :
    SpellsRest spells items (items.flatMap fun item => ',' :: write item) := by
  induction items with
  | nil => exact .nil isSpaces_nil
  | cons item items ih =>
    obtain ⟨first, others⟩ := List.forall_mem_cons.1 each
    exact .cons isSpaces_nil isSpaces_nil first (ih others)

theorem spellsAll_cons {item : α} {items : List α}
    (each : ∀ held ∈ item :: items, spells held (write held)) :
    SpellsAll spells (item :: items) (write item ++ items.flatMap fun item => ',' :: write item) := by
  obtain ⟨first, others⟩ := List.forall_mem_cons.1 each
  exact .cons isSpaces_nil first (spellsRest_flatMap others)

end Compact

theorem spells_compactItems {items : List Json}
    (each : ∀ item ∈ items, Spells item (compactChars item)) :
    SpellsAll Spells items (compactItems items) := by
  cases items with
  | nil => exact .nil isSpaces_nil
  | cons item items =>
    rw [compactItems_cons]
    exact spellsAll_cons each

theorem spells_compactMembers {members : List (String × Json)}
    (each : ∀ member ∈ members, Spells member.2 (compactChars member.2)) :
    SpellsAll (SpellsMember Spells) members (compactMembers members) := by
  cases members with
  | nil => exact .nil isSpaces_nil
  | cons member members =>
    rw [compactMembers_cons]
    exact spellsAll_cons fun held present => .mk isSpaces_nil isSpaces_nil (each held present)

theorem spells_compactChars : (value : Json) → Spells value (compactChars value)
  | null => .null
  | boolean value => .boolean value
  | number value => .number value
  | string value => .string value
  | list items => .list (spells_compactItems fun item _ => spells_compactChars item)
  | record members => .record (spells_compactMembers fun member present =>
    have := sizeOf_snd_lt present
    spells_compactChars member.2)

theorem spells_indentedItems {depth : Nat} {close : List Char} (closes : IsSpaces close)
    {items : List Json} (each : ∀ item ∈ items, Spells item (indentedChars depth item)) :
    SpellsRest Spells items (indentedItems depth items ++ close) := by
  induction items with
  | nil => exact .nil closes
  | cons item items ih =>
    obtain ⟨first, others⟩ := List.forall_mem_cons.1 each
    have spelled := SpellsRest.cons isSpaces_nil (isSpaces_lineStart depth) first (ih others)
    simpa [indentedItems] using spelled

theorem spells_indentedMember {depth : Nat} {member : String × Json}
    (value : Spells member.2 (indentedChars depth member.2)) :
    SpellsMember Spells member (escape member.1 ++ ':' :: ' ' :: indentedChars depth member.2) := by
  have blank : IsSpaces [' '] := by simp [IsSpaces, isSpace]
  exact .mk isSpaces_nil blank value

theorem spells_indentedMembers {depth : Nat} {close : List Char} (closes : IsSpaces close)
    {members : List (String × Json)}
    (each : ∀ member ∈ members, Spells member.2 (indentedChars depth member.2)) :
    SpellsRest (SpellsMember Spells) members (indentedMembers depth members ++ close) := by
  induction members with
  | nil => exact .nil closes
  | cons member members ih =>
    obtain ⟨first, others⟩ := List.forall_mem_cons.1 each
    have spelled := SpellsRest.cons isSpaces_nil (isSpaces_lineStart depth)
      (spells_indentedMember first) (ih others)
    simpa [indentedMembers] using spelled

theorem spells_indentedList {depth : Nat} {items : List Json}
    (each : ∀ item ∈ items, Spells item (indentedChars (depth + 1) item)) :
    Spells (.list items) (indentedChars depth (.list items)) := by
  cases items with
  | nil => exact .list (.nil isSpaces_nil)
  | cons item items =>
    obtain ⟨first, others⟩ := List.forall_mem_cons.1 each
    have spelled := Spells.list (.cons (isSpaces_lineStart (depth + 1)) first
      (spells_indentedItems (isSpaces_lineStart depth) others))
    simpa [indentedChars] using spelled

theorem spells_indentedRecord {depth : Nat} {members : List (String × Json)}
    (each : ∀ member ∈ members, Spells member.2 (indentedChars (depth + 1) member.2)) :
    Spells (.record members) (indentedChars depth (.record members)) := by
  cases members with
  | nil => exact .record (.nil isSpaces_nil)
  | cons member members =>
    obtain ⟨first, others⟩ := List.forall_mem_cons.1 each
    have spelled := Spells.record (.cons (isSpaces_lineStart (depth + 1))
      (spells_indentedMember first) (spells_indentedMembers (isSpaces_lineStart depth) others))
    simpa [indentedChars] using spelled

theorem spells_indentedChars : (depth : Nat) → (value : Json) →
    Spells value (indentedChars depth value)
  | _, null => .null
  | _, boolean value => .boolean value
  | _, number value => .number value
  | _, string value => .string value
  | depth, list items => spells_indentedList fun item _ => spells_indentedChars (depth + 1) item
  | depth, record members => spells_indentedRecord fun member present =>
    have := sizeOf_snd_lt present
    spells_indentedChars (depth + 1) member.2

theorem Spells.isTextOf {value : Json} {spelling : List Char} (spells : Spells value spelling) :
    value.IsTextOf (String.ofList spelling) :=
  ⟨[], spelling, [], by simp, isSpaces_nil, isSpaces_nil, spells⟩

theorem isTextOf_compact (value : Json) : value.IsTextOf value.compact :=
  (spells_compactChars value).isTextOf

theorem isTextOf_indented (value : Json) : value.IsTextOf value.indented :=
  (spells_indentedChars 0 value).isTextOf

end BombMission.Json
