import BombMission.Json.Decode
import BombMission.Json.Skip

/-!
# Readers of records

A record type names its fields and says how each of them is read into a draft of the record. Its
values are written in one of two ways: as a JSON record, whose keys come in any order and may be
unknown, or as a JSON list of the fields in their order.
-/

namespace BombMission.Json

/-- A field of a record, with drafts of type `δ`. -/
structure RecordField (δ : Type) where
  key : String
  isGiven : δ → Bool
  read : δ → Reader δ
  /-- Whether a list that stands for the record must reach to this field. -/
  needed : Bool := false

/-- A type of records, with drafts of type `δ`. -/
structure RecordType (δ α : Type) where
  name : String
  fields : List (RecordField δ)
  /-- The draft without any field. -/
  start : δ
  /-- The record that a draft makes. -/
  finish : δ → Except Mismatch α

def findField {δ : Type} (fields : List (RecordField δ)) (key : String) : Option (RecordField δ) :=
  fields.find? fun field => field.key = key

/-- Takes the space, the comma and the opening quote before a further key, or says that a record is
over. `first` holds before the first key, which has no comma. -/
def takeKeyStart (first : Bool) (text : List Char) : Except Problem (Bool × List Char) :=
  match skipSpace text with
  | [] => .error .truncated
  | '\x7d' :: rest => .ok (false, rest)
  | c :: rest =>
    if first then if c = '"' then .ok (true, rest) else .error .malformed
    else if c = ',' then do
      let rest ← takeMark '"' rest
      .ok (true, rest)
    else .error .malformed

/-- Reads the value of a member into the draft. A field may be given once, and members under
unknown keys are skipped. -/
def readMember {δ : Type} (fields : List (RecordField δ)) (key : String) (draft : δ) : Reader δ :=
  fun text =>
    match findField fields key with
    | none => do
      let text ← takeMark ':' text
      let text ← skipValue text
      .ok (draft, text)
    | some field =>
      if field.isGiven draft then .error (.mismatch (.duplicateField key))
      else do
        let text ← takeMark ':' text
        field.read draft text

/-- Reads the members of a record up to its closing bracket, at most so many. -/
def readMembers {δ : Type} (fields : List (RecordField δ)) :
    (most : Nat) → (first : Bool) → δ → Reader δ
  | 0, _, _, _ => .error .truncated
  | most + 1, first, draft, text => do
    let (more, text) ← takeKeyStart first text
    if more then
      let (key, text) ← takeQuoted text
      let (draft, text) ← readMember fields key draft text
      readMembers fields most false draft text
    else .ok (draft, text)

def takeFieldsEnd (text : List Char) : Except Problem (List Char) :=
  takeMark ']' text

/-- What a list that is over too early is reported with. -/
def tooShort {δ α : Type} (type : RecordType δ α) (length : Nat) : Problem :=
  .mismatch (.tooShort length ("struct " ++ type.name) type.fields.length)

/-- Reads the fields of a record written as a list, from the field at `place` on. -/
def readFields {δ α : Type} (type : RecordType δ α) :
    (fields : List (RecordField δ)) → (place : Nat) → δ → Reader δ
  | [], _, draft, text => do
    let text ← takeFieldsEnd text
    .ok (draft, text)
  | field :: fields, place, draft, text => do
    let (more, text) ← takeItemStart (place = 0) text
    if more then
      let (draft, text) ← field.read draft text
      readFields type fields (place + 1) draft text
    else if field.needed then .error (tooShort type place)
    else .ok (draft, text.drop 1)

/-- The record that a draft makes, or what it lacks. -/
def RecordType.complete {δ α : Type} (type : RecordType δ α) (draft : δ) : Except Problem α :=
  match type.finish draft with
  | .error mismatch => .error (.mismatch mismatch)
  | .ok value => .ok value

/-- Reads a record. Its members take up a sign each at least. -/
def RecordType.read {δ α : Type} (type : RecordType δ α) : Reader α := fun text =>
  match skipSpace text with
  | [] => .error .truncated
  | first :: rest =>
    if first = '\x7b' then do
      let (draft, rest) ← readMembers type.fields (rest.length + 1) true type.start rest
      let value ← type.complete draft
      .ok (value, rest)
    else if first = '[' then do
      let (draft, rest) ← readFields type type.fields 0 type.start rest
      let value ← type.complete draft
      .ok (value, rest)
    else .error (wrongKind ("struct " ++ type.name) first rest)

end BombMission.Json
