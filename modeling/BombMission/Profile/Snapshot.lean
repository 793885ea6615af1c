import BombMission.Json.Record
import BombMission.Json.Value
import BombMission.Profile

/-!
# Profile snapshots

The written form of a profile: the ids it disables and the number of its kind. The number may be
left out. A snapshot without a list of ids is well-formed, but it makes no profile.
-/

namespace BombMission

open Json (RecordField Mismatch Problem RecordType)

structure ProfileSnapshot where
  disabled : Option (List String)
  kind : ProfileKind
  deriving DecidableEq, Repr

def ProfileKind.read : Json.Reader ProfileKind := fun text => do
  let (operation, text) ← Json.readByte text
  match ofOperation? operation with
  | some kind => .ok (kind, text)
  | none => .error (.mismatch (.refused (unknownOperation operation)))

namespace ProfileSnapshot

structure Draft where
  disabled : Option (Option (List String)) := none
  kind : Option ProfileKind := none

def disabledField : RecordField Draft :=
  { key := "DisabledList"
    isGiven := fun draft => draft.disabled.isSome
    read := fun draft text => do
      let (ids, text) ← Json.readOptional (Json.readList Json.readText) text
      .ok ({ draft with disabled := some ids }, text)
    needed := true }

def kindField : RecordField Draft :=
  { key := "Operation"
    isGiven := fun draft => draft.kind.isSome
    read := fun draft text => do
      let (kind, text) ← ProfileKind.read text
      .ok ({ draft with kind := some kind }, text) }

/-- The snapshot that a draft makes. A kind that is not given is that of experts. -/
def ofDraft (draft : Draft) : Except Mismatch ProfileSnapshot :=
  .ok { disabled := draft.disabled.getD none, kind := draft.kind.getD .expert }

def recordType : RecordType Draft ProfileSnapshot :=
  { name := "ProfileFile"
    fields := [disabledField, kindField]
    start := {}
    finish := ofDraft }

def read (text : String) : Except Problem ProfileSnapshot :=
  Json.readWhole recordType.read text

def toJson (snapshot : ProfileSnapshot) : Json :=
  .record
    [("DisabledList",
       Json.optional (fun ids => .list (ids.map Json.string)) snapshot.disabled),
     ("Operation", .number snapshot.kind.operation)]

def profile? (snapshot : ProfileSnapshot) : Option Profile :=
  snapshot.disabled.map fun ids => { disabled := .ofList ids, kind := snapshot.kind }

end ProfileSnapshot

end BombMission
