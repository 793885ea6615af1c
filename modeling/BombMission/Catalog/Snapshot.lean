import BombMission.Catalog
import BombMission.Json.Record
import BombMission.Json.Value

/-!
# Catalog snapshots

A snapshot is the written form of a catalog: the solvable mods and the needy ones with their names,
and the disabled ids. Each list may be left out, as may the name of a mod. A catalog is filled from
it in the order in which everything is written.
-/

namespace BombMission

open Json (RecordField Mismatch Problem RecordType)

namespace Entry

structure Draft where
  id : Option String := none
  name : Option String := none

def idField : RecordField Draft :=
  { key := "id"
    isGiven := fun draft => draft.id.isSome
    read := fun draft text => do
      let (id, text) ← Json.readText text
      .ok ({ draft with id := some id }, text)
    needed := true }

def nameField : RecordField Draft :=
  { key := "name"
    isGiven := fun draft => draft.name.isSome
    read := fun draft text => do
      let (name, text) ← Json.readText text
      .ok ({ draft with name := some name }, text) }

/-- The entry that a draft makes. A name that is not given is empty. -/
def ofDraft (draft : Draft) : Except Mismatch Entry :=
  match draft.id with
  | none => .error (.missingField idField.key)
  | some id => .ok { id, name := draft.name.getD "" }

def recordType : RecordType Draft Entry :=
  { name := "ModuleInfo"
    fields := [idField, nameField]
    start := {}
    finish := ofDraft }

def toJson (entry : Entry) : Json :=
  .record [("id", .string entry.id), ("name", .string entry.name)]

end Entry

structure CatalogSnapshot where
  solvable : List Entry
  needy : List Entry
  disabled : List String
  deriving DecidableEq, Repr

namespace CatalogSnapshot

structure Draft where
  solvable : Option (List Entry) := none
  needy : Option (List Entry) := none
  disabled : Option (List String) := none

def solvableField : RecordField Draft :=
  { key := "solvable"
    isGiven := fun draft => draft.solvable.isSome
    read := fun draft text => do
      let (entries, text) ← Json.readList Entry.recordType.read text
      .ok ({ draft with solvable := some entries }, text) }

def needyField : RecordField Draft :=
  { key := "needy"
    isGiven := fun draft => draft.needy.isSome
    read := fun draft text => do
      let (entries, text) ← Json.readList Entry.recordType.read text
      .ok ({ draft with needy := some entries }, text) }

def disabledField : RecordField Draft :=
  { key := "disabled"
    isGiven := fun draft => draft.disabled.isSome
    read := fun draft text => do
      let (ids, text) ← Json.readList Json.readText text
      .ok ({ draft with disabled := some ids }, text) }

/-- The snapshot that a draft makes. A list that is not given is empty. -/
def ofDraft (draft : Draft) : Except Mismatch CatalogSnapshot :=
  .ok
    { solvable := draft.solvable.getD []
      needy := draft.needy.getD []
      disabled := draft.disabled.getD [] }

def recordType : RecordType Draft CatalogSnapshot :=
  { name := "CatalogFile"
    fields := [solvableField, needyField, disabledField]
    start := {}
    finish := ofDraft }

def read (text : String) : Except Problem CatalogSnapshot :=
  Json.readWhole recordType.read text

def toJson (snapshot : CatalogSnapshot) : Json :=
  .record
    [("solvable", .list (snapshot.solvable.map Entry.toJson)),
     ("needy", .list (snapshot.needy.map Entry.toJson)),
     ("disabled", .list (snapshot.disabled.map Json.string))]

def catalog (snapshot : CatalogSnapshot) : Catalog :=
  let add (kind : ModuleKind) (catalog : Catalog) (entry : Entry) : Catalog :=
    catalog.addMod kind entry.id entry.name
  let solvable := snapshot.solvable.foldl (add .solvable) .vanilla
  let installed := snapshot.needy.foldl (add .needy) solvable
  snapshot.disabled.foldl Catalog.disable installed

end CatalogSnapshot

def Catalog.read (text : String) : Except Problem Catalog := do
  let snapshot ← CatalogSnapshot.read text
  .ok snapshot.catalog

end BombMission
