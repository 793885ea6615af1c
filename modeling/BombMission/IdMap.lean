import BombMission.IdSet

/-!
# Maps from ids

A map from ids (module ids, profile names) to values, kept as a list of rows in strictly increasing
order of their ids. A later value for an id replaces the earlier one, and maps with the same values
at all ids are equal, however they were filled.
-/

namespace BombMission

/-- Adds a row to a list of rows in increasing order of ids, or replaces the value of its row. -/
def insertRow {α : Type} (id : String) (value : α) : List (String × α) → List (String × α)
  | [] => [(id, value)]
  | row :: rows =>
    if id < row.1 then (id, value) :: row :: rows
    else if id = row.1 then (id, value) :: rows
    else row :: insertRow id value rows

/-- The ids are put in order as those of a set are. -/
theorem map_fst_insertRow {α : Type} (id : String) (value : α) (rows : List (String × α)) :
    (insertRow id value rows).map Prod.fst = insertId id (rows.map Prod.fst) := by
  induction rows with
  | nil => rfl
  | cons row rows ih =>
    simp only [insertRow, List.map_cons, insertId]
    split
    · rfl
    · split
      next same => simp [same]
      · simp [ih]

def lookupRow {α : Type} (id : String) : List (String × α) → Option α
  | [] => none
  | row :: rows => if id = row.1 then some row.2 else lookupRow id rows

theorem lookupRow_insertRow {α : Type} (id other : String) (value : α)
    (rows : List (String × α)) :
    lookupRow other (insertRow id value rows) =
      if other = id then some value else lookupRow other rows := by
  induction rows with
  | nil => simp [insertRow, lookupRow]
  | cons row rows ih =>
    unfold insertRow
    split
    · simp [lookupRow]
    · split
      next same => by_cases equal : other = id <;> simp_all [lookupRow]
      next differs =>
        by_cases equal : other = row.1
        · have : row.1 ≠ id := fun same => differs same.symm
          simp [lookupRow, equal, this]
        · simp [lookupRow, equal, ih]

theorem mem_of_lookupRow {α : Type} {id : String} {value : α} {rows : List (String × α)}
    (found : lookupRow id rows = some value) : (id, value) ∈ rows := by
  induction rows with
  | nil => cases found
  | cons row rows ih =>
    unfold lookupRow at found
    split at found
    next same =>
      obtain rfl := Option.some.inj found
      rw [same]
      exact List.mem_cons_self
    · exact List.mem_cons_of_mem _ (ih found)

theorem lookupRow_of_mem {α : Type} {row : String × α} {rows : List (String × α)}
    (sorted : (rows.map Prod.fst).Pairwise (· < ·)) (member : row ∈ rows) :
    lookupRow row.1 rows = some row.2 := by
  induction rows with
  | nil => cases member
  | cons first rows ih =>
    obtain ⟨below, sorted⟩ := List.pairwise_cons.1 sorted
    rcases List.mem_cons.1 member with rfl | later
    · simp [lookupRow]
    · -- the id of a later row is greater than the first one
      have differs : row.1 ≠ first.1 := fun same =>
        String.lt_irrefl _ (same ▸ below row.1 (List.mem_map.2 ⟨row, later, rfl⟩))
      simp [lookupRow, differs, ih sorted later]

theorem mem_map_fst_of_lookupRow {α : Type} {id : String} {value : α} {rows : List (String × α)}
    (found : lookupRow id rows = some value) : id ∈ rows.map Prod.fst :=
  List.mem_map.2 ⟨(id, value), mem_of_lookupRow found, rfl⟩

theorem lookupRow_isSome_of_mem {α : Type} {id : String} {rows : List (String × α)}
    (member : id ∈ rows.map Prod.fst) : (lookupRow id rows).isSome := by
  induction rows with
  | nil => simp at member
  | cons row rows ih =>
    unfold lookupRow
    split
    · rfl
    next differs =>
      simp only [List.map_cons, List.mem_cons] at member
      exact ih (member.resolve_left differs)

theorem eq_of_lookupRow {α : Type} {left right : List (String × α)}
    (sorted : (left.map Prod.fst).Pairwise (· < ·)) (ids : left.map Prod.fst = right.map Prod.fst)
    (same : ∀ id ∈ left.map Prod.fst, lookupRow id left = lookupRow id right) : left = right := by
  induction left generalizing right with
  | nil => exact (List.map_eq_nil_iff.1 ids.symm).symm
  | cons row left ih =>
    cases right with
    | nil => cases ids
    | cons other right =>
      obtain ⟨head, tail⟩ := List.cons.inj ids
      obtain ⟨below, sorted⟩ := List.pairwise_cons.1 sorted
      have values : row.2 = other.2 := by
        simpa [lookupRow, ← head] using same row.1 List.mem_cons_self
      have rest : left = right := by
        apply ih sorted tail
        intro id member
        have differs : id ≠ row.1 := fun equal => String.lt_irrefl id (equal ▸ below id member)
        simpa [lookupRow, ← head, differs] using same id (List.mem_cons_of_mem _ member)
      rw [Prod.ext head values, rest]

/-- A map from ids to values, in increasing order of ids. -/
structure IdMap (α : Type) where
  rows : List (String × α)
  sorted : (rows.map Prod.fst).Pairwise (· < ·)

namespace IdMap

variable {α : Type}

theorem sorted_nil : (([] : List (String × α)).map Prod.fst).Pairwise (· < ·) :=
  List.Pairwise.nil

def empty : IdMap α := ⟨[], sorted_nil⟩

instance : Inhabited (IdMap α) := ⟨empty⟩

def insert (id : String) (value : α) (map : IdMap α) : IdMap α :=
  ⟨insertRow id value map.rows, map_fst_insertRow id value map.rows ▸ pairwise_insertId map.sorted⟩

def get? (map : IdMap α) (id : String) : Option α :=
  lookupRow id map.rows

def size (map : IdMap α) : Nat :=
  map.rows.length

@[simp] theorem get?_empty (id : String) : (empty : IdMap α).get? id = none := rfl

@[simp] theorem get?_insert (map : IdMap α) (id other : String) (value : α) :
    (map.insert id value).get? other = if other = id then some value else map.get? other :=
  lookupRow_insertRow id other value map.rows

theorem mem_rows_iff {map : IdMap α} {row : String × α} :
    row ∈ map.rows ↔ map.get? row.1 = some row.2 :=
  ⟨lookupRow_of_mem map.sorted, mem_of_lookupRow⟩

theorem mem_ids_iff {map : IdMap α} {id : String} :
    id ∈ map.rows.map Prod.fst ↔ (map.get? id).isSome = true := by
  constructor
  · exact lookupRow_isSome_of_mem
  · intro found
    obtain ⟨value, found⟩ := Option.isSome_iff_exists.1 found
    exact mem_map_fst_of_lookupRow found

theorem ext {left right : IdMap α} (same : ∀ id, left.get? id = right.get? id) : left = right := by
  have ids : left.rows.map Prod.fst = right.rows.map Prod.fst := by
    apply eq_of_pairwise_lt left.sorted right.sorted
    intro id
    rw [mem_ids_iff, mem_ids_iff, same id]
  have rows : left.rows = right.rows := eq_of_lookupRow left.sorted ids fun id _ => same id
  cases left
  cases right
  simpa using rows

end IdMap

end BombMission
