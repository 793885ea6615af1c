import BombMission.Text.Split

/-!
# Pieces and rows of a text

Texts that are put together with a mark between them are cut apart at the mark again. Of the rows of a
report this is not quite so: a newline at the end starts no row, and a carriage return before a newline
is no part of its row. Texts that end in neither can be joined and taken apart row by row.

## Main results

* `splitOn_append_mark`: a text is cut at a mark into the pieces of both sides.
* `lines_intercalate`: the rows of joined texts are the rows of each of them.
* `length_lines`: a text has one row more than newlines.
* `lines_intercalate_eq_iff`: when joined texts are rows again.
-/

namespace BombMission.Text

/-! ### Pieces -/

theorem splitOn_eq_splitOnP (isMark : Char → Bool) (text : List Char) :
    splitOn isMark text = text.splitOnP isMark := by
  induction text with
  | nil => rfl
  | cons c text ih =>
    rw [splitOn, List.splitOnP_cons_eq_if_modifyHead, ih]
    split
    · rfl
    · split
      next none => exact absurd none (List.splitOnP_ne_nil _ _)
      next piece pieces found => simp [found]

theorem splitOn_ne_nil (isMark : Char → Bool) (text : List Char) : splitOn isMark text ≠ [] := by
  rw [splitOn_eq_splitOnP]
  exact List.splitOnP_ne_nil _ _

theorem splitOn_append_mark {isMark : Char → Bool} {mark : Char} (marked : isMark mark = true)
    (front back : List Char) :
    splitOn isMark (front ++ mark :: back) = splitOn isMark front ++ splitOn isMark back := by
  rw [splitOn_eq_splitOnP, splitOn_eq_splitOnP, splitOn_eq_splitOnP,
    List.splitOnP_append_cons _ _ marked]

theorem intercalate_splitOn (mark : Char) (text : List Char) :
    [mark].intercalate (splitOn (· == mark) text) = text := by
  rw [splitOn_eq_splitOnP, ← List.splitOn_eq_splitOnP]
  exact List.intercalate_splitOn mark

/-- The first piece starts the text, and each piece stands somewhere in it. -/
theorem splitOn_eq_cons (isMark : Char → Bool) (text : List Char) :
    ∃ first pieces, splitOn isMark text = first :: pieces ∧ first <+: text ∧
      ∀ piece ∈ pieces, piece <:+: text := by
  induction text with
  | nil => exact ⟨[], [], rfl, List.nil_prefix, by simp⟩
  | cons c text ih =>
    obtain ⟨first, pieces, whole, starts, inside⟩ := ih
    have behind : ∀ piece ∈ pieces, piece <:+: c :: text := fun piece member =>
      (inside piece member).trans (List.suffix_cons c text).isInfix
    rw [splitOn, whole]
    -- a mark puts an empty piece in front, and any other character starts the first piece
    split
    · refine ⟨[], first :: pieces, rfl, List.nil_prefix, List.forall_mem_cons.2 ⟨?_, behind⟩⟩
      exact starts.isInfix.trans (List.suffix_cons c text).isInfix
    · exact ⟨c :: first, pieces, rfl, List.cons_prefix_cons.2 ⟨rfl, starts⟩, behind⟩

theorem infix_of_mem_splitOn {isMark : Char → Bool} {text piece : List Char}
    (member : piece ∈ splitOn isMark text) : piece <:+: text := by
  obtain ⟨first, pieces, whole, starts, inside⟩ := splitOn_eq_cons isMark text
  rw [whole] at member
  rcases List.mem_cons.1 member with rfl | later
  · exact starts.isInfix
  · exact inside piece later

theorem getLast?_splitOn (isMark : Char → Bool) {text : List Char} {last : Char}
    (ends : text.getLast? = some last) (unmarked : isMark last = false) :
    ∃ front piece, splitOn isMark text = front ++ [piece] ∧ piece.getLast? = some last := by
  induction text with
  | nil => cases ends
  | cons c text ih =>
    cases text with
    | nil =>
      obtain rfl : c = last := by simpa using ends
      exact ⟨[], [c], by simp [splitOn, unmarked], rfl⟩
    | cons d text =>
      obtain ⟨front, piece, pieces, pieceEnds⟩ := ih (by rwa [List.getLast?_cons_cons] at ends)
      rw [splitOn, pieces]
      split
      · exact ⟨[] :: front, piece, rfl, pieceEnds⟩
      · cases front with
        | nil =>
          refine ⟨[], c :: piece, rfl, ?_⟩
          rw [List.getLast?_cons, pieceEnds]
          rfl
        | cons first front => exact ⟨(c :: first) :: front, piece, rfl, pieceEnds⟩

/-! ### Rows -/

/-- The text ends with a character that belongs to its last row. -/
def EndsRow (text : List Char) : Prop :=
  ∃ c, text.getLast? = some c ∧ c ≠ '\n' ∧ c ≠ '\r'

instance (text : List Char) : Decidable (EndsRow text) :=
  decidable_of_iff ((text.getLast?.any fun c => c ≠ '\n' && c ≠ '\r') = true)
    (by simp [EndsRow, Option.any_eq_true])

theorem EndsRow.append_left {text : List Char} (ends : EndsRow text) (front : List Char) :
    EndsRow (front ++ text) := by
  obtain ⟨c, last, other⟩ := ends
  exact ⟨c, by rw [List.getLast?_append, last]; rfl, other⟩

theorem endsRow_append (front : String) {back : String} (ends : EndsRow back.toList) :
    EndsRow (front ++ back).toList := by
  rw [String.toList_append]
  exact ends.append_left _

theorem endsRow_toString (n : Nat) : EndsRow (toString n).toList := by
  have digits : (toString n).toList = Nat.toDigits 10 n := by simp
  rw [digits]
  have filled : Nat.toDigits 10 n ≠ [] := Nat.toDigits_ne_nil
  have digit := Nat.isDigit_of_mem_toDigits (by decide) (by decide) (List.getLast_mem filled)
  refine ⟨_, List.getLast?_eq_some_getLast filled, ?_, ?_⟩
  all_goals
    intro other
    rw [other] at digit
    cases digit

theorem rowsOfPieces_append {back : List (List Char)} (some : back ≠ []) (front : List (List Char)) :
    rowsOfPieces (front ++ back) = front.map dropReturn ++ rowsOfPieces back := by
  obtain ⟨first, rest, rfl⟩ := List.exists_cons_of_ne_nil some
  induction front with
  | nil => rfl
  | cons row front ih =>
    have next : ∃ piece pieces, front ++ first :: rest = piece :: pieces := by
      cases front with
      | nil => exact ⟨_, _, rfl⟩
      | cons piece front => exact ⟨_, _, rfl⟩
    obtain ⟨piece, pieces, whole⟩ := next
    rw [List.cons_append, whole, rowsOfPieces, ← whole, ih]
    rfl

/-- Every piece of a text that ends its row is a row. -/
theorem EndsRow.rowsOfPieces_eq {text : List Char} (ends : EndsRow text) :
    rowsOfPieces (splitOn (· == '\n') text) = (splitOn (· == '\n') text).map dropReturn := by
  obtain ⟨c, last, notNewline, notReturn⟩ := ends
  have unmarked : (c == '\n') = false := beq_eq_false_iff_ne.2 notNewline
  obtain ⟨front, piece, pieces, pieceEnds⟩ := getLast?_splitOn (· == '\n') last unmarked
  have kept : dropReturn piece = piece := by
    rw [dropReturn, if_neg (by simp [pieceEnds, notReturn])]
  have filled : piece ≠ [] := by
    rintro rfl
    cases pieceEnds
  rw [pieces, rowsOfPieces_append (List.cons_ne_nil _ _), List.map_append]
  simp [rowsOfPieces, kept, filled]

theorem EndsRow.rowsOfPieces_append_newline {text : List Char} (ends : EndsRow text)
    (back : List Char) :
    rowsOfPieces (splitOn (· == '\n') (text ++ '\n' :: back)) =
      rowsOfPieces (splitOn (· == '\n') text) ++ rowsOfPieces (splitOn (· == '\n') back) := by
  rw [splitOn_append_mark (by decide), rowsOfPieces_append (splitOn_ne_nil _ _), ends.rowsOfPieces_eq]

/-- The rows of joined texts are the rows of each of them, when each ends its last row. -/
theorem lines_intercalate {rows : List String} (ends : ∀ row ∈ rows, EndsRow row.toList) :
    lines ("\n".intercalate rows) = rows.flatMap lines := by
  induction rows with
  | nil => rfl
  | cons row rows ih =>
    obtain ⟨first, others⟩ := List.forall_mem_cons.1 ends
    cases rows with
    | nil => simp
    | cons next rows =>
      have joined : ("\n".intercalate (row :: next :: rows)).toList =
          row.toList ++ '\n' :: ("\n".intercalate (next :: rows)).toList := by
        rw [String.intercalate_cons_cons]
        simp
      rw [List.flatMap_cons, ← ih others]
      simp only [lines, joined, first.rowsOfPieces_append_newline, List.map_append]

theorem length_lines {text : String} (ends : EndsRow text.toList) :
    (lines text).length = text.toList.count '\n' + 1 := by
  rw [lines, List.length_map, ends.rowsOfPieces_eq, List.length_map, length_splitOn]
  rfl

theorem lines_eq_singleton_iff {text : String} (ends : EndsRow text.toList) :
    lines text = [text] ↔ '\n' ∉ text.toList := by
  constructor
  · intro single
    have counted := length_lines ends
    rw [single, List.length_singleton] at counted
    exact List.count_eq_zero.1 (by omega)
  · intro none
    have unmarked : ∀ c ∈ text.toList, (c == '\n') = false := by
      intro c member
      exact beq_eq_false_iff_ne.2 fun newline => none (newline ▸ member)
    rw [lines, ends.rowsOfPieces_eq, splitOn_of_forall_not unmarked]
    obtain ⟨c, last, -, notReturn⟩ := ends
    simp [dropReturn, last, notReturn]

/-! ### Newlines -/

theorem newline_not_mem_toString (n : Nat) : '\n' ∉ (toString n).toList := by
  intro member
  have digit : ('\n').isDigit = true :=
    Nat.isDigit_of_mem_toDigits (b := 10) (n := n) (by decide) (by decide) (by simpa using member)
  cases digit

theorem newline_not_mem_append {front back : String} (frontRow : '\n' ∉ front.toList)
    (backRow : '\n' ∉ back.toList) : '\n' ∉ (front ++ back).toList := by
  rw [String.toList_append, List.mem_append, not_or]
  exact ⟨frontRow, backRow⟩

theorem newline_mem_around {front back : String} (frontRow : '\n' ∉ front.toList)
    (backRow : '\n' ∉ back.toList) (name : String) :
    '\n' ∈ (front ++ name ++ back).toList ↔ '\n' ∈ name.toList := by
  simp only [String.toList_append, List.mem_append, frontRow, backRow, false_or, or_false]

/-! ### Texts joined to rows -/

section Joined

variable {rows : List String}

theorem length_lines_intercalate (ends : ∀ row ∈ rows, EndsRow row.toList) :
    (lines ("\n".intercalate rows)).length =
      rows.length + (rows.flatMap String.toList).count '\n' := by
  rw [lines_intercalate ends]
  induction rows with
  | nil => rfl
  | cons row rows ih =>
    obtain ⟨first, others⟩ := List.forall_mem_cons.1 ends
    rw [List.flatMap_cons, List.length_append, ih others, length_lines first, List.flatMap_cons,
      List.count_append, List.length_cons]
    omega

theorem length_lines_intercalate_eq_iff (ends : ∀ row ∈ rows, EndsRow row.toList) :
    (lines ("\n".intercalate rows)).length = rows.length ↔
      ∀ row ∈ rows, '\n' ∉ row.toList := by
  rw [length_lines_intercalate ends, Nat.add_eq_left, List.count_eq_zero, List.mem_flatMap]
  simp

/-- Joined texts are rows again exactly when none of them holds a newline. -/
theorem lines_intercalate_eq_iff (ends : ∀ row ∈ rows, EndsRow row.toList) :
    lines ("\n".intercalate rows) = rows ↔ ∀ row ∈ rows, '\n' ∉ row.toList := by
  constructor
  · intro same
    exact (length_lines_intercalate_eq_iff ends).1 (congrArg List.length same)
  · intro single
    have each : rows.map lines = rows.map fun row => [row] :=
      List.map_congr_left fun row member =>
        (lines_eq_singleton_iff (ends row member)).2 (single row member)
    rw [lines_intercalate ends, List.flatMap_def, each, ← List.flatMap_def, List.flatMap_singleton']

end Joined

end BombMission.Text
