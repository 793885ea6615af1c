import BombMission.Json.Record
import BombMission.Proofs.Json.Spelling

/-!
# Reading every spelling of a value

A reader that finds a value in one spelling finds it in all of them. `Reads` says so of a reader and a
value: whatever white space stands in front and whatever follows, as long as it can follow a value,
the reader takes the value and leaves what follows.

## Main results

* `reads_text`, `reads_byte`, `reads_optional`: readers of single values.
* `reads_list`: a list is read as soon as its items are.
* `reads_record`: a record is read as soon as the values under its keys are, each into the draft that
  the members before it made.
* `readWhole_of_isTextOf`: a text that holds nothing else is read whole.

## Proof strategy

Behind the first thing, lists and records go on with a comma or their closing bracket, so the
inductions are over the spelling of the second and all later things.
-/

namespace BombMission.Json

variable {α : Type}

/-! ### What may follow a value -/

/-- The text is over, or goes on with white space, a comma or a closing bracket. -/
def EndsValue (rest : List Char) : Prop :=
  ∀ c, rest.head? = some c → isSpace c = true ∨ c ∈ [',', ']', '\x7d']

theorem endsValue_cons {c : Char} (ends : c ∈ [',', ']', '\x7d']) (rest : List Char) :
    EndsValue (c :: rest) := by
  intro first found
  exact .inr (Option.some.inj found ▸ ends)

theorem IsSpaces.endsValue_append {spaces rest : List Char} (blank : IsSpaces spaces)
    (ends : EndsValue rest) : EndsValue (spaces ++ rest) := by
  cases spaces with
  | nil => exact ends
  | cons c spaces =>
    intro first found
    obtain rfl : c = first := Option.some.inj found
    exact .inl (blank c List.mem_cons_self)

theorem IsSpaces.endsValue {spaces : List Char} (blank : IsSpaces spaces) : EndsValue spaces := by
  have atEnd : EndsValue [] := fun c found => by cases found
  simpa using blank.endsValue_append atEnd

theorem SpellsRest.endsValue {spells : α → List Char → Prop} {items : List α} {text : List Char}
    (spelled : SpellsRest spells items text) (close : Char) (closes : close ∈ [',', ']', '\x7d'])
    (rest : List Char) : EndsValue (text ++ close :: rest) := by
  cases spelled with
  | nil blank => exact blank.endsValue_append (endsValue_cons closes rest)
  | cons before after first others =>
    rw [List.append_assoc]
    exact before.endsValue_append (endsValue_cons (by decide) _)

/-- No number goes on behind a value. -/
theorem EndsValue.not_numeral {c : Char} {rest : List Char} (ends : EndsValue (c :: rest)) :
    c.isDigit = false ∧ c ≠ '.' ∧ c ≠ 'e' ∧ c ≠ 'E' := by
  rcases ends c rfl with space | mark
  · simp only [isSpace, Bool.or_eq_true, decide_eq_true_eq] at space
    rcases space with ((rfl | rfl) | rfl) | rfl <;> decide
  · simp only [List.mem_cons, List.not_mem_nil, or_false] at mark
    rcases mark with rfl | rfl | rfl <;> decide

/-! ### Readers -/

/-- The reader finds the value wherever a spelling of it stands. -/
def Reads (read : Reader α) (value : Json) (a : α) : Prop :=
  ∀ before spelling rest, IsSpaces before → Spells value spelling → EndsValue rest →
    read (before ++ (spelling ++ rest)) = .ok (a, rest)

theorem IsSpaces.skipSpace_cons {spaces : List Char} (blank : IsSpaces spaces) {c : Char}
    (solid : isSpace c = false) (rest : List Char) : skipSpace (spaces ++ c :: rest) = c :: rest := by
  rw [blank.skipSpace_append, skipSpace_of_not_isSpace solid]

/-- What is read may be put into a larger value. -/
theorem Reads.map {β : Type} {read : Reader α} {value : Json} {a : α} (reads : Reads read value a)
    (f : α → β) :
    Reads (fun text => do
      let (found, text) ← read text
      .ok (f found, text)) value (f a) := by
  intro before spelling rest blank spells ends
  simp only [reads before spelling rest blank spells ends]
  rfl

theorem reads_text (text : String) : Reads readText (.string text) text := by
  intro before spelling rest blank spells ends
  cases spells
  obtain ⟨quoted, taken⟩ := takeQuoted_escape text rest
  rw [readText, quoted, blank.skipSpace_cons (by decide)]
  exact taken

/-! ### Numbers -/

theorem takeWhole_append {digits rest : List Char} (decimal : ∀ c ∈ digits, c.isDigit = true)
    (some : digits ≠ []) (noZero : ∀ c more, digits ≠ '0' :: c :: more)
    (ends : NoDigitFirst rest) : takeWhole (digits ++ rest) = .ok (digits, rest) := by
  have stops : rest.takeWhile Char.isDigit = [] ∧ rest.dropWhile Char.isDigit = rest := by
    cases rest with
    | nil => exact ⟨rfl, rfl⟩
    | cons c rest => simp [ends c rfl]
  have front : digitsOf (digits ++ rest) = digits := by
    rw [digitsOf, List.takeWhile_append_of_pos decimal, stops.1, List.append_nil]
  have back : afterDigits (digits ++ rest) = rest := by
    rw [afterDigits, List.dropWhile_append_of_pos decimal, stops.2]
  have filled : digits.isEmpty = false := by simpa using some
  -- the case of a zero in front of other digits is ruled out by `noZero`
  simp only [takeWhole, takeDigits, front, back, filled, Bool.false_eq_true, if_false]

theorem EndsValue.takeFraction_eq {rest : List Char} (ends : EndsValue rest) :
    takeFraction rest = .ok (none, rest) := by
  cases rest with
  | nil => rfl
  | cons c rest =>
    obtain ⟨-, noPoint, -⟩ := ends.not_numeral
    unfold takeFraction
    split
    next whole => exact absurd (List.cons.inj whole).1 noPoint
    · rfl

theorem EndsValue.takeExponent_eq {rest : List Char} (ends : EndsValue rest) :
    takeExponent rest = .ok (none, rest) := by
  cases rest with
  | nil => rfl
  | cons c rest =>
    obtain ⟨-, -, noExponent⟩ := ends.not_numeral
    simp [takeExponent, noExponent]

theorem EndsValue.noDigitFirst {rest : List Char} (ends : EndsValue rest) : NoDigitFirst rest := by
  cases rest with
  | nil => exact fun c found => by cases found
  | cons c rest => exact noDigitFirst_cons ends.not_numeral.1 rest

/-- The digits of a byte have no zero in front and make the byte again. -/
theorem digits_of_byte : ∀ n < 256, addDigits 0 (Nat.toDigits 10 n) = (n, 0) ∧
    ((Nat.toDigits 10 n).head? = some '0' → (Nat.toDigits 10 n).length = 1) := by
  decide +kernel

theorem takeNumber_byte {n : Nat} (small : n < 256) {rest : List Char} (ends : EndsValue rest) :
    takeNumber false (Nat.toDigits 10 n ++ rest) = .ok (.natural n, rest) := by
  obtain ⟨value, zero⟩ := digits_of_byte n small
  have digits : ∀ c ∈ Nat.toDigits 10 n, c.isDigit = true := fun c member =>
    Nat.isDigit_of_mem_toDigits (by decide) (by decide) member
  have noZero : ∀ c more, Nat.toDigits 10 n ≠ '0' :: c :: more := by
    intro c more whole
    rw [whole] at zero
    cases zero rfl
  have whole := takeWhole_append digits Nat.toDigits_ne_nil noZero ends.noDigitFirst
  simp [takeNumber, whole, ends.takeFraction_eq, ends.takeExponent_eq, numberOfParts, value,
    wholeNumber, bind, Except.bind]

theorem reads_byte {n : Nat} (small : n < 256) : Reads readByte (.number n) n := by
  intro before spelling rest blank spells ends
  cases spells
  obtain ⟨first, more, digits⟩ := List.exists_cons_of_ne_nil (Nat.toDigits_ne_nil (n := n) (b := 10))
  have decimal : first.isDigit = true :=
    Nat.isDigit_of_mem_toDigits (b := 10) (n := n) (by decide) (by decide)
      (digits ▸ List.mem_cons_self)
  have solid : isSpace first = false := isSpace_of_kindOfFirst (by simp [kindOfFirst, decimal])
  have positive : first ≠ '-' := by
    rintro rfl
    cases decimal
  have number := takeNumber_byte small ends
  rw [digits] at number ⊢
  rw [readByte, List.cons_append, blank.skipSpace_cons solid]
  simp only [decimal, or_true, positive, if_true, if_false]
  rw [← List.cons_append, number]
  simp [Number.toByte, small, bind, Except.bind]

/-! ### Lists -/

section Lists

variable {first : Bool} {before after : List Char}

theorem takeItemStart_close (blank : IsSpaces before) (rest : List Char) :
    takeItemStart first (before ++ ']' :: rest) = .ok (false, ']' :: rest) := by
  rw [takeItemStart, blank.skipSpace_cons (by decide)]
  rfl

/-- The first item of a list has no comma in front. -/
theorem takeItemStart_first (blank : IsSpaces before) {c : Char} (solid : isSpace c = false)
    (value : kindOfFirst c ≠ 6) (rest : List Char) :
    takeItemStart true (before ++ c :: rest) = .ok (true, c :: rest) := by
  rw [takeItemStart, blank.skipSpace_cons solid]
  split
  next none => cases none
  next close =>
    obtain ⟨rfl, -⟩ := List.cons.inj close
    exact absurd rfl value
  next found =>
    cases found
    rfl

theorem takeItemStart_comma (blank : IsSpaces before) (blankBehind : IsSpaces after) {c : Char}
    (solid : isSpace c = false) (value : kindOfFirst c ≠ 6) (rest : List Char) :
    takeItemStart false (before ++ ',' :: (after ++ c :: rest)) = .ok (true, c :: rest) := by
  rw [takeItemStart, blank.skipSpace_cons (by decide)]
  split
  next none => cases none
  next close => exact absurd (List.cons.inj close).1 (by decide)
  next found =>
    obtain ⟨rfl, rfl⟩ := List.cons.inj found
    simp only [Bool.false_eq_true, if_false, if_true, blankBehind.skipSpace_cons solid]
    -- the same three ways again behind the comma
    split
    next none => cases none
    next close =>
      obtain ⟨rfl, -⟩ := List.cons.inj close
      exact absurd rfl value
    · rfl

variable {read : Reader α} {write : α → Json} {items : List α}

theorem readItems_close (blank : IsSpaces before) (most : Nat) (rest : List Char) :
    readItems read (most + 1) first (before ++ ']' :: rest) = .ok ([], rest) := by
  simp [readItems, takeItemStart_close blank, bind, Except.bind]

/-- One item behind `front`, which is the space and the comma before it. -/
theorem readItems_cons {front spelling after rest : List Char} {value : Json} {item : α} {most : Nat}
    (start : ∀ c more, isSpace c = false → kindOfFirst c ≠ 6 →
      takeItemStart first (front ++ c :: more) = .ok (true, c :: more))
    (reads : Reads read value item) (spelled : Spells value spelling) (ends : EndsValue after)
    (others : readItems read most false after = .ok (items, rest)) :
    readItems read (most + 1) first (front ++ (spelling ++ after)) = .ok (item :: items, rest) := by
  obtain ⟨c, more, rfl, solid, known⟩ := spelled.starts_solid
  have taken := reads [] _ after isSpaces_nil spelled ends
  simp only [List.cons_append, List.nil_append] at taken ⊢
  simp [readItems, start c _ solid known, taken, others, bind, Except.bind]

theorem readItems_rest (each : ∀ item ∈ items, Reads read (write item) item) {text : List Char}
    (spells : SpellsRest Spells (items.map write) text) {most : Nat} (enough : items.length < most)
    (rest : List Char) : readItems read most false (text ++ ']' :: rest) = .ok (items, rest) := by
  induction items generalizing text most with
  | nil =>
    obtain ⟨most, rfl⟩ := Nat.exists_eq_succ_of_ne_zero (Nat.ne_zero_of_lt enough)
    cases spells with
    | nil blank => exact readItems_close blank most rest
  | cons item items ih =>
    obtain ⟨most, rfl⟩ := Nat.exists_eq_succ_of_ne_zero (Nat.ne_zero_of_lt enough)
    obtain ⟨reads, others⟩ := List.forall_mem_cons.1 each
    cases spells with
    | @cons _ _ before after spelling behind blank blankBehind spelled spelledOthers =>
      have start : ∀ c more, isSpace c = false → kindOfFirst c ≠ 6 →
          takeItemStart false ((before ++ ',' :: after) ++ c :: more) = .ok (true, c :: more) := by
        intro c more solid known
        rw [List.append_assoc]
        exact takeItemStart_comma blank blankBehind solid known more
      have ends := spelledOthers.endsValue ']' (by decide) rest
      have taken := readItems_cons start reads spelled ends
        (ih others spelledOthers (Nat.lt_of_succ_lt_succ enough))
      simpa using taken

theorem readItems_all (each : ∀ item ∈ items, Reads read (write item) item) {inside : List Char}
    (spells : SpellsAll Spells (items.map write) inside) {most : Nat} (enough : items.length < most)
    (rest : List Char) : readItems read most true (inside ++ ']' :: rest) = .ok (items, rest) := by
  obtain ⟨most, rfl⟩ := Nat.exists_eq_succ_of_ne_zero (Nat.ne_zero_of_lt enough)
  cases items with
  | nil =>
    cases spells with
    | nil blank => exact readItems_close blank most rest
  | cons item items =>
    obtain ⟨reads, others⟩ := List.forall_mem_cons.1 each
    cases spells with
    | @cons _ _ before spelling behind blank spelled spelledOthers =>
      have ends := spelledOthers.endsValue ']' (by decide) rest
      have taken := readItems_cons (fun c more solid known => takeItemStart_first blank solid known more)
        reads spelled ends (readItems_rest others spelledOthers (Nat.lt_of_succ_lt_succ enough) rest)
      simpa using taken

/-- A list is read when each of its items is. -/
theorem reads_list (each : ∀ item ∈ items, Reads read (write item) item) :
    Reads (readList read) (.list (items.map write)) items := by
  intro before spelling rest blank spells ends
  cases spells with
  | list spelled =>
    -- the bracket and the commas alone are as many signs as there are items
    have bound := spelled.length_le
    rw [readList, List.cons_append, blank.skipSpace_cons (by decide), List.append_assoc]
    apply readItems_all each spelled
    simp only [List.length_map, List.length_append, List.length_cons] at bound ⊢
    omega

end Lists

theorem reads_optional {read : Reader α} {value : Json} {a : α} (reads : Reads read value a)
    (present : value ≠ .null) : Reads (readOptional read) value (some a) := by
  intro before spelling rest blank spells ends
  obtain ⟨first, more, rfl, kind⟩ := spells.starts
  have solid : isSpace first = false := isSpace_of_kindOfFirst (kind ▸ value.ctorIdx_ne_six)
  have taken := reads [] _ rest isSpaces_nil spells ends
  simp only [List.cons_append, List.nil_append] at taken ⊢
  rw [readOptional, blank.skipSpace_cons solid]
  split
  -- only `null` starts with this letter
  next word =>
    obtain ⟨rfl, -⟩ := List.cons.inj word
    cases value <;> first | exact absurd rfl present | cases kind
  · simp [taken, bind, Except.bind]

/-! ### Records -/

section Records

variable {δ : Type} {fields : List (RecordField δ)} {first : Bool} {before after : List Char}

theorem takeKeyStart_close (blank : IsSpaces before) (rest : List Char) :
    takeKeyStart first (before ++ '\x7d' :: rest) = .ok (false, rest) := by
  rw [takeKeyStart, blank.skipSpace_cons (by decide)]
  rfl

/-- The first key of a record has no comma in front. -/
theorem takeKeyStart_first (blank : IsSpaces before) (rest : List Char) :
    takeKeyStart true (before ++ '"' :: rest) = .ok (true, rest) := by
  rw [takeKeyStart, blank.skipSpace_cons (by decide)]
  rfl

theorem takeMark_spaces (blank : IsSpaces before) (mark : Char) (solid : isSpace mark = false)
    (rest : List Char) : takeMark mark (before ++ mark :: rest) = .ok rest := by
  rw [takeMark, blank.skipSpace_cons solid]
  exact if_pos rfl

theorem takeKeyStart_comma (blank : IsSpaces before) (blankBehind : IsSpaces after)
    (rest : List Char) :
    takeKeyStart false (before ++ ',' :: (after ++ '"' :: rest)) = .ok (true, rest) := by
  have mark := takeMark_spaces blankBehind '"' (by decide) rest
  rw [takeKeyStart, blank.skipSpace_cons (by decide)]
  simp [mark, bind, Except.bind]

/-- Each member fills the draft that the members before it made. -/
inductive ReadsMembers (fields : List (RecordField δ)) : δ → List (String × Json) → δ → Prop where
  | nil {draft : δ} : ReadsMembers fields draft [] draft
  | cons {draft next final : δ} {key : String} {value : Json} {members : List (String × Json)}
      {field : RecordField δ} :
      findField fields key = some field → field.isGiven draft = false →
      Reads (field.read draft) value next → ReadsMembers fields next members final →
      ReadsMembers fields draft ((key, value) :: members) final

theorem readMembers_close {draft : δ} (blank : IsSpaces before) (most : Nat) (rest : List Char) :
    readMembers fields (most + 1) first draft (before ++ '\x7d' :: rest) = .ok (draft, rest) := by
  simp [readMembers, takeKeyStart_close blank, bind, Except.bind]

/-- One member behind `front`, which is the space and the comma before it. -/
theorem readMembers_cons {draft next final : δ} {key : String} {value : Json}
    {field : RecordField δ} {front text after rest : List Char} {most : Nat}
    (start : ∀ more, takeKeyStart first (front ++ '"' :: more) = .ok (true, more))
    (found : findField fields key = some field) (fresh : field.isGiven draft = false)
    (reads : Reads (field.read draft) value next) (spelled : SpellsMember Spells (key, value) text)
    (ends : EndsValue after) (others : readMembers fields most false next after = .ok (final, rest)) :
    readMembers fields (most + 1) first draft (front ++ (text ++ after)) = .ok (final, rest) := by
  cases spelled with
  | @mk _ _ before behind spelling blank blankBehind spelled =>
    -- the start takes the opening quote along, so the key is read without it
    obtain ⟨quoted, named⟩ :=
      takeQuoted_escape key (before ++ ':' :: (behind ++ (spelling ++ after)))
    have mark := takeMark_spaces blank ':' (by decide) (behind ++ (spelling ++ after))
    have taken := reads behind spelling after blankBehind spelled ends
    simp only [List.append_assoc, List.cons_append, quoted]
    simp [readMembers, start, named, readMember, found, fresh, mark, taken, others, bind,
      Except.bind]

theorem readMembers_rest {draft final : δ} {members : List (String × Json)}
    (reads : ReadsMembers fields draft members final) {text : List Char}
    (spells : SpellsRest (SpellsMember Spells) members text) {most : Nat}
    (enough : members.length < most) (rest : List Char) :
    readMembers fields most false draft (text ++ '\x7d' :: rest) = .ok (final, rest) := by
  induction reads generalizing text most with
  | nil =>
    obtain ⟨most, rfl⟩ := Nat.exists_eq_succ_of_ne_zero (Nat.ne_zero_of_lt enough)
    cases spells with
    | nil blank => exact readMembers_close blank most rest
  | cons found fresh reads others ih =>
    obtain ⟨most, rfl⟩ := Nat.exists_eq_succ_of_ne_zero (Nat.ne_zero_of_lt enough)
    cases spells with
    | @cons _ _ before after _ behind blank blankBehind spelled spelledOthers =>
      have start : ∀ more, takeKeyStart false ((before ++ ',' :: after) ++ '"' :: more) =
          .ok (true, more) := by
        intro more
        rw [List.append_assoc]
        exact takeKeyStart_comma blank blankBehind more
      have ends := spelledOthers.endsValue '\x7d' (by decide) rest
      have taken := readMembers_cons start found fresh reads spelled ends
        (ih spelledOthers (Nat.lt_of_succ_lt_succ enough))
      simpa using taken

theorem readMembers_all {draft final : δ} {members : List (String × Json)}
    (reads : ReadsMembers fields draft members final) {inside : List Char}
    (spells : SpellsAll (SpellsMember Spells) members inside) {most : Nat}
    (enough : members.length < most) (rest : List Char) :
    readMembers fields most true draft (inside ++ '\x7d' :: rest) = .ok (final, rest) := by
  obtain ⟨most, rfl⟩ := Nat.exists_eq_succ_of_ne_zero (Nat.ne_zero_of_lt enough)
  cases reads with
  | nil =>
    cases spells with
    | nil blank => exact readMembers_close blank most rest
  | cons found fresh reads others =>
    cases spells with
    | @cons _ _ before _ behind blank spelled spelledOthers =>
      have ends := spelledOthers.endsValue '\x7d' (by decide) rest
      have taken := readMembers_cons (takeKeyStart_first blank) found fresh reads spelled ends
        (readMembers_rest others spelledOthers (Nat.lt_of_succ_lt_succ enough) rest)
      simpa using taken

/-- A record is read when its members fill a draft that makes it. -/
theorem reads_record {type : RecordType δ α} {members : List (String × Json)} {draft : δ} {a : α}
    (reads : ReadsMembers type.fields type.start members draft) (made : type.finish draft = .ok a) :
    Reads type.read (.record members) a := by
  intro before spelling rest blank spells ends
  cases spells with
  | @record _ inside spelled =>
    have bound := spelled.length_le
    have enough : members.length < (inside ++ '\x7d' :: rest).length + 1 := by
      simp only [List.length_append, List.length_cons]
      omega
    have taken := readMembers_all reads spelled enough rest
    rw [RecordType.read, List.cons_append, blank.skipSpace_cons (by decide), List.append_assoc]
    simp only [if_true, List.cons_append, List.nil_append, taken, bind, Except.bind,
      RecordType.complete, made]

end Records

/-! ### Whole texts -/

theorem readWhole_of_isTextOf {read : Reader α} {value : Json} {a : α} (reads : Reads read value a)
    {text : String} (holds : value.IsTextOf text) : readWhole read text = .ok a := by
  obtain ⟨before, spelling, after, whole, blank, blankBehind, spells⟩ := holds
  have taken := reads before spelling after blank spells blankBehind.endsValue
  rw [← whole] at taken
  simp [readWhole, taken, blankBehind.skipSpace_eq, bind, Except.bind]

end BombMission.Json
