import BombMission.Json.Quoted
import BombMission.Json.Value

/-!
# Written JSON can be read back

A value in its compact form tells where it ends, whatever follows it, as long as a number is not
followed by a digit. So two values with the same compact form are the same. For strings this is the
reader of quoted text: it finds every escape again.

## Main results

* `takeQuoted_escape`: reading a string after writing it gives the string and the text behind it.
* `Json.readable`: a value and the text behind it are determined by the two together.
* `Json.compact_injective`: equal compact forms are forms of one value.

## Proof strategy

`Readable` says of one thing that no other thing is written alike in front of any text. It is shown
for digits and strings directly. Lists and records are both a bracket, things with commas between
them and a bracket again, so `readable_rest` does the induction for both.
-/

namespace BombMission.Json

open Text (byteSize)

/-! ### Strings -/

/-- The two codes that a control character takes hold its number. -/
theorem takeUnit_control {high low : Nat} (high_lt : high < 2) (low_lt : low < 16)
    (rest : List Char) :
    takeUnit ('0' :: '0' :: Nat.digitChar high :: Nat.digitChar low :: rest) =
      .ok (16 * high + low, rest) := by
  have valued : ∀ high < 2, ∀ low < 16,
      byteSize ['0', '0', Nat.digitChar high, Nat.digitChar low] = 4 ∧
        hexValue? ['0', '0', Nat.digitChar high, Nat.digitChar low] = some (16 * high + low) := by
    decide
  obtain ⟨size, value⟩ := valued high high_lt low low_lt
  simp [takeUnit, unitDigits, size, value]

theorem takeCoded_control {c : Char} (control : c.toNat < 0x20) (rest : List Char) :
    takeCoded .paired ('0' :: '0' :: Nat.digitChar (c.toNat / 16) ::
      Nat.digitChar (c.toNat % 16) :: rest) = .ok (c, rest) := by
  have unit := takeUnit_control (show c.toNat / 16 < 2 by omega)
    (Nat.mod_lt c.toNat (show 16 > 0 by decide)) rest
  have whole : 16 * (c.toNat / 16) + c.toNat % 16 = c.toNat := Nat.div_add_mod ..
  have single : isTrailing c.toNat = false ∧ isLeading c.toNat = false := by
    simp only [isTrailing, isLeading, Bool.and_eq_false_iff, decide_eq_false_iff_not]
    omega
  simp [takeCoded, unit, whole, single]

/-- What is written for a character is not a quote in front, and it is read as that character. -/
theorem takeChar_escapeChar (c : Char) : ∃ first more, escapeChar c = first :: more ∧
    first ≠ '"' ∧ ∀ rest, takeChar .paired first (more ++ rest) = .ok (c, rest) := by
  -- seven escapes by name, the other control characters by code, and all others as they are
  unfold escapeChar
  split
  next quote => exact ⟨'\\', ['"'], rfl, by decide, fun _ => by subst quote; rfl⟩
  split
  next backslash => exact ⟨'\\', ['\\'], rfl, by decide, fun _ => by subst backslash; rfl⟩
  split
  next backspace => exact ⟨'\\', ['b'], rfl, by decide, fun _ => by subst backspace; rfl⟩
  split
  next tab => exact ⟨'\\', ['t'], rfl, by decide, fun _ => by subst tab; rfl⟩
  split
  next newline => exact ⟨'\\', ['n'], rfl, by decide, fun _ => by subst newline; rfl⟩
  split
  next formFeed => exact ⟨'\\', ['f'], rfl, by decide, fun _ => by subst formFeed; rfl⟩
  split
  next carriage => exact ⟨'\\', ['r'], rfl, by decide, fun _ => by subst carriage; rfl⟩
  split
  next control =>
    exact ⟨'\\', _, rfl, by decide, fun rest => takeCoded_control control rest⟩
  next quote backslash _ _ _ _ _ control =>
    exact ⟨c, [], rfl, quote, fun rest => by simp [takeChar, backslash, control]⟩

theorem takeChars_cons {surrogates : Surrogates} {first c : Char}
    {rest behind chars last : List Char} (open_ : first ≠ '"')
    (taken : takeChar surrogates first rest = .ok (c, behind))
    (more : takeChars surrogates behind = .ok (chars, last)) :
    takeChars surrogates (first :: rest) = .ok (c :: chars, last) := by
  rw [takeChars, if_neg open_]
  split
  next found =>
    rw [taken] at found
    cases found
  next found =>
    rw [taken] at found
    cases found
    rw [more]

theorem takeChars_escapeChar (chars rest : List Char) :
    takeChars .paired (chars.flatMap escapeChar ++ '"' :: rest) = .ok (chars, rest) := by
  induction chars with
  | nil => simp [takeChars]
  | cons c chars ih =>
    obtain ⟨first, more, written, open_, taken⟩ := takeChar_escapeChar c
    rw [List.flatMap_cons, written, List.append_assoc, List.cons_append]
    exact takeChars_cons open_ (taken _) ih

theorem takeQuoted_escape (text : String) (rest : List Char) :
    escape text ++ rest = '"' :: (text.toList.flatMap escapeChar ++ '"' :: rest) ∧
      takeQuoted (text.toList.flatMap escapeChar ++ '"' :: rest) = .ok (text, rest) := by
  refine ⟨by simp [escape], ?_⟩
  simp [takeQuoted, takeChars_escapeChar]

/-! ### Readable things -/

/-- The text behind a number, which must not go on with a digit. -/
def NoDigitFirst (rest : List Char) : Prop :=
  ∀ c, rest.head? = some c → c.isDigit = false

theorem noDigitFirst_cons {c : Char} (other : c.isDigit = false) (rest : List Char) :
    NoDigitFirst (c :: rest) := by
  intro first found
  rw [← Option.some.inj found]
  exact other

/-- Nothing else is written like the thing, whatever stands behind both. -/
def Readable {α : Type} (write : α → List Char) (a : α) : Prop :=
  ∀ b rest other, NoDigitFirst rest → NoDigitFirst other → write a ++ rest = write b ++ other →
    a = b ∧ rest = other

theorem takeWhile_toDigits (n : Nat) {rest : List Char} (ends : NoDigitFirst rest) :
    (Nat.toDigits 10 n ++ rest).takeWhile Char.isDigit = Nat.toDigits 10 n := by
  have digits : ∀ c ∈ Nat.toDigits 10 n, c.isDigit = true := fun c member =>
    Nat.isDigit_of_mem_toDigits (by decide) (by decide) member
  have stops : rest.takeWhile Char.isDigit = [] := by
    cases rest with
    | nil => rfl
    | cons c rest => simp [ends c rfl]
  rw [List.takeWhile_append_of_pos digits, stops, List.append_nil]

theorem readable_toDigits (n : Nat) : Readable (Nat.toDigits 10) n := by
  intro m rest other ends endsOther same
  -- the digits are the longest run of digits of the whole text
  have digits : Nat.toDigits 10 n = Nat.toDigits 10 m := by
    rw [← takeWhile_toDigits n ends, same, takeWhile_toDigits m endsOther]
  refine ⟨?_, ?_⟩
  · rw [← Nat.ofDigitChars_toDigits (b := 10) (n := n) (by decide) (by decide), digits,
      Nat.ofDigitChars_toDigits (by decide) (by decide)]
  · rw [digits] at same
    exact List.append_cancel_left same

theorem readable_escape (text : String) : Readable escape text := by
  intro written rest other _ _ same
  -- the reader finds one string and one rest in the text, so both spellings are of that string
  obtain ⟨spelling, read⟩ := takeQuoted_escape text rest
  obtain ⟨spellingOther, readOther⟩ := takeQuoted_escape written other
  rw [spelling, spellingOther] at same
  rw [(List.cons.inj same).2, readOther] at read
  exact ⟨(Prod.mk.inj (Except.ok.inj read)).1.symm, (Prod.mk.inj (Except.ok.inj read)).2.symm⟩

section Lists

variable {α : Type} {write : α → List Char} {close : Char}

theorem noDigitFirst_rest (notDigit : close.isDigit = false) (items : List α) (rest : List Char) :
    NoDigitFirst (items.flatMap (fun item => ',' :: write item) ++ close :: rest) := by
  cases items with
  | nil => exact noDigitFirst_cons notDigit rest
  | cons item items => exact noDigitFirst_cons (by decide) _

/-- The second and all later things of a list, up to its closing bracket. -/
theorem readable_rest {items : List α} (each : ∀ item ∈ items, Readable write item)
    (notComma : close ≠ ',') (notDigit : close.isDigit = false) :
    ∀ others rest other,
      items.flatMap (fun item => ',' :: write item) ++ close :: rest =
        others.flatMap (fun item => ',' :: write item) ++ close :: other →
      items = others ∧ rest = other := by
  -- a comma or the bracket stands in front, and tells whether one more thing follows
  induction items with
  | nil =>
    intro others rest other same
    cases others with
    | nil => exact ⟨rfl, (List.cons.inj same).2⟩
    | cons => exact absurd (List.cons.inj same).1 notComma
  | cons item items ih =>
    intro others rest other same
    cases others with
    | nil => exact absurd (List.cons.inj same).1.symm notComma
    | cons first others =>
      simp only [List.flatMap_cons, List.cons_append, List.append_assoc] at same
      obtain ⟨rfl, behind⟩ := each item List.mem_cons_self first _ _
        (noDigitFirst_rest notDigit items rest) (noDigitFirst_rest notDigit others other)
        (List.cons.inj same).2
      obtain ⟨rfl, rfl⟩ := ih (fun item member => each item (List.mem_cons_of_mem _ member))
        others rest other behind
      exact ⟨rfl, rfl⟩

/-- Things with commas between them, up to a closing bracket that none of them starts with. -/
theorem readable_all (writeAll : List α → List Char) (none : writeAll [] = [])
    (some : ∀ item items, writeAll (item :: items) =
      write item ++ items.flatMap fun item => ',' :: write item)
    (starts : ∀ item, ∃ first more, write item = first :: more ∧ first ≠ close)
    (notComma : close ≠ ',') (notDigit : close.isDigit = false)
    {items others : List α} (each : ∀ item ∈ items, Readable write item) {rest other : List Char}
    (same : writeAll items ++ close :: rest = writeAll others ++ close :: other) :
    items = others ∧ rest = other := by
  -- where one list is over and the other goes on, the next sign tells which
  cases items with
  | nil =>
    cases others with
    | nil =>
      rw [none] at same
      exact ⟨rfl, (List.cons.inj same).2⟩
    | cons first others =>
      obtain ⟨c, more, written, different⟩ := starts first
      rw [none, some, written] at same
      exact absurd (List.cons.inj same).1.symm different
  | cons item items =>
    cases others with
    | nil =>
      obtain ⟨c, more, written, different⟩ := starts item
      rw [none, some, written] at same
      exact absurd (List.cons.inj same).1 different
    | cons first others =>
      rw [some, some, List.append_assoc, List.append_assoc] at same
      obtain ⟨rfl, behind⟩ := each item List.mem_cons_self first _ _
        (noDigitFirst_rest notDigit items rest) (noDigitFirst_rest notDigit others other) same
      obtain ⟨rfl, rfl⟩ := readable_rest
        (fun item member => each item (List.mem_cons_of_mem _ member)) notComma notDigit
        others rest other behind
      exact ⟨rfl, rfl⟩

end Lists

/-! ### Values -/

/-- The kind of value that a first character announces, by the place of its constructor. -/
def kindOfFirst (c : Char) : Nat :=
  if c.isDigit then 2
  else match c with
    | 'n' => 0
    | 't' | 'f' => 1
    | '"' => 3
    | '[' => 4
    | '\x7b' => 5
    | _ => 6

theorem compactChars_start (value : Json) :
    ∃ first more, compactChars value = first :: more ∧ kindOfFirst first = value.ctorIdx := by
  cases value with
  | null => exact ⟨'n', _, rfl, rfl⟩
  | boolean value => cases value <;> exact ⟨_, _, rfl, rfl⟩
  | number n =>
    obtain ⟨first, more, digits⟩ :=
      List.exists_cons_of_ne_nil (Nat.toDigits_ne_nil (n := n) (b := 10))
    have decimal : first.isDigit = true :=
      Nat.isDigit_of_mem_toDigits (b := 10) (n := n) (by decide) (by decide)
        (digits ▸ List.mem_cons_self)
    exact ⟨first, more, by rw [compactChars, digits], if_pos decimal⟩
  | string text => exact ⟨'"', _, by rw [compactChars, escape, List.cons_append], rfl⟩
  | list items => exact ⟨'[', _, by rw [compactChars, List.cons_append], rfl⟩
  | record members => exact ⟨'\x7b', _, by rw [compactChars, List.cons_append], rfl⟩

theorem compactChars_start_ne (value : Json) {close : Char} (closes : kindOfFirst close = 6) :
    ∃ first more, compactChars value = first :: more ∧ first ≠ close := by
  obtain ⟨first, more, written, kind⟩ := compactChars_start value
  refine ⟨first, more, written, ?_⟩
  rintro rfl
  rw [closes] at kind
  cases value <;> cases kind

def memberChars (member : String × Json) : List Char :=
  escape member.1 ++ ':' :: compactChars member.2

theorem compactItems_cons (item : Json) (items : List Json) :
    compactItems (item :: items) =
      compactChars item ++ items.flatMap fun item => ',' :: compactChars item := by
  induction items generalizing item with
  | nil => simp [compactItems]
  | cons next items ih => simp [compactItems, ih]

theorem compactMembers_cons (member : String × Json) (members : List (String × Json)) :
    compactMembers (member :: members) =
      memberChars member ++ members.flatMap fun member => ',' :: memberChars member := by
  induction members generalizing member with
  | nil => simp [compactMembers, memberChars]
  | cons next members ih => simp [compactMembers, memberChars, ih]

theorem readable_memberChars {member : String × Json}
    (value : Readable compactChars member.2) : Readable memberChars member := by
  intro other rest behind ends endsOther same
  -- the key ends at its quote, and behind the colon stands the value
  simp only [memberChars, List.append_assoc, List.cons_append] at same
  obtain ⟨key, values⟩ := readable_escape member.1 other.1 _ _ (noDigitFirst_cons (by decide) _)
    (noDigitFirst_cons (by decide) _) same
  obtain ⟨held, rfl⟩ := value other.2 rest behind ends endsOther (List.cons.inj values).2
  exact ⟨Prod.ext key held, rfl⟩

theorem kind_of_same {value written : Json} {rest other : List Char}
    (same : compactChars value ++ rest = compactChars written ++ other) :
    value.ctorIdx = written.ctorIdx := by
  obtain ⟨first, more, spelled, kind⟩ := compactChars_start value
  obtain ⟨firstOther, moreOther, spelledOther, kindOther⟩ := compactChars_start written
  rw [spelled, spelledOther] at same
  rw [← kind, ← kindOther, (List.cons.inj same).1]

theorem readable_boolean (value : Bool) : Readable compactChars (boolean value) := by
  intro written rest other _ _ same
  cases written with
  | boolean held =>
    -- the two words differ in their first letter
    have first := congrArg List.head? same
    have word : value = held := by
      cases value <;> cases held
      · rfl
      · cases Option.some.inj first
      · cases Option.some.inj first
      · rfl
    subst word
    exact ⟨rfl, List.append_cancel_left same⟩
  | null | number | string | list | record => cases kind_of_same same

theorem readable_list {items : List Json} (each : ∀ item ∈ items, Readable compactChars item) :
    Readable compactChars (list items) := by
  intro written rest other _ _ same
  cases written with
  | list others =>
    simp only [compactChars, List.cons_append, List.append_assoc, List.nil_append] at same
    obtain ⟨rfl, rfl⟩ := readable_all compactItems rfl compactItems_cons
      (fun item => compactChars_start_ne item (by decide)) (by decide) (by decide) each
      (List.cons.inj same).2
    exact ⟨rfl, rfl⟩
  | null | boolean | number | string | record => cases kind_of_same same

theorem readable_record {members : List (String × Json)}
    (each : ∀ member ∈ members, Readable compactChars member.2) :
    Readable compactChars (record members) := by
  intro written rest other _ _ same
  cases written with
  | record others =>
    simp only [compactChars, List.cons_append, List.append_assoc, List.nil_append] at same
    obtain ⟨rfl, rfl⟩ := readable_all compactMembers rfl compactMembers_cons
      (fun member => ⟨'"', _, by rw [memberChars, escape, List.cons_append, List.cons_append],
        by decide⟩) (by decide) (by decide)
      (fun member present => readable_memberChars (each member present)) (List.cons.inj same).2
    exact ⟨rfl, rfl⟩
  | null | boolean | number | string | list => cases kind_of_same same

theorem sizeOf_snd_lt {member : String × Json} {members : List (String × Json)}
    (present : member ∈ members) : sizeOf member.2 < sizeOf members := by
  have whole := List.sizeOf_lt_of_mem present
  have part : sizeOf member = 1 + sizeOf member.1 + sizeOf member.2 := rfl
  omega

/-- A value and the text behind it are determined by the two together. -/
theorem readable : (value : Json) → Readable compactChars value
  | null => by
    intro written rest other _ _ same
    cases written with
    | null => exact ⟨rfl, List.append_cancel_left same⟩
    -- values of two kinds differ in their first sign
    | boolean | number | string | list | record => cases kind_of_same same
  | boolean value => readable_boolean value
  | number n => by
    intro written rest other ends endsOther same
    cases written with
    | number m =>
      obtain ⟨rfl, rfl⟩ := readable_toDigits n m rest other ends endsOther same
      exact ⟨rfl, rfl⟩
    | null | boolean | string | list | record => cases kind_of_same same
  | string text => by
    intro written rest other ends endsOther same
    cases written with
    | string held =>
      obtain ⟨rfl, rfl⟩ := readable_escape text held rest other ends endsOther same
      exact ⟨rfl, rfl⟩
    | null | boolean | number | list | record => cases kind_of_same same
  | list items => readable_list fun item _ => readable item
  | record members => readable_record fun member present =>
    have := sizeOf_snd_lt present
    readable member.2

theorem compact_injective {value other : Json} (same : value.compact = other.compact) :
    value = other := by
  have chars : compactChars value ++ [] = compactChars other ++ [] := by
    simpa using String.ofList_inj.1 same
  have ends : NoDigitFirst [] := fun c found => by cases found
  exact (readable value other [] [] ends ends chars).1

end BombMission.Json
