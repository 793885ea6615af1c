import BombMission.Proofs.Token.Layout

/-!
# The grammar of tokens

What a token may look like, said without the scanner. A grammar rule relates a text to the token at
its front and to the text behind that token; it says which characters the token is written with and
what may follow it, never how they are found. `tokenGrammar` lists the five rules in order, `FirstOf`
makes the first one that applies decide, and `Tokenized` cuts a whole text into gaps and tokens.
-/

namespace BombMission

open Text

/-- Relates a text to the token at its front and the text behind the token. -/
abbrev GrammarRule := (text : List Char) → TokenKind → (rest : List Char) → Prop

/-! ### Words -/

/-- `run` is the longest run of characters of a class at the front of `run ++ rest`. -/
structure IsRun (ofClass : Char → Bool) (run rest : List Char) : Prop where
  inside : ∀ c ∈ run, ofClass c = true
  stops : ∀ c, rest.head? = some c → ofClass c = false

/-- One to nine decimal digits and the number that they write. -/
structure IsShortNumeral (digits : List Char) (n : Nat) : Prop where
  decimal : ∀ c ∈ digits, c.isDigit = true
  one_le : 1 ≤ digits.length
  le_nine : digits.length ≤ 9
  value : n = digitsValue digits

/-- A word ends in front of a blank and at the end of the text. -/
def EndsWord (rest : List Char) : Prop :=
  ∀ c, rest.head? = some c → isBlank c = true

/-- The letters of a word, each in either ASCII case. -/
def SpellsWord (word spelling : List Char) : Prop :=
  spelling.map Char.toLower = word.map Char.toLower

/-- What is left of a text without the blanks on both sides of it. -/
structure IsTrimmed (text inner : List Char) : Prop where
  around : ∃ front back, text = front ++ inner ++ back ∧
    (∀ c ∈ front, isBlank c = true) ∧ ∀ c ∈ back, isBlank c = true
  first : ∀ c, inner.head? = some c → isBlank c = false
  last : ∀ c, inner.getLast? = some c → isBlank c = false

/-! ### Literals and settings -/

inductive ClosesGroup : GrammarRule where
  | mk {rest : List Char} : ClosesGroup (')' :: rest) .groupClose rest

/-- Minutes and seconds, or hours, minutes and seconds. -/
inductive IsClock : (clock : List Char) → (seconds : Nat) → Prop where
  | minutes {first second : List Char} {m s : Nat} :
      IsShortNumeral first m → IsShortNumeral second s →
      IsClock (first ++ ':' :: second) (60 * m + s)
  | hours {first second third : List Char} {h m s : Nat} :
      IsShortNumeral first h → IsShortNumeral second m → IsShortNumeral third s →
      IsClock (first ++ ':' :: (second ++ ':' :: third)) (3600 * h + 60 * m + s)

inductive WritesTime : GrammarRule where
  | plain {clock rest : List Char} {seconds : Nat} :
      IsClock clock seconds → EndsWord rest → WritesTime (clock ++ rest) (.time seconds) rest
  | labelled {label clock rest : List Char} {seconds : Nat} :
      SpellsWord "time:".toList label → IsClock clock seconds → EndsWord rest →
      WritesTime (label ++ (clock ++ rest)) (.time seconds) rest

inductive WritesStrikes : GrammarRule where
  | mk {digits rest : List Char} {limit : Nat} {x : Char} :
      IsShortNumeral digits limit → x = 'x' ∨ x = 'X' → EndsWord rest →
      WritesStrikes (digits ++ x :: rest) (.strikes limit) rest

/-- A value stands behind a colon, up to a blank or a closing bracket. -/
inductive WritesSetting : GrammarRule where
  | bare {keyword rest : List Char} {name : SettingName} :
      SpellsWord name.keyword.toList keyword → rest.head? ≠ some ':' →
      WritesSetting (keyword ++ rest) (.setting name none) rest
  | valued {keyword value rest : List Char} {name : SettingName} :
      SpellsWord name.keyword.toList keyword →
      IsRun (fun c => !(isBlank c || c = ')')) value rest →
      WritesSetting (keyword ++ ':' :: (value ++ rest))
        (.setting name (some (String.ofList value))) rest

/-! ### Groups and pools -/

/-- A number of copies or of places: digits, perhaps a mark for distinct modules, and a star or a
semicolon with blanks around it. -/
inductive IsCount : (spelling : List Char) → (count : Nat) → (unique : Bool) → Prop where
  | mk {digits mark before behind : List Char} {count : Nat} {unique : Bool} {sign : Char} :
      IsShortNumeral digits count → mark = (if unique then ['!'] else []) →
      (∀ c ∈ before, isBlank c = true) → sign = ';' ∨ sign = '*' →
      (∀ c ∈ behind, isBlank c = true) →
      IsCount (digits ++ (mark ++ (before ++ sign :: behind))) count unique

/-- Something stands here that is no blank, no closing bracket and not the end of the text. -/
def GoesOn (text : List Char) : Prop :=
  ∃ c rest, text = c :: rest ∧ isBlank c = false ∧ c ≠ ')'

/-- Id characters, quoted runs and separators with blanks behind them. The flag tells whether a quote
is left open, which lets the run end in the middle of it. -/
inductive BodyRun : (run : List Char) → (unclosedQuote : Bool) → Prop where
  | nil : BodyRun [] false
  | plain {c : Char} {run : List Char} {unclosed : Bool} :
      isQuoteMark c = false → isSeparator c = false → isBlank c = false → c ≠ ')' →
      BodyRun run unclosed → BodyRun (c :: run) unclosed
  | quoted {mark : Char} {inner run : List Char} {unclosed : Bool} :
      isQuoteMark mark = true → mark ∉ inner → BodyRun run unclosed →
      BodyRun (mark :: (inner ++ mark :: run)) unclosed
  | separator {c : Char} {blanks run : List Char} {unclosed : Bool} :
      isSeparator c = true → (∀ b ∈ blanks, isBlank b = true) → BodyRun run unclosed →
      BodyRun (c :: (blanks ++ run)) unclosed
  | unclosed {mark : Char} {inner : List Char} :
      isQuoteMark mark = true → mark ∉ inner → BodyRun (mark :: inner) true

/-- A run at the front of a text. A quote is left open by the end of the text only. -/
structure IsBodyRun (run rest : List Char) (unclosed : Bool) : Prop where
  run : BodyRun run unclosed
  atEnd : unclosed = true → rest = []

/-- The longest of all runs at the front of the text. -/
structure IsPoolBody (body rest : List Char) (unclosed : Bool) : Prop extends
    IsBodyRun body rest unclosed where
  nonempty : body ≠ []
  longest : ∀ run more flag, run ++ more = body ++ rest → IsBodyRun run more flag →
    run.length ≤ body.length

/-- What a body says: the ids without quotes and outer blanks, and whether it ends in the mark for
distinct modules. The mark alone is none, and neither is one behind an open quote. -/
inductive IsPoolText (count : Option Nat) (unique : Bool) :
    (body : List Char) → (unclosed : Bool) → PoolText → Prop where
  | marked {own ids : List Char} :
      own ≠ [] → IsTrimmed (own.filter fun c => !isQuoteMark c) ids →
      IsPoolText count unique (own ++ ['!']) false
        { body := String.ofList ids, count, unique := true, unclosedQuote := false }
  | unmarked {body ids : List Char} {unclosed : Bool} :
      (∀ own, own ≠ [] → body = own ++ ['!'] → unclosed = true) →
      IsTrimmed (body.filter fun c => !isQuoteMark c) ids →
      IsPoolText count unique body unclosed
        { body := String.ofList ids, count, unique, unclosedQuote := unclosed }

/-- An opening bracket, or else the body of a pool. -/
inductive OpensOrFills (count : Option Nat) (unique : Bool) : GrammarRule where
  | opens {rest : List Char} : OpensOrFills count unique ('(' :: rest) (.groupOpen count) rest
  | fills {body rest : List Char} {unclosed : Bool} {pool : PoolText} :
      (body ++ rest).head? ≠ some '(' → IsPoolBody body rest unclosed →
      IsPoolText count unique body unclosed pool →
      OpensOrFills count unique (body ++ rest) (.pool pool) rest

/-- A group or a pool. A count in front of it is one exactly when the text goes on behind it. -/
inductive WritesGroupOrPool : GrammarRule where
  | counted {spelling text rest : List Char} {count : Nat} {unique : Bool} {kind : TokenKind} :
      IsCount spelling count unique → GoesOn text →
      OpensOrFills (some count) unique text kind rest →
      WritesGroupOrPool (spelling ++ text) kind rest
  | plain {text rest : List Char} {kind : TokenKind} :
      (∀ spelling more count unique, text = spelling ++ more → IsCount spelling count unique →
        ¬ GoesOn more) →
      OpensOrFills none false text kind rest → WritesGroupOrPool text kind rest

/-! ### Texts -/

/-- The first of some rules that applies to a text decides. -/
inductive FirstOf : List GrammarRule → GrammarRule where
  | here {rule : GrammarRule} {rules : List GrammarRule} {text rest : List Char}
      {kind : TokenKind} : rule text kind rest → FirstOf (rule :: rules) text kind rest
  | later {rule : GrammarRule} {rules : List GrammarRule} {text rest : List Char}
      {kind : TokenKind} : (∀ kind rest, ¬ rule text kind rest) → FirstOf rules text kind rest →
      FirstOf (rule :: rules) text kind rest

/-- The rules in the order in which they are tried. -/
def tokenGrammar : List GrammarRule :=
  [ClosesGroup, WritesTime, WritesStrikes, WritesSetting, WritesGroupOrPool]

/-- Whether a text goes on with a gap. -/
def StartsGap (text : List Char) : Prop :=
  (∃ c, text.head? = some c ∧ isBlank c = true) ∨ ['/', '/'] <+: text ∨ ['/', '*'] <+: text

/-- The tokens of a text that starts at a byte of the whole, by the grammar. -/
inductive Tokenized : (start : Nat) → (text : List Char) → List Token → Prop where
  | gap {start : Nat} {text : List Char} : IsGap text [] → Tokenized start text []
  | token {start : Nat} {gap spelling rest : List Char} {kind : TokenKind} {tokens : List Token} :
      IsGap gap (spelling ++ rest) → ¬ StartsGap (spelling ++ rest) →
      FirstOf tokenGrammar (spelling ++ rest) kind rest →
      Tokenized (start + byteSize gap + byteSize spelling) rest tokens →
      Tokenized start (gap ++ spelling ++ rest)
        ({ kind
           start := start + byteSize gap
           stop := start + byteSize gap + byteSize spelling
           spelling := String.ofList spelling } :: tokens)

end BombMission
