import BombMission.Text.Printable

/-!
# Quoted text

`quote` shows a text between double quotes so that every character of it can be seen: a quote and a
backslash get a backslash before them, the common control characters are named, and any other
character that is not printable is given by its code point, as in `\u{200b}`.
-/

namespace BombMission.Text

def quoteChar (c : Char) : List Char :=
  if c = '\t' then ['\\', 't']
  else if c = '\r' then ['\\', 'r']
  else if c = '\n' then ['\\', 'n']
  else if c = '\x00' then ['\\', '0']
  else if c = '"' then ['\\', '"']
  else if c = '\\' then ['\\', '\\']
  else if isPrintable c then [c]
  else ['\\', 'u', '\x7b'] ++ Nat.toDigits 16 c.toNat ++ ['\x7d']

/-- A text between double quotes, with every character shown. -/
def quote (text : String) : String :=
  String.ofList ('"' :: text.toList.flatMap quoteChar ++ ['"'])

/-- A printable character other than a quote and a backslash stands for itself. -/
theorem quoteChar_self {c : Char} (printable : isPrintable c = true) (notQuote : c ≠ '"')
    (notBackslash : c ≠ '\\') : quoteChar c = [c] := by
  have differs : ∀ d, isPrintable d = false → c ≠ d := by
    rintro d hidden rfl
    simp [printable] at hidden
  have hidden : ∀ d ∈ ['\t', '\r', '\n', '\x00'], isPrintable d = false := by
    simp [isPrintable]
  simp [quoteChar, notQuote, notBackslash, printable, differs _ (hidden '\t' (by decide)),
    differs _ (hidden '\r' (by decide)), differs _ (hidden '\n' (by decide)),
    differs _ (hidden '\x00' (by decide))]

end BombMission.Text
