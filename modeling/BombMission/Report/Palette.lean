/-!
# Colours of reports

A report may be coloured for terminals. A style puts its control sequence before a text and the one
that ends all styles behind it; without colours the text stays as it is.
-/

namespace BombMission

inductive Style where
  | bold
  | dim
  | red
  | green
  | yellow
  | blue
  | cyan
  | gray
  deriving DecidableEq, Repr

def Style.code : Style → String
  | bold => "1"
  | dim => "2"
  | red => "31"
  | green => "32"
  | yellow => "33"
  | blue => "34"
  | cyan => "36"
  | gray => "90"

def controlSequence (code : String) : String :=
  "\x1b[" ++ code ++ "m"

def paint (colored : Bool) (style : Style) (text : String) : String :=
  if colored then controlSequence style.code ++ text ++ controlSequence "0" else text

/-- A text with blanks behind it up to a width. Control sequences count. -/
def padTo (width : Nat) (text : String) : String :=
  String.ofList (text.toList ++ List.replicate (width - text.length) ' ')

@[simp] theorem paint_plain (style : Style) (text : String) : paint false style text = text := rfl

end BombMission
