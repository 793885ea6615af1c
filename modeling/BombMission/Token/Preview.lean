import BombMission.Text.Quoted
import BombMission.Token.Basic

/-!
# Previews of tokens

A trace of a compilation lists every token with the name of its kind and a preview of what it stands
for, such as `300s` for a time or `2x "Wires" unique` for a pool.
-/

namespace BombMission

def TokenKind.name : TokenKind → String
  | time _ => "time"
  | strikes _ => "strikes"
  | setting .. => "setting"
  | pool _ => "pool"
  | groupOpen _ => "open"
  | groupClose => "close"

/-- A count in digits. A missing count is one. -/
def countText (count : Option Nat) : String :=
  toString (count.getD 1)

def TokenKind.meaning : TokenKind → String
  | time seconds => toString seconds ++ "s"
  | strikes limit => toString limit
  | setting name none => name.keyword
  | setting name (some value) => name.keyword ++ "=" ++ value
  | pool text =>
    countText text.count ++ "x " ++ Text.quote text.body ++ if text.unique then " unique" else ""
  | groupOpen copies => "x" ++ countText copies
  | groupClose => ""

def previewLength : Nat := 80

/-- What a token stands for, cut to the length of a preview. -/
def Token.preview (token : Token) : String :=
  String.ofList (token.kind.meaning.toList.take previewLength)

end BombMission
