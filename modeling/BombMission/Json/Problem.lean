import BombMission.Decimal.Written
import BombMission.Text.Quoted

/-!
# Problems with JSON text

Reading stops at the first problem, from left to right. The text may end too early, break the rules
of JSON, or hold a well-formed value where a value of another kind is wanted.
-/

namespace BombMission.Json

/-- A number as it is read. Whole numbers that 64 bits do not hold, numbers with a fraction or an
exponent, and a negative zero are floating. -/
inductive Number where
  | natural (value : Nat)
  /-- A whole number below zero, without its sign. -/
  | negative (value : Nat)
  | floating (value : Float)

def Number.description : Number → String
  | natural value => "integer `" ++ toString value ++ "`"
  | negative value => "integer `-" ++ toString value ++ "`"
  | floating value => "floating point `" ++ Decimal.write value ++ "`"

/-- A value that stands where another kind of value is wanted. -/
inductive Found where
  | null
  | boolean (value : Bool)
  | number (value : Number)
  | string (value : String)
  | list
  | record

def Found.description : Found → String
  | null => "null"
  | boolean value => "boolean `" ++ (if value then "true" else "false") ++ "`"
  | number value => value.description
  | string value => "string " ++ Text.quote value
  | list => "sequence"
  | record => "map"

/-- How a well-formed value differs from what is wanted. -/
inductive Mismatch where
  | wrongKind (found : Found) (wanted : String)
  /-- A number out of the range that is wanted. -/
  | outOfRange (found : Number) (wanted : String)
  | missingField (key : String)
  | duplicateField (key : String)
  /-- A list that stands for a record and has too few of its fields. -/
  | tooShort (length : Nat) (wanted : String) (fields : Nat)
  /-- A value that is refused for a reason of its own. -/
  | refused (reason : String)

def Mismatch.message : Mismatch → String
  | wrongKind found wanted => "invalid type: " ++ found.description ++ ", expected " ++ wanted
  | outOfRange found wanted => "invalid value: " ++ found.description ++ ", expected " ++ wanted
  | missingField key => "missing field `" ++ key ++ "`"
  | duplicateField key => "duplicate field `" ++ key ++ "`"
  | tooShort length wanted fields =>
    "invalid length " ++ toString length ++ ", expected " ++ wanted ++ " with " ++
      toString fields ++ " elements"
  | refused reason => reason

/-- The first problem of a text. -/
inductive Problem where
  | truncated
  /-- The text breaks the rules of JSON. -/
  | malformed
  | mismatch (mismatch : Mismatch)

def Problem.message : Problem → String
  | truncated => "the text ends too early"
  | malformed => "the text breaks the rules of JSON"
  | mismatch cause => cause.message

end BombMission.Json
