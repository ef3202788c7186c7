import GroundedAnswers.Json.Basic

namespace GroundedAnswers.Json

open Number

/-! Descriptions: objects that may leave out any of their fields. A field that is absent or null
counts as the empty text, zero, false or the empty list. -/

def field (json : Json) (name : String) : Json :=
  (json.member? name).getD .null

/-- Whether a field has a value other than null. -/
def has (json : Json) (name : String) : Bool :=
  match json.field name with
  | .null => false
  | _ => true

def items : Json → List Json
  | .array values => values
  | _ => []

def members : Json → List (String × Json)
  | .object values => values
  | _ => []

def whole? : Json → Option Int
  | .number numeral => numeral.toInt?
  | _ => none

def natural? (json : Json) : Option Nat :=
  json.whole?.map Int.toNat

/-- The double-precision number nearest to the exact decimal, and zero for what is no number. -/
def nearestFloat : Json → Float
  | .number numeral => numeral.nearestFloat
  | _ => 0.0

/-- A single-precision number, rounded from double precision. -/
def nearestFloat32 (json : Json) : Float32 :=
  narrow json.nearestFloat

def truth : Json → Bool
  | .bool value => value
  | _ => false

def textAt? (json : Json) (name : String) : Option String :=
  (json.field name).string?

def textAt (json : Json) (name : String) : String :=
  (json.textAt? name).getD ""

def naturalAt? (json : Json) (name : String) : Option Nat :=
  (json.field name).natural?

def naturalAt (json : Json) (name : String) : Nat :=
  (json.naturalAt? name).getD 0

def truthAt (json : Json) (name : String) : Bool :=
  (json.field name).truth

def itemsAt (json : Json) (name : String) : List Json :=
  (json.field name).items

def textsAt (json : Json) (name : String) : List String :=
  (json.itemsAt name).filterMap Json.string?

/-- An object with some members set, the last one of a name in place of the others. -/
def withMembers (json : Json) (added : List (String × Json)) : Json :=
  .object ((json.members ++ added).foldl (fun sorted (name, value) => putMember name value sorted) [])

end GroundedAnswers.Json
