import GroundedAnswers.Number.Numeral
import GroundedAnswers.Number.Shortest

namespace GroundedAnswers

open Number

/-! JSON values. Numbers stay numerals, so a number that nobody asks for is never out of range, and
members keep their order and their repetitions until somebody looks at them. -/

inductive Json where
  | null
  | bool (value : Bool)
  | number (value : Numeral)
  | string (value : String)
  /-- A string whose escapes are no Unicode text, or an object with such a name. -/
  | garbled
  | array (items : List Json)
  | object (members : List (String × Json))
  deriving Inhabited

namespace Json

def ofInt (value : Int) : Json :=
  .number (.ofInt value)

def ofNat (value : Nat) : Json :=
  .number (.ofInt value)

def ofStrings (values : List String) : Json :=
  .array (values.map .string)

def ofDecimalText (text : String) : Json :=
  match looseNumeral? text.toList with
  | some numeral => .number numeral
  | none => .null

/-- The shortest numeral of a number; one that is not finite has none and becomes null. -/
def ofFloat32 (value : Float32) : Json :=
  match shortestText? binary32 layout32 value.toBits.toNat with
  | some text => ofDecimalText text
  | none => .null

def ofFloat (value : Float) : Json :=
  match shortestText? binary64 layout64 value.toBits.toNat with
  | some text => ofDecimalText text
  | none => .null

def ofOption (encode : α → Json) : Option α → Json
  | none => .null
  | some value => encode value

def ofMembers (members : List (String × Option Json)) : Json :=
  .object (members.filterMap fun (name, value) => value.map fun value => (name, value))

/-- The value of the last member with a name. -/
def member? (json : Json) (name : String) : Option Json :=
  match json with
  | .object members => (members.reverse.find? (·.1 == name)).map (·.2)
  | _ => none

/-- Put a member into a sorted list, in place of one with the same name. -/
def putMember (name : String) (value : α) : List (String × α) → List (String × α)
  | [] => [(name, value)]
  | (other, present) :: members =>
      if name = other then (name, value) :: members
      else if name < other then (name, value) :: (other, present) :: members
      else (other, present) :: putMember name value members

def string? : Json → Option String
  | .string value => some value
  | _ => none

end Json

end GroundedAnswers
