import GroundedAnswers.Json.Reader

namespace GroundedAnswers.Json

open Number

/-! Values in canonical form: whole numbers that fit 64 bits as integers, all other numbers as
double precision, members sorted by name, and of several members with one name the last. -/

mutual

def depth : Json → Nat
  | .array items => depthOfItems items + 1
  | .object members => depthOfMembers members + 1
  | _ => 0

def depthOfItems : List Json → Nat
  | [] => 0
  | item :: items => max (depth item) (depthOfItems items)

def depthOfMembers : List (String × Json) → Nat
  | [] => 0
  | (_, value) :: members => max (depth value) (depthOfMembers members)

end

/-- A number in canonical form; there is none for a number that is too large. -/
def canonicalNumber? (numeral : Numeral) : Option Json :=
  match numeral.toInt? with
  | some value => some (ofInt value)
  | none => numeral.toFloat?.map ofFloat

mutual

def canonical? : Json → Option Json
  | .number value => canonicalNumber? value
  | .garbled => none
  | .array items => (canonicalItems? items).map .array
  | .object members => (canonicalMembers? [] members).map .object
  | scalar => some scalar

def canonicalItems? : List Json → Option (List Json)
  | [] => some []
  | item :: items => do
      let first ← canonical? item
      let others ← canonicalItems? items
      return first :: others

def canonicalMembers? (sorted : List (String × Json)) :
    List (String × Json) → Option (List (String × Json))
  | [] => some sorted
  | (name, value) :: members => do
      let value ← canonical? value
      canonicalMembers? (putMember name value sorted) members

end

def depthLimit : Nat := 127

def readCanonical? (text : String) : Option Json := do
  let value ← read? text
  if depthLimit < value.depth then none else value.canonical?

end GroundedAnswers.Json
