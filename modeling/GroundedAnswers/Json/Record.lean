import GroundedAnswers.Json.Basic

namespace GroundedAnswers.Json

open Number

/-! Records in JSON. A record is an object with its fields as members, or an array of its fields in
order. Members that are no fields are skipped, and a repeated field is a fault. -/

/-- What a record holds for one field: a value, no member of that name, or an array that ended
before it. -/
inductive Slot where
  | present (value : Json)
  | absent
  | cutOff

def memberSlot? (members : List (String × Json)) (name : String) : Option Slot :=
  match members.filter (·.1 == name) with
  | [] => some .absent
  | [(_, value)] => some (.present value)
  | _ => none

def slots? (names : List String) : Json → Option (List Slot)
  | .object members => names.mapM (memberSlot? members)
  | .array items =>
      if items.length ≤ names.length then
        some (items.map .present ++ List.replicate (names.length - items.length) .cutOff)
      else none
  | _ => none

def Slot.required (decode : Json → Option α) : Slot → Option α
  | .present value => decode value
  | _ => none

/-- A field with a default. Null is no way to leave it out. -/
def Slot.withDefault (default : α) (decode : Json → Option α) : Slot → Option α
  | .present value => decode value
  | _ => some default

def nullable (decode : Json → Option α) : Json → Option (Option α)
  | .null => some none
  | value => (decode value).map some

/-- A field that an object may leave out, but an array may not. -/
def Slot.optional (decode : Json → Option α) : Slot → Option (Option α)
  | .present value => nullable decode value
  | .absent => some none
  | .cutOff => none

def Slot.optionalWithDefault (decode : Json → Option α) : Slot → Option (Option α) :=
  Slot.withDefault none (nullable decode)

/-! ## Values of fields -/

def bool? : Json → Option Bool
  | .bool value => some value
  | _ => none

def natBelow? (bound : Nat) : Json → Option Nat
  | .number numeral =>
      match numeral.toInt? with
      | some value => if 0 ≤ value ∧ value < bound then some value.toNat else none
      | none => none
  | _ => none

def uint32? (json : Json) : Option UInt32 :=
  (natBelow? UInt32.size json).map Nat.toUInt32

def uint64? (json : Json) : Option UInt64 :=
  (natBelow? UInt64.size json).map Nat.toUInt64

def int32? : Json → Option Int32
  | .number numeral =>
      match numeral.toInt? with
      | some value => if -0x80000000 ≤ value ∧ value < 0x80000000 then some value.toInt32 else none
      | none => none
  | _ => none

/-- A number in single precision. Whole numbers are rounded once, others pass through double
precision. -/
def float32? : Json → Option Float32
  | .number numeral =>
      match numeral.toInt? with
      | some value => some (narrowInt value)
      | none => numeral.toFloat?.map narrow
  | _ => none

def float? : Json → Option Float
  | .number numeral =>
      match numeral.toInt? with
      | some value => some (floatOfInt value)
      | none => numeral.toFloat?
  | _ => none

def list? (decode : Json → Option α) : Json → Option (List α)
  | .array items => items.mapM decode
  | _ => none

/-- The name of an alternative without fields: a string, or an object with the name as its only
member and null as its value. -/
def alternative? : Json → Option String
  | .string name => some name
  | .object [(name, .null)] => some name
  | _ => none

end GroundedAnswers.Json
