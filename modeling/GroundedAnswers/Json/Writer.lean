import GroundedAnswers.Json.Basic

namespace GroundedAnswers.Json

open Number

/-! Writing JSON: all on one line without blanks, or with one item a line and two blanks a
level. -/

def digitCharacters (digits : List Nat) : List Char :=
  digits.map fun digit => Char.ofNat ('0'.toNat + digit)

def numeralText (numeral : Numeral) : String :=
  let sign := if numeral.negative then ['-'] else []
  let fraction :=
    match numeral.fraction with
    | some digits => '.' :: digitCharacters digits
    | none => []
  let exponent :=
    match numeral.exponent with
    | some exponent =>
        'e' :: (if exponent.negative then '-' else '+') :: digitCharacters exponent.digits
    | none => []
  String.ofList (sign ++ digitCharacters numeral.whole ++ fraction ++ exponent)

/-- Quotes, backslashes and control characters are escaped, everything else stands for itself. -/
def escapedCharacter (character : Char) : List Char :=
  match character with
  | '"' => ['\\', '"']
  | '\\' => ['\\', '\\']
  | '\x08' => ['\\', 'b']
  | '\x0c' => ['\\', 'f']
  | '\n' => ['\\', 'n']
  | '\r' => ['\\', 'r']
  | '\t' => ['\\', 't']
  | _ =>
      if character.toNat < 0x20 then
        "\\u00".toList ++ [Nat.digitChar (character.toNat / 16), Nat.digitChar (character.toNat % 16)]
      else [character]

def stringText (value : String) : String :=
  String.ofList ('"' :: value.toList.flatMap escapedCharacter ++ ['"'])

mutual

def compact : Json → String
  | .null => "null"
  | .bool value => if value then "true" else "false"
  | .number value => numeralText value
  | .string value => stringText value
  | .garbled => stringText ""
  | .array items => "[" ++ ",".intercalate (compactItems items) ++ "]"
  | .object members => "\x7b" ++ ",".intercalate (compactMembers members) ++ "\x7d"

def compactItems : List Json → List String
  | [] => []
  | item :: items => compact item :: compactItems items

def compactMembers : List (String × Json) → List String
  | [] => []
  | (name, value) :: members => (stringText name ++ ":" ++ compact value) :: compactMembers members

end

/-- Items between two marks, one a line; no items stand on the same line. -/
def block (first last : String) (depth : Nat) (items : List String) : String :=
  if items.isEmpty then first ++ last
  else
    let indent := fun (level : Nat) => String.ofList (List.replicate (2 * level) ' ')
    first ++ "\n" ++ ",\n".intercalate (items.map (indent (depth + 1) ++ ·)) ++ "\n" ++
      indent depth ++ last

mutual

def indented (depth : Nat) : Json → String
  | .array items => block "[" "]" depth (indentedItems (depth + 1) items)
  | .object members => block "\x7b" "\x7d" depth (indentedMembers (depth + 1) members)
  | scalar => compact scalar

def indentedItems (depth : Nat) : List Json → List String
  | [] => []
  | item :: items => indented depth item :: indentedItems depth items

def indentedMembers (depth : Nat) : List (String × Json) → List String
  | [] => []
  | (name, value) :: members =>
      (stringText name ++ ": " ++ indented depth value) :: indentedMembers depth members

end

def pretty (json : Json) : String :=
  indented 0 json

end GroundedAnswers.Json
