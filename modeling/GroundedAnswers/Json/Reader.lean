import GroundedAnswers.Json.Lexer

namespace GroundedAnswers.Json

/-! Reading a JSON text: a fold over its tokens. The state holds the containers that are open and
what may come next. -/

/-- An open container, innermost first. Items and members are held in reverse order; a name waits
for its value above the object that it belongs to. -/
inductive Frame where
  | array (items : List Json)
  | object (members : List (String × Json))
  | name (value : String)
  /-- An object in which a name is no Unicode text. -/
  | garbledObject

inductive Expected where
  | value
  | firstItem
  | firstName
  | name
  | colon
  | separator

inductive Progress where
  | reading (frames : List Frame) (expected : Expected)
  | finished (value : Json)
  | failed

def Progress.place (value : Json) : List Frame → Progress
  | [] => .finished value
  | .array items :: frames => .reading (.array (value :: items) :: frames) .separator
  | .name name :: .object members :: frames =>
      .reading (.object ((name, value) :: members) :: frames) .separator
  | .garbledObject :: frames => .reading (.garbledObject :: frames) .separator
  | _ => .failed

/-- Take in the name of a member. A name that is no text spoils the object around it. -/
def Progress.name : List Frame → Token → Progress
  | .object members :: frames, .string name =>
      .reading (.name name :: .object members :: frames) .colon
  | .object _ :: frames, .garbled => .reading (.garbledObject :: frames) .colon
  | .garbledObject :: frames, .string _ | .garbledObject :: frames, .garbled =>
      .reading (.garbledObject :: frames) .colon
  | _, _ => .failed

def Token.scalar? : Token → Option Json
  | .null => some .null
  | .bool value => some (.bool value)
  | .number value => some (.number value)
  | .string value => some (.string value)
  | .garbled => some .garbled
  | _ => none

def Progress.start (frames : List Frame) : Token → Progress
  | .openArray => .reading (.array [] :: frames) .firstItem
  | .openObject => .reading (.object [] :: frames) .firstName
  | token =>
      match token.scalar? with
      | some value => .place value frames
      | none => .failed

def Progress.feed : Progress → Token → Progress
  | .reading frames .value, token => .start frames token
  | .reading (.array [] :: frames) .firstItem, .closeArray => .place (.array []) frames
  | .reading frames .firstItem, token => .start frames token
  | .reading (.object [] :: frames) .firstName, .closeObject => .place (.object []) frames
  | .reading frames .firstName, token => .name frames token
  | .reading frames .name, token => .name frames token
  | .reading frames .colon, .colon => .reading frames .value
  | .reading (.array items :: frames) .separator, .comma => .reading (.array items :: frames) .value
  | .reading (.array items :: frames) .separator, .closeArray =>
      .place (.array items.reverse) frames
  | .reading (.object members :: frames) .separator, .comma =>
      .reading (.object members :: frames) .name
  | .reading (.object members :: frames) .separator, .closeObject =>
      .place (.object members.reverse) frames
  | .reading (.garbledObject :: frames) .separator, .comma =>
      .reading (.garbledObject :: frames) .name
  | .reading (.garbledObject :: frames) .separator, .closeObject => .place .garbled frames
  | _, _ => .failed

def read? (text : String) : Option Json := do
  match (← tokens? text.toList).foldl Progress.feed (.reading [] .value) with
  | .finished value => some value
  | _ => none

end GroundedAnswers.Json
