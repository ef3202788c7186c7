namespace GroundedAnswers.Text.Utf8

/-! UTF-8. Decoding looks at one character at a time and tells a sequence that cannot be continued
from one that only lacks its last bytes. -/

def encode (text : String) : List UInt8 :=
  text.toList.flatMap String.utf8EncodeChar

/-- What a first byte promises: how many bytes follow, the range of the next one, and the bits it
contributes. -/
structure Lead where
  following : Nat
  lowest : UInt8
  highest : UInt8
  bits : Nat

/-- Overlong forms, surrogates and code points past the last one are ruled out by the range of the
second byte. -/
def lead? (byte : UInt8) : Option Lead :=
  if byte < 0x80 then some ⟨0, 0x80, 0xBF, byte.toNat⟩
  else if byte < 0xC2 then none
  else if byte < 0xE0 then some ⟨1, 0x80, 0xBF, byte.toNat - 0xC0⟩
  else if byte < 0xF0 then
    some ⟨2, if byte = 0xE0 then 0xA0 else 0x80, if byte = 0xED then 0x9F else 0xBF,
      byte.toNat - 0xE0⟩
  else if byte < 0xF5 then
    some ⟨3, if byte = 0xF0 then 0x90 else 0x80, if byte = 0xF4 then 0x8F else 0xBF,
      byte.toNat - 0xF0⟩
  else none

/-- Why no character can be read. `invalid length` counts the bytes that belong together up to the
one that does not fit. -/
inductive Fault where
  | invalid (length : Nat)
  | incomplete
  deriving DecidableEq, Repr

inductive Step where
  | character (value : Char) (rest : List UInt8)
  | fault (cause : Fault)

/-- Read the bytes that follow a first byte, `taken` of the sequence having been read. -/
def follow (lowest highest : UInt8) (bits taken : Nat) : Nat → List UInt8 → Step
  | 0, rest => .character (Char.ofNat bits) rest
  | _ + 1, [] => .fault .incomplete
  | count + 1, byte :: rest =>
      if lowest ≤ byte ∧ byte ≤ highest then
        follow 0x80 0xBF (bits * 64 + (byte.toNat - 0x80)) (taken + 1) count rest
      else .fault (.invalid taken)

def step : List UInt8 → Step
  | [] => .fault .incomplete
  | byte :: rest =>
      match lead? byte with
      | none => .fault (.invalid 1)
      | some lead => follow lead.lowest lead.highest lead.bits 1 lead.following rest

private theorem follow_length {lowest highest : UInt8} {bits taken count : Nat}
    {bytes rest : List UInt8} {value : Char}
    (read : follow lowest highest bits taken count bytes = .character value rest) :
    rest.length ≤ bytes.length := by
  induction count generalizing lowest highest bits taken bytes with
  | zero =>
      simp only [follow, Step.character.injEq] at read
      simp [read.2]
  | succ count induction =>
      cases bytes with
      | nil => simp [follow] at read
      | cons byte bytes =>
          simp only [follow] at read
          split at read
          · exact Nat.le_succ_of_le (induction read)
          · simp at read

theorem step_length {bytes rest : List UInt8} {value : Char}
    (read : step bytes = .character value rest) : rest.length < bytes.length := by
  cases bytes with
  | nil => simp [step] at read
  | cons byte bytes =>
      simp only [step] at read
      split at read
      · simp at read
      · exact Nat.lt_succ_of_le (follow_length read)

def decodeFront (bytes : List UInt8) : List Char × List UInt8 :=
  match _ : step bytes with
  | .character value rest =>
      let (characters, remaining) := decodeFront rest
      (value :: characters, remaining)
  | .fault _ => ([], bytes)
termination_by bytes.length
decreasing_by exact step_length ‹step bytes = _›

def decode? (bytes : List UInt8) : Option String :=
  match decodeFront bytes with
  | (characters, []) => some (String.ofList characters)
  | _ => none

/-- Decode all bytes, with one replacement character for every sequence that cannot be read. -/
def decodeReplacing (bytes : List UInt8) : List Char :=
  match _ : step bytes with
  | .character value rest => value :: decodeReplacing rest
  | .fault .incomplete => if bytes = [] then [] else ['\uFFFD']
  | .fault (.invalid length) =>
      if bytes = [] then [] else '\uFFFD' :: decodeReplacing (bytes.drop (max length 1))
termination_by bytes.length
decreasing_by
  · exact step_length ‹step bytes = _›
  · have := List.length_pos_iff.mpr ‹bytes ≠ []›
    simp only [List.length_drop]
    omega

example : decode? (encode "aé🙂") = some "aé🙂" := by decide +kernel

example : decodeReplacing [0x61, 0xE6, 0x97, 0x62] = ['a', '\uFFFD', 'b'] := by decide +kernel

end GroundedAnswers.Text.Utf8
