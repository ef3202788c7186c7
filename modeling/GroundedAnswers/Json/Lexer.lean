import GroundedAnswers.Json.Basic

namespace GroundedAnswers.Json

open Number

/-! The tokens of a JSON text. -/

inductive Token where
  | openArray
  | closeArray
  | openObject
  | closeObject
  | comma
  | colon
  | null
  | bool (value : Bool)
  | number (value : Numeral)
  | string (value : String)
  | garbled

/-! ## Strings -/

/-- One piece of a string literal: a character, or a 16-bit unit given by an escape. -/
inductive Piece where
  | character (value : Char)
  | unit (value : Nat)

def hexDigit? (character : Char) : Option Nat :=
  if character.isDigit then some (character.toNat - '0'.toNat)
  else if 'a' ≤ character ∧ character ≤ 'f' then some (character.toNat - 'a'.toNat + 10)
  else if 'A' ≤ character ∧ character ≤ 'F' then some (character.toNat - 'A'.toNat + 10)
  else none

def hexUnit? (first second third fourth : Char) : Option Nat := do
  let a ← hexDigit? first
  let b ← hexDigit? second
  let c ← hexDigit? third
  let d ← hexDigit? fourth
  return ((a * 16 + b) * 16 + c) * 16 + d

def shortEscape? : Char → Option Char
  | '"' => some '"'
  | '\\' => some '\\'
  | '/' => some '/'
  | 'b' => some '\x08'
  | 'f' => some '\x0c'
  | 'n' => some '\n'
  | 'r' => some '\r'
  | 't' => some '\t'
  | _ => none

/-- The pieces up to the closing quote, and the text behind it. Control characters have to be
escaped. -/
def pieces? : List Char → Option (List Piece × List Char)
  | [] => none
  | '"' :: rest => some ([], rest)
  | '\\' :: 'u' :: first :: second :: third :: fourth :: rest => do
      let unit ← hexUnit? first second third fourth
      let (pieces, remaining) ← pieces? rest
      return (.unit unit :: pieces, remaining)
  | '\\' :: letter :: rest => do
      let character ← shortEscape? letter
      let (pieces, remaining) ← pieces? rest
      return (.character character :: pieces, remaining)
  | character :: rest =>
      if character = '\\' ∨ character.toNat < 0x20 then none
      else do
        let (pieces, remaining) ← pieces? rest
        return (.character character :: pieces, remaining)

theorem pieces?_length {text remaining : List Char} {pieces : List Piece}
    (read : pieces? text = some (pieces, remaining)) : remaining.length < text.length := by
  fun_induction pieces? text generalizing pieces remaining with
  | case1 => simp at read
  | case2 rest =>
      simp only [Option.some.injEq, Prod.mk.injEq] at read
      simp [read.2]
  | case3 first second third fourth rest induction =>
      simp only [Option.bind_eq_bind, Option.bind_eq_some_iff, Option.pure_def,
        Option.some.injEq, Prod.mk.injEq] at read
      obtain ⟨_, _, ⟨_, _⟩, inner, _, rfl⟩ := read
      have := induction inner
      simp only [List.length_cons]
      omega
  | case4 letter rest _ induction =>
      simp only [Option.bind_eq_bind, Option.bind_eq_some_iff, Option.pure_def,
        Option.some.injEq, Prod.mk.injEq] at read
      obtain ⟨_, _, ⟨_, _⟩, inner, _, rfl⟩ := read
      have := induction inner
      simp only [List.length_cons]
      omega
  | case5 => simp at read
  | case6 character rest _ _ _ _ induction =>
      simp only [Option.bind_eq_bind, Option.bind_eq_some_iff, Option.pure_def,
        Option.some.injEq, Prod.mk.injEq] at read
      obtain ⟨⟨_, _⟩, inner, _, rfl⟩ := read
      have := induction inner
      simp only [List.length_cons]
      omega

def isHighSurrogate (unit : Nat) : Bool :=
  0xD800 ≤ unit ∧ unit < 0xDC00

def isLowSurrogate (unit : Nat) : Bool :=
  0xDC00 ≤ unit ∧ unit < 0xE000

/-- The text of the pieces. Two surrogates in a row make one character, and a surrogate that stands
alone is no text. -/
def joinPieces? : List Piece → Option (List Char)
  | [] => some []
  | .character value :: rest => (joinPieces? rest).map (value :: ·)
  | .unit high :: .unit low :: rest =>
      if isHighSurrogate high then
        if isLowSurrogate low then
          (joinPieces? rest).map
            (Char.ofNat (0x10000 + (high - 0xD800) * 0x400 + (low - 0xDC00)) :: ·)
        else none
      else if isLowSurrogate high then none
      else (joinPieces? (.unit low :: rest)).map (Char.ofNat high :: ·)
  | .unit value :: rest =>
      if isHighSurrogate value ∨ isLowSurrogate value then none
      else (joinPieces? rest).map (Char.ofNat value :: ·)

/-! ## Numbers -/

def someDigits? (text : List Char) : Option (List Nat × List Char) :=
  match leadingDigits text with
  | ([], _) => none
  | (digits, rest) => some (digits, rest)

/-- The digits in front of the point: a single zero, or digits that start with another one. -/
def wholeDigits? : List Char → Option (List Nat × List Char)
  | '0' :: rest => some ([0], rest)
  | text => someDigits? text

def fractionDigits? : List Char → Option (Option (List Nat) × List Char)
  | '.' :: rest => (someDigits? rest).map fun (digits, remaining) => (some digits, remaining)
  | text => some (none, text)

def exponentPart? : List Char → Option (Option Exponent × List Char)
  | mark :: rest =>
      if mark = 'e' ∨ mark = 'E' then
        let (negative, unsigned) := signOf rest
        (someDigits? unsigned).map fun (digits, remaining) => (some ⟨negative, digits⟩, remaining)
      else some (none, mark :: rest)
  | [] => some (none, [])

def unsignedNumeral? (negative : Bool) (text : List Char) : Option (Numeral × List Char) := do
  let (whole, behindWhole) ← wholeDigits? text
  let (fraction, behindFraction) ← fractionDigits? behindWhole
  let (exponent, rest) ← exponentPart? behindFraction
  return (⟨negative, whole, fraction, exponent⟩, rest)

def numeral? : List Char → Option (Numeral × List Char)
  | '-' :: rest => unsignedNumeral? true rest
  | text => unsignedNumeral? false text

theorem someDigits?_length {text rest : List Char} {digits : List Nat}
    (read : someDigits? text = some (digits, rest)) : rest.length < text.length := by
  cases text with
  | nil => simp [someDigits?, leadingDigits] at read
  | cons character text =>
      simp only [someDigits?, leadingDigits] at read
      cases digit : digitOf? character with
      | none => simp [digit] at read
      | some value =>
          simp only [digit, Option.some.injEq, Prod.mk.injEq] at read
          have := leadingDigits_length text
          simp only [← read.2, List.length_cons]
          omega

theorem wholeDigits?_length {text rest : List Char} {digits : List Nat}
    (read : wholeDigits? text = some (digits, rest)) : rest.length < text.length := by
  unfold wholeDigits? at read
  split at read
  · simp only [Option.some.injEq, Prod.mk.injEq] at read
    simp [read.2]
  · exact someDigits?_length read

theorem fractionDigits?_length {text rest : List Char} {digits : Option (List Nat)}
    (read : fractionDigits? text = some (digits, rest)) : rest.length ≤ text.length := by
  unfold fractionDigits? at read
  split at read
  · simp only [Option.map_eq_some_iff, Prod.mk.injEq, Prod.exists] at read
    obtain ⟨_, _, inner, _, rfl⟩ := read
    exact Nat.le_succ_of_le (Nat.le_of_lt (someDigits?_length inner))
  · simp only [Option.some.injEq, Prod.mk.injEq] at read
    simp [read.2]

theorem signOf_length (text : List Char) : (signOf text).2.length ≤ text.length := by
  unfold signOf
  split <;> simp

theorem exponentPart?_length {text rest : List Char} {exponent : Option Exponent}
    (read : exponentPart? text = some (exponent, rest)) : rest.length ≤ text.length := by
  unfold exponentPart? at read
  split at read
  · rename_i mark behind
    split at read
    · simp only [Option.map_eq_some_iff, Prod.mk.injEq, Prod.exists] at read
      obtain ⟨_, _, inner, _, rfl⟩ := read
      have := someDigits?_length inner
      have := signOf_length behind
      simp only [List.length_cons]
      omega
    · simp only [Option.some.injEq, Prod.mk.injEq] at read
      simp [← read.2]
  · simp only [Option.some.injEq, Prod.mk.injEq] at read
    simp [← read.2]

theorem unsignedNumeral?_length {negative : Bool} {text rest : List Char} {numeral : Numeral}
    (read : unsignedNumeral? negative text = some (numeral, rest)) :
    rest.length < text.length := by
  simp only [unsignedNumeral?, Option.bind_eq_bind, Option.bind_eq_some_iff, Option.pure_def,
    Option.some.injEq, Prod.mk.injEq, Prod.exists] at read
  obtain ⟨_, _, whole, _, _, fraction, _, _, exponent, _, rfl⟩ := read
  have := wholeDigits?_length whole
  have := fractionDigits?_length fraction
  have := exponentPart?_length exponent
  omega

theorem numeral?_length {text rest : List Char} {numeral : Numeral}
    (read : numeral? text = some (numeral, rest)) : rest.length < text.length := by
  unfold numeral? at read
  split at read
  · exact Nat.lt_succ_of_lt (unsignedNumeral?_length read)
  · exact unsignedNumeral?_length read

/-! ## Texts -/

def tokens? : List Char → Option (List Token)
  | [] => some []
  | ' ' :: rest | '\t' :: rest | '\n' :: rest | '\r' :: rest => tokens? rest
  | '[' :: rest => (tokens? rest).map (.openArray :: ·)
  | ']' :: rest => (tokens? rest).map (.closeArray :: ·)
  | '\x7b' :: rest => (tokens? rest).map (.openObject :: ·)
  | '\x7d' :: rest => (tokens? rest).map (.closeObject :: ·)
  | ',' :: rest => (tokens? rest).map (.comma :: ·)
  | ':' :: rest => (tokens? rest).map (.colon :: ·)
  | 'n' :: 'u' :: 'l' :: 'l' :: rest => (tokens? rest).map (.null :: ·)
  | 't' :: 'r' :: 'u' :: 'e' :: rest => (tokens? rest).map (.bool true :: ·)
  | 'f' :: 'a' :: 'l' :: 's' :: 'e' :: rest => (tokens? rest).map (.bool false :: ·)
  | '"' :: rest =>
      match _ : pieces? rest with
      | none => none
      | some (pieces, remaining) =>
          let token :=
            match joinPieces? pieces with
            | some characters => .string (String.ofList characters)
            | none => .garbled
          (tokens? remaining).map (token :: ·)
  | character :: rest =>
      match _ : numeral? (character :: rest) with
      | none => none
      | some (numeral, remaining) => (tokens? remaining).map (.number numeral :: ·)
termination_by text => text.length
decreasing_by
  all_goals try (simp only [List.length_cons]; omega)
  · have := pieces?_length ‹pieces? rest = _›
    simp only [List.length_cons]
    omega
  · exact numeral?_length ‹_›

end GroundedAnswers.Json
