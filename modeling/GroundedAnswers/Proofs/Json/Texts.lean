import GroundedAnswers.Json.Reader
import GroundedAnswers.Proofs.Json.Numerals
import Mathlib.Data.List.Forall2

namespace GroundedAnswers.Json

open Number

/-! A JSON value is read back from its text: all strings, and all numerals that JSON allows. -/

/-! ## Strings -/

/-- How a character within quotes is read: as itself, or by its number. -/
inductive ReadsAs (character : Char) : Piece → Prop
  | itself : ReadsAs character (.character character)
  | byNumber (control : character.toNat < 0x20) : ReadsAs character (.unit character.toNat)

private theorem hexUnit?_control {number : Nat} (control : number < 0x20) :
    hexUnit? '0' '0' (Nat.digitChar (number / 16)) (Nat.digitChar (number % 16)) = some number := by
  have all : ∀ number < 0x20,
      hexUnit? '0' '0' (Nat.digitChar (number / 16)) (Nat.digitChar (number % 16)) = some number := by
    decide
  exact all number control

def inFront (piece : Piece) (found : List Piece × List Char) : List Piece × List Char :=
  (piece :: found.1, found.2)

private theorem pieces?_short {letter character : Char}
    (short : shortEscape? letter = some character) (rest : List Char) :
    pieces? ('\\' :: letter :: rest) = (pieces? rest).map (inFront (.character character)) := by
  rw [pieces?]
  · rw [short]
    cases pieces? rest <;> rfl
  · intro first second third fourth others isUnit
    subst isUnit
    cases short

private theorem pieces?_unit {first second third fourth : Char} {unit : Nat}
    (isUnit : hexUnit? first second third fourth = some unit) (rest : List Char) :
    pieces? ('\\' :: 'u' :: first :: second :: third :: fourth :: rest) =
      (pieces? rest).map (inFront (.unit unit)) := by
  rw [pieces?, isUnit]
  cases pieces? rest <;> rfl

private theorem pieces?_plain {character : Char} (noQuote : character ≠ '"')
    (noBackslash : character ≠ '\\') (plain : ¬character.toNat < 0x20) (rest : List Char) :
    pieces? (character :: rest) = (pieces? rest).map (inFront (.character character)) := by
  rw [pieces?]
  · rw [if_neg (by simp [noBackslash, plain])]
    cases pieces? rest <;> rfl
  · exact noQuote
  · exact fun _ _ _ _ _ same => absurd same noBackslash
  · exact fun _ _ same => absurd same noBackslash

private theorem exists_piece (character : Char) :
    ∃ piece, ReadsAs character piece ∧ ∀ rest, pieces? (escapedCharacter character ++ rest) =
      (pieces? rest).map (inFront piece) := by
  fun_cases escapedCharacter character with
  | case1 | case2 | case3 | case4 | case5 | case6 | case7 =>
      exact ⟨_, .itself, pieces?_short rfl⟩
  | case8 character control =>
      rw [if_pos control]
      exact ⟨_, .byNumber control, pieces?_unit (hexUnit?_control control)⟩
  | case9 character plain noQuote noBackslash =>
      rw [if_neg plain]
      exact ⟨_, .itself, pieces?_plain noQuote noBackslash plain⟩

private theorem exists_pieces (value rest : List Char) :
    ∃ pieces, List.Forall₂ ReadsAs value pieces ∧
      pieces? (value.flatMap escapedCharacter ++ '"' :: rest) = some (pieces, rest) := by
  induction value with
  | nil => exact ⟨[], .nil, by simp [pieces?]⟩
  | cons character value induction =>
      obtain ⟨pieces, each, read⟩ := induction
      obtain ⟨piece, readsAs, found⟩ := exists_piece character
      refine ⟨piece :: pieces, .cons readsAs each, ?_⟩
      rw [List.flatMap_cons, List.append_assoc, found, read]
      rfl

private theorem joinPieces?_unit {unit : Nat} (noHigh : isHighSurrogate unit = false)
    (noLow : isLowSurrogate unit = false) (pieces : List Piece) :
    joinPieces? (.unit unit :: pieces) = (joinPieces? pieces).map (Char.ofNat unit :: ·) := by
  cases pieces with
  | nil => simp [joinPieces?, noHigh, noLow]
  | cons piece pieces => cases piece <;> simp [joinPieces?, noHigh, noLow]

private theorem joinPieces?_of_readsAs {value : List Char} {pieces : List Piece}
    (each : List.Forall₂ ReadsAs value pieces) : joinPieces? pieces = some value := by
  induction each with
  | nil => rfl
  | @cons character piece value pieces readsAs each induction =>
      cases readsAs with
      | itself => rw [joinPieces?, induction, Option.map_some]
      | byNumber control =>
          have noHigh : isHighSurrogate character.toNat = false := by
            simp only [isHighSurrogate, decide_eq_false_iff_not]
            omega
          have noLow : isLowSurrogate character.toNat = false := by
            simp only [isLowSurrogate, decide_eq_false_iff_not]
            omega
          rw [joinPieces?_unit noHigh noLow, induction, Option.map_some, Char.ofNat_toNat]

private theorem tokens?_string (value : String) (rest : List Char) :
    tokens? ((stringText value).toList ++ rest) = (tokens? rest).map (.string value :: ·) := by
  obtain ⟨pieces, each, read⟩ := exists_pieces value.toList rest
  have text : (stringText value).toList ++ rest =
      '"' :: (value.toList.flatMap escapedCharacter ++ '"' :: rest) := by
    simp [stringText]
  rw [text, tokens?]
  split
  · rename_i unread
    rw [read] at unread
    cases unread
  · rename_i found
    rw [read] at found
    cases found
    simp only [joinPieces?_of_readsAs each, String.ofList_toList]

/-! ## Tokens of a value -/

/-- A value that is written as it is read: it holds no string that was no text, and its numerals are
such as JSON allows. -/
inductive IsPlain : Json → Prop
  | null : IsPlain .null
  | bool (value : Bool) : IsPlain (.bool value)
  | number {numeral : Numeral} (strict : IsStrict numeral) : IsPlain (.number numeral)
  | string (value : String) : IsPlain (.string value)
  | array {items : List Json} (each : ∀ item ∈ items, IsPlain item) : IsPlain (.array items)
  | object {members : List (String × Json)} (each : ∀ member ∈ members, IsPlain member.2) :
      IsPlain (.object members)

mutual

def tokensOf : Json → List Token
  | .null => [.null]
  | .bool value => [.bool value]
  | .number numeral => [.number numeral]
  | .string value => [.string value]
  | .garbled => [.garbled]
  | .array items => .openArray :: ([.comma].intercalate (tokensOfItems items) ++ [.closeArray])
  | .object members => .openObject :: ([.comma].intercalate (tokensOfMembers members) ++ [.closeObject])

def tokensOfItems : List Json → List (List Token)
  | [] => []
  | item :: items => tokensOf item :: tokensOfItems items

def tokensOfMembers : List (String × Json) → List (List Token)
  | [] => []
  | (name, value) :: members => (.string name :: .colon :: tokensOf value) :: tokensOfMembers members

end

/-- A text is read as tokens, whatever text follows that does not go on with a numeral. -/
def ScansTo (text : String) (tokens : List Token) : Prop :=
  ∀ rest, EndsNumeral rest → tokens? (text.toList ++ rest) = (tokens? rest).map (tokens ++ ·)

theorem EndsNumeral.cons {mark : Char} (noDigit : digitOf? mark = none) (noPoint : mark ≠ '.')
    (noExponent : mark ≠ 'e' ∧ mark ≠ 'E') (rest : List Char) : EndsNumeral (mark :: rest) := by
  refine ⟨fun character same => ?_, ?_, ?_, ?_⟩
  · cases same
    exact noDigit
  · exact fun same => noPoint (Option.some.inj same)
  · exact fun same => noExponent.1 (Option.some.inj same)
  · exact fun same => noExponent.2 (Option.some.inj same)

theorem ScansTo.intercalate {texts : List String} {lists : List (List Token)}
    (each : List.Forall₂ ScansTo texts lists) :
    ScansTo (",".intercalate texts) ([.comma].intercalate lists) := by
  induction each with
  | nil =>
      intro rest _
      simp
  | @cons text tokens texts lists first others induction =>
      intro rest ends
      cases others with
      | nil => simpa using first rest ends
      | @cons next tokens' texts lists second others =>
          have comma : ∀ behind, EndsNumeral (',' :: behind) :=
            .cons rfl (by decide) (by decide)
          have whole : (",".intercalate (text :: next :: texts)).toList ++ rest =
              text.toList ++ ',' :: ((",".intercalate (next :: texts)).toList ++ rest) := by
            simp [String.intercalate_cons_cons]
          rw [whole, first _ (comma _), tokens?, induction rest ends, List.intercalate_cons_cons]
          cases tokens? rest <;> simp

/-- A container: what stands between its brackets can be anything that is read in front of the
closing one. -/
theorem ScansTo.between {text : String} {tokens : List Token} (scans : ScansTo text tokens)
    {opening closing : Char} {first last : Token} (noDigit : digitOf? closing = none)
    (noPoint : closing ≠ '.') (noExponent : closing ≠ 'e' ∧ closing ≠ 'E')
    (opens : ∀ rest, tokens? (opening :: rest) = (tokens? rest).map (first :: ·))
    (closes : ∀ rest, tokens? (closing :: rest) = (tokens? rest).map (last :: ·)) :
    ScansTo (String.ofList [opening] ++ text ++ String.ofList [closing])
      (first :: (tokens ++ [last])) := by
  intro rest ends
  have whole : (String.ofList [opening] ++ text ++ String.ofList [closing]).toList ++ rest =
      opening :: (text.toList ++ closing :: rest) := by
    simp
  rw [whole, opens, scans _ (.cons noDigit noPoint noExponent rest), closes]
  cases tokens? rest <;> simp

theorem ScansTo.member {text : String} {tokens : List Token} (scans : ScansTo text tokens)
    (name : String) :
    ScansTo (stringText name ++ ":" ++ text) (.string name :: .colon :: tokens) := by
  intro rest ends
  have whole : (stringText name ++ ":" ++ text).toList ++ rest =
      (stringText name).toList ++ ':' :: (text.toList ++ rest) := by
    simp
  rw [whole, tokens?_string, tokens?, scans rest ends]
  cases tokens? rest <;> simp

private theorem scansTo_compactItems {items : List Json}
    (each : ∀ item ∈ items, ScansTo (compact item) (tokensOf item)) :
    List.Forall₂ ScansTo (compactItems items) (tokensOfItems items) := by
  induction items with
  | nil => exact .nil
  | cons item items induction =>
      rw [List.forall_mem_cons] at each
      exact .cons each.1 (induction each.2)

private theorem scansTo_compactMembers {members : List (String × Json)}
    (each : ∀ member ∈ members, ScansTo (compact member.2) (tokensOf member.2)) :
    List.Forall₂ ScansTo (compactMembers members) (tokensOfMembers members) := by
  induction members with
  | nil => exact .nil
  | cons member members induction =>
      rw [List.forall_mem_cons] at each
      exact .cons (each.1.member member.1) (induction each.2)

private theorem scansTo_compact {json : Json} (plain : IsPlain json) :
    ScansTo (compact json) (tokensOf json) := by
  induction plain with
  | null =>
      intro rest _
      change tokens? ('n' :: 'u' :: 'l' :: 'l' :: rest) = _
      rw [tokens?]
      rfl
  | bool value =>
      intro rest _
      cases value with
      | true =>
          change tokens? ('t' :: 'r' :: 'u' :: 'e' :: rest) = _
          rw [tokens?]
          rfl
      | false =>
          change tokens? ('f' :: 'a' :: 'l' :: 's' :: 'e' :: rest) = _
          rw [tokens?]
          rfl
  | number strict => exact fun rest ends => tokens?_numeral strict ends
  | string value => exact fun rest _ => tokens?_string value rest
  | array _ induction =>
      exact (ScansTo.intercalate (scansTo_compactItems induction)).between rfl (by decide) (by decide)
        (fun _ => by rw [tokens?]) fun _ => by rw [tokens?]
  | object _ induction =>
      exact (ScansTo.intercalate (scansTo_compactMembers induction)).between rfl (by decide)
        (by decide) (fun _ => by rw [tokens?]) fun _ => by rw [tokens?]

/-! ## Values of tokens -/

/-- Wherever a value is expected, the tokens put it there. -/
def FeedsTo (tokens : List Token) (json : Json) : Prop :=
  ∀ frames, tokens.foldl Progress.feed (.reading frames .value) = .place json frames

theorem FeedsTo.items {item : Json} {items : List Json}
    (each : ∀ json ∈ item :: items, FeedsTo (tokensOf json) json) (done : List Json)
    (frames : List Frame) :
    ([Token.comma].intercalate (tokensOfItems (item :: items)) ++ [Token.closeArray]).foldl
        Progress.feed (.reading (.array done :: frames) .value) =
      .place (.array (done.reverse ++ item :: items)) frames := by
  induction items generalizing item done with
  | nil =>
      rw [List.forall_mem_singleton] at each
      have whole : [Token.comma].intercalate (tokensOfItems [item]) ++ [Token.closeArray] =
          tokensOf item ++ [.closeArray] := by
        simp [tokensOfItems]
      rw [whole, List.foldl_append, each, ← List.reverse_cons]
      rfl
  | cons next items induction =>
      rw [List.forall_mem_cons] at each
      have others := induction each.2 (item :: done)
      have whole : [Token.comma].intercalate (tokensOfItems (item :: next :: items)) ++
          [Token.closeArray] = tokensOf item ++ .comma ::
            ([Token.comma].intercalate (tokensOfItems (next :: items)) ++ [.closeArray]) := by
        simp [tokensOfItems, List.intercalate_cons_cons]
      rw [List.reverse_cons, List.append_assoc, List.singleton_append] at others
      rw [whole, List.foldl_append, each.1]
      exact others

theorem FeedsTo.members {member : String × Json} {members : List (String × Json)}
    (each : ∀ named ∈ member :: members, FeedsTo (tokensOf named.2) named.2)
    (done : List (String × Json)) (frames : List Frame) :
    ([Token.comma].intercalate (tokensOfMembers (member :: members)) ++ [Token.closeObject]).foldl
        Progress.feed (.reading (.object done :: frames) .name) =
      .place (.object (done.reverse ++ member :: members)) frames := by
  induction members generalizing member done with
  | nil =>
      rw [List.forall_mem_singleton] at each
      have whole : [Token.comma].intercalate (tokensOfMembers [member]) ++ [Token.closeObject] =
          .string member.1 :: .colon :: (tokensOf member.2 ++ [.closeObject]) := by
        simp [tokensOfMembers]
      rw [whole, ← List.reverse_cons]
      change (tokensOf member.2 ++ [Token.closeObject]).foldl Progress.feed
        (.reading (.name member.1 :: .object done :: frames) .value) = _
      rw [List.foldl_append, each]
      rfl
  | cons next members induction =>
      rw [List.forall_mem_cons] at each
      have others := induction each.2 (member :: done)
      have whole : [Token.comma].intercalate (tokensOfMembers (member :: next :: members)) ++
          [Token.closeObject] = .string member.1 :: .colon :: (tokensOf member.2 ++ .comma ::
            ([Token.comma].intercalate (tokensOfMembers (next :: members)) ++ [.closeObject])) := by
        simp [tokensOfMembers, List.intercalate_cons_cons]
      rw [List.reverse_cons, List.append_assoc, List.singleton_append] at others
      rw [whole]
      change (tokensOf member.2 ++ Token.comma :: _).foldl Progress.feed
        (.reading (.name member.1 :: .object done :: frames) .value) = _
      rw [List.foldl_append, each.1]
      exact others

private theorem exists_head_tokensOf (json : Json) :
    ∃ first others, tokensOf json = first :: others ∧ first ≠ .closeArray := by
  cases json <;> exact ⟨_, _, tokensOf.eq_def _, nofun⟩

private theorem exists_head_tokensOfItems (item : Json) (items : List Json) :
    ∃ first others, [Token.comma].intercalate (tokensOfItems (item :: items)) = first :: others ∧
      first ≠ .closeArray := by
  obtain ⟨first, others, starts, isOther⟩ := exists_head_tokensOf item
  cases items with
  | nil => exact ⟨first, others, by simp [tokensOfItems, starts], isOther⟩
  | cons next items =>
      exact ⟨first, _, by simp [tokensOfItems, List.intercalate_cons_cons, starts]; rfl, isOther⟩

private theorem exists_head_tokensOfMembers (member : String × Json)
    (members : List (String × Json)) :
    ∃ others, [Token.comma].intercalate (tokensOfMembers (member :: members)) =
      .string member.1 :: others := by
  cases members with
  | nil => exact ⟨_, by simp [tokensOfMembers]; rfl⟩
  | cons next members => exact ⟨_, by simp [tokensOfMembers, List.intercalate_cons_cons]; rfl⟩

private theorem feedsTo_tokensOf {json : Json} (plain : IsPlain json) :
    FeedsTo (tokensOf json) json := by
  induction plain with
  | null => exact fun frames => rfl
  | bool value => exact fun frames => rfl
  | number _ => exact fun frames => rfl
  | string value => exact fun frames => rfl
  | @array items _ induction =>
      intro frames
      cases items with
      | nil => rfl
      | cons item items =>
          have read := FeedsTo.items induction [] frames
          obtain ⟨first, others, starts, isOther⟩ := exists_head_tokensOfItems item items
          rw [tokensOf, starts]
          rw [starts] at read
          refine Eq.trans ?_ read
          have same : Progress.feed (.reading (.array [] :: frames) .firstItem) first =
              Progress.feed (.reading (.array [] :: frames) .value) first := by
            cases first with
            | closeArray => exact absurd rfl isOther
            | _ => rfl
          exact congrArg (fun progress => (others ++ [Token.closeArray]).foldl Progress.feed progress)
            same
  | @object members _ induction =>
      intro frames
      cases members with
      | nil => rfl
      | cons member members =>
          have read := FeedsTo.members induction [] frames
          obtain ⟨others, starts⟩ := exists_head_tokensOfMembers member members
          rw [tokensOf, starts]
          rw [starts] at read
          exact read

/-- A value is read back from its text. -/
theorem read?_compact {json : Json} (plain : IsPlain json) : read? (compact json) = some json := by
  have nothing : EndsNumeral [] := ⟨fun _ same => (nomatch same), nofun, nofun, nofun⟩
  have scanned := scansTo_compact plain [] nothing
  rw [List.append_nil, tokens?, Option.map_some, List.append_nil] at scanned
  unfold read?
  rw [scanned]
  simp only [Option.bind_eq_bind, Option.bind_some, feedsTo_tokensOf plain []]
  rfl

end GroundedAnswers.Json
