import GroundedAnswers.Json.Reader
import GroundedAnswers.Text.Blank

namespace GroundedAnswers.Json

open Number

/-! Texts of arrays and objects: one that starts with an opening bracket and ends with no blank ends
with the closing bracket of the same kind. -/

/-! ## What is left behind a token -/

private theorem leadingDigits_suffix (text : List Char) : (leadingDigits text).2 <:+ text := by
  induction text with
  | nil => exact List.suffix_refl _
  | cons character rest induction =>
      simp only [leadingDigits]
      split
      · exact induction.trans (List.suffix_cons _ _)
      · exact List.suffix_refl _

private theorem someDigits?_suffix {text rest : List Char} {digits : List Nat}
    (read : someDigits? text = some (digits, rest)) : rest <:+ text := by
  have suffix := leadingDigits_suffix text
  unfold someDigits? at read
  split at read
  · cases read
  · rename_i found
    cases read
    rwa [found] at suffix

private theorem wholeDigits?_suffix {text rest : List Char} {digits : List Nat}
    (read : wholeDigits? text = some (digits, rest)) : rest <:+ text := by
  unfold wholeDigits? at read
  split at read
  · cases read
    exact List.suffix_cons _ _
  · exact someDigits?_suffix read

private theorem fractionDigits?_suffix {text rest : List Char} {digits : Option (List Nat)}
    (read : fractionDigits? text = some (digits, rest)) : rest <:+ text := by
  unfold fractionDigits? at read
  split at read
  · simp only [Option.map_eq_some_iff, Prod.mk.injEq, Prod.exists] at read
    obtain ⟨_, _, inner, _, rfl⟩ := read
    exact (someDigits?_suffix inner).trans (List.suffix_cons _ _)
  · cases read
    exact List.suffix_refl _

private theorem signOf_suffix (text : List Char) : (signOf text).2 <:+ text := by
  unfold signOf
  split
  · exact List.suffix_cons _ _
  · exact List.suffix_cons _ _
  · exact List.suffix_refl _

private theorem exponentPart?_suffix {text rest : List Char} {exponent : Option Exponent}
    (read : exponentPart? text = some (exponent, rest)) : rest <:+ text := by
  unfold exponentPart? at read
  split at read
  · rename_i mark behind
    split at read
    · simp only [Option.map_eq_some_iff, Prod.mk.injEq, Prod.exists] at read
      obtain ⟨_, _, inner, _, rfl⟩ := read
      exact ((someDigits?_suffix inner).trans (signOf_suffix behind)).trans (List.suffix_cons _ _)
    · cases read
      exact List.suffix_refl _
  · cases read
    exact List.suffix_refl _

private theorem unsignedNumeral?_suffix {negative : Bool} {text rest : List Char}
    {numeral : Numeral} (read : unsignedNumeral? negative text = some (numeral, rest)) :
    rest <:+ text := by
  simp only [unsignedNumeral?, Option.bind_eq_bind, Option.bind_eq_some_iff, Option.pure_def,
    Option.some.injEq, Prod.mk.injEq, Prod.exists] at read
  obtain ⟨_, _, whole, _, _, fraction, _, _, exponent, _, rfl⟩ := read
  exact ((exponentPart?_suffix exponent).trans (fractionDigits?_suffix fraction)).trans
    (wholeDigits?_suffix whole)

private theorem numeral?_suffix {text rest : List Char} {numeral : Numeral}
    (read : numeral? text = some (numeral, rest)) : rest <:+ text := by
  unfold numeral? at read
  split at read
  · exact (unsignedNumeral?_suffix read).trans (List.suffix_cons _ _)
  · exact unsignedNumeral?_suffix read

private theorem pieces?_suffix {text remaining : List Char} {pieces : List Piece}
    (read : pieces? text = some (pieces, remaining)) : remaining <:+ text := by
  fun_induction pieces? text generalizing pieces remaining with
  | case1 => cases read
  | case2 rest =>
      cases read
      exact List.suffix_cons _ _
  | case3 first second third fourth rest induction =>
      simp only [Option.bind_eq_bind, Option.bind_eq_some_iff, Option.pure_def,
        Option.some.injEq, Prod.mk.injEq] at read
      obtain ⟨_, _, ⟨_, _⟩, inner, _, rfl⟩ := read
      exact (induction inner).trans ⟨['\\', 'u', first, second, third, fourth], rfl⟩
  | case4 letter rest _ induction =>
      simp only [Option.bind_eq_bind, Option.bind_eq_some_iff, Option.pure_def,
        Option.some.injEq, Prod.mk.injEq] at read
      obtain ⟨_, _, ⟨_, _⟩, inner, _, rfl⟩ := read
      exact (induction inner).trans ⟨['\\', letter], rfl⟩
  | case5 => cases read
  | case6 character rest _ _ _ _ induction =>
      simp only [Option.bind_eq_bind, Option.bind_eq_some_iff, Option.pure_def,
        Option.some.injEq, Prod.mk.injEq] at read
      obtain ⟨⟨_, _⟩, inner, _, rfl⟩ := read
      exact (induction inner).trans (List.suffix_cons _ _)

/-! ## The last token -/

def Token.mark? : Token → Option Char
  | .openArray => some '['
  | .closeArray => some ']'
  | .openObject => some '\x7b'
  | .closeObject => some '\x7d'
  | .comma => some ','
  | .colon => some ':'
  | _ => none

/-- The last character of a text, unless it is blank, belongs to the last token. -/
def EndsWithToken (text : List Char) (tokens : List Token) : Prop :=
  ∀ last, text.getLast? = some last → Text.isBlank last = false →
    ∃ token, tokens.getLast? = some token ∧ ∀ mark, token.mark? = some mark → last = mark

theorem EndsWithToken.blank {rest : List Char} {tokens : List Token} {character : Char}
    (blank : Text.isBlank character) (ends : EndsWithToken rest tokens) :
    EndsWithToken (character :: rest) tokens := by
  intro last isLast notBlank
  cases rest with
  | nil =>
      cases isLast
      exact absurd (blank.symm.trans notBlank) (by decide)
  | cons next rest => exact ends last (by simpa using isLast) notBlank

theorem EndsWithToken.cons {text rest : List Char} {others : List Token} {token : Token}
    (dropped : rest <:+ text) (read : tokens? rest = some others)
    (single : rest = [] → ∀ mark, token.mark? = some mark → text.getLast? = some mark)
    (ends : EndsWithToken rest others) : EndsWithToken text (token :: others) := by
  intro last isLast notBlank
  cases rest with
  | nil =>
      simp only [tokens?, Option.some.injEq] at read
      subst read
      refine ⟨token, rfl, fun mark isMark => ?_⟩
      exact Option.some.inj (isLast.symm.trans (single rfl mark isMark))
  | cons next rest =>
      obtain ⟨front, rfl⟩ := dropped
      have inner : (next :: rest).getLast? = some last := by
        simpa using isLast
      obtain ⟨final, isFinal, marks⟩ := ends last inner notBlank
      refine ⟨final, ?_, marks⟩
      cases others with
      | nil => cases isFinal
      | cons other others => simpa using isFinal

private theorem EndsWithToken.ofMark {rest : List Char} {others : List Token} {token : Token}
    {mark : Char} (isMark : token.mark? = some mark) (read : tokens? rest = some others)
    (ends : EndsWithToken rest others) : EndsWithToken (mark :: rest) (token :: others) := by
  refine .cons (List.suffix_cons _ _) read (fun nothing other same => ?_) ends
  rw [isMark] at same
  cases same
  rw [nothing]
  rfl

private theorem EndsWithToken.ofOther {text rest : List Char} {others : List Token} {token : Token}
    (noMark : token.mark? = none) (dropped : rest <:+ text) (read : tokens? rest = some others)
    (ends : EndsWithToken rest others) : EndsWithToken text (token :: others) :=
  .cons dropped read (fun _ _ same => absurd (noMark.symm.trans same) nofun) ends

private theorem endsWithToken {text : List Char} {tokens : List Token}
    (read : tokens? text = some tokens) :
    EndsWithToken text tokens := by
  fun_induction tokens? text generalizing tokens with
  | case1 => exact fun _ isLast => nomatch isLast
  | case2 rest induction | case3 rest induction | case4 rest induction | case5 rest induction =>
      exact .blank (by decide) (induction read)
  | case6 rest induction | case7 rest induction | case8 rest induction | case9 rest induction
  | case10 rest induction | case11 rest induction =>
      obtain ⟨others, inner, rfl⟩ := Option.map_eq_some_iff.mp read
      exact .ofMark rfl inner (induction inner)
  | case12 rest induction =>
      obtain ⟨others, inner, rfl⟩ := Option.map_eq_some_iff.mp read
      exact .ofOther rfl ⟨['n', 'u', 'l', 'l'], rfl⟩ inner (induction inner)
  | case13 rest induction =>
      obtain ⟨others, inner, rfl⟩ := Option.map_eq_some_iff.mp read
      exact .ofOther rfl ⟨['t', 'r', 'u', 'e'], rfl⟩ inner (induction inner)
  | case14 rest induction =>
      obtain ⟨others, inner, rfl⟩ := Option.map_eq_some_iff.mp read
      exact .ofOther rfl ⟨['f', 'a', 'l', 's', 'e'], rfl⟩ inner (induction inner)
  | case15 => cases read
  | case16 rest pieces remaining quoted token =>
      rename_i induction
      obtain ⟨others, inner, rfl⟩ := Option.map_eq_some_iff.mp read
      have noMark : token.mark? = none := by
        simp only [token]
        split <;> rfl
      exact .ofOther noMark ((pieces?_suffix quoted).trans (List.suffix_cons _ _)) inner
        (induction inner)
  | case17 => cases read
  | case18 =>
      rename_i counted induction
      obtain ⟨others, inner, rfl⟩ := Option.map_eq_some_iff.mp read
      exact .ofOther rfl (numeral?_suffix counted) inner (induction inner)

/-! ## The outermost container -/

/-- The token that closes a container. A name closes nothing. -/
def Frame.closing? : Frame → Option Token
  | .array _ => some .closeArray
  | .object _ | .garbledObject => some .closeObject
  | .name _ => none

def Outermost (closing : Token) (frames : List Frame) : Prop :=
  frames.getLast?.bind Frame.closing? = some closing

namespace Outermost

variable {closing : Token} {frame other : Frame} {frames : List Frame}

private theorem cons_iff (nonempty : frames ≠ []) :
    Outermost closing (frame :: frames) ↔ Outermost closing frames := by
  unfold Outermost
  rw [List.getLast?_cons_of_ne_nil nonempty]

theorem push (frame : Frame) (outermost : Outermost closing frames) :
    Outermost closing (frame :: frames) := by
  cases frames with
  | nil => cases outermost
  | cons next frames => exact (cons_iff (List.cons_ne_nil _ _)).mpr outermost

private theorem pop (outermost : Outermost closing (frame :: frames)) :
    frames = [] ∧ frame.closing? = some closing ∨ Outermost closing frames := by
  cases frames with
  | nil => exact .inl ⟨rfl, outermost⟩
  | cons next frames => exact .inr ((cons_iff (List.cons_ne_nil _ _)).mp outermost)

theorem replace (outermost : Outermost closing (frame :: frames))
    (same : other.closing? = frame.closing?) : Outermost closing (other :: frames) := by
  rcases outermost.pop with ⟨rfl, closes⟩ | inner
  · exact same.trans closes
  · exact inner.push other

private theorem dropName {name : String} (outermost : Outermost closing (.name name :: frames)) :
    Outermost closing frames :=
  outermost.pop.resolve_left fun closed => nomatch closed.2

end Outermost

/-- Reading goes on within a container that a token will close. -/
def Progress.Within (closing : Token) : Progress → Prop
  | .reading frames _ => Outermost closing frames
  | .finished _ => False
  | .failed => True

namespace Progress

variable {closing : Token} {frames : List Frame}

private theorem place_within (value : Json) (outermost : Outermost closing frames) :
    (place value frames).Within closing := by
  fun_cases place value frames with
  | case1 => cases outermost
  | case2 items frames => exact outermost.replace rfl
  | case3 name members frames => exact outermost.dropName.replace rfl
  | case4 frames => exact outermost
  | case5 => exact True.intro

private theorem name_within (token : Token) (outermost : Outermost closing frames) :
    (name frames token).Within closing := by
  fun_cases name frames token with
  | case1 => exact outermost.push _
  | case2 => exact outermost.replace rfl
  | case3 => exact outermost
  | case4 => exact outermost
  | case5 => exact True.intro

private theorem start_within (token : Token) (outermost : Outermost closing frames) :
    (start frames token).Within closing := by
  fun_cases start frames token with
  | case1 => exact outermost.push _
  | case2 => exact outermost.push _
  | case3 _ _ _ value => exact place_within value outermost
  | case4 => exact True.intro

private theorem place_closed {token : Token} {frame : Frame} (value : Json)
    (closes : frame.closing? = some token) (outermost : Outermost closing (frame :: frames)) :
    (place value frames).Within closing ∨
      token = closing ∧ ∃ whole, place value frames = .finished whole := by
  rcases outermost.pop with ⟨rfl, closed⟩ | inner
  · exact .inr ⟨Option.some.inj (closes.symm.trans closed), value, rfl⟩
  · exact .inl (place_within value inner)

/-- Each token leaves the reader within the outermost container, or closes it. -/
theorem feed_within {progress : Progress} (token : Token) (within : progress.Within closing) :
    (progress.feed token).Within closing ∨
      token = closing ∧ ∃ whole, progress.feed token = .finished whole := by
  fun_cases feed progress token with
  | case1 | case3 => exact .inl (start_within token within)
  | case5 | case6 => exact .inl (name_within token within)
  | case2 | case9 => exact place_closed _ rfl within
  | case4 | case11 | case13 => exact place_closed _ rfl within
  | case7 | case8 | case10 | case12 => exact .inl within
  | case14 => exact .inl True.intro

private theorem foldl_feed_failed (tokens : List Token) : tokens.foldl feed .failed = .failed := by
  induction tokens with
  | nil => rfl
  | cons token tokens induction => exact induction

private theorem getLast?_of_finished {progress : Progress} {tokens : List Token} {value : Json}
    (within : progress.Within closing) (finishes : tokens.foldl feed progress = .finished value) :
    tokens.getLast? = some closing := by
  induction tokens generalizing progress with
  | nil =>
      subst finishes
      exact within.elim
  | cons token tokens induction =>
      rw [List.foldl_cons] at finishes
      rcases feed_within token within with stays | ⟨rfl, whole, finished⟩
      · have isLast := induction stays finishes
        rw [List.getLast?_cons_of_ne_nil (List.ne_nil_of_mem (List.mem_of_getLast? isLast))]
        exact isLast
      · cases tokens with
        | nil => rfl
        | cons next tokens =>
            rw [finished, List.foldl_cons, show feed (.finished whole) next = .failed from rfl,
              foldl_feed_failed] at finishes
            cases finishes

end Progress

/-! ## Texts of containers -/

/-- A JSON text of one array or object, with no blank around it. -/
structure IsContainer (text : List Char) : Prop where
  reads : (read? (String.ofList text)).isSome
  opens : text.head? = some '[' ∨ text.head? = some '\x7b'
  ends : ∀ last, text.getLast? = some last → Text.isBlank last = false

def closingBracket (opening : Char) : Char :=
  if opening = '[' then ']' else '\x7d'

private theorem getLast?_of_read (first : Token) {rest : List Char} {opening mark : Char}
    {closing : Token} {start : Progress} (reads : (read? (String.ofList (opening :: rest))).isSome)
    (ends : ∀ last, (opening :: rest).getLast? = some last → Text.isBlank last = false)
    (isFirst : tokens? (opening :: rest) = (tokens? rest).map (first :: ·))
    (starts : Progress.feed (.reading [] .value) first = start) (within : start.Within closing)
    (isMark : closing.mark? = some mark) : (opening :: rest).getLast? = some mark := by
  rcases Option.isSome_iff_exists.mp reads with ⟨value, read⟩
  simp only [read?, String.toList_ofList, isFirst, Option.bind_eq_bind] at read
  cases scanned : tokens? rest with
  | none =>
      rw [scanned] at read
      cases read
  | some others =>
      rw [scanned, Option.map_some, Option.bind_some, List.foldl_cons, starts] at read
      cases finishes : others.foldl Progress.feed start with
      | reading => simp [finishes] at read
      | failed => simp [finishes] at read
      | finished whole =>
          have isLast := Progress.getLast?_of_finished within finishes
          have nonempty := List.ne_nil_of_mem (List.mem_of_getLast? isLast)
          have all : tokens? (opening :: rest) = some (first :: others) := by
            rw [isFirst, scanned]
            rfl
          cases final : (opening :: rest).getLast? with
          | none => simp at final
          | some last =>
              obtain ⟨token, same, marks⟩ := endsWithToken all last final (ends last final)
              rw [List.getLast?_cons_of_ne_nil nonempty, isLast] at same
              cases same
              rw [marks mark isMark]

theorem IsContainer.brackets {text : List Char} (container : IsContainer text) :
    ∃ opening inside, (opening = '[' ∨ opening = '\x7b') ∧
      text = opening :: (inside ++ [closingBracket opening]) := by
  obtain ⟨reads, opens, ends⟩ := container
  have between : ∀ opening rest, text = opening :: rest →
      (opening :: rest).getLast? = some (closingBracket opening) →
      closingBracket opening ≠ opening →
      ∃ inside, text = opening :: (inside ++ [closingBracket opening]) := by
    intro opening rest whole isLast differs
    rcases List.eq_nil_or_concat rest with rfl | ⟨inside, last, rfl⟩
    · exact absurd (Option.some.inj isLast).symm differs
    · rw [List.concat_eq_append] at whole isLast
      refine ⟨inside, ?_⟩
      rw [← List.cons_append, List.getLast?_concat] at isLast
      rw [whole, Option.some.inj isLast]
  cases text with
  | nil => simp at opens
  | cons opening rest =>
      rcases opens with array | object
      · cases array
        have isLast := getLast?_of_read .openArray reads ends (by rw [tokens?]) rfl rfl rfl
        obtain ⟨inside, whole⟩ := between '[' rest rfl isLast (by decide)
        exact ⟨'[', inside, .inl rfl, whole⟩
      · cases object
        have isLast := getLast?_of_read .openObject reads ends (by rw [tokens?]) rfl rfl rfl
        obtain ⟨inside, whole⟩ := between '\x7b' rest rfl isLast (by decide)
        exact ⟨'\x7b', inside, .inr rfl, whole⟩

end GroundedAnswers.Json
