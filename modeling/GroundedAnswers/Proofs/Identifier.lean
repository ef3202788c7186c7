import GroundedAnswers.Identifier
import Mathlib.Algebra.Group.Nat.Defs

namespace GroundedAnswers.Identifier

/-! An identifier is read back from its text. -/

private theorem hexDigit?_digitChar {digit : Nat} (small : digit < 16) :
    Json.hexDigit? (Nat.digitChar digit) = some digit := by
  have all : ∀ digit < 16, Json.hexDigit? (Nat.digitChar digit) = some digit := by decide
  exact all digit small

private theorem digitChar_ne_hyphen {digit : Nat} (small : digit < 16) :
    Nat.digitChar digit ≠ '-' := by
  have all : ∀ digit < 16, Nat.digitChar digit ≠ '-' := by decide
  exact all digit small

private theorem hexDigits_length (value count : Nat) : (hexDigits value count).length = count := by
  induction count generalizing value with
  | zero => rfl
  | succ count induction => simp [hexDigits, induction]

private theorem hyphen_notMem_hexDigits (value count : Nat) : '-' ∉ hexDigits value count := by
  induction count generalizing value with
  | zero => exact List.not_mem_nil
  | succ count induction =>
      have last : Nat.digitChar (value % 16) ≠ '-' := digitChar_ne_hyphen (Nat.mod_lt _ (by decide))
      simp [hexDigits, induction, last.symm]

private theorem mapM_hexDigits (value count : Nat) :
    ∃ digits, (hexDigits value count).mapM Json.hexDigit? = some digits ∧
      digits.foldl (fun value digit => 16 * value + digit) 0 = value % 16 ^ count := by
  induction count generalizing value with
  | zero => exact ⟨[], rfl, by rw [Nat.pow_zero, Nat.mod_one]; rfl⟩
  | succ count induction =>
      obtain ⟨digits, read, total⟩ := induction (value / 16)
      have last := hexDigit?_digitChar (Nat.mod_lt value (show 0 < 16 by decide))
      refine ⟨digits ++ [value % 16], ?_, ?_⟩
      · simp [hexDigits, read, last]
      · rw [List.foldl_append, total, List.foldl_cons, List.foldl_nil, Nat.pow_succ,
          Nat.mul_comm (16 ^ count), Nat.mod_mul, Nat.add_comm]

theorem hexDigits_injective {first second count : Nat} (firstFits : first < 16 ^ count)
    (secondFits : second < 16 ^ count) (same : hexDigits first count = hexDigits second count) :
    first = second := by
  obtain ⟨digits, read, total⟩ := mapM_hexDigits first count
  obtain ⟨others, readOthers, totalOfOthers⟩ := mapM_hexDigits second count
  rw [same, readOthers] at read
  cases read
  rw [← Nat.mod_eq_of_lt firstFits, ← total, totalOfOthers, Nat.mod_eq_of_lt secondFits]

private theorem ofDigits?_hexDigits (identifier : Identifier) :
    ofDigits? (hexDigits identifier.toNat 32) = some identifier := by
  obtain ⟨digits, read, total⟩ := mapM_hexDigits identifier.toNat 32
  have below : identifier.toNat < 16 ^ 32 := identifier.bits.isLt
  rw [Nat.mod_eq_of_lt below] at total
  simp only [ofDigits?, read, Option.bind_eq_bind, Option.bind_some, total, Option.pure_def]
  simp [ofNat, toNat]

private theorem filter_hyphenated {digits : List Char} (noHyphen : '-' ∉ digits) :
    (hyphenated digits).filter (· ≠ '-') = digits := by
  have kept : ∀ part, part ⊆ digits → part.filter (· ≠ '-') = part := fun part within =>
    List.filter_eq_self.mpr fun character member =>
      decide_eq_true fun same => noHyphen (same ▸ within member)
  have inside : ∀ skipped count, (digits.drop skipped).take count ⊆ digits :=
    fun _ _ _ member => List.mem_of_mem_drop (List.mem_of_mem_take member)
  have cut : ∀ skipped count, (digits.drop skipped).take count ++ digits.drop (skipped + count) =
      digits.drop skipped := by
    intro skipped count
    rw [← List.drop_drop, List.take_append_drop]
  unfold hyphenated
  simp only [List.filter_append, List.filter_cons, kept _ (inside _ _), kept _ (List.take_subset _ _),
    kept _ (List.drop_subset _ _)]
  simp only [ne_eq, not_true_eq_false, decide_false, Bool.false_eq_true, if_false,
    List.append_assoc, cut, List.take_append_drop]

private theorem hyphenated_length {digits : List Char} (all : digits.length = 32) :
    (hyphenated digits).length = 36 := by
  simp [hyphenated, all]

private theorem ofHyphenated?_hyphenated {digits : List Char} (all : digits.length = 32)
    (noHyphen : '-' ∉ digits) : ofHyphenated? (hyphenated digits) = ofDigits? digits := by
  unfold ofHyphenated?
  simp only [filter_hyphenated noHyphen]
  rw [if_pos ⟨all, trivial⟩]

private theorem take_hyphenated_ne {digits : List Char} (all : digits.length = 32) :
    (hyphenated digits).take 9 ≠ "urn:uuid:".toList := by
  intro same
  have ninth : ((hyphenated digits).take 9)[8]? = some '-' := by
    rw [List.getElem?_take_of_lt (by decide)]
    unfold hyphenated
    simp only [List.append_assoc]
    rw [List.getElem?_append_right (by simp [all])]
    simp [all]
  rw [same] at ninth
  exact absurd ninth (by decide)

theorem read?_text (identifier : Identifier) : read? identifier.text = some identifier := by
  have all := hexDigits_length identifier.toNat 32
  have whole := hyphenated_length all
  unfold read? text
  simp only [String.toList_ofList, whole]
  rw [if_neg (by decide), if_neg (by simp), if_neg (take_hyphenated_ne all),
    ofHyphenated?_hyphenated all (hyphen_notMem_hexDigits _ _), ofDigits?_hexDigits]

end GroundedAnswers.Identifier
