import GroundedAnswers.Windows

namespace GroundedAnswers

/-! Places in batches: where an item of a list stands in its batches, and what stands in its place
when each batch is answered by as many values. -/

variable {size : Nat} (positive : 0 < size)

theorem getD_batches (items : List α) (index : Nat) :
    (batches size positive items)[index]?.getD [] = (items.drop (index * size)).take size := by
  unfold batches
  fun_induction windows size size positive items generalizing index with
  | case1 items empty =>
      rw [List.length_eq_zero_iff.mp empty]
      simp
  | case2 items _ short =>
      cases index with
      | zero => simp [List.take_of_length_le short]
      | succ index =>
          have beyond : items.length ≤ (index + 1) * size := by
            rw [Nat.succ_mul]
            omega
          simp [List.drop_of_length_le beyond]
  | case3 items _ _ induction =>
      cases index with
      | zero => simp
      | succ index =>
          rw [List.getElem?_cons_succ, induction, List.drop_drop, Nat.succ_mul, Nat.add_comm]

theorem length_batches (items : List α) :
    (batches size positive items).length = (items.length + size - 1) / size := by
  unfold batches
  fun_induction windows size size positive items with
  | case1 items empty =>
      rw [empty, List.length_nil, Nat.zero_add, Nat.div_eq_of_lt (Nat.sub_one_lt_of_lt positive)]
  | case2 items _ short =>
      have one : items.length + size - 1 = items.length - 1 + 1 * size := by omega
      rw [one, Nat.add_mul_div_right _ _ positive, Nat.div_eq_of_lt (by omega)]
      rfl
  | case3 items _ _ induction =>
      have more : items.length + size - 1 = items.length - size + size - 1 + 1 * size := by omega
      rw [List.length_cons, induction, List.length_drop, more, Nat.add_mul_div_right _ _ positive]

/-- Blocks that are as long as the batches of some items stand where these stand. -/
theorem getElem?_flatten_of_lengths {items : List α} {blocks : List (List β)}
    (same : blocks.map List.length = (batches size positive items).map List.length) (index : Nat) :
    blocks.flatten[index]? = (blocks[index / size]?.getD [])[index % size]? := by
  unfold batches at same
  fun_induction windows size size positive items generalizing blocks index with
  | case1 items _ =>
      rw [List.map_eq_nil_iff.mp same]
      simp
  | case2 items _ short =>
      rcases List.map_eq_singleton_iff.mp same with ⟨block, rfl, long⟩
      rw [List.flatten_singleton]
      by_cases inside : index < size
      · simp [Nat.div_eq_of_lt inside, Nat.mod_eq_of_lt inside]
      · have later : 0 < index / size := Nat.div_pos (Nat.le_of_not_lt inside) positive
        have beyond : block.length ≤ index := by omega
        have noBlock : [block].length ≤ index / size := later
        simp [List.getElem?_eq_none beyond, List.getElem?_eq_none noBlock]
  | case3 items _ long induction =>
      rcases List.map_eq_cons_iff.mp same with ⟨block, others, rfl, first, rest⟩
      have full : block.length = size := by
        rw [first, List.length_take]
        omega
      rw [List.flatten_cons]
      by_cases inside : index < size
      · rw [List.getElem?_append_left (by omega), Nat.div_eq_of_lt inside, Nat.mod_eq_of_lt inside]
        rfl
      · have shifted : index - size + size = index := by omega
        have quotient : index / size = (index - size) / size + 1 := by
          rw [← Nat.add_div_right _ positive, shifted]
        have remainder : index % size = (index - size) % size := by
          rw [← Nat.add_mod_right (index - size), shifted]
        rw [List.getElem?_append_right (by omega), full, induction rest, quotient, remainder]
        rfl

include positive in
theorem div_lt_count {items : List α} {index : Nat} (inside : index < items.length) :
    index / size < (items.length + size - 1) / size := by
  have before : index / size ≤ (items.length - 1) / size := Nat.div_le_div_right (by omega)
  have last : (items.length - 1 + size) / size = (items.length - 1) / size + 1 :=
    Nat.add_div_right _ positive
  have same : items.length + size - 1 = items.length - 1 + size := by omega
  rw [same, last]
  omega

include positive in
theorem places_of_lengths (items : List α) {part : Nat → List β}
    (long : ∀ index < (items.length + size - 1) / size,
      (part index).length = ((items.drop (index * size)).take size).length) :
    let whole := (List.range' 0 ((items.length + size - 1) / size)).flatMap part
    whole.length = items.length ∧
      ∀ index < items.length,
        items[index]? = ((items.drop (index / size * size)).take size)[index % size]? ∧
        whole[index]? = (part (index / size))[index % size]? := by
  intro whole
  let blocks := batches size positive items
  let parts := (List.range' 0 ((items.length + size - 1) / size)).map part
  have joined : whole = parts.flatten := List.flatMap_def
  have same : parts.map List.length = blocks.map List.length := by
    apply List.ext_getElem
    · simp [parts, blocks, length_batches positive]
    · intro index inside insideBlocks
      have early : index < (items.length + size - 1) / size := by simpa [parts] using inside
      have isBlock : index < blocks.length := by simpa using insideBlocks
      have block : blocks[index]? = some blocks[index] := List.getElem?_eq_getElem isBlock
      have named := getD_batches positive items index
      rw [show (batches size positive items)[index]? = _ from block] at named
      simp only [Option.getD_some] at named
      simp [parts, long index early, named]
  refine ⟨?_, fun index inside => ⟨?_, ?_⟩⟩
  · rw [joined, List.length_flatten, same, ← List.length_flatten, flatten_batches]
  · have placed := getElem?_flatten_of_lengths positive (rfl : blocks.map List.length = _) index
    rw [flatten_batches, getD_batches] at placed
    exact placed
  · have early := div_lt_count positive inside
    rw [joined, getElem?_flatten_of_lengths positive same]
    simp [parts, early]

end GroundedAnswers
