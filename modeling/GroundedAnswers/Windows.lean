namespace GroundedAnswers

/-- Windows of `size` items, each `stride` items after the last one. The last window is the first
that reaches the end. -/
def windows (size stride : Nat) (advances : 0 < stride) (items : List α) : List (List α) :=
  if items.length = 0 then []
  else if items.length ≤ size then [items]
  else items.take size :: windows size stride advances (items.drop stride)
termination_by items.length
decreasing_by
  simp only [List.length_drop]
  omega

def batches (size : Nat) (positive : 0 < size) (items : List α) : List (List α) :=
  windows size size positive items

theorem flatten_batches (size : Nat) (positive : 0 < size) (items : List α) :
    (batches size positive items).flatten = items := by
  unfold batches
  fun_induction windows size size positive items with
  | case1 items empty => simp_all
  | case2 => simp
  | case3 items _ _ induction => simp [induction]

theorem batches_ne_nil {size : Nat} (positive : 0 < size) {items : List α} (nonempty : items ≠ []) :
    batches size positive items ≠ [] := by
  intro nothing
  have whole := flatten_batches size positive items
  rw [nothing] at whole
  exact nonempty whole.symm

example : batches 2 (by decide) [1, 2, 3] = [[1, 2], [3]] := by decide +kernel

end GroundedAnswers
