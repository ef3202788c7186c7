import Mathlib.Data.List.Induction
import Mathlib.Data.List.Nodup

namespace GroundedAnswers

/-! Lists without their repetitions. Each value stays where it comes first. -/

variable [BEq α] [LawfulBEq α]

theorem eraseDups_concat_of_mem {values : List α} {value : α} (member : value ∈ values) :
    (values ++ [value]).eraseDups = values.eraseDups := by
  have repeated : [value].removeAll values = [] := by
    simp [List.removeAll, member]
  rw [List.eraseDups_append, repeated, List.eraseDups_nil, List.append_nil]

theorem eraseDups_concat_of_notMem {values : List α} {value : α} (new : value ∉ values) :
    (values ++ [value]).eraseDups = values.eraseDups ++ [value] := by
  have kept : [value].removeAll values = [value] := by
    simp [List.removeAll, new]
  rw [List.eraseDups_append, kept, List.eraseDups_cons, List.filter_nil, List.eraseDups_nil]

theorem nodup_eraseDups (values : List α) : values.eraseDups.Nodup := by
  induction values using List.reverseRecOn with
  | nil => exact List.nodup_nil
  | append_singleton values value induction =>
      by_cases member : value ∈ values
      · rw [eraseDups_concat_of_mem member]
        exact induction
      · rw [eraseDups_concat_of_notMem member, List.nodup_append]
        refine ⟨induction, List.nodup_singleton value, ?_⟩
        rintro earlier isEarlier _ isLast rfl
        rw [List.mem_singleton] at isLast
        exact member (isLast ▸ List.mem_eraseDups.mp isEarlier)

theorem eraseDups_of_nodup {values : List α} (distinct : values.Nodup) :
    values.eraseDups = values := by
  induction values using List.reverseRecOn with
  | nil => rfl
  | append_singleton values value induction =>
      rw [List.nodup_append] at distinct
      have new : value ∉ values := fun member =>
        distinct.2.2 value member value (List.mem_singleton_self value) rfl
      rw [eraseDups_concat_of_notMem new, induction distinct.1]

theorem length_eraseDups_le (values : List α) : values.eraseDups.length ≤ values.length := by
  induction values using List.reverseRecOn with
  | nil => exact Nat.le_refl 0
  | append_singleton values value induction =>
      rw [List.length_append, List.length_singleton]
      by_cases member : value ∈ values
      · rw [eraseDups_concat_of_mem member]
        exact Nat.le_succ_of_le induction
      · rw [eraseDups_concat_of_notMem member, List.length_append, List.length_singleton]
        exact Nat.succ_le_succ induction

theorem pairwise_idxOf_eraseDups (values : List α) :
    values.eraseDups.Pairwise fun earlier later =>
      values.idxOf earlier < values.idxOf later := by
  induction values using List.reverseRecOn with
  | nil => exact .nil
  | append_singleton values value induction =>
      have before : values.eraseDups.Pairwise fun earlier later =>
          (values ++ [value]).idxOf earlier < (values ++ [value]).idxOf later := by
        refine induction.imp_of_mem fun isEarlier isLater first => ?_
        rw [List.idxOf_append_of_mem (List.mem_eraseDups.mp isEarlier),
          List.idxOf_append_of_mem (List.mem_eraseDups.mp isLater)]
        exact first
      by_cases member : value ∈ values
      · rw [eraseDups_concat_of_mem member]
        exact before
      · rw [eraseDups_concat_of_notMem member, List.pairwise_append]
        refine ⟨before, List.pairwise_singleton _ value, fun earlier isEarlier last isLast => ?_⟩
        rw [List.mem_singleton] at isLast
        have inside := List.mem_eraseDups.mp isEarlier
        rw [isLast, List.idxOf_append_of_mem inside, List.idxOf_append_of_notMem member]
        exact Nat.lt_add_right _ (List.idxOf_lt_length_of_mem inside)

end GroundedAnswers
