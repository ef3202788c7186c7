import GroundedAnswers.Json.Basic

namespace GroundedAnswers.Json

variable {α : Type}

/-! Sorted members: what putting one of them does to the others. -/

/-- Members sorted by name, one for each name. -/
def IsSorted (members : List (String × α)) : Prop :=
  members.Pairwise (·.1 < ·.1)

theorem putMember_last {members : List (String × α)} {name : String} {value : α}
    (last : ∀ member ∈ members, member.1 < name) :
    putMember name value members = members ++ [(name, value)] := by
  induction members with
  | nil => rfl
  | cons member members induction =>
      rw [List.forall_mem_cons] at last
      obtain ⟨other, present⟩ := member
      have differs : name ≠ other := fun same => String.lt_irrefl other (same ▸ last.1)
      simp only [putMember, if_neg differs, if_neg (String.lt_asymm last.1), induction last.2,
        List.cons_append]

theorem lookup_member (name other : String) (value : α) (members : List (String × α)) :
    ((name, value) :: members).lookup other =
      if other = name then some value else members.lookup other := by
  rw [List.lookup_cons]
  by_cases same : other = name
  · rw [if_pos same, beq_iff_eq.mpr same]
  · rw [if_neg same, beq_false_of_ne same]

theorem lookup_putMember (name other : String) (value : α) (members : List (String × α)) :
    (putMember name value members).lookup other =
      if other = name then some value else members.lookup other := by
  fun_induction putMember name value members with
  | case1 => rw [lookup_member]
  | case2 present members =>
      rw [lookup_member, lookup_member]
      split <;> rfl
  | case3 => rw [lookup_member]
  | case4 key present members differs _ induction =>
      rw [lookup_member, lookup_member, induction]
      by_cases same : other = key
      · rw [if_pos same, if_pos same, if_neg fun isName => differs (isName.symm.trans same)]
      · rw [if_neg same, if_neg same]

theorem lookup_eq_some_iff_mem {κ : Type} [DecidableEq κ] {members : List (κ × α)}
    (distinct : (members.map (·.1)).Nodup) {name : κ} {value : α} :
    members.lookup name = some value ↔ (name, value) ∈ members := by
  induction members with
  | nil => simp
  | cons member members induction =>
      rcases member with ⟨other, present⟩
      rw [List.map_cons, List.nodup_cons] at distinct
      rw [List.lookup_cons, List.mem_cons, Prod.mk.injEq]
      by_cases same : name = other
      · have absent : (other, value) ∉ members := fun member =>
          distinct.1 (List.mem_map.mpr ⟨_, member, rfl⟩)
        simp [same, absent, eq_comm]
      · rw [beq_false_of_ne same]
        simp [same, induction distinct.2]

theorem mem_of_mem_putMember {name : String} {value : α} {members : List (String × α)}
    {member : String × α} (inside : member ∈ putMember name value members) :
    member = (name, value) ∨ member ∈ members := by
  fun_induction putMember name value members with
  | case1 => exact .inl (List.mem_singleton.mp inside)
  | case2 => exact (List.mem_cons.mp inside).imp_right (List.mem_cons_of_mem _)
  | case3 => exact List.mem_cons.mp inside
  | case4 key present members _ _ induction =>
      rcases List.mem_cons.mp inside with rfl | behind
      · exact .inr List.mem_cons_self
      · exact (induction behind).imp_right (List.mem_cons_of_mem _)

theorem putMember_perm {members : List (String × α)} {name : String} (value : α)
    (absent : ∀ member ∈ members, name ≠ member.1) :
    (putMember name value members).Perm ((name, value) :: members) := by
  induction members with
  | nil => exact .refl _
  | cons member members induction =>
      rcases member with ⟨other, present⟩
      rw [List.forall_mem_cons] at absent
      rw [putMember, if_neg absent.1]
      split
      · exact .refl _
      · exact ((induction absent.2).cons _).trans (.swap _ _ _)

theorem IsSorted.distinct {members : List (String × α)} (sorted : IsSorted members) :
    members.Pairwise (·.1 ≠ ·.1) := by
  refine List.Pairwise.imp (fun less same => ?_) sorted
  rw [same] at less
  exact String.lt_irrefl _ less

theorem IsSorted.eq_of_perm {left right : List (String × α)} (sorted : IsSorted left)
    (sorted' : IsSorted right) (order : left.Perm right) : left = right :=
  order.eq_of_pairwise (fun _ _ _ _ less greater => absurd greater (String.lt_asymm less)) sorted
    sorted'

theorem isSorted_putMember {members : List (String × α)} (sorted : IsSorted members) (name : String)
    (value : α) : IsSorted (putMember name value members) := by
  fun_induction putMember name value members with
  | case1 => exact List.pairwise_singleton _ _
  | case2 =>
      obtain ⟨above, sorted⟩ := List.pairwise_cons.mp sorted
      exact List.pairwise_cons.mpr ⟨above, sorted⟩
  | case3 key present members differs below =>
      refine List.pairwise_cons.mpr ⟨List.forall_mem_cons.mpr ⟨below, fun member inside => ?_⟩, sorted⟩
      exact String.lt_trans below (List.rel_of_pairwise_cons sorted inside)
  | case4 key present members differs notBelow induction =>
      obtain ⟨above, others⟩ := List.pairwise_cons.mp sorted
      refine List.pairwise_cons.mpr ⟨fun member inside => ?_, induction others⟩
      rcases mem_of_mem_putMember inside with rfl | present
      · exact Std.lt_of_le_of_ne notBelow (Ne.symm differs)
      · exact above member present

end GroundedAnswers.Json
