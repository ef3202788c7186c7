import GroundedAnswers.Proofs.Task.EnsuresFanOut

namespace GroundedAnswers

/-! Tasks that run all at once. Each of them starts, in the order of the list and at the same
moment, before any of them goes on. -/

namespace Branches

def started (now : Moment) : Nat → List (Task σ α) → List (Branch σ α)
  | _, [] => []
  | stamp, task :: tasks => .asleep ⟨stamp, now, task now⟩ :: started now (stamp + 1) tasks

/-- Branches that have started and are not known to be done. -/
def Begun (list : List (Branch σ α)) : Prop :=
  ∀ branch ∈ list, ∃ sleeper, branch = .asleep sleeper

private theorem startable?_search_of_begun {branches : Branches σ α} {room : Nat}
    {before begun rest : List (Branch σ α)} {task : Task σ α}
    (whole : branches.list = before ++ (begun ++ .unstarted task :: rest)) (isBegun : Begun begun)
    (roomy : branches.list.length ≤ room) :
    startable?.search branches room before (begun ++ .unstarted task :: rest) whole =
      some ⟨before ++ begun, task, rest, by simpa using whole⟩ := by
  induction begun generalizing before with
  | nil =>
      have shorter : before.length < branches.list.length := by
        rw [whole]
        simp
      have near : before.length < (branches.list.takeWhile Branch.isDone).length + room := by
        omega
      simp only [List.nil_append]
      rw [startable?.search]
      simp [near]
  | cons branch begun induction =>
      rcases List.forall_mem_cons.mp isBegun with ⟨⟨sleeper, rfl⟩, others⟩
      have moved : branches.list =
          (before ++ [.asleep sleeper]) ++ (begun ++ .unstarted task :: rest) := by
        simpa using whole
      have found := induction moved others
      simp only [List.cons_append]
      rw [startable?.search, found]
      · simp
      · intro other isWhole same
        cases same

private theorem startable?_of_begun {branches : Branches σ α} {room : Nat}
    {begun rest : List (Branch σ α)} {task : Task σ α}
    (whole : branches.list = begun ++ .unstarted task :: rest) (isBegun : Begun begun)
    (roomy : branches.list.length ≤ room) :
    branches.startable? room = some ⟨begun, task, rest, whole⟩ := by
  rcases branches with ⟨list⟩
  change list = _ at whole
  subst whole
  have nothing : begun ++ .unstarted task :: rest = [] ++ (begun ++ .unstarted task :: rest) := rfl
  exact startable?_search_of_begun nothing isBegun roomy

private theorem progress_started {room : Nat} (order : WakeOrder) {begun : List (Branch σ α)}
    (isBegun : Begun begun) (tasks : List (Task σ α)) (stamps : Nat) (now : Moment) (state : σ)
    (roomy : begun.length + tasks.length ≤ room) :
    progress room order ⟨begun ++ tasks.map .unstarted⟩ stamps now state =
      progress room order ⟨begun ++ started now stamps tasks⟩ (stamps + tasks.length) now state := by
  induction tasks generalizing begun stamps with
  | nil => rfl
  | cons task tasks induction =>
      have enough : (begun ++ .unstarted task :: tasks.map Branch.unstarted).length ≤ room := by
        simpa using roomy
      have next : startable? ⟨begun ++ (task :: tasks).map .unstarted⟩ room =
          some ⟨begun, task, tasks.map .unstarted, rfl⟩ := startable?_of_begun rfl isBegun enough
      have one : Begun (begun ++ [.asleep ⟨stamps, now, task now⟩]) := by
        intro branch member
        rcases List.mem_append.mp member with inside | isLast
        · exact isBegun branch inside
        · exact ⟨_, List.mem_singleton.mp isLast⟩
      have others := induction one (stamps + 1) (by simp at roomy ⊢; omega)
      rw [progress_eq, next]
      have count : stamps + (task :: tasks).length = stamps + 1 + tasks.length := by
        simp
        omega
      rw [count]
      simpa [started, List.append_assoc] using others

private theorem started_ensured {keeps : σ → Prop} {ends : ι → α → Moment → Prop} {now : Moment}
    {items : List ι} {tasks : List (Task σ α)}
    (each : List.Forall₂
      (fun item task => ∀ state, keeps state → Progress.Ensures keeps
        (fun value moment state => ends item value moment ∧ keeps state) now (task now state))
      items tasks)
    (stamp : Nat) : Ensured keeps ends now items (started now stamp tasks) := by
  induction each generalizing stamp with
  | nil => exact .nil
  | cons first _ induction => exact .cons (.asleep first) (induction (stamp + 1))

end Branches

namespace Task

theorem all_eq (tasks : List (Task σ α)) (now : Moment) (state : σ) :
    all tasks now state =
      Branches.progress (max tasks.length 1) .byPlace ⟨Branches.started now 0 tasks⟩ tasks.length
        now state := by
  have begun : Branches.Begun ([] : List (Branch σ α)) :=
    fun _ member => absurd member List.not_mem_nil
  have roomy : 0 + tasks.length ≤ max tasks.length 1 := by omega
  have together := Branches.progress_started .byPlace begun tasks 0 now state roomy
  rw [Nat.zero_add] at together
  exact together

/-- What each task ensures when it starts at a moment holds of it among the others that start then.
-/
theorem all_ensures {keeps : σ → Prop} {ends : ι → α → Moment → Prop} {now : Moment}
    {items : List ι} {tasks : List (Task σ α)}
    (lasts : ∀ item value earlier later, earlier ≤ later → ends item value earlier →
      ends item value later)
    (each : List.Forall₂
      (fun item task => ∀ state, keeps state → Progress.Ensures keeps
        (fun value moment state => ends item value moment ∧ keeps state) now (task now state))
      items tasks)
    {state : σ} (holds : keeps state) :
    Branches.AllEnd keeps ends items now (all tasks now state) := by
  rw [all_eq]
  have positive : 0 < max tasks.length 1 := by omega
  exact Branches.progress_ensures positive lasts (Branches.started_ensured each 0) holds

end Task

end GroundedAnswers
