import GroundedAnswers.Proofs.Task.AlikeFanOut
import GroundedAnswers.Proofs.Task.Ensures

namespace GroundedAnswers

/-! What tasks ensure side by side: each of them ends as it does on its own, and all of them end.
The clock may have gone on since a task ended, so what is ensured of its end must still hold later.
-/

variable {keeps : σ → Prop} {ends : α → Moment → Prop} {now : Moment}

/-- A branch that will end in a certain way, or has done so by now. -/
inductive Branch.Ensures (keeps : σ → Prop) (ends : α → Moment → Prop) (now : Moment) :
    Branch σ α → Prop
  | unstarted {task : Task σ α} (ensured : Task.Ensures keeps ends task) :
      Ensures keeps ends now (.unstarted task)
  | asleep {sleeper : Sleeper σ α}
      (resumed : ∀ state, keeps state → Progress.Ensures keeps
        (fun value moment state => ends value moment ∧ keeps state) sleeper.wake
        (sleeper.resume state)) :
      Ensures keeps ends now (.asleep sleeper)
  | done {value : α} (ended : ends value now) : Ensures keeps ends now (.done value)

theorem Branch.Ensures.later {branch : Branch σ α} {moment : Moment}
    (ensured : Branch.Ensures keeps ends now branch)
    (lasts : ∀ value earlier later, earlier ≤ later → ends value earlier → ends value later)
    (order : now ≤ moment) : Branch.Ensures keeps ends moment branch := by
  cases ensured with
  | unstarted ensured => exact .unstarted ensured
  | asleep resumed => exact .asleep resumed
  | done ended => exact .done (lasts _ _ _ order ended)

namespace Branches

variable {branches : Branches σ α}

/-! ## When nothing is left to do -/

private theorem not_asleep_of_search_eq_none {best : Option (branches.Focus _ .asleep)}
    {before after : List (Branch σ α)} {whole : branches.list = before ++ after}
    (nobody : earliest?.search branches best before after whole = none) :
    best = none ∧ ∀ branch ∈ after, ∀ sleeper, branch ≠ .asleep sleeper := by
  induction after generalizing best before with
  | nil => exact ⟨nobody, fun _ member => absurd member List.not_mem_nil⟩
  | cons branch after induction =>
      cases branch with
      | asleep sleeper => cases (induction nobody).1
      | unstarted task =>
          have others := induction nobody
          exact ⟨others.1, List.forall_mem_cons.mpr ⟨nofun, others.2⟩⟩
      | done value =>
          have others := induction nobody
          exact ⟨others.1, List.forall_mem_cons.mpr ⟨nofun, others.2⟩⟩

private theorem isDone_of_search_eq_none {room : Nat} (positive : 0 < room)
    {before after : List (Branch σ α)} {whole : branches.list = before ++ after}
    (nobody : startable?.search branches room before after whole = none)
    (finished : ∀ branch ∈ before, branch.isDone)
    (awake : ∀ branch ∈ after, ∀ sleeper, branch ≠ .asleep sleeper) :
    ∀ branch ∈ after, branch.isDone := by
  induction after generalizing before with
  | nil => exact fun _ member => absurd member List.not_mem_nil
  | cons branch after induction =>
      rw [List.forall_mem_cons] at awake
      cases branch with
      | asleep sleeper => exact absurd rfl (awake.1 sleeper)
      | unstarted task =>
          have oldest : (branches.list.takeWhile Branch.isDone).length = before.length := by
            rw [whole, List.takeWhile_append_of_pos finished]
            exact congrArg List.length (List.append_nil before)
          unfold startable?.search at nobody
          simp [oldest, positive] at nobody
      | done value =>
          refine List.forall_mem_cons.mpr ⟨rfl, induction nobody ?_ awake.2⟩
          rw [List.forall_mem_append]
          exact ⟨finished, List.forall_mem_singleton.mpr rfl⟩

theorem isDone_of_idle {room : Nat} (positive : 0 < room)
    (unstartable : branches.startable? room = none) (awake : branches.earliest? = none) :
    ∀ branch ∈ branches.list, branch.isDone :=
  isDone_of_search_eq_none positive unstartable (fun _ member => absurd member List.not_mem_nil)
    (not_asleep_of_search_eq_none awake).2

/-! ## Runs -/

variable {ι : Type} {ends : ι → α → Moment → Prop} {items : List ι}

def Ensured (keeps : σ → Prop) (ends : ι → α → Moment → Prop) (now : Moment) (items : List ι)
    (list : List (Branch σ α)) : Prop :=
  List.Forall₂ (fun item => Branch.Ensures keeps (ends item) now) items list

private theorem values_of_isDone {list : List (Branch σ α)}
    (ensured : Ensured keeps ends now items list) (finished : ∀ branch ∈ list, branch.isDone) :
    List.Forall₂ (fun item value => ends item value now) items (list.filterMap Branch.value?) := by
  induction ensured with
  | nil => exact .nil
  | @cons item branch items list first _ induction =>
      rw [List.forall_mem_cons] at finished
      cases first with
      | unstarted => cases finished.1
      | asleep => cases finished.1
      | done ended => exact .cons ended (induction finished.2)

theorem Ensured.later {list : List (Branch σ α)} {moment : Moment}
    (ensured : Ensured keeps ends now items list)
    (lasts : ∀ item value earlier later, earlier ≤ later → ends item value earlier →
      ends item value later)
    (order : now ≤ moment) : Ensured keeps ends moment items list :=
  List.Forall₂.imp (fun item _ branch => branch.later (lasts item) order) ensured

/-- The branch at a place may be replaced by another one that its item allows. -/
theorem Ensured.replaceable {γ : Type} {embed : γ → Branch σ α}
    (ensured : Ensured keeps ends now items branches.list) (focus : branches.Focus γ embed) :
    ∃ item, Branch.Ensures keeps (ends item) now (embed focus.content) ∧
      ∀ later, Branch.Ensures keeps (ends item) now later →
        Ensured keeps ends now items (focus.before ++ later :: focus.after) := by
  rcases focus with ⟨before, content, after, whole⟩
  rw [whole] at ensured
  dsimp only
  clear whole
  induction before generalizing items with
  | nil =>
      cases ensured with
      | @cons item _ others _ first rest => exact ⟨item, first, fun _ later => .cons later rest⟩
  | cons branch before induction =>
      cases ensured with
      | cons first rest =>
          rcases induction rest with ⟨item, content, replaced⟩
          exact ⟨item, content, fun later ensured => .cons first (replaced later ensured)⟩

abbrev AllEnd (keeps : σ → Prop) (ends : ι → α → Moment → Prop) (items : List ι) (now : Moment)
    (progress : Progress σ (List α)) : Prop :=
  Progress.Ensures keeps
    (fun values moment state =>
      List.Forall₂ (fun item value => ends item value moment) items values ∧ keeps state)
    now progress

private theorem goOn_ensures {room stamps : Nat} {order : WakeOrder}
    {focus : branches.Focus _ .asleep} (ensured : Ensured keeps ends now items branches.list)
    (lasts : ∀ item value earlier later, earlier ≤ later → ends item value earlier →
      ends item value later) (due : focus.content.wake ≤ now)
    (after : ∀ later, StepsTo later branches → Ensured keeps ends now items later.list →
      ∀ stamps state, keeps state →
        AllEnd keeps ends items now (progress room order later stamps now state)) {state : σ}
    (holds : keeps state) :
    AllEnd keeps ends items now (goOn room order focus stamps now state) := by
  rcases ensured.replaceable focus with ⟨item, asleep, replaced⟩
  cases asleep with
  | asleep resumed =>
      have ended := resumed state holds
      unfold goOn
      generalize woken : focus.content.resume state = progress at ended ⊢
      cases ended with
      | @finished _ value state ended =>
          have step := stepsTo_of_focus focus (.finish value focus.content)
          exact after _ step (replaced _ (.done (lasts item value _ _ due ended.1))) _ _ ended.2
      | @waiting _ wake state resume reached resumed =>
          have again : Branch.ResumesTo resume focus.content.resume := ⟨_, _, _, woken⟩
          dsimp only
          refine after _ (stepsTo_of_focus focus (.again ?_)) (replaced _ (.asleep resumed)) _ _
            reached
          exact again

theorem progress_ensures {room stamps : Nat} {order : WakeOrder} (positive : 0 < room)
    (lasts : ∀ item value earlier later, earlier ≤ later → ends item value earlier →
      ends item value later)
    (ensured : Ensured keeps ends now items branches.list) {state : σ} (holds : keeps state) :
    AllEnd keeps ends items now (progress room order branches stamps now state) := by
  induction acc_stepsTo branches generalizing now stamps state with
  | intro branches _ induction =>
      rw [progress_eq]
      cases start : branches.startable? room with
      | some focus =>
          rcases ensured.replaceable focus with ⟨item, unstarted, replaced⟩
          cases unstarted with
          | unstarted begins =>
              have step := stepsTo_of_focus focus
                (.start focus.content ⟨stamps, now, focus.content now⟩)
              exact induction _ step (replaced _ (.asleep (begins now))) holds
      | none =>
          cases wake : branches.earliest? with
          | none =>
              exact .finished ⟨values_of_isDone ensured (isDone_of_idle positive start wake), holds⟩
          | some focus =>
              dsimp only
              split
              · exact goOn_ensures ensured lasts ‹_›
                  (fun later step ensured stamps state => induction later step ensured) holds
              · rename_i later
                refine .waiting holds fun state holds => ?_
                exact goOn_ensures (ensured.later lasts (Nat.le_of_not_le later)) lasts
                  (Nat.le_refl _) (fun later step ensured stamps state => induction later step ensured)
                  holds

end Branches

/-- Tasks side by side all end, each as it does alone. -/
theorem Task.Ensures.fanOut {ι : Type} {ends : ι → α → Moment → Prop} {task : ι → Task σ α}
    (room : Nat) (order : WakeOrder) (items : List ι)
    (lasts : ∀ item value earlier later, earlier ≤ later → ends item value earlier →
      ends item value later)
    (each : ∀ item, Task.Ensures keeps (ends item) (task item)) :
    Task.Ensures keeps
      (fun values moment => List.Forall₂ (fun item value => ends item value moment) items values)
      (Task.fanOut room order (items.map task)) := by
  intro now state holds
  refine Branches.progress_ensures (Nat.lt_of_lt_of_le Nat.one_pos (Nat.le_max_right room 1)) lasts
    ?_ holds
  unfold Branches.Ensured
  rw [List.forall₂_map_right_iff, List.forall₂_map_right_iff]
  exact List.forall₂_same.mpr fun item _ => .unstarted (each item)

theorem Task.Ensures.all {ι : Type} {ends : ι → α → Moment → Prop} {task : ι → Task σ α}
    (items : List ι)
    (lasts : ∀ item value earlier later, earlier ≤ later → ends item value earlier →
      ends item value later)
    (each : ∀ item, Task.Ensures keeps (ends item) (task item)) :
    Task.Ensures keeps
      (fun values moment => List.Forall₂ (fun item value => ends item value moment) items values)
      (Task.all (items.map task)) :=
  Task.Ensures.fanOut _ _ items lasts each

end GroundedAnswers
