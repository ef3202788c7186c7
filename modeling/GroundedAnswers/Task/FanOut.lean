import GroundedAnswers.Task.Basic

namespace GroundedAnswers

/-! Tasks side by side on one state. At most one of them acts at a time, and each acts until it has
to wait. Tasks start in the order of the list, as far as there is room; results stand in the order
of the list, whichever is finished first. -/

/-- The order of tasks that can go on at the same moment: by their places in the list, or in the
order in which they began to wait. -/
inductive WakeOrder where
  | byPlace
  | byArrival
  deriving DecidableEq

/-- A task that waits. Of two that wake at one moment, the one with the smaller stamp is first. -/
structure Sleeper (σ α : Type) where
  stamp : Nat
  wake : Moment
  resume : σ → Progress σ α

inductive Branch (σ α : Type) where
  | unstarted (task : Task σ α)
  | asleep (sleeper : Sleeper σ α)
  | done (value : α)

namespace Branch

def isDone : Branch σ α → Bool
  | .done _ => true
  | _ => false

def value? : Branch σ α → Option α
  | .done value => some value
  | _ => none

/-! ## Every branch ends

A branch is started once, then resumed as often as its work waits, and then it is done. -/

def ResumesTo (later earlier : σ → Progress σ α) : Prop :=
  ∃ state wake reached, earlier state = .waiting wake reached later

theorem acc_resumesTo (resume : σ → Progress σ α) : Acc ResumesTo resume := by
  have deep : ∀ (progress : Progress σ α) (wake : Moment) (state : σ)
      (later : σ → Progress σ α), progress = .waiting wake state later → Acc ResumesTo later := by
    intro progress
    induction progress with
    | finished => intro _ _ _ equal; cases equal
    | waiting _ _ resume induction =>
        intro _ _ _ equal
        cases equal
        exact .intro _ fun _ ⟨state, wake, reached, step⟩ => induction state wake reached _ step
  exact .intro _ fun later ⟨state, wake, reached, step⟩ => deep (resume state) wake reached later step

inductive StepsTo : Branch σ α → Branch σ α → Prop
  | start (task : Task σ α) (sleeper : Sleeper σ α) : StepsTo (.asleep sleeper) (.unstarted task)
  | again {later earlier : Sleeper σ α} (resumed : ResumesTo later.resume earlier.resume) :
      StepsTo (.asleep later) (.asleep earlier)
  | finish (value : α) (sleeper : Sleeper σ α) : StepsTo (.done value) (.asleep sleeper)

theorem acc_stepsTo (branch : Branch σ α) : Acc StepsTo branch := by
  have done : ∀ value : α, Acc StepsTo (.done value : Branch σ α) :=
    fun _ => .intro _ fun _ step => by cases step
  have asleep : ∀ resume : σ → Progress σ α, ∀ sleeper : Sleeper σ α, sleeper.resume = resume →
      Acc StepsTo (.asleep sleeper) := by
    intro resume
    induction acc_resumesTo resume with
    | intro resume _ induction =>
        intro sleeper equal
        subst equal
        refine .intro _ fun _ step => ?_
        cases step with
        | again resumed => exact induction _ resumed _ rfl
        | finish value => exact done value
  cases branch with
  | unstarted task => exact .intro _ fun _ step => by cases step; exact asleep _ _ rfl
  | asleep sleeper => exact asleep _ sleeper rfl
  | done value => exact done value

end Branch

structure Branches (σ α : Type) where
  list : List (Branch σ α)

namespace Branches

inductive StepsTo : Branches σ α → Branches σ α → Prop
  | step (before after : List (Branch σ α)) {later earlier : Branch σ α}
      (one : Branch.StepsTo later earlier) :
      StepsTo ⟨before ++ later :: after⟩ ⟨before ++ earlier :: after⟩

theorem acc_stepsTo (branches : Branches σ α) : Acc StepsTo branches := by
  obtain ⟨list⟩ := branches
  induction list with
  | nil =>
      refine .intro _ fun _ step => ?_
      generalize equal : (⟨[]⟩ : Branches σ α) = branches at step
      cases step with
      | step before after one => cases before <;> simp at equal
  | cons head tail induction =>
      induction Branch.acc_stepsTo head generalizing tail with
      | intro head _ headInduction =>
          generalize wrapped : (⟨tail⟩ : Branches σ α) = rest at induction
          induction induction generalizing tail with
          | intro rest tailAcc tailInduction =>
              subst wrapped
              refine .intro _ fun _ step => ?_
              generalize equal : (⟨head :: tail⟩ : Branches σ α) = branches at step
              cases step with
              | step before after one =>
                  cases before with
                  | nil =>
                      simp only [List.nil_append, Branches.mk.injEq, List.cons.injEq] at equal
                      obtain ⟨rfl, rfl⟩ := equal
                      exact headInduction _ one _ (.intro _ tailAcc)
                  | cons first before =>
                      simp only [List.cons_append, Branches.mk.injEq, List.cons.injEq] at equal
                      obtain ⟨rfl, rfl⟩ := equal
                      exact tailInduction _ (.step before after one) _ rfl

instance : WellFoundedRelation (Branches σ α) :=
  ⟨StepsTo, ⟨acc_stepsTo⟩⟩

structure Focus (branches : Branches σ α) (β : Type) (embed : β → Branch σ α) where
  before : List (Branch σ α)
  content : β
  after : List (Branch σ α)
  whole : branches.list = before ++ embed content :: after

/-- The first task that has not started, if its place lies within `room` places of the first one
that is not done. -/
def startable? (branches : Branches σ α) (room : Nat) : Option (branches.Focus _ .unstarted) :=
  search [] branches.list rfl
where
  search (before after : List (Branch σ α)) (whole : branches.list = before ++ after) :
      Option (branches.Focus _ .unstarted) :=
    match after with
    | [] => none
    | .unstarted task :: after =>
        let oldest := (branches.list.takeWhile Branch.isDone).length
        if before.length < oldest + room then some ⟨before, task, after, whole⟩ else none
    | branch :: after => search (before ++ [branch]) after (by simpa using whole)

def earliest? (branches : Branches σ α) : Option (branches.Focus _ .asleep) :=
  search none [] branches.list rfl
where
  search (best : Option (branches.Focus _ .asleep)) (before after : List (Branch σ α))
      (whole : branches.list = before ++ after) : Option (branches.Focus _ .asleep) :=
    match after with
    | [] => best
    | .asleep sleeper :: after =>
        let found : branches.Focus _ .asleep := ⟨before, sleeper, after, whole⟩
        let better :=
          match best with
          | none => found
          | some best =>
              let known := best.content
              if sleeper.wake < known.wake ∨ (sleeper.wake = known.wake ∧ sleeper.stamp < known.stamp)
              then found else best
        search (some better) (before ++ [.asleep sleeper]) after (by simpa using whole)
    | branch :: after => search best (before ++ [branch]) after (by simpa using whole)

/-- Go on until every task is done. `stamps` counts the stamps that were given out. -/
def progress (room : Nat) (order : WakeOrder) (branches : Branches σ α) (stamps : Nat)
    (now : Moment) (state : σ) : Progress σ (List α) :=
  match branches.startable? room with
  | some ⟨before, task, after, _⟩ =>
      let sleeper : Sleeper σ α := ⟨stamps, now, task now⟩
      progress room order ⟨before ++ .asleep sleeper :: after⟩ (stamps + 1) now state
  | none =>
      match branches.earliest? with
      | none => .finished (branches.list.filterMap Branch.value?) state
      | some ⟨before, sleeper, after, _⟩ =>
          let resume := fun (moment : Moment) (state : σ) =>
            match _resumed : sleeper.resume state with
            | .finished value state =>
                progress room order ⟨before ++ .done value :: after⟩ stamps moment state
            | .waiting wake state resume =>
                let stamp :=
                  match order with
                  | .byPlace => sleeper.stamp
                  | .byArrival => stamps
                progress room order ⟨before ++ .asleep ⟨stamp, wake, resume⟩ :: after⟩ (stamps + 1)
                  moment state
          if sleeper.wake ≤ now then resume now state
          else .waiting sleeper.wake state (resume sleeper.wake)
termination_by branches
decreasing_by
  · rw [show branches = ⟨before ++ .unstarted task :: after⟩ from congrArg Branches.mk ‹_›]
    exact .step _ _ (.start _ _)
  · rw [show branches = ⟨before ++ .asleep sleeper :: after⟩ from congrArg Branches.mk ‹_›]
    exact .step _ _ (.finish _ _)
  · rw [show branches = ⟨before ++ .asleep sleeper :: after⟩ from congrArg Branches.mk ‹_›]
    exact .step _ _ (.again ⟨_, _, _, _resumed⟩)

end Branches

namespace Task

/-- Run tasks side by side, at most `room` of them ahead of the first unfinished one. There is
always room for one. -/
def fanOut (room : Nat) (order : WakeOrder) (tasks : List (Task σ α)) : Task σ (List α) :=
  Branches.progress (max room 1) order ⟨tasks.map .unstarted⟩ 0

def all (tasks : List (Task σ α)) : Task σ (List α) :=
  fanOut tasks.length .byPlace tasks

def buffered (room : Nat) (tasks : List (Task σ α)) : Task σ (List α) :=
  fanOut room .byArrival tasks

end Task

end GroundedAnswers
