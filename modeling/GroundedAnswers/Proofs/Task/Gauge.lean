import GroundedAnswers.Proofs.Task.EnsuresFanOut

namespace GroundedAnswers

/-! How many tasks are in progress at once: tasks side by side are counted while they last. Counting
changes nothing else, and there are never more than there is room for. -/

structure Gauge where
  current : Nat := 0
  peak : Nat := 0

namespace Gauge

def enter (gauge : Gauge) : Gauge :=
  ⟨gauge.current + 1, max gauge.peak (gauge.current + 1)⟩

def leave (gauge : Gauge) : Gauge :=
  ⟨gauge.current - 1, gauge.peak⟩

end Gauge

def Task.countOut (value : α) : Task (σ × Gauge) α :=
  fun _ whole => .finished value (whole.1, whole.2.leave)

/-- The task, counted from its first step to its last. -/
def Task.gauged (task : Task σ α) : Task (σ × Gauge) α := do
  modify fun whole => (whole.1, whole.2.enter)
  let value ← Task.zoom Prod.fst (fun state whole => (state, whole.2)) task
  Task.countOut value

abbrev Progress.gauged (whole : σ × Gauge) (progress : Progress σ α) (now : Moment) :
    Progress (σ × Gauge) α :=
  (progress.zoom Prod.fst (fun state whole => (state, whole.2)) whole).andThen Task.countOut now

/-! ## Counting changes nothing -/

abbrev Counted (_ : Unit) (whole : σ × Gauge) (state : σ) : Prop :=
  whole.1 = state

private theorem Progress.gauged_alike (progress : Progress σ α) (whole : σ × Gauge) (now : Moment) :
    Progress.Alike Counted
      (fun index left leftState right rightState =>
        right = id left ∧ Counted index leftState rightState)
      () (progress.gauged whole now) progress := by
  induction progress generalizing whole now with
  | finished value state => exact .finished ⟨rfl, rfl⟩
  | waiting wake state resume induction =>
      refine .waiting rfl fun _ later state same => ?_
      subst same
      exact induction later.1 later wake

private theorem Task.gauged_alike (task : Task σ α) : Task.Alike Counted id task.gauged task := by
  intro _ now whole state same
  subst same
  exact Progress.gauged_alike (task now whole.1) (whole.1, whole.2.enter) now

theorem Progress.Alike.run {ι : Type} {index : ι} {ready : ι → σ → τ → Prop}
    {ends : ι → α → σ → β → τ → Prop} {left : Progress σ α} {right : Progress τ β}
    (alike : Progress.Alike ready ends index left right) (now : Moment) :
    (left.run now).2.1 = (right.run now).2.1 ∧
      ends index (left.run now).1 (left.run now).2.2 (right.run now).1 (right.run now).2.2 := by
  induction alike generalizing now with
  | finished ended => exact ⟨rfl, ended⟩
  | waiting reached _ induction => exact induction _ _ _ reached _

private theorem Task.run_fanOut_gauged (room : Nat) (order : WakeOrder) (tasks : List (Task σ α))
    (now : Moment) (state : σ) (gauge : Gauge) :
    ∃ after, (Task.fanOut room order (tasks.map Task.gauged)).run now (state, gauge) =
      (((Task.fanOut room order tasks).run now state).1,
        ((Task.fanOut room order tasks).run now state).2.1,
        ((Task.fanOut room order tasks).run now state).2.2, after) := by
  have each : List.Forall₂ (Task.Alike Counted (id : α → α)) (tasks.map Task.gauged) tasks := by
    rw [List.forall₂_map_left_iff]
    exact List.forall₂_same.mpr fun task _ => task.gauged_alike
  have alike := Task.Alike.fanOut room order each () now (state, gauge) state rfl
  obtain ⟨moment, value, same⟩ := alike.run now
  rw [List.map_id] at value
  exact ⟨_, Prod.ext value.symm (Prod.ext moment (Prod.ext same rfl))⟩

/-! ## Counting in and out -/

/-- Work that is counted: whatever the count is when it goes on, the work leaves it as it is, and
counts itself out at its end. -/
inductive Progress.Leaves : Gauge → Progress (σ × Gauge) α → Prop
  | finished {gauge : Gauge} (value : α) (state : σ) :
      Leaves gauge (.finished value (state, gauge.leave))
  | waiting {gauge : Gauge} (wake : Moment) (state : σ) {resume : σ × Gauge → Progress (σ × Gauge) α}
      (resumed : ∀ state gauge, Leaves gauge (resume (state, gauge))) :
      Leaves gauge (.waiting wake (state, gauge) resume)

private theorem Progress.gauged_leaves (progress : Progress σ α) (state : σ) (gauge : Gauge)
    (now : Moment) :
    Progress.Leaves gauge (progress.gauged (state, gauge) now) := by
  induction progress generalizing state gauge now with
  | finished value final => exact .finished value final
  | waiting wake reached resume induction =>
      refine .waiting wake reached ?_
      exact fun later gauge => induction later later gauge wake

private theorem Task.gauged_leaves (task : Task σ α) (now : Moment) (state : σ) (gauge : Gauge) :
    Progress.Leaves gauge.enter (task.gauged now (state, gauge)) :=
  Progress.gauged_leaves (task now state) state gauge.enter now

/-! ## Branches -/

namespace Branch

def isAsleep : Branch σ α → Bool
  | .asleep _ => true
  | _ => false

def isUnstarted : Branch σ α → Bool
  | .unstarted _ => true
  | _ => false

/-- How many of the counted tasks a branch stands for: one, between its first step and its last. -/
inductive Counts : Branch (σ × Gauge) α → Nat → Prop
  | unstarted {task : Task (σ × Gauge) α}
      (begins : ∀ now state gauge, Progress.Leaves gauge.enter (task now (state, gauge))) :
      Counts (.unstarted task) 0
  | starting (sleeper : Sleeper (σ × Gauge) α)
      (begins : ∀ state gauge, Progress.Leaves gauge.enter (sleeper.resume (state, gauge))) :
      Counts (.asleep sleeper) 0
  | begun (sleeper : Sleeper (σ × Gauge) α)
      (resumed : ∀ state gauge, Progress.Leaves gauge (sleeper.resume (state, gauge))) :
      Counts (.asleep sleeper) 1
  | done (value : α) : Counts (.done value) 0

private theorem Counts.entered {sleeper : Sleeper (σ × Gauge) α} {count rest : Nat} {gauge : Gauge}
    (counts : Counts (.asleep sleeper) count) (state : σ) (same : gauge.current = count + rest) :
    ∃ entered : Gauge, Progress.Leaves entered (sleeper.resume (state, gauge)) ∧
      entered.current = 1 + rest ∧ entered.peak ≤ max gauge.peak entered.current := by
  cases counts with
  | starting _ begins =>
      refine ⟨gauge.enter, begins state gauge, ?_, Nat.le_refl _⟩
      simp only [Gauge.enter]
      omega
  | begun _ resumed => exact ⟨gauge, resumed state gauge, same, Nat.le_max_left _ _⟩

theorem Counts.le {branch : Branch (σ × Gauge) α} {count : Nat} (counts : Counts branch count) :
    count ≤ if branch.isAsleep then 1 else 0 := by
  cases counts with
  | unstarted | starting | done => exact Nat.zero_le _
  | begun => exact Nat.le_refl _

end Branch

namespace Branches

inductive Total : List (Branch (σ × Gauge) α) → Nat → Prop
  | nil : Total [] 0
  | cons {branch : Branch (σ × Gauge) α} {list : List (Branch (σ × Gauge) α)} {count rest : Nat}
      (first : Branch.Counts branch count) (others : Total list rest) :
      Total (branch :: list) (count + rest)

namespace Total

private theorem le_countP {list : List (Branch (σ × Gauge) α)} {total : Nat}
    (all : Total list total) :
    total ≤ list.countP Branch.isAsleep := by
  induction all with
  | nil => exact Nat.le_refl _
  | cons first _ induction =>
      rw [List.countP_cons, Nat.add_comm]
      exact Nat.add_le_add induction first.le

/-- The branch at a place may be replaced by another one, which makes no difference but its own. -/
theorem replaceable {before after : List (Branch (σ × Gauge) α)} {branch : Branch (σ × Gauge) α}
    {total : Nat} (all : Total (before ++ branch :: after) total) :
    ∃ count rest, Branch.Counts branch count ∧ total = count + rest ∧
      (branch.isAsleep → rest < (before ++ branch :: after).countP Branch.isAsleep) ∧
      ∀ later count', Branch.Counts later count' →
        Total (before ++ later :: after) (count' + rest) := by
  induction before generalizing total with
  | nil =>
      cases all with
      | @cons _ _ count rest first others =>
          refine ⟨count, rest, first, rfl, fun asleep => ?_, fun _ _ counts => .cons counts others⟩
          rw [List.nil_append, List.countP_cons_of_pos asleep]
          exact Nat.lt_succ_of_le others.le_countP
  | cons head before induction =>
      cases all with
      | @cons _ _ own _ first others =>
          obtain ⟨count, rest, counts, rfl, below, replaced⟩ := induction others
          refine ⟨count, own + rest, counts, Nat.add_left_comm _ _ _, fun asleep => ?_, ?_⟩
          · have inside := below asleep
            have ofHead := first.le
            rw [List.cons_append, List.countP_cons]
            omega
          · intro later count' counts
            rw [Nat.add_left_comm]
            exact .cons first (replaced later count' counts)

end Total

/-! ## Room -/

private theorem countP_isAsleep_eq_zero {list : List (Branch σ α)}
    (others : ∀ branch ∈ list, branch.isDone ∨ branch.isUnstarted) :
    list.countP Branch.isAsleep = 0 := by
  rw [List.countP_eq_zero]
  intro branch member asleep
  have other := others branch member
  cases branch <;> simp [Branch.isAsleep, Branch.isDone, Branch.isUnstarted] at asleep other

/-- Whatever has not started stands behind all that has, and no more branches are under way than
there is room for. -/
structure Orderly (room : Nat) (list : List (Branch σ α)) : Prop where
  shape : list.Pairwise fun earlier later => earlier.isUnstarted → later.isUnstarted
  few : list.countP Branch.isAsleep ≤ room

variable {branches : Branches σ α}

private theorem startable?_search_first {room : Nat} {before after : List (Branch σ α)}
    {whole : branches.list = before ++ after} {focus : branches.Focus _ .unstarted}
    (found : startable?.search branches room before after whole = some focus)
    (started : ∀ branch ∈ before, branch.isUnstarted = false) :
    (∀ branch ∈ focus.before, branch.isUnstarted = false) ∧
      focus.before.length < (branches.list.takeWhile Branch.isDone).length + room := by
  induction after generalizing before with
  | nil => cases found
  | cons branch after induction =>
      cases branch with
      | unstarted task =>
          unfold startable?.search at found
          dsimp only at found
          split at found
          · rename_i near
            cases found
            exact ⟨started, near⟩
          · cases found
      | asleep sleeper =>
          exact induction found (List.forall_mem_append.mpr ⟨started, by simp [Branch.isUnstarted]⟩)
      | done value =>
          exact induction found (List.forall_mem_append.mpr ⟨started, by simp [Branch.isUnstarted]⟩)

private theorem startable?_first {room : Nat} {focus : branches.Focus _ .unstarted}
    (found : branches.startable? room = some focus) :
    (∀ branch ∈ focus.before, branch.isUnstarted = false) ∧
      focus.before.length < (branches.list.takeWhile Branch.isDone).length + room :=
  startable?_search_first found fun _ member => absurd member List.not_mem_nil

private theorem length_takeWhile_add_countP_le (list : List (Branch σ α)) :
    (list.takeWhile Branch.isDone).length + list.countP Branch.isAsleep ≤ list.length := by
  induction list with
  | nil => exact Nat.le_refl _
  | cons branch list induction =>
      cases branch with
      | unstarted task =>
          have few := list.countP_le_length (p := Branch.isAsleep)
          simp only [List.takeWhile_cons, List.countP_cons, Branch.isDone, Branch.isAsleep,
            List.length_cons, Bool.false_eq_true, if_false, List.length_nil]
          omega
      | asleep sleeper =>
          have few := list.countP_le_length (p := Branch.isAsleep)
          simp only [List.takeWhile_cons, List.countP_cons, Branch.isDone, Branch.isAsleep,
            List.length_cons, Bool.false_eq_true, if_false, if_true, List.length_nil]
          omega
      | done value =>
          simp only [List.takeWhile_cons, List.countP_cons, Branch.isDone, Branch.isAsleep,
            List.length_cons, Bool.false_eq_true, if_false, if_true]
          omega

section

variable {room : Nat} {before after : List (Branch σ α)} {sleeper : Sleeper σ α}

theorem Orderly.goesOn (orderly : Orderly room (before ++ .asleep sleeper :: after))
    {later : Branch σ α} (started : later.isUnstarted = false) :
    Orderly room (before ++ later :: after) := by
  obtain ⟨shape, few⟩ := orderly
  have flags : (before ++ later :: after).map Branch.isUnstarted =
      (before ++ .asleep sleeper :: after).map Branch.isUnstarted := by
    simp only [List.map_append, List.map_cons, started]
    rfl
  constructor
  · have ofFlags : ∀ list : List (Branch σ α),
        (list.Pairwise fun earlier later => earlier.isUnstarted → later.isUnstarted) ↔
          (list.map Branch.isUnstarted).Pairwise
            fun (earlier later : Bool) => earlier = true → later = true :=
      fun _ => by rw [List.pairwise_map]
    rwa [ofFlags, flags, ← ofFlags]
  · rw [List.countP_append, List.countP_cons_of_pos rfl] at few
    rw [List.countP_append, List.countP_cons]
    split <;> omega

theorem Orderly.starts {task : Task σ α} (orderly : Orderly room (before ++ .unstarted task :: after))
    (started : ∀ branch ∈ before, branch.isUnstarted = false)
    (near : before.length <
      ((before ++ .unstarted task :: after).takeWhile Branch.isDone).length + room) :
    Orderly room (before ++ .asleep sleeper :: after) := by
  obtain ⟨inFront, behind, -⟩ := List.pairwise_append.mp orderly.shape
  obtain ⟨unstarted, shape⟩ := List.pairwise_cons.mp behind
  constructor
  · refine List.pairwise_append.mpr ⟨inFront, List.pairwise_cons.mpr ⟨nofun, shape⟩, ?_⟩
    intro earlier member later _ isUnstarted
    rw [started earlier member] at isUnstarted
    cases isUnstarted
  · have none : after.countP Branch.isAsleep = 0 :=
      countP_isAsleep_eq_zero fun branch member => .inr (unstarted branch member rfl)
    -- The oldest branch that is not done stands in front, or is the one that starts.
    have oldest : ((before ++ .unstarted task :: after).takeWhile Branch.isDone).length =
        (before.takeWhile Branch.isDone).length := by
      rw [List.takeWhile_append]
      split <;> simp [Branch.isDone, *]
    have within := length_takeWhile_add_countP_le before
    rw [List.countP_append, List.countP_cons_of_pos rfl, none]
    omega

end

/-! ## Runs -/

/-- The count agrees with the branches, and never was higher than there is room for. -/
structure Measured (room : Nat) (list : List (Branch (σ × Gauge) α)) (gauge : Gauge) : Prop where
  orderly : Orderly room list
  total : Total list gauge.current
  within : gauge.peak ≤ room

abbrev Balanced (room : Nat) (now : Moment) (progress : Progress (σ × Gauge) (List α)) : Prop :=
  (progress.run now).2.2.2.current = 0 ∧ (progress.run now).2.2.2.peak ≤ room

section

variable {room : Nat} {branches : Branches (σ × Gauge) α} {gauge : Gauge}

theorem Measured.starts (measured : Measured room branches.list gauge)
    {focus : branches.Focus _ .unstarted} (found : branches.startable? room = some focus)
    (stamp : Nat) (now : Moment) :
    Measured room
      (focus.before ++ .asleep ⟨stamp, now, focus.content now⟩ :: focus.after) gauge := by
  obtain ⟨started, near⟩ := startable?_first found
  obtain ⟨before, task, after, whole⟩ := focus
  obtain ⟨orderly, total, within⟩ := measured
  rw [whole] at near orderly total
  obtain ⟨count, rest, counts, same, -, replaced⟩ := total.replaceable
  refine ⟨orderly.starts started near, ?_, within⟩
  cases counts with
  | unstarted begins =>
      rw [same]
      exact replaced _ 0 (.starting ⟨stamp, now, task now⟩ (begins now))

private theorem Measured.isBalanced (measured : Measured room branches.list gauge)
    (finished : ∀ branch ∈ branches.list, branch.isDone) (values : List α) (now : Moment) (state : σ) :
    Balanced room now (.finished values (state, gauge)) := by
  have awake : branches.list.countP Branch.isAsleep = 0 :=
    countP_isAsleep_eq_zero fun branch member => .inl (finished branch member)
  exact ⟨Nat.le_zero.mp (awake ▸ measured.total.le_countP), measured.within⟩

private theorem goOn_balanced (order : WakeOrder) (focus : branches.Focus _ .asleep)
    (measured : Measured room branches.list gauge)
    (after : ∀ later, StepsTo later branches → ∀ stamps state gauge,
      Measured room later.list gauge → ∀ now,
        Balanced room now (progress room order later stamps now (state, gauge)))
    (stamps : Nat) (now : Moment) (state : σ) :
    Balanced room now (goOn room order focus stamps now (state, gauge)) := by
  obtain ⟨orderly, total, within⟩ := measured
  have whole : branches.list = focus.before ++ .asleep focus.content :: focus.after := focus.whole
  rw [whole] at orderly total
  obtain ⟨count, rest, counts, same, below, replaced⟩ := total.replaceable
  -- The branch is itself under way, which leaves less than the whole room to the others.
  have near : rest < room := Nat.lt_of_lt_of_le (below rfl) orderly.few
  obtain ⟨entered, leaves, current, peak⟩ := counts.entered state same
  have inside : entered.peak ≤ room := by omega
  unfold goOn
  generalize woken : focus.content.resume (state, gauge) = progress at leaves ⊢
  cases leaves with
  | finished value state =>
      have step := stepsTo_of_focus focus (.finish value focus.content)
      refine after _ step _ _ entered.leave ⟨orderly.goesOn rfl, ?_, inside⟩ now
      have left : entered.leave.current = 0 + rest := by
        simp only [Gauge.leave]
        omega
      rw [left]
      exact replaced _ 0 (.done value)
  | @waiting _ _ _ wake state resume resumed =>
      have again : Branch.ResumesTo resume focus.content.resume := ⟨_, _, _, woken⟩
      dsimp only
      refine after _ (stepsTo_of_focus focus (.again ?_)) _ _ _ ⟨orderly.goesOn rfl, ?_, inside⟩ now
      · exact again
      · rw [current]
        exact replaced _ 1 (.begun ⟨_, wake, resume⟩ resumed)

private theorem progress_balanced {order : WakeOrder} (positive : 0 < room) {stamps : Nat}
    {now : Moment} {state : σ} (measured : Measured room branches.list gauge) :
    Balanced room now (progress room order branches stamps now (state, gauge)) := by
  induction acc_stepsTo branches generalizing now stamps state gauge with
  | intro branches _ induction =>
      rw [progress_eq]
      cases start : branches.startable? room with
      | some focus =>
          have step := stepsTo_of_focus focus (.start focus.content ⟨stamps, now, focus.content now⟩)
          exact induction _ step (measured.starts start stamps now)
      | none =>
          cases wake : branches.earliest? with
          | none => exact measured.isBalanced (isDone_of_idle positive start wake) _ now state
          | some focus =>
              have goesOn := goOn_balanced order focus measured
                fun later step stamps state gauge measured now => induction later step measured
              dsimp only
              split
              · exact goesOn stamps now state
              · exact goesOn stamps focus.content.wake state

end

end Branches

/-- Counting the tasks in progress does not change what comes of them. All of them are over at the
end, and there never were more than there is room for. -/
theorem Task.fanOut_gauged (room : Nat) (order : WakeOrder) (tasks : List (Task σ α))
    (now : Moment) (state : σ) :
    ∃ gauge : Gauge, gauge.current = 0 ∧ gauge.peak ≤ max room 1 ∧
      (Task.fanOut room order (tasks.map Task.gauged)).run now (state, {}) =
        (((Task.fanOut room order tasks).run now state).1,
          ((Task.fanOut room order tasks).run now state).2.1,
          ((Task.fanOut room order tasks).run now state).2.2, gauge) := by
  have measured : Branches.Measured (max room 1)
      ((tasks.map Task.gauged).map Branch.unstarted) {} := by
    refine ⟨⟨?_, ?_⟩, ?_, Nat.zero_le _⟩
    · rw [List.pairwise_map]
      exact List.pairwise_of_forall fun _ _ _ => rfl
    · rw [List.countP_map]
      exact Nat.le_trans (Nat.le_of_eq (List.countP_eq_zero.mpr fun _ _ => nofun)) (Nat.zero_le _)
    · induction tasks with
      | nil => exact .nil
      | cons task tasks induction => exact .cons (.unstarted task.gauged_leaves) induction
  obtain ⟨gauge, counted⟩ := Task.run_fanOut_gauged room order tasks now state {}
  have positive : 0 < max room 1 := Nat.lt_of_lt_of_le Nat.one_pos (Nat.le_max_right room 1)
  have balanced : Branches.Balanced (max room 1) now
      (Task.fanOut room order (tasks.map Task.gauged) now (state, {})) :=
    Branches.progress_balanced positive measured
  have final : ((Task.fanOut room order (tasks.map Task.gauged)).run now (state, {})).2.2.2 = gauge :=
    congrArg (·.2.2.2) counted
  exact ⟨gauge, final ▸ balanced.1, final ▸ balanced.2, counted⟩

end GroundedAnswers
