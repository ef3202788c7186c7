import GroundedAnswers.Proofs.Task.Together
import GroundedAnswers.Proofs.Task.Yields

namespace GroundedAnswers

/-! Tasks that run all at once give way to an interruption together. Whoever is awake before it has
gone on at calm moments. When it comes, all that still wait are woken at the same moment, and each
of them ends at once. -/

inductive Branch.Yields (keeps : σ → Prop) (context : RequestContext) (regular : α → Prop)
    (broken : Interruption → α → Prop) : Branch σ α → Prop
  | ready {sleeper : Sleeper σ α} (calm : context.interruption? sleeper.wake = none)
      (resumed : ∀ state, keeps state →
        Progress.Yields keeps context regular broken sleeper.wake (sleeper.resume state)) :
      Yields keeps context regular broken (.asleep sleeper)
  | stopping {sleeper : Sleeper σ α} {cause : Interruption}
      (first : context.stopsAt? = some sleeper.wake)
      (look : context.interruption? sleeper.wake = some cause)
      (resumed : ∀ state, keeps state →
        ∃ value, sleeper.resume state = .finished value state ∧ broken cause value) :
      Yields keeps context regular broken (.asleep sleeper)
  | done {value : α} (isRegular : regular value) : Yields keeps context regular broken (.done value)

inductive Branch.Stopped (keeps : σ → Prop) (stop : Moment) (regular broken : α → Prop) :
    Branch σ α → Prop
  | asleep {sleeper : Sleeper σ α} (due : sleeper.wake = stop)
      (resumed : ∀ state, keeps state →
        ∃ value, sleeper.resume state = .finished value state ∧ broken value) :
      Stopped keeps stop regular broken (.asleep sleeper)
  | done {value : α} (ended : regular value ∨ broken value) :
      Stopped keeps stop regular broken (.done value)

namespace Branches

variable {branches : Branches σ α}

/-! ## Who is next -/

private theorem startable?_search_eq_none {room : Nat} {before after : List (Branch σ α)}
    (whole : branches.list = before ++ after)
    (started : ∀ branch ∈ after, ∀ task, branch ≠ .unstarted task) :
    startable?.search branches room before after whole = none := by
  induction after generalizing before with
  | nil => rfl
  | cons branch after induction =>
      rw [List.forall_mem_cons] at started
      cases branch with
      | unstarted task => exact absurd rfl (started.1 task)
      | asleep sleeper => exact induction _ started.2
      | done value => exact induction _ started.2

private theorem startable?_eq_none (room : Nat)
    (started : ∀ branch ∈ branches.list, ∀ task, branch ≠ .unstarted task) :
    branches.startable? room = none :=
  startable?_search_eq_none (List.nil_append _).symm started

/-- The search never gives up a branch for one that wakes later. -/
theorem wake_le_of_search {best : Option (branches.Focus _ .asleep)}
    {before after : List (Branch σ α)} {whole : branches.list = before ++ after}
    {focus : branches.Focus _ .asleep}
    (found : earliest?.search branches best before after whole = some focus) :
    (∀ known, best = some known → focus.content.wake ≤ known.content.wake) ∧
      ∀ sleeper, .asleep sleeper ∈ after → focus.content.wake ≤ sleeper.wake := by
  induction after generalizing best before with
  | nil =>
      refine ⟨fun known same => ?_, fun _ member => absurd member List.not_mem_nil⟩
      cases same.symm.trans found
      exact Nat.le_refl _
  | cons branch after induction =>
      cases branch with
      | unstarted task =>
          rcases induction found with ⟨known, others⟩
          exact ⟨known, fun sleeper member => others sleeper (by simpa using member)⟩
      | done value =>
          rcases induction found with ⟨known, others⟩
          exact ⟨known, fun sleeper member => others sleeper (by simpa using member)⟩
      | asleep sleeper =>
          rcases induction found with ⟨chosen, others⟩
          have better := chosen _ rfl
          have bounds : focus.content.wake ≤ sleeper.wake ∧
              ∀ known, best = some known → focus.content.wake ≤ known.content.wake := by
            cases best with
            | none => exact ⟨better, nofun⟩
            | some known =>
                suffices both : focus.content.wake ≤ sleeper.wake ∧
                    focus.content.wake ≤ known.content.wake from
                  ⟨both.1, fun _ same => Option.some.inj same ▸ both.2⟩
                dsimp only at better
                split at better
                · rename_i earlier
                  have order := earlier.elim Nat.le_of_lt fun tied => Nat.le_of_eq tied.1
                  exact ⟨better, Nat.le_trans better order⟩
                · rename_i notEarlier
                  have order := Nat.not_lt.mp fun earlier => notEarlier (.inl earlier)
                  exact ⟨Nat.le_trans better order, better⟩
          refine ⟨bounds.2, fun other member => ?_⟩
          rcases List.mem_cons.mp member with same | later
          · cases same
            exact bounds.1
          · exact others other later

private theorem wake_le_of_earliest? {focus : branches.Focus _ .asleep}
    (found : branches.earliest? = some focus) {sleeper : Sleeper σ α}
    (member : .asleep sleeper ∈ branches.list) : focus.content.wake ≤ sleeper.wake :=
  (wake_le_of_search found).2 sleeper member

theorem Focus.replaceable {property : Branch σ α → Prop} {γ : Type} {embed : γ → Branch σ α}
    (focus : branches.Focus γ embed) (all : ∀ branch ∈ branches.list, property branch) :
    property (embed focus.content) ∧ ∀ later, property later →
      ∀ branch ∈ focus.before ++ later :: focus.after, property branch := by
  rw [focus.whole, List.forall_mem_append, List.forall_mem_cons] at all
  refine ⟨all.2.1, fun later holds => ?_⟩
  rw [List.forall_mem_append, List.forall_mem_cons]
  exact ⟨all.1, holds, all.2.2⟩

private theorem mem_values_iff {list : List (Branch σ α)} {value : α} :
    value ∈ list.filterMap Branch.value? ↔ .done value ∈ list := by
  rw [List.mem_filterMap]
  constructor
  · rintro ⟨branch, member, same⟩
    cases branch with
    | done other =>
        cases same
        exact member
    | _ => cases same
  · exact fun member => ⟨_, member, rfl⟩

private theorem goOn_of_finished {room stamps : Nat} {order : WakeOrder}
    {focus : branches.Focus _ .asleep} {moment : Moment} {state after : σ} {value : α}
    (finished : focus.content.resume state = .finished value after) :
    goOn room order focus stamps moment state =
      progress room order ⟨focus.before ++ .done value :: focus.after⟩ stamps moment after := by
  unfold goOn
  rw [finished]

/-! ## The interruption -/

section Stopped

variable {keeps : σ → Prop} {stop : Moment} {regular broken : α → Prop}

private theorem progress_stopped {room stamps : Nat} {order : WakeOrder}
    (stopped : ∀ branch ∈ branches.list, Branch.Stopped keeps stop regular broken branch)
    {first : α} (member : .done first ∈ branches.list) (isBroken : broken first) {state : σ}
    (kept : keeps state) :
    ∃ values, progress room order branches stamps stop state = .finished values state ∧
      (∃ value ∈ values, broken value) ∧ ∀ value ∈ values, regular value ∨ broken value := by
  -- Each step leaves another branch done with a broken value, which stands for the first one.
  induction acc_stepsTo branches generalizing stamps first with
  | intro branches _ induction =>
      have started : ∀ branch ∈ branches.list, ∀ task, branch ≠ .unstarted task := by
        rintro _ isBranch task rfl
        cases stopped _ isBranch
      rw [progress_eq, startable?_eq_none room started]
      dsimp only
      cases wake : branches.earliest? with
      | none =>
          refine ⟨_, rfl, ⟨first, mem_values_iff.mpr member, isBroken⟩, fun value isValue => ?_⟩
          cases stopped _ (mem_values_iff.mp isValue) with
          | done ended => exact ended
      | some focus =>
          rcases focus.replaceable stopped with ⟨asleep, replaced⟩
          cases asleep with
          | asleep due resumed =>
              rcases resumed state kept with ⟨value, ended, isBroken⟩
              have step := stepsTo_of_focus focus (.finish value focus.content)
              have present : .done value ∈ focus.before ++ .done value :: focus.after :=
                List.mem_append_right _ List.mem_cons_self
              dsimp only
              rw [if_pos (Nat.le_of_eq due), goOn_of_finished ended]
              exact induction _ step (replaced _ (.done (.inr isBroken))) present isBroken

end Stopped

/-! ## Calm moments -/

variable {keeps : σ → Prop} {context : RequestContext} {regular : α → Prop}
  {broken : Interruption → α → Prop} {now : Moment}

/-- All values are regular, unless an interruption broke some of them. -/
abbrev AllYield (keeps : σ → Prop) (context : RequestContext) (regular : α → Prop)
    (broken : Interruption → α → Prop) (now : Moment) (progress : Progress σ (List α)) : Prop :=
  Progress.Yields keeps context (fun values => ∀ value ∈ values, regular value)
    (fun cause values => (∃ value ∈ values, broken cause value) ∧
      ∀ value ∈ values, regular value ∨ broken cause value)
    now progress

private theorem stopped_of_earliest {focus : branches.Focus _ .asleep}
    (yields : ∀ branch ∈ branches.list, Branch.Yields keeps context regular broken branch)
    (found : branches.earliest? = some focus) {cause : Interruption}
    (first : context.stopsAt? = some focus.content.wake)
    (look : context.interruption? focus.content.wake = some cause) :
    ∀ branch ∈ branches.list,
      Branch.Stopped keeps focus.content.wake regular (broken cause) branch := by
  intro branch member
  cases yields branch member with
  | done isRegular => exact .done (.inl isRegular)
  | @ready sleeper calm resumed =>
      have earlier := RequestContext.interruption?_eq_none_iff.mp calm _ first
      exact absurd (wake_le_of_earliest? found member) (Nat.not_le.mpr earlier)
  | @stopping sleeper other first' look' resumed =>
      have due : sleeper.wake = focus.content.wake := Option.some.inj (first'.symm.trans first)
      rw [due] at look'
      cases look'.symm.trans look
      exact .asleep due resumed

private theorem goOn_yields {room stamps : Nat} {order : WakeOrder}
    {focus : branches.Focus _ .asleep}
    (yields : ∀ branch ∈ branches.list, Branch.Yields keeps context regular broken branch)
    (resumed : ∀ state, keeps state →
      Progress.Yields keeps context regular broken focus.content.wake (focus.content.resume state))
    (after : ∀ later, StepsTo later branches →
      (∀ branch ∈ later.list, Branch.Yields keeps context regular broken branch) →
      ∀ stamps state, keeps state →
        AllYield keeps context regular broken now (progress room order later stamps now state))
    {state : σ} (kept : keeps state) :
    AllYield keeps context regular broken now (goOn room order focus stamps now state) := by
  have replaced := (focus.replaceable yields).2
  have ended := resumed state kept
  unfold goOn
  generalize woken : focus.content.resume state = progress at ended ⊢
  cases ended with
  | @finished _ value state calm kept isRegular =>
      have step := stepsTo_of_focus focus (.finish value focus.content)
      exact after _ step (replaced _ (.done isRegular)) _ _ kept
  | @waiting _ wake state resume calm kept resumed =>
      have again : Branch.ResumesTo resume focus.content.resume := ⟨_, _, _, woken⟩
      dsimp only
      refine after _ (stepsTo_of_focus focus (.again ?_)) (replaced _ (.ready calm resumed)) _ _ kept
      exact again
  | @stopping _ stop cause state resume first look kept resumed =>
      have again : Branch.ResumesTo resume focus.content.resume := ⟨_, _, _, woken⟩
      dsimp only
      refine after _ (stepsTo_of_focus focus (.again ?_))
        (replaced _ (.stopping first look resumed)) _ _ kept
      exact again

private theorem progress_yields {room stamps : Nat} {order : WakeOrder}
    (calm : context.interruption? now = none)
    (yields : ∀ branch ∈ branches.list, Branch.Yields keeps context regular broken branch)
    {state : σ} (kept : keeps state) :
    AllYield keeps context regular broken now (progress room order branches stamps now state) := by
  induction acc_stepsTo branches generalizing now stamps state with
  | intro branches _ induction =>
      have started : ∀ branch ∈ branches.list, ∀ task, branch ≠ .unstarted task := by
        rintro _ isBranch task rfl
        cases yields _ isBranch
      rw [progress_eq, startable?_eq_none room started]
      dsimp only
      cases wake : branches.earliest? with
      | none =>
          refine .finished calm kept fun value isValue => ?_
          cases yields _ (mem_values_iff.mp isValue) with
          | done isRegular => exact isRegular
      | some focus =>
          rcases focus.replaceable yields with ⟨asleep, replaced⟩
          dsimp only
          cases asleep with
          | ready calmThen resumed =>
              split
              · exact goOn_yields yields resumed
                  (fun later step yields stamps state => induction later step calm yields) kept
              · refine .waiting calmThen kept fun later kept => ?_
                exact goOn_yields yields resumed
                  (fun later step yields stamps state => induction later step calmThen yields) kept
          | stopping first look resumed =>
              -- The earliest branch is woken by the interruption, so nobody else wakes before it.
              have later := RequestContext.interruption?_eq_none_iff.mp calm _ first
              rw [if_neg (Nat.not_le.mpr later)]
              refine .stopping first look kept fun state kept => ?_
              rcases resumed state kept with ⟨value, ended, isBroken⟩
              have stopped := (focus.replaceable (stopped_of_earliest yields wake first look)).2
              have present : .done value ∈ focus.before ++ .done value :: focus.after :=
                List.mem_append_right _ List.mem_cons_self
              rw [goOn_of_finished ended]
              exact progress_stopped (stopped _ (.done (.inr isBroken))) present isBroken kept

private theorem started_yields {tasks : List (Task σ α)} (calm : context.interruption? now = none)
    (each : ∀ task ∈ tasks, ∀ state, keeps state →
      Progress.Yields keeps context regular broken now (task now state)) (stamp : Nat) :
    ∀ branch ∈ started now stamp tasks, Branch.Yields keeps context regular broken branch := by
  induction tasks generalizing stamp with
  | nil => exact fun _ member => absurd member List.not_mem_nil
  | cons task tasks induction =>
      rw [List.forall_mem_cons] at each
      exact List.forall_mem_cons.mpr ⟨.ready calm each.1, induction each.2 (stamp + 1)⟩

end Branches

/-- Tasks that give way to an interruption do so all at once. -/
theorem Task.all_yields {keeps : σ → Prop} {context : RequestContext} {regular : α → Prop}
    {broken : Interruption → α → Prop} {now : Moment} {tasks : List (Task σ α)}
    (calm : context.interruption? now = none)
    (each : ∀ task ∈ tasks, ∀ state, keeps state →
      Progress.Yields keeps context regular broken now (task now state))
    {state : σ} (kept : keeps state) :
    Branches.AllYield keeps context regular broken now (Task.all tasks now state) := by
  rw [all_eq]
  exact Branches.progress_yields calm (Branches.started_yields calm each 0) kept

end GroundedAnswers
