import GroundedAnswers.Proofs.Task.Alike
import GroundedAnswers.Task.FanOut
import Mathlib.Data.List.Forall2

namespace GroundedAnswers

/-! Two runs of tasks side by side: when each task runs alike, so do all of them together, since the
same tasks start and go on at the same moments. -/

variable {ι : Type} {ready : ι → σ → τ → Prop} {carry : α → β}

inductive Branch.Alike (ready : ι → σ → τ → Prop) (carry : α → β) :
    Branch σ α → Branch τ β → Prop
  | unstarted {left : Task σ α} {right : Task τ β} (alike : Task.Alike ready carry left right) :
      Alike ready carry (.unstarted left) (.unstarted right)
  | asleep {stamp : Nat} {wake : Moment} {left : σ → Progress σ α} {right : τ → Progress τ β}
      (resumed : ∀ index leftState rightState, ready index leftState rightState →
        Progress.Alike ready
          (fun index left leftState right rightState =>
            right = carry left ∧ ready index leftState rightState)
          index (left leftState) (right rightState)) :
      Alike ready carry (.asleep ⟨stamp, wake, left⟩) (.asleep ⟨stamp, wake, right⟩)
  | done (value : α) : Alike ready carry (.done value) (.done (carry value))

namespace Branch.Alike

private theorem isDone_eq {left : Branch σ α} {right : Branch τ β}
    (alike : Branch.Alike ready carry left right) :
    right.isDone = left.isDone := by
  cases alike <;> rfl

private theorem value?_eq {left : Branch σ α} {right : Branch τ β}
    (alike : Branch.Alike ready carry left right) :
    right.value? = left.value?.map carry := by
  cases alike <;> rfl

private theorem asleep_iff {left : Sleeper σ α} {right : Sleeper τ β} :
    Branch.Alike ready carry (.asleep left) (.asleep right) ↔
      right.stamp = left.stamp ∧ right.wake = left.wake ∧
        ∀ index leftState rightState, ready index leftState rightState →
          Progress.Alike ready
            (fun index left leftState right rightState =>
              right = carry left ∧ ready index leftState rightState)
            index (left.resume leftState) (right.resume rightState) := by
  constructor
  · intro alike
    cases alike with
    | asleep resumed => exact ⟨rfl, rfl, resumed⟩
  · rintro ⟨sameStamp, sameWake, resumed⟩
    rcases right with ⟨stamp, wake, resume⟩
    cases sameStamp
    cases sameWake
    exact .asleep resumed

variable {left : List (Branch σ α)} {right : List (Branch τ β)}

private theorem length_takeWhile_eq (alike : List.Forall₂ (Branch.Alike ready carry) left right) :
    (right.takeWhile Branch.isDone).length = (left.takeWhile Branch.isDone).length := by
  induction alike with
  | nil => rfl
  | cons first _ induction =>
      rw [List.takeWhile_cons, List.takeWhile_cons, first.isDone_eq]
      split
      · rw [List.length_cons, List.length_cons, induction]
      · rfl

private theorem filterMap_value?_eq (alike : List.Forall₂ (Branch.Alike ready carry) left right) :
    right.filterMap Branch.value? = (left.filterMap Branch.value?).map carry := by
  induction alike with
  | nil => rfl
  | cons first _ induction =>
      rw [List.filterMap_cons, List.filterMap_cons, first.value?_eq, induction]
      cases head : Branch.value? _ <;> rfl

end Branch.Alike

namespace Branches

variable {left : Branches σ α} {right : Branches τ β}

structure FocusAlike {γ δ : Type} {embed : γ → Branch σ α} {embed' : δ → Branch τ β}
    (ready : ι → σ → τ → Prop) (carry : α → β) (focus : left.Focus γ embed)
    (focus' : right.Focus δ embed') : Prop where
  before : List.Forall₂ (Branch.Alike ready carry) focus.before focus'.before
  content : Branch.Alike ready carry (embed focus.content) (embed' focus'.content)
  after : List.Forall₂ (Branch.Alike ready carry) focus.after focus'.after

private theorem startable?_search_alike {room : Nat} {before after : List (Branch σ α)}
    {before' after' : List (Branch τ β)}
    (whole : left.list = before ++ after) (whole' : right.list = before' ++ after')
    (all : List.Forall₂ (Branch.Alike ready carry) left.list right.list)
    (done : List.Forall₂ (Branch.Alike ready carry) before before')
    (rest : List.Forall₂ (Branch.Alike ready carry) after after') :
    Option.Rel (FocusAlike ready carry) (startable?.search left room before after whole)
      (startable?.search right room before' after' whole') := by
  induction rest generalizing before before' with
  | nil => exact .none
  | @cons branch branch' after after' first rest induction =>
      cases first with
      | unstarted alike =>
          unfold startable?.search
          rw [Branch.Alike.length_takeWhile_eq all, ← done.length_eq]
          dsimp only
          split
          · exact .some ⟨done, .unstarted alike, rest⟩
          · exact .none
      | asleep resumed =>
          exact induction _ _ (List.rel_append done (.cons (.asleep resumed) .nil))
      | done value =>
          exact induction _ _ (List.rel_append done (.cons (.done value) .nil))

private theorem startable?_alike (room : Nat)
    (alike : List.Forall₂ (Branch.Alike ready carry) left.list right.list) :
    Option.Rel (FocusAlike ready carry) (left.startable? room) (right.startable? room) :=
  startable?_search_alike rfl rfl alike .nil alike

private theorem earliest?_search_alike {best : Option (left.Focus _ .asleep)}
    {best' : Option (right.Focus _ .asleep)} {before after : List (Branch σ α)}
    {before' after' : List (Branch τ β)}
    (whole : left.list = before ++ after) (whole' : right.list = before' ++ after')
    (found : Option.Rel (FocusAlike ready carry) best best')
    (done : List.Forall₂ (Branch.Alike ready carry) before before')
    (rest : List.Forall₂ (Branch.Alike ready carry) after after') :
    Option.Rel (FocusAlike ready carry) (earliest?.search left best before after whole)
      (earliest?.search right best' before' after' whole') := by
  induction rest generalizing best best' before before' with
  | nil => exact found
  | @cons branch branch' after after' first rest induction =>
      cases first with
      | unstarted alike =>
          exact induction _ _ found (List.rel_append done (.cons (.unstarted alike) .nil))
      | done value =>
          exact induction _ _ found (List.rel_append done (.cons (.done value) .nil))
      | asleep resumed =>
          refine induction _ _ (.some ?_) (List.rel_append done (.cons (.asleep resumed) .nil))
          cases found with
          | none => exact ⟨done, .asleep resumed, rest⟩
          | some known =>
              rcases Branch.Alike.asleep_iff.mp known.content with ⟨sameStamp, sameWake, _⟩
              dsimp only
              rw [sameStamp, sameWake]
              split
              · exact ⟨done, .asleep resumed, rest⟩
              · exact known

private theorem earliest?_alike
    (alike : List.Forall₂ (Branch.Alike ready carry) left.list right.list) :
    Option.Rel (FocusAlike ready carry) left.earliest? right.earliest? :=
  earliest?_search_alike rfl rfl .none .nil alike

theorem stepsTo_of_focus {γ : Type} {embed : γ → Branch σ α} (focus : left.Focus γ embed)
    {later : Branch σ α} (one : Branch.StepsTo later (embed focus.content)) :
    StepsTo ⟨focus.before ++ later :: focus.after⟩ left := by
  have whole : left = ⟨focus.before ++ embed focus.content :: focus.after⟩ :=
    congrArg Branches.mk focus.whole
  have step := StepsTo.step focus.before focus.after one
  rwa [← whole] at step

/-- The lists stay alike when the branches at one place go on alike. -/
theorem FocusAlike.replace {γ δ : Type} {embed : γ → Branch σ α} {embed' : δ → Branch τ β}
    {focus : left.Focus γ embed} {focus' : right.Focus δ embed'}
    (related : FocusAlike ready carry focus focus') {later : Branch σ α} {later' : Branch τ β}
    (alike : Branch.Alike ready carry later later') :
    List.Forall₂ (Branch.Alike ready carry) (focus.before ++ later :: focus.after)
      (focus'.before ++ later' :: focus'.after) :=
  List.rel_append related.before (.cons alike related.after)

/-- Let the branch at a place go on, and the others after it. -/
def goOn (room : Nat) (order : WakeOrder) (focus : left.Focus _ .asleep) (stamps : Nat)
    (moment : Moment) (state : σ) : Progress σ (List α) :=
  match focus.content.resume state with
  | .finished value state =>
      progress room order ⟨focus.before ++ .done value :: focus.after⟩ stamps moment state
  | .waiting wake state resume =>
      let stamp :=
        match order with
        | .byPlace => focus.content.stamp
        | .byArrival => stamps
      progress room order ⟨focus.before ++ .asleep ⟨stamp, wake, resume⟩ :: focus.after⟩ (stamps + 1)
        moment state

private theorem goOn_eq (room : Nat) (order : WakeOrder) (focus : left.Focus _ .asleep)
    (stamps : Nat) (moment : Moment) (state : σ) :
    goOn room order focus stamps moment state =
      match _resumed : focus.content.resume state with
      | .finished value state =>
          progress room order ⟨focus.before ++ .done value :: focus.after⟩ stamps moment state
      | .waiting wake state resume =>
          let stamp :=
            match order with
            | .byPlace => focus.content.stamp
            | .byArrival => stamps
          progress room order ⟨focus.before ++ .asleep ⟨stamp, wake, resume⟩ :: focus.after⟩
            (stamps + 1) moment state := by
  unfold goOn
  generalize focus.content.resume state = progress
  cases progress <;> rfl

theorem progress_eq (room : Nat) (order : WakeOrder) (branches : Branches σ α) (stamps : Nat)
    (now : Moment) (state : σ) :
    progress room order branches stamps now state =
      match branches.startable? room with
      | some focus =>
          progress room order
            ⟨focus.before ++ .asleep ⟨stamps, now, focus.content now⟩ :: focus.after⟩ (stamps + 1)
            now state
      | none =>
          match branches.earliest? with
          | none => .finished (branches.list.filterMap Branch.value?) state
          | some focus =>
              if focus.content.wake ≤ now then goOn room order focus stamps now state
              else .waiting focus.content.wake state
                (goOn room order focus stamps focus.content.wake) := by
  rw [progress]
  cases branches.startable? room with
  | some focus => rfl
  | none =>
      cases branches.earliest? with
      | none => rfl
      | some focus =>
          refine ite_congr rfl (fun _ => (goOn_eq room order focus stamps now state).symm) fun _ => ?_
          exact congrArg _ (funext fun state => (goOn_eq room order focus stamps _ state).symm)

private theorem goOn_alike {room stamps : Nat} {order : WakeOrder} {focus : left.Focus _ .asleep}
    {focus' : right.Focus _ .asleep} (related : FocusAlike ready carry focus focus')
    (after : ∀ later, StepsTo later left → ∀ {right : Branches τ β} {stamps : Nat},
      List.Forall₂ (Branch.Alike ready carry) later.list right.list →
      Task.Alike ready (List.map carry) (progress room order later stamps)
        (progress room order right stamps)) :
    Task.Alike ready (List.map carry) (goOn room order focus stamps)
      (goOn room order focus' stamps) := by
  intro index moment leftState rightState holds
  rcases Branch.Alike.asleep_iff.mp related.content with ⟨sameStamp, _, resumed⟩
  have ended := resumed index leftState rightState holds
  unfold goOn
  generalize woken : focus.content.resume leftState = progress,
    focus'.content.resume rightState = progress' at ended ⊢
  cases ended with
  | @finished _ value state _ state' ended =>
      rcases ended with ⟨rfl, holds⟩
      have step := stepsTo_of_focus focus (.finish value focus.content)
      exact after _ step (related.replace (.done value)) _ _ _ _ holds
  | @waiting _ wake state state' resume resume' reached resumed =>
      have again : Branch.ResumesTo resume focus.content.resume := ⟨_, _, _, woken⟩
      dsimp only
      rw [sameStamp]
      refine after _ (stepsTo_of_focus focus (.again ?_)) (related.replace (.asleep resumed)) _ _ _ _
        reached
      exact again

private theorem progress_alike {room stamps : Nat} {order : WakeOrder}
    (alike : List.Forall₂ (Branch.Alike ready carry) left.list right.list) :
    Task.Alike ready (List.map carry) (progress room order left stamps)
      (progress room order right stamps) := by
  induction acc_stepsTo left generalizing right stamps with
  | intro left _ induction =>
      intro index now leftState rightState holds
      rw [progress_eq, progress_eq]
      have starting := startable?_alike room alike
      generalize left.startable? room = start, right.startable? room = start' at starting ⊢
      cases starting with
      | @some focus focus' related =>
          cases related.content with
          | unstarted begins =>
              have asleep : Branch.Alike ready carry
                  (.asleep ⟨stamps, now, focus.content now⟩)
                  (.asleep ⟨stamps, now, focus'.content now⟩) :=
                .asleep fun index => begins index now
              have step := stepsTo_of_focus focus (.start focus.content
                ⟨stamps, now, focus.content now⟩)
              exact induction _ step (related.replace asleep) _ _ _ _ holds
      | none =>
          have waiting := earliest?_alike alike
          generalize left.earliest? = wake, right.earliest? = wake' at waiting ⊢
          cases waiting with
          | none => exact .finished ⟨Branch.Alike.filterMap_value?_eq alike, holds⟩
          | @some focus focus' related =>
              have sameWake := (Branch.Alike.asleep_iff.mp related.content).2.1
              dsimp only
              rw [sameWake]
              split
              · exact goOn_alike related induction _ _ _ _ holds
              · exact .waiting holds fun later _ _ => goOn_alike related induction later _ _ _

end Branches

/-- Tasks side by side run alike when each of them does. -/
theorem Task.Alike.fanOut (room : Nat) (order : WakeOrder) {left : List (Task σ α)}
    {right : List (Task τ β)} (alike : List.Forall₂ (Task.Alike ready carry) left right) :
    Task.Alike ready (List.map carry) (Task.fanOut room order left)
      (Task.fanOut room order right) := by
  refine Branches.progress_alike ?_
  rw [List.forall₂_map_left_iff, List.forall₂_map_right_iff]
  exact alike.imp fun _ _ => .unstarted

theorem Task.Alike.all {left : List (Task σ α)} {right : List (Task τ β)}
    (alike : List.Forall₂ (Task.Alike ready carry) left right) :
    Task.Alike ready (List.map carry) (Task.all left) (Task.all right) := by
  unfold Task.all
  rw [alike.length_eq]
  exact Task.Alike.fanOut _ _ alike

end GroundedAnswers
