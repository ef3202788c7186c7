import GroundedAnswers.Proofs.Trace.Finishing
import GroundedAnswers.Proofs.Trace.History

namespace GroundedAnswers

open Json (IsSorted)

/-! A recorder keeps what its history says of the spans that are open. -/

/-! ## Attributes -/

namespace SpanRecorder

private theorem lookup_withAttributes (attributes added : List (String × Json)) (name : String) :
    (withAttributes attributes added).lookup name =
      (added.reverse.lookup name).or (attributes.lookup name) := by
  induction added generalizing attributes with
  | nil => rfl
  | cons member added induction =>
      unfold withAttributes at induction ⊢
      rw [List.foldl_cons, induction, List.reverse_cons, List.lookup_append, Option.or_assoc,
        Json.lookup_putMember, Json.lookup_member]
      split <;> rfl

private theorem isSorted_withAttributes {attributes : List (String × Json)}
    (sorted : IsSorted attributes) (added : List (String × Json)) :
    IsSorted (withAttributes attributes added) := by
  induction added generalizing attributes with
  | nil => exact sorted
  | cons member added induction => exact induction (Json.isSorted_putMember sorted _ _)

private theorem isSorted_inherited (recorder : SpanRecorder) (parent : Option Nat)
    (attributes : List (String × Json)) : IsSorted (recorder.inherited parent attributes) := by
  have own : IsSorted (withAttributes [] attributes) :=
    isSorted_withAttributes List.Pairwise.nil attributes
  unfold inherited
  dsimp only
  split
  · exact own
  · split
    · exact Json.isSorted_putMember own _ _
    · exact own

private theorem lookup_inherited (recorder : SpanRecorder) (parent : Option Nat)
    (attributes : List (String × Json)) (name : String) :
    (recorder.inherited parent attributes).lookup name =
      (attributes.reverse.lookup name).or
        (if name = tenantAttribute then
          (parent.bind recorder.find?).bind (·.attributes.lookup tenantAttribute)
        else none) := by
  have own : ∀ name, (withAttributes [] attributes).lookup name = attributes.reverse.lookup name := by
    intro name
    rw [lookup_withAttributes]
    exact Option.or_none
  unfold inherited
  dsimp only
  rw [own]
  by_cases isTenant : name = tenantAttribute
  · subst isTenant
    rw [if_pos rfl]
    split
    · rename_i present
      rw [own, present]
      rfl
    · rename_i absent
      rw [absent, Option.none_or]
      split
      · rename_i inherits
        rw [Json.lookup_putMember, if_pos rfl, inherits]
      · rename_i nothing
        rw [own, absent, nothing]
  · rw [if_neg isTenant, Option.or_none]
    split
    · exact own name
    · split
      · rw [Json.lookup_putMember, if_neg isTenant, own]
      · exact own name

end SpanRecorder

/-! ## Open spans -/

structure OpenSpan.Fits (span : OpenSpan) (past : SpanHistory) : Prop where
  opened : ∃ opening, SpanHistory.opening? span.id past = some opening ∧
    opening.parent = span.parent ∧ opening.name = span.name ∧ opening.target = span.target ∧
      opening.start = span.start
  released : span.released ↔ SpanHistory.IsReleased span.id past
  attributes : ∀ name, span.attributes.lookup name = SpanHistory.value? name span.id past
  sorted : IsSorted span.attributes

structure SpanHistory.Reflects (past : SpanHistory) (recorder : SpanRecorder) : Prop where
  nextId : recorder.nextId = openings past + 1
  ascending : recorder.spans.Pairwise (·.id < ·.id)
  isOpen : ∀ id, id ∈ recorder.spans.map (·.id) ↔ IsOpen past id
  fits : ∀ span ∈ recorder.spans, span.Fits past

namespace SpanHistory

variable {past : SpanHistory} {recorder : SpanRecorder}

theorem Reflects.le_openings (reflects : Reflects past recorder) {span : OpenSpan}
    (member : span ∈ recorder.spans) : span.id ≤ openings past :=
  ((reflects.isOpen span.id).mp (List.mem_map_of_mem member)).le_openings

private theorem Reflects.lookup_find? (reflects : Reflects past recorder) {id : Nat}
    (isOpen : IsOpen past id) (name : String) :
    (recorder.find? id).bind (·.attributes.lookup name) = value? name id past := by
  obtain ⟨span, member, same⟩ := List.mem_map.mp ((reflects.isOpen id).mpr isOpen)
  cases found : recorder.find? id with
  | none =>
      have differs := List.find?_eq_none.mp found span member
      simp [same] at differs
  | some first =>
      have isFirst := List.find?_some found
      have inside := List.mem_of_find?_eq_some found
      rw [Option.bind_some, (reflects.fits first inside).attributes, of_decide_eq_true isFirst]

private theorem fits_opened {span : OpenSpan} (fits : span.Fits past) (opening : SpanOpening) :
    span.Fits (.opened opening :: past) := by
  obtain ⟨earlier, opened, rest⟩ := fits.opened
  have old := SpanHistory.le_openings opened
  have isOld : span.id ≠ openings past + 1 := by omega
  refine ⟨⟨earlier, opening?_opened opened opening, rest⟩, ?_, fun name => ?_, fits.sorted⟩
  · exact fits.released.trans ⟨fun released => ⟨isOld, released⟩, And.right⟩
  · rw [value?, if_neg isOld, fits.attributes]

/-- A new span starts with its own attributes and with its parent's tenant of that moment. -/
theorem Reflects.fits_new (reflects : Reflects past recorder) {opening : SpanOpening}
    (underOpen : ∀ parent ∈ opening.parent, IsOpen past parent) :
    OpenSpan.Fits
      ⟨recorder.nextId, opening.parent, opening.name, opening.target, opening.start, false,
        recorder.inherited opening.parent opening.attributes⟩
      (.opened opening :: past) := by
  have isNew := reflects.nextId
  refine ⟨⟨opening, ?_, rfl, rfl, rfl, rfl⟩, ?_, fun name => ?_, recorder.isSorted_inherited _ _⟩
  · rw [isNew, opening?_opened_self]
  · simp [IsReleased, isNew]
  · rw [SpanRecorder.lookup_inherited, value?, if_pos isNew]
    congr 2
    cases isParent : opening.parent with
    | none => rfl
    | some parent => exact reflects.lookup_find? (underOpen parent isParent) tenantAttribute

theorem Reflects.opened (reflects : Reflects past recorder) {opening : SpanOpening}
    (underOpen : ∀ parent ∈ opening.parent, IsOpen past parent) :
    Reflects (.opened opening :: past) (SpanEvent.perform recorder (.opened opening)) where
  nextId := congrArg (· + 1) reflects.nextId
  ascending := by
    refine List.pairwise_append.mpr ⟨reflects.ascending, List.pairwise_singleton _ _, ?_⟩
    intro span member new isNew
    rw [List.mem_singleton.mp isNew]
    have old := reflects.le_openings member
    have number := reflects.nextId
    dsimp only
    omega
  isOpen := fun id => by
    rw [isOpen_opened underOpen, ← reflects.isOpen, ← reflects.nextId]
    simp [SpanEvent.perform, SpanRecorder.openSpan]
  fits := List.forall_mem_append.mpr
    ⟨fun span member => fits_opened (reflects.fits span member) opening,
      List.forall_mem_singleton.mpr (reflects.fits_new underOpen)⟩

private theorem fits_noted {span : OpenSpan} (fits : span.Fits past) (id : Nat)
    (attributes : List (String × Json)) :
    OpenSpan.Fits
      (if span.id = id then
        { span with attributes := SpanRecorder.withAttributes span.attributes attributes }
      else span)
      (.noted id attributes :: past) := by
  obtain ⟨opened, released, values, sorted⟩ := fits
  by_cases same : span.id = id
  · rw [if_pos same]
    refine ⟨opened, released, fun name => ?_, SpanRecorder.isSorted_withAttributes sorted attributes⟩
    rw [value?, if_pos same, SpanRecorder.lookup_withAttributes, values]
  · rw [if_neg same]
    refine ⟨opened, released, fun name => ?_, sorted⟩
    rw [value?, if_neg same, values]

private theorem map_ids {spans : List OpenSpan} {change : OpenSpan → OpenSpan}
    (same : ∀ span, (change span).id = span.id) :
    (spans.map change).map (·.id) = spans.map (·.id) := by
  rw [List.map_map]
  exact List.map_congr_left fun span _ => same span

theorem ascending_map {spans : List OpenSpan} {change : OpenSpan → OpenSpan}
    (same : ∀ span, (change span).id = span.id) (ascending : spans.Pairwise (·.id < ·.id)) :
    (spans.map change).Pairwise (·.id < ·.id) := by
  rw [List.pairwise_map]
  exact ascending.imp fun less => by rwa [same, same]

theorem Reflects.noted (reflects : Reflects past recorder) (id : Nat)
    (attributes : List (String × Json)) :
    Reflects (.noted id attributes :: past) (SpanEvent.perform recorder (.noted id attributes)) := by
  have same : ∀ span : OpenSpan, (if span.id = id then
      { span with attributes := SpanRecorder.withAttributes span.attributes attributes }
      else span).id = span.id := by
    intro span
    split <;> rfl
  have ids : (SpanEvent.perform recorder (.noted id attributes)).spans.map (·.id) =
      recorder.spans.map (·.id) := map_ids same
  refine ⟨reflects.nextId, ascending_map same reflects.ascending, fun other => ?_, ?_⟩
  · rw [ids, reflects.isOpen, isOpen_noted]
  · exact List.forall_mem_map.mpr fun span member => fits_noted (reflects.fits span member) id attributes

/-! ## Released spans -/

def marked (id : Nat) (span : OpenSpan) : OpenSpan :=
  if span.id = id then { span with released := true } else span

theorem marked_id (id : Nat) (span : OpenSpan) : (marked id span).id = span.id := by
  unfold marked
  split <;> rfl

theorem fits_marked {span : OpenSpan} (fits : span.Fits past) (id now : Nat) :
    (marked id span).Fits (.released id now :: past) := by
  obtain ⟨opened, released, values, sorted⟩ := fits
  unfold marked
  by_cases same : span.id = id
  · rw [if_pos same]
    exact ⟨opened, by simp [IsReleased, same], values, sorted⟩
  · rw [if_neg same]
    exact ⟨opened, by simp [IsReleased, same, released], values, sorted⟩

end SpanHistory

end GroundedAnswers
