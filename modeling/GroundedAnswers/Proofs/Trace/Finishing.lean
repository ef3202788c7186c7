import GroundedAnswers.Json.Members
import GroundedAnswers.Trace.Recorder
import Mathlib.Data.List.Induction

namespace GroundedAnswers

/-! What a recorder does with the spans that end together. -/

namespace SpanStore

def keep (store : SpanStore) (record : SpanRecord) : SpanStore :=
  match record.text? tenantAttribute with
  | some tenant => store.record tenant record
  | none => store

private theorem spansFor_record (store : SpanStore) (tenant other : String) (span : SpanRecord) :
    (store.record tenant span).spansFor other =
      if other = tenant then store.spansFor tenant ++ [span] else store.spansFor other := by
  unfold record spansFor
  rw [Json.lookup_putMember]
  split <;> rfl

private theorem spansFor_keep (store : SpanStore) (record : SpanRecord) (tenant : String) :
    (store.keep record).spansFor tenant =
      store.spansFor tenant ++ [record].filter (·.text? tenantAttribute = some tenant) := by
  unfold keep
  cases named : record.text? tenantAttribute with
  | none => simp [named]
  | some other =>
      rw [spansFor_record]
      by_cases same : tenant = other
      · simp [same, named]
      · simp [same, named, Ne.symm same]

theorem spansFor_keepAll (store : SpanStore) (records : List SpanRecord) (tenant : String) :
    (records.foldl keep store).spansFor tenant =
      store.spansFor tenant ++ records.filter (·.text? tenantAttribute = some tenant) := by
  induction records generalizing store with
  | nil => exact (List.append_nil _).symm
  | cons record records induction =>
      rw [List.foldl_cons, induction, spansFor_keep, List.append_assoc, ← List.filter_append,
        List.singleton_append]

end SpanStore

namespace SpanRecorder

/-- Spans in the order in which they were opened, each behind its parent. -/
structure InOrder (spans : List OpenSpan) : Prop where
  ascending : spans.Pairwise (·.id < ·.id)
  below : ∀ span ∈ spans, ∀ parent ∈ span.parent, parent < span.id

section

variable {spans before after : List OpenSpan} {span : OpenSpan}

private theorem InOrder.lt_behind (inOrder : InOrder spans)
    (whole : spans = before ++ span :: after) :
    ∀ other ∈ after, span.id < other.id := by
  have ascending := inOrder.ascending
  rw [whole] at ascending
  exact fun other behind => List.rel_of_pairwise_cons (List.pairwise_append.mp ascending).2.1 behind

private theorem InOrder.lt_before (inOrder : InOrder spans)
    (whole : spans = before ++ span :: after) :
    ∀ other ∈ before, other.id < span.id := by
  have ascending := inOrder.ascending
  rw [whole] at ascending
  exact fun other inFront =>
    (List.pairwise_append.mp ascending).2.2 other inFront span List.mem_cons_self

private theorem InOrder.mem_after (inOrder : InOrder spans)
    (whole : spans = before ++ span :: after) {child : OpenSpan} (member : child ∈ spans)
    (isParent : child.parent = some span.id) :
    child ∈ after := by
  have above := inOrder.below child member span.id isParent
  rw [whole, List.mem_append, List.mem_cons] at member
  rcases member with inFront | rfl | behind
  · exact absurd (inOrder.lt_before whole child inFront) (by omega)
  · exact absurd above (Nat.lt_irrefl _)
  · exact behind

private theorem InOrder.of_sublist {others : List OpenSpan} (inOrder : InOrder spans)
    (sublist : others.Sublist spans) : InOrder others where
  ascending := inOrder.ascending.sublist sublist
  below := fun span member => inOrder.below span (sublist.subset member)

private theorem InOrder.filter_ne (inOrder : InOrder spans)
    (whole : spans = before ++ span :: after) :
    spans.filter (·.id ≠ span.id) = before ++ after := by
  have apartBefore : ∀ other ∈ before, decide (other.id ≠ span.id) := fun other inFront =>
    decide_eq_true (Nat.ne_of_lt (inOrder.lt_before whole other inFront))
  have apartBehind : ∀ other ∈ after, decide (other.id ≠ span.id) := fun other behind =>
    decide_eq_true (Nat.ne_of_gt (inOrder.lt_behind whole other behind))
  rw [whole, List.filter_append, List.filter_cons_of_neg (by simp),
    List.filter_eq_self.mpr apartBefore, List.filter_eq_self.mpr apartBehind]

end

private theorem sublist_of_left {spans left before after : List OpenSpan} {span : OpenSpan}
    {goesOn : OpenSpan → Bool} (whole : spans = before ++ span :: after)
    (present : left = before ++ span :: after.filter goesOn) : left.Sublist spans := by
  rw [whole, present]
  exact (List.filter_sublist.cons_cons span).append_left before

/-- Of the children, which all stand behind, those are gone that end. -/
theorem InOrder.childless_iff {spans left before after : List OpenSpan} {span : OpenSpan}
    (inOrder : InOrder spans) (ends : OpenSpan → Bool) (whole : spans = before ++ span :: after)
    (present : left = before ++ span :: after.filter (!ends ·)) :
    left.any (·.parent = some span.id) = false ↔
      ∀ child ∈ spans, child.parent = some span.id → ends child := by
  have sublist := sublist_of_left whole present
  rw [List.any_eq_false]
  constructor
  · intro none child inside isParent
    have behind := inOrder.mem_after whole inside isParent
    by_contra goesOn
    refine none child ?_ (decide_eq_true isParent)
    rw [present]
    exact List.mem_append_right _ (List.mem_cons_of_mem _
      (List.mem_filter.mpr ⟨behind, by simpa using goesOn⟩))
  · intro all child inside isParent
    have isParent := of_decide_eq_true isParent
    have kept := (inOrder.of_sublist sublist).mem_after present inside isParent
    have goesOn := (List.mem_filter.mp kept).2
    simp [all child (sublist.subset inside) isParent] at goesOn

/-- Looking through the spans from the last one on, those are taken out that end: `ends` holds for a
released span when it holds for all its children. -/
theorem finishAll_of_ends {spans : List OpenSpan} (inOrder : InOrder spans) {ends : OpenSpan → Bool}
    (decides : ∀ span ∈ spans, ends span ↔
      span.released ∧ ∀ child ∈ spans, child.parent = some span.id → ends child)
    (recorder : SpanRecorder) (now : Nat) {before after : List OpenSpan}
    (whole : spans = before ++ after)
    (present : recorder.spans = before ++ after.filter (!ends ·)) :
    recorder.finishAll now before.reverse =
      { recorder with
        spans := spans.filter (!ends ·)
        store := ((before.reverse.filter ends).map (closed · now)).foldl SpanStore.keep
          recorder.store } := by
  induction before using List.reverseRecOn generalizing recorder after with
  | nil =>
      rw [List.nil_append] at whole present
      subst whole
      rw [List.reverse_nil, finishAll, ← present]
      rfl
  | append_singleton before span induction =>
      rw [List.append_assoc, List.singleton_append] at whole present
      have childless := inOrder.childless_iff ends whole present
      have decided := decides span (whole ▸ List.mem_append_right _ List.mem_cons_self)
      rw [List.reverse_append, List.reverse_singleton, List.singleton_append, finishAll]
      by_cases ending : ends span
      · obtain ⟨released, all⟩ := decided.mp ending
        rw [released, childless.mpr all, Bool.not_false, Bool.and_true, if_pos rfl]
        have sublist := sublist_of_left whole present
        have left : (recorder.finish span now).spans = before ++ (span :: after).filter (!ends ·) := by
          rw [List.filter_cons_of_neg (by simp [ending])]
          exact (inOrder.of_sublist sublist).filter_ne present
        rw [induction (recorder.finish span now) whole left, List.filter_cons_of_pos ending]
        rfl
      · have goesOn : (span.released && !recorder.spans.any (·.parent = some span.id)) = false := by
          by_contra released
          rw [Bool.not_eq_false, Bool.and_eq_true, Bool.not_eq_true'] at released
          exact ending (decided.mpr ⟨released.1, childless.mp released.2⟩)
        have left : recorder.spans = before ++ (span :: after).filter (!ends ·) := by
          rw [List.filter_cons_of_pos (by simp [ending]), present]
        rw [goesOn, if_neg Bool.false_ne_true, induction recorder whole left,
          List.filter_cons_of_neg ending]

end SpanRecorder

end GroundedAnswers
