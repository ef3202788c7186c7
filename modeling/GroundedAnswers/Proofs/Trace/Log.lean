import GroundedAnswers.Proofs.Identifier
import GroundedAnswers.Proofs.Trace.Recording
import Mathlib.Data.List.Nodup

namespace GroundedAnswers

open Json (IsSorted)

/-! What a recorder keeps of the spans that have closed: one record for each that has a tenant, in
the order in which they closed. -/

/-- A span that has closed, with the history up to and including what closed it. -/
structure SpanEnd where
  id : Nat
  moment : SpanHistory
  record : SpanRecord

namespace SpanEnd

def tenant? (ending : SpanEnd) : Option String :=
  (SpanHistory.value? tenantAttribute ending.id ending.moment).bind Json.string?

/-- The record says what the history says: the attributes that the span was opened with, the tenant
it took from its parent, and what was noted later. -/
structure IsFaithful (ending : SpanEnd) : Prop where
  id : ending.record.id = SpanRecorder.idText ending.id
  opened : ∃ opening, SpanHistory.opening? ending.id ending.moment = some opening ∧
    ending.record.parent = opening.parent.map SpanRecorder.idText ∧
    ending.record.name = opening.name ∧ ending.record.target = opening.target ∧
    ending.record.start = opening.start
  finish : ∃ other past, ending.moment = .released other ending.record.finish :: past
  attributes : ∀ name, ending.record.attributes.lookup name =
    SpanHistory.value? name ending.id ending.moment
  sorted : IsSorted ending.record.attributes

theorem IsFaithful.text? {ending : SpanEnd} (faithful : ending.IsFaithful) :
    ending.record.text? tenantAttribute = ending.tenant? := by
  rw [SpanRecord.text?, faithful.attributes, tenant?]

end SpanEnd

namespace SpanHistory

def EndsAt (id : Nat) : SpanHistory → Prop
  | [] => False
  | event :: past => ¬IsClosed past id ∧ IsClosed (event :: past) id

/-- All spans that have closed, each once, in the order in which they did, children before their
parents. -/
structure IsLog (past : SpanHistory) (endings : List SpanEnd) : Prop where
  ends : ∀ ending ∈ endings, ending.moment <:+ past ∧ EndsAt ending.id ending.moment
  complete : ∀ id, IsClosed past id → ∃ ending ∈ endings, ending.id = id
  once : (endings.map (·.id)).Nodup
  order : endings.Pairwise fun earlier later => earlier.moment <:+ later.moment
  childrenFirst : endings.Pairwise fun earlier later =>
    ∀ opening ∈ opening? later.id past, opening.parent ≠ some earlier.id
  faithful : ∀ ending ∈ endings, ending.IsFaithful

/-! ## Spans that close together -/

variable {past : SpanHistory} {recorder : SpanRecorder} {endings : List SpanEnd}

private theorem IsClosed.of_suffix {earlier : SpanHistory} {id : Nat} (nested : IsNested past)
    (isSuffix : earlier <:+ past) (closed : IsClosed earlier id) : IsClosed past id := by
  induction past with
  | nil => rwa [List.eq_nil_of_suffix_nil isSuffix] at closed
  | cons event past induction =>
      rcases List.suffix_cons_iff.mp isSuffix with rfl | isSuffix
      · exact closed
      · exact isClosed_cons nested (induction nested.tail isSuffix)

private theorem IsLog.isClosed (log : IsLog past endings) (nested : IsNested past)
    {ending : SpanEnd} (member : ending ∈ endings) : IsClosed past ending.id := by
  obtain ⟨isSuffix, ends⟩ := log.ends ending member
  cases moment : ending.moment with
  | nil => rw [moment] at ends; exact ends.elim
  | cons event earlier =>
      rw [moment] at ends isSuffix
      exact .of_suffix nested isSuffix ends.2

private theorem opening?_of_isClosed {event : SpanEvent} {id : Nat}
    (nested : IsNested (event :: past)) (closed : IsClosed (event :: past) id) :
    opening? id (event :: past) = opening? id past := by
  cases event with
  | opened opening => exact opening?_opened_of_le ((isClosed_opened nested.1).mp closed).le_openings opening
  | noted => rfl
  | released => rfl

/-- Spans that are closed by one event, children before their parents. -/
structure CloseTogether (event : SpanEvent) (past : SpanHistory) (endings : List SpanEnd) : Prop where
  moment : ∀ ending ∈ endings, ending.moment = event :: past
  ends : ∀ ending ∈ endings, EndsAt ending.id (event :: past)
  descending : endings.Pairwise fun earlier later => later.id < earlier.id
  complete : ∀ id, EndsAt id (event :: past) → ∃ ending ∈ endings, ending.id = id
  faithful : ∀ ending ∈ endings, ending.IsFaithful

theorem IsClosed.child {id child : Nat} (closed : IsClosed past id) {opening : SpanOpening}
    (opened : opening? child past = some opening) (isParent : opening.parent = some id) :
    IsClosed past child := by
  cases closed with
  | intro _ _ children => exact children child opening opened isParent

theorem IsLog.append {event : SpanEvent} {latest : List SpanEnd} (log : IsLog past endings)
    (nested : IsNested (event :: past)) (together : CloseTogether event past latest) :
    IsLog (event :: past) (endings ++ latest) where
  ends := List.forall_mem_append.mpr
    ⟨fun ending member => ⟨(log.ends ending member).1.trans (List.suffix_cons _ _),
      (log.ends ending member).2⟩,
    fun ending member => by
      rw [together.moment ending member]
      exact ⟨List.suffix_refl _, together.ends ending member⟩⟩
  complete := fun id closed => by
    by_cases before : IsClosed past id
    · obtain ⟨ending, member, same⟩ := log.complete id before
      exact ⟨ending, List.mem_append_left _ member, same⟩
    · obtain ⟨ending, member, same⟩ := together.complete id ⟨before, closed⟩
      exact ⟨ending, List.mem_append_right _ member, same⟩
  once := by
    rw [List.map_append, List.nodup_append]
    refine ⟨log.once, ?_, ?_⟩
    · exact (List.pairwise_map.mpr together.descending).imp Nat.ne_of_gt
    · intro id isEarlier other isLater same
      obtain ⟨earlier, member, rfl⟩ := List.mem_map.mp isEarlier
      obtain ⟨later, inside, rfl⟩ := List.mem_map.mp isLater
      exact (together.ends later inside).1 (same ▸ log.isClosed nested.tail member)
  order := by
    refine List.pairwise_append.mpr ⟨log.order, ?_, fun earlier isEarlier later isLater => ?_⟩
    · refine List.Pairwise.imp_of_mem (fun isEarlier isLater _ => ?_) together.descending
      have same := (together.moment _ isEarlier).trans (together.moment _ isLater).symm
      exact same ▸ List.suffix_refl _
    · rw [together.moment later isLater]
      exact (log.ends earlier isEarlier).1.trans (List.suffix_cons _ _)
  childrenFirst := by
    refine List.pairwise_append.mpr ⟨?_, ?_, fun earlier isEarlier later isLater => ?_⟩
    · refine List.Pairwise.imp_of_mem (fun _ isLater first => ?_) log.childrenFirst
      have closed := isClosed_cons nested (log.isClosed nested.tail isLater)
      rwa [opening?_of_isClosed nested closed]
    · refine List.Pairwise.imp (fun less opening opened isParent => ?_) together.descending
      exact absurd (parent_lt nested opened isParent) (by omega)
    · intro opening opened isParent
      obtain ⟨unclosed, closed⟩ := together.ends later isLater
      rw [opening?_of_isClosed nested closed] at opened
      exact unclosed ((log.isClosed nested.tail isEarlier).child opened isParent)
  faithful := List.forall_mem_append.mpr ⟨log.faithful, together.faithful⟩

private theorem closeTogether_nil {event : SpanEvent}
    (same : ∀ id, IsClosed (event :: past) id → IsClosed past id) : CloseTogether event past [] where
  moment := nofun
  ends := nofun
  descending := .nil
  complete := fun id ends => absurd (same id ends.2) ends.1
  faithful := nofun

/-! ## Releasing -/

private theorem faithful_closed {span : OpenSpan} {id now : Nat}
    (fits : span.Fits (.released id now :: past)) :
    SpanEnd.IsFaithful ⟨span.id, .released id now :: past, SpanRecorder.closed span now⟩ where
  id := rfl
  opened := by
    obtain ⟨opening, opened, parent, name, target, start⟩ := fits.opened
    exact ⟨opening, opened, by rw [parent]; rfl, name.symm, target.symm, start.symm⟩
  finish := ⟨id, past, rfl⟩
  attributes := fits.attributes
  sorted := fits.sorted

section

variable (reflects : Reflects past recorder) (id now : Nat)

include reflects

private theorem Reflects.mem_marked {other : Nat} (isOpen : IsOpen past other) :
    ∃ span ∈ recorder.spans.map (marked id), span.id = other := by
  obtain ⟨span, member, same⟩ := List.mem_map.mp ((reflects.isOpen other).mpr isOpen)
  exact ⟨marked id span, List.mem_map_of_mem member, (marked_id id span).trans same⟩

private theorem Reflects.fits_of_marked {span : OpenSpan}
    (member : span ∈ recorder.spans.map (marked id)) :
    IsOpen past span.id ∧ span.Fits (.released id now :: past) := by
  obtain ⟨earlier, inside, rfl⟩ := List.mem_map.mp member
  rw [marked_id]
  exact ⟨(reflects.isOpen earlier.id).mp (List.mem_map_of_mem inside),
    fits_marked (reflects.fits earlier inside) id now⟩

theorem Reflects.inOrder (nested : IsNested past) :
    SpanRecorder.InOrder (recorder.spans.map (marked id)) where
  ascending := ascending_map (marked_id id) reflects.ascending
  below := fun span member parent isParent => by
    obtain ⟨opening, opened, same, -⟩ := (reflects.fits_of_marked id 0 member).2.opened
    exact parent_lt nested opened (same.trans isParent)

/-- Which of its spans end a recorder can tell from the spans themselves. -/
theorem Reflects.isClosed_iff {span : OpenSpan} (member : span ∈ recorder.spans.map (marked id)) :
    IsClosed (.released id now :: past) span.id ↔
      span.released ∧ ∀ child ∈ recorder.spans.map (marked id),
        child.parent = some span.id → IsClosed (.released id now :: past) child.id := by
  obtain ⟨isOpen, fits⟩ := reflects.fits_of_marked id now member
  rw [isClosed_released_iff isOpen, fits.released]
  refine and_congr_right fun _ => ⟨fun children child inside isParent => ?_,
    fun children child opening childOpen opened isParent => ?_⟩
  · obtain ⟨childOpen, childFits⟩ := reflects.fits_of_marked id now inside
    obtain ⟨opening, opened, same, -⟩ := childFits.opened
    exact children child.id opening childOpen opened (same.trans isParent)
  · obtain ⟨found, inside, rfl⟩ := reflects.mem_marked id childOpen
    obtain ⟨earlier, earlierOpened, same, -⟩ := (reflects.fits_of_marked id now inside).2.opened
    cases earlierOpened.symm.trans opened
    exact children found inside (same.symm.trans isParent)

section

variable (nested : IsNested past) {ends : OpenSpan → Bool}
  (decides : ∀ span, ends span ↔ IsClosed (.released id now :: past) span.id)

include decides nested

private theorem Reflects.release_eq :
    recorder.release id now =
      { recorder with
        spans := (recorder.spans.map (marked id)).filter (!ends ·)
        store := (((recorder.spans.map (marked id)).reverse.filter ends).map
          (SpanRecorder.closed · now)).foldl SpanStore.keep recorder.store } := by
  refine SpanRecorder.finishAll_of_ends (reflects.inOrder id nested) (fun span member => ?_) _ now
    (List.append_nil _).symm (List.append_nil _).symm
  have closed := reflects.isClosed_iff id now member
  simpa only [decides] using closed

private theorem Reflects.closeTogether :
    CloseTogether (.released id now) past
      (((recorder.spans.map (marked id)).reverse.filter ends).map fun span =>
        ⟨span.id, .released id now :: past, SpanRecorder.closed span now⟩) := by
  have known : ∀ span ∈ (recorder.spans.map (marked id)).reverse.filter ends,
      span ∈ recorder.spans.map (marked id) ∧ IsClosed (.released id now :: past) span.id :=
    fun span member =>
      have taken := List.mem_filter.mp member
      ⟨List.mem_reverse.mp taken.1, (decides span).mp taken.2⟩
  refine ⟨?_, ?_, ?_, fun other ending => ?_, ?_⟩
  · exact List.forall_mem_map.mpr fun span _ => rfl
  · refine List.forall_mem_map.mpr fun span member => ?_
    obtain ⟨inside, closed⟩ := known span member
    exact ⟨(reflects.fits_of_marked id now inside).1.2, closed⟩
  · rw [List.pairwise_map]
    exact (List.pairwise_reverse.mpr (reflects.inOrder id nested).ascending).filter ends
  · obtain ⟨unclosed, closed⟩ := ending
    obtain ⟨span, member, rfl⟩ := reflects.mem_marked id ⟨closed.isSome, unclosed⟩
    refine ⟨_, List.mem_map_of_mem (List.mem_filter.mpr ⟨?_, (decides span).mpr closed⟩), rfl⟩
    exact List.mem_reverse.mpr member
  · refine List.forall_mem_map.mpr fun span member => ?_
    exact faithful_closed (reflects.fits_of_marked id now (known span member).1).2

theorem Reflects.released : Reflects (.released id now :: past) (recorder.release id now) := by
  rw [reflects.release_eq id now nested decides]
  refine ⟨reflects.nextId, (reflects.inOrder id nested).ascending.filter _, fun other => ?_,
    fun span member => ?_⟩
  · rw [isOpen_released]
    constructor
    · intro isLeft
      obtain ⟨span, member, rfl⟩ := List.mem_map.mp isLeft
      obtain ⟨inside, goesOn⟩ := List.mem_filter.mp member
      exact ⟨(reflects.fits_of_marked id now inside).1, fun closed => by
        simp [(decides span).mpr closed] at goesOn⟩
    · rintro ⟨isOpen, goesOn⟩
      obtain ⟨span, member, rfl⟩ := reflects.mem_marked id isOpen
      rw [← decides] at goesOn
      exact List.mem_map_of_mem (List.mem_filter.mpr ⟨member, by simpa using goesOn⟩)
  · exact (reflects.fits_of_marked id now (List.mem_filter.mp member).1).2

end

private theorem Reflects.exists_released (nested : IsNested past) :
    ∃ latest, CloseTogether (.released id now) past latest ∧
      Reflects (.released id now :: past) (recorder.release id now) ∧
      ∀ tenant, (recorder.release id now).store.spansFor tenant =
        recorder.store.spansFor tenant ++
          (latest.map (·.record)).filter (·.text? tenantAttribute = some tenant) := by
  classical
  have decides : ∀ span : OpenSpan, decide (IsClosed (.released id now :: past) span.id) ↔
      IsClosed (.released id now :: past) span.id := fun span => decide_eq_true_iff
  refine ⟨_, reflects.closeTogether id now nested decides, reflects.released id now nested decides,
    fun tenant => ?_⟩
  rw [reflects.release_eq id now nested decides, SpanStore.spansFor_keepAll, List.map_map]
  rfl

end

/-! ## One event, and a whole history -/

theorem Reflects.perform {event : SpanEvent} (reflects : Reflects past recorder)
    (nested : IsNested (event :: past)) :
    ∃ latest, CloseTogether event past latest ∧ Reflects (event :: past) (event.perform recorder) ∧
      ∀ tenant, (event.perform recorder).store.spansFor tenant =
        recorder.store.spansFor tenant ++
          (latest.map (·.record)).filter (·.text? tenantAttribute = some tenant) := by
  cases event with
  | opened opening =>
      refine ⟨[], closeTogether_nil fun id => (isClosed_opened nested.1).mp, ?_, fun tenant => ?_⟩
      · exact reflects.opened nested.1
      · exact (List.append_nil _).symm
  | noted id attributes =>
      refine ⟨[], closeTogether_nil fun id => isClosed_noted.mp, ?_, fun tenant => ?_⟩
      · exact reflects.noted id attributes
      · exact (List.append_nil _).symm
  | released id now => exact reflects.exists_released id now nested

private theorem isLog_nil : IsLog [] [] where
  ends := nofun
  complete := fun _ closed => absurd closed.isSome Bool.false_ne_true
  once := .nil
  order := .nil
  childrenFirst := .nil
  faithful := nofun

private theorem reflects_nil : Reflects [] {} where
  nextId := rfl
  ascending := .nil
  isOpen := fun _ => ⟨nofun, fun isOpen => absurd isOpen.1 Bool.false_ne_true⟩
  fits := nofun

private theorem exists_log (nested : IsNested past) :
    Reflects past (recorded past) ∧ ∃ endings, IsLog past endings ∧
      ∀ tenant, (recorded past).store.spansFor tenant =
        (endings.map (·.record)).filter (·.text? tenantAttribute = some tenant) := by
  induction past with
  | nil => exact ⟨reflects_nil, [], isLog_nil, fun _ => rfl⟩
  | cons event past induction =>
      obtain ⟨reflects, endings, log, stored⟩ := induction nested.tail
      obtain ⟨latest, together, reflects, added⟩ := reflects.perform nested
      refine ⟨reflects, endings ++ latest, log.append nested together, fun tenant => ?_⟩
      rw [List.map_append, List.filter_append, ← stored]
      exact added tenant

private theorem idText_injective {first second : Nat} (firstFits : first < UInt64.size)
    (secondFits : second < UInt64.size)
    (same : SpanRecorder.idText first = SpanRecorder.idText second) : first = second := by
  have size : UInt64.size = 16 ^ 16 := rfl
  rw [size] at firstFits secondFits
  refine Identifier.hexDigits_injective firstFits secondFits ?_
  exact String.ofList_injective same

/-- Records of one span are the same record, whichever tenants they are found under. -/
theorem IsLog.same_ending (log : IsLog past endings) (nested : IsNested past)
    (few : openings past < UInt64.size) {first second : SpanEnd} (isFirst : first ∈ endings)
    (isSecond : second ∈ endings) (same : first.record.id = second.record.id) : first = second := by
  have below : ∀ ending ∈ endings, ending.id < UInt64.size := fun ending member => by
    have numbered := (log.isClosed nested member).le_openings
    omega
  rw [(log.faithful first isFirst).id, (log.faithful second isSecond).id] at same
  exact List.inj_on_of_nodup_map log.once isFirst isSecond
    (idText_injective (below first isFirst) (below second isSecond) same)

/-- For every tenant the recorder has the records of the spans that had this tenant when they
closed, in the order in which they closed, and no others. -/
theorem recorded_keeps_log (past : SpanHistory) (nested : IsNested past) :
    ∃ endings, IsLog past endings ∧
      (∀ tenant, (recorded past).store.spansFor tenant =
        (endings.filter (·.tenant? = some tenant)).map (·.record)) ∧
      (openings past < UInt64.size →
        ∀ tenant other, ∀ first ∈ (recorded past).store.spansFor tenant,
          ∀ second ∈ (recorded past).store.spansFor other, first.id = second.id →
            tenant = other) := by
  obtain ⟨-, endings, log, stored⟩ := exists_log nested
  have filed : ∀ tenant, (recorded past).store.spansFor tenant =
      (endings.filter (·.tenant? = some tenant)).map (·.record) := by
    intro tenant
    rw [stored, List.filter_map]
    refine congrArg _ (List.filter_congr fun ending member => ?_)
    rw [Function.comp_apply, (log.faithful ending member).text?]
  refine ⟨endings, log, filed, fun few tenant other first isFirst second isSecond same => ?_⟩
  rw [filed] at isFirst isSecond
  obtain ⟨ending, member, rfl⟩ := List.mem_map.mp isFirst
  obtain ⟨ending', member', rfl⟩ := List.mem_map.mp isSecond
  obtain ⟨inside, isTenant⟩ := List.mem_filter.mp member
  obtain ⟨inside', isOther⟩ := List.mem_filter.mp member'
  cases log.same_ending nested few inside inside' same
  exact Option.some.inj ((of_decide_eq_true isTenant).symm.trans (of_decide_eq_true isOther))

/-- A child keeps the tenant that its parent had, and holds up the end of the parent, which has
found another tenant by then. -/
theorem recorded_keeps_log_moved_parent :
    let past : SpanHistory :=
      [.released 2 7, .released 1 5, .noted 1 [(tenantAttribute, .string "b")],
        .opened ⟨some 1, "child", "m", 2, []⟩,
        .opened ⟨none, "parent", "m", 1, [(tenantAttribute, .string "a")]⟩]
    IsNested past ∧ ∃ endings, IsLog past endings ∧
      (endings.filter (·.tenant? = some "a")).map (·.record.name) = ["child"] ∧
      (endings.filter (·.tenant? = some "b")).map (·.record.name) = ["parent"] := by
  intro past
  have nested : IsNested past := by
    have noParent : ∀ parent ∈ (none : Option Nat), IsOpen [] parent := by simp
    refine ⟨fun parent isParent => ?_, noParent, trivial⟩
    cases isParent
    exact (isOpen_opened noParent).mpr (.inr rfl)
  obtain ⟨endings, log, filed, -⟩ := recorded_keeps_log past nested
  have names : ∀ tenant, (endings.filter (·.tenant? = some tenant)).map (·.record.name) =
      ((recorded past).store.spansFor tenant).map (·.name) := by
    intro tenant
    rw [filed, List.map_map]
    rfl
  refine ⟨nested, endings, log, ?_, ?_⟩
  · rw [names]
    decide +kernel
  · rw [names]
    decide +kernel

end SpanHistory

end GroundedAnswers
