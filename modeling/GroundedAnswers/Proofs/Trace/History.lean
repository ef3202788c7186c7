import GroundedAnswers.Trace.Recorder

namespace GroundedAnswers

/-! What becomes of spans, told from what happened to them. -/

structure SpanOpening where
  parent : Option Nat
  name : String
  target : String
  start : Nat
  attributes : List (String × Json)

inductive SpanEvent where
  | opened (opening : SpanOpening)
  | noted (id : Nat) (attributes : List (String × Json))
  | released (id now : Nat)

abbrev SpanHistory := List SpanEvent

def SpanEvent.perform (recorder : SpanRecorder) : SpanEvent → SpanRecorder
  | .opened opening =>
      (recorder.openSpan opening.parent opening.name opening.target opening.start
        opening.attributes).1
  | .noted id attributes => recorder.setAttributes id attributes
  | .released id now => recorder.release id now

namespace SpanHistory

def recorded : SpanHistory → SpanRecorder
  | [] => {}
  | event :: past => event.perform (recorded past)

/-- How many spans were opened. Their numbers go from one up to it. -/
def openings : SpanHistory → Nat
  | [] => 0
  | .opened _ :: past => openings past + 1
  | .noted _ _ :: past | .released _ _ :: past => openings past

def opening? (id : Nat) : SpanHistory → Option SpanOpening
  | [] => none
  | .opened opening :: past => if id = openings past + 1 then some opening else opening? id past
  | .noted _ _ :: past | .released _ _ :: past => opening? id past

def IsReleased (id : Nat) : SpanHistory → Prop
  | [] => False
  | .opened _ :: past => id ≠ openings past + 1 ∧ IsReleased id past
  | .noted _ _ :: past => IsReleased id past
  | .released other _ :: past => id = other ∨ IsReleased id past

/-- The value of an attribute: the last one noted, else the one that the span was opened with. The
tenant that a span was opened without is the one that its parent had then. -/
def value? (name : String) (id : Nat) : SpanHistory → Option Json
  | [] => none
  | .opened opening :: past =>
      if id = openings past + 1 then
        (opening.attributes.reverse.lookup name).or
          (if name = tenantAttribute then opening.parent.bind (value? tenantAttribute · past)
          else none)
      else value? name id past
  | .noted other attributes :: past =>
      if id = other then (attributes.reverse.lookup name).or (value? name id past)
      else value? name id past
  | .released _ _ :: past => value? name id past

/-- A span closes once it has been released and all its children have closed. -/
inductive IsClosed (past : SpanHistory) : Nat → Prop
  | intro {id : Nat} (opened : (opening? id past).isSome) (released : IsReleased id past)
      (children : ∀ child opening, opening? child past = some opening → opening.parent = some id →
        IsClosed past child) : IsClosed past id

def IsOpen (past : SpanHistory) (id : Nat) : Prop :=
  (opening? id past).isSome ∧ ¬IsClosed past id

/-- Every span that has a parent was opened while that was open. -/
def IsNested : SpanHistory → Prop
  | [] => True
  | .opened opening :: past => (∀ parent ∈ opening.parent, IsOpen past parent) ∧ IsNested past
  | .noted _ _ :: past | .released _ _ :: past => IsNested past

/-! ## Numbers of spans -/

theorem le_openings {id : Nat} {past : SpanHistory} {opening : SpanOpening}
    (opened : opening? id past = some opening) : id ≤ openings past := by
  induction past with
  | nil => cases opened
  | cons event past induction =>
      cases event with
      | opened latest =>
          unfold opening? at opened
          split at opened
          · rename_i isNew
            exact Nat.le_of_eq isNew
          · exact Nat.le_succ_of_le (induction opened)
      | noted => exact induction opened
      | released => exact induction opened

theorem opening?_opened_of_le {id : Nat} {past : SpanHistory} (old : id ≤ openings past)
    (opening : SpanOpening) : opening? id (.opened opening :: past) = opening? id past :=
  if_neg (by omega)

theorem opening?_opened_self (past : SpanHistory) (opening : SpanOpening) :
    opening? (openings past + 1) (.opened opening :: past) = some opening :=
  if_pos rfl

theorem opening?_opened {id : Nat} {past : SpanHistory} {opening : SpanOpening}
    (opened : opening? id past = some opening) (latest : SpanOpening) :
    opening? id (.opened latest :: past) = some opening := by
  rw [opening?_opened_of_le (le_openings opened), opened]

theorem IsOpen.le_openings {id : Nat} {past : SpanHistory} (isOpen : IsOpen past id) :
    id ≤ openings past := by
  obtain ⟨opening, opened⟩ := Option.isSome_iff_exists.mp isOpen.1
  exact SpanHistory.le_openings opened

theorem parent_lt {id parent : Nat} {past : SpanHistory} {opening : SpanOpening}
    (nested : IsNested past) (opened : opening? id past = some opening)
    (child : opening.parent = some parent) : parent < id := by
  induction past with
  | nil => cases opened
  | cons event past induction =>
      cases event with
      | opened latest =>
          unfold opening? at opened
          split at opened
          · rename_i isNew
            cases opened
            have old := (nested.1 parent child).le_openings
            omega
          · exact induction nested.2 opened
      | noted => exact induction nested opened
      | released => exact induction nested opened

/-! ## Closing -/

theorem IsClosed.isSome {id : Nat} {past : SpanHistory} (closed : IsClosed past id) :
    (opening? id past).isSome := by
  cases closed with
  | intro opened => exact opened

theorem IsClosed.le_openings {id : Nat} {past : SpanHistory} (closed : IsClosed past id) :
    id ≤ openings past := by
  obtain ⟨opening, opened⟩ := Option.isSome_iff_exists.mp closed.isSome
  exact SpanHistory.le_openings opened

private theorem IsClosed.of_released {earlier later : SpanHistory} {id : Nat}
    (released : ∀ id, IsReleased id earlier → IsReleased id later)
    (same : ∀ id, opening? id later = opening? id earlier) (closed : IsClosed earlier id) :
    IsClosed later id := by
  induction closed with
  | @intro id opened isReleased _ induction =>
      refine .intro (by rwa [same]) (released id isReleased) fun child opening isChild => ?_
      exact induction child opening (by rwa [← same])

theorem isClosed_noted {other id : Nat} {attributes : List (String × Json)} {past : SpanHistory} :
    IsClosed (.noted other attributes :: past) id ↔ IsClosed past id :=
  ⟨.of_released (fun _ isReleased => isReleased) fun _ => rfl,
    .of_released (fun _ isReleased => isReleased) fun _ => rfl⟩

private theorem isClosed_released {id : Nat} {past : SpanHistory} (closed : IsClosed past id)
    (other now : Nat) : IsClosed (.released other now :: past) id := by
  have kept : ∀ id, IsReleased id past → IsReleased id (.released other now :: past) := fun _ => .inr
  exact closed.of_released kept fun _ => rfl

theorem isClosed_opened {id : Nat} {opening : SpanOpening} {past : SpanHistory}
    (underOpen : ∀ parent ∈ opening.parent, IsOpen past parent) :
    IsClosed (.opened opening :: past) id ↔ IsClosed past id := by
  constructor
  · intro closed
    induction closed with
    | @intro id opened isReleased _ induction =>
        obtain ⟨old, isReleased⟩ := isReleased
        unfold opening? at opened
        rw [if_neg old] at opened
        exact .intro opened isReleased fun child earlier isChild =>
          induction child earlier (opening?_opened isChild opening)
  · intro closed
    induction closed with
    | @intro id opened isReleased children induction =>
        have old := (IsClosed.intro opened isReleased children).le_openings
        refine .intro ?_ ⟨by omega, isReleased⟩ fun child latest isChild isParent => ?_
        · rwa [opening?_opened_of_le old]
        · unfold opening? at isChild
          split at isChild
          · cases isChild
            exact absurd (.intro opened isReleased children) (underOpen id isParent).2
          · exact induction child latest isChild isParent

theorem isClosed_cons {id : Nat} {event : SpanEvent} {past : SpanHistory}
    (nested : IsNested (event :: past)) (closed : IsClosed past id) : IsClosed (event :: past) id := by
  cases event with
  | opened => exact (isClosed_opened nested.1).mpr closed
  | noted => exact isClosed_noted.mpr closed
  | released other now => exact isClosed_released closed other now

theorem IsNested.tail {event : SpanEvent} {past : SpanHistory} (nested : IsNested (event :: past)) :
    IsNested past := by
  cases event with
  | opened => exact nested.2
  | noted => exact nested
  | released => exact nested

/-! ## Open spans -/

theorem isOpen_noted {other id : Nat} {attributes : List (String × Json)} {past : SpanHistory} :
    IsOpen (.noted other attributes :: past) id ↔ IsOpen past id := by
  unfold IsOpen
  rw [isClosed_noted]
  exact Iff.rfl

theorem isOpen_opened {id : Nat} {opening : SpanOpening} {past : SpanHistory}
    (underOpen : ∀ parent ∈ opening.parent, IsOpen past parent) :
    IsOpen (.opened opening :: past) id ↔ IsOpen past id ∨ id = openings past + 1 := by
  unfold IsOpen
  rw [isClosed_opened underOpen]
  by_cases isNew : id = openings past + 1
  · subst isNew
    rw [opening?_opened_self]
    have unclosed : ¬IsClosed past (openings past + 1) := fun closed =>
      absurd closed.le_openings (by omega)
    simp [unclosed]
  · rw [opening?, if_neg isNew]
    simp [isNew]

theorem isOpen_released {id other now : Nat} {past : SpanHistory} :
    IsOpen (.released other now :: past) id ↔
      IsOpen past id ∧ ¬IsClosed (.released other now :: past) id := by
  constructor
  · intro isOpen
    exact ⟨⟨isOpen.1, fun closed => isOpen.2 (isClosed_released closed other now)⟩, isOpen.2⟩
  · intro isOpen
    exact ⟨isOpen.1.1, isOpen.2⟩

/-- Of the children of an open span, only the open ones keep it from closing. -/
theorem isClosed_released_iff {id other now : Nat} {past : SpanHistory} (isOpen : IsOpen past id) :
    IsClosed (.released other now :: past) id ↔
      IsReleased id (.released other now :: past) ∧
        ∀ child opening, IsOpen past child → opening? child past = some opening →
          opening.parent = some id → IsClosed (.released other now :: past) child := by
  constructor
  · rintro ⟨opened, isReleased, children⟩
    exact ⟨isReleased, fun child opening _ isChild => children child opening isChild⟩
  · intro released
    refine .intro isOpen.1 released.1 fun child opening isChild isParent => ?_
    by_cases closed : IsClosed past child
    · exact isClosed_released closed other now
    · have childOpen : IsOpen past child := ⟨Option.isSome_of_mem isChild, closed⟩
      exact released.2 child opening childOpen isChild isParent

end SpanHistory

end GroundedAnswers
