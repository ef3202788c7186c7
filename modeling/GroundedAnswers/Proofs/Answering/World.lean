import GroundedAnswers.Proofs.Answering.Isolation
import Mathlib.Logic.Function.Basic

namespace GroundedAnswers

/-! Operations of several tenants that share a pipeline and its store. Each acts until it has to
wait, and a schedule says whose turn it is. Whatever an operation does in the store comes right
after its start or after a call of a backend, and a backend may wait as it likes, so that others
can have their turns between any two accesses. A run with all tenants simulates one without a
tenant. -/

open MemoryStore (Apart Linked others)

structure Submission where
  start : Moment
  context : RequestContext
  operation : PipelineOperation

abbrev OperationProgress :=
  Progress (PipelineState Unit) (Except RetrievalFailure PipelineResult)

def Progress.reached : Progress σ α → σ
  | .finished _ state => state
  | .waiting _ state _ => state

structure World where
  store : MemoryStore
  running : Nat → Option OperationProgress

namespace World

def enter (world : World) (place : Nat) (progress : OperationProgress) : World where
  store := progress.reached.store
  running := Function.update world.running place (some progress)

@[simp] theorem running_enter (world : World) (place : Nat) (progress : OperationProgress) :
    (world.enter place progress).running place = some progress :=
  Function.update_self _ _ _

private theorem running_enter_of_ne {place other : Nat} (different : other ≠ place) (world : World)
    (progress : OperationProgress) :
    (world.enter place progress).running other = world.running other :=
  Function.update_of_ne different _ _

def answer? (world : World) (place : Nat) : Option (Except RetrievalFailure PipelineResult) :=
  match world.running place with
  | some (.finished answer _) => some answer
  | _ => none

section

variable (settings : RetrievalSettings) (gateway : Gateway Unit) (submissions : List Submission)
  (identifiers : Nat → Nat → Identifier)

/-- A turn of the operation at a place: it starts, or goes on after a wait with the store as it is
by now. Chunks get their names from the operation's own sequence. -/
def turn (world : World) (place : Nat) : World :=
  match submissions[place]? with
  | none => world
  | some submission =>
      match world.running place with
      | none =>
          let pipeline := Pipeline.inMemory settings gateway (identifiers place)
          world.enter place
            (pipeline.perform submission.context submission.operation submission.start
              ⟨(), world.store, 0⟩)
      | some (.finished _ _) => world
      | some (.waiting _ state resume) =>
          world.enter place (resume (state.withStore world.store))

def run (store : MemoryStore) (schedule : List Nat) : World :=
  schedule.foldl (turn settings gateway submissions identifiers) ⟨store, fun _ => none⟩

end

end World

/-! ## Two runs -/

section

variable {rename : Identifier → Identifier} {away : Identifier}
  {foreign foreign' : Identifier → Prop}

private theorem linked_of_alike {left right : OperationProgress}
    (alike : Progress.Alike (Pipeline.LinkedStates rename away foreign foreign')
      (Pipeline.LinkedAnswers rename away foreign foreign') () left right) :
    Linked rename away foreign foreign' left.reached.store right.reached.store := by
  cases alike with
  | finished ended => exact ended.2
  | waiting reached _ => exact reached.1

private theorem apart_of_alike {kept : List Chunk} {left right : OperationProgress}
    (alike : Progress.Alike (Pipeline.AwayStates away foreign) (Pipeline.AwayEnds away foreign) kept
      left right) :
    left.reached.store.others away = kept ∧ Apart foreign away left.reached.store := by
  cases alike with
  | finished ended => exact ended
  | waiting reached _ => exact ⟨reached.2.1, reached.2.2.1⟩

/-- Two worlds, the second one without the operations of the tenant that is away. The others have
the same in both stores, and each of their operations is equally far. -/
structure Simulated (rename : Identifier → Identifier) (away : Identifier)
    (foreign foreign' : Identifier → Prop) (submissions : List Submission)
    (world world' : World) : Prop where
  linked : Linked rename away foreign foreign' world.store world'.store
  others : ∀ place submission, submissions[place]? = some submission →
    submission.context.tenant ≠ away →
    Option.Rel (Progress.Alike (Pipeline.LinkedStates rename away foreign foreign')
      (Pipeline.LinkedAnswers rename away foreign foreign') ())
      (world.running place) (world'.running place)
  away : ∀ place submission, submissions[place]? = some submission →
    submission.context.tenant = away → ∀ progress, world.running place = some progress →
    ∃ kept, Progress.Alike (Pipeline.AwayStates away foreign) (Pipeline.AwayEnds away foreign) kept
      progress progress

theorem Simulated.enter {submissions : List Submission} {world world' : World}
    (simulated : Simulated rename away foreign foreign' submissions world world') {place : Nat}
    {submission : Submission} (submitted : submissions[place]? = some submission)
    (isOther : submission.context.tenant ≠ away) {progress progress' : OperationProgress}
    (alike : Progress.Alike (Pipeline.LinkedStates rename away foreign foreign')
      (Pipeline.LinkedAnswers rename away foreign foreign') () progress progress') :
    Simulated rename away foreign foreign' submissions (world.enter place progress)
      (world'.enter place progress') where
  linked := linked_of_alike alike
  others := by
    intro other submission' submitted' isOther'
    by_cases same : other = place
    · subst same
      rw [World.running_enter, World.running_enter]
      exact .some alike
    · rw [World.running_enter_of_ne same, World.running_enter_of_ne same]
      exact simulated.others other submission' submitted' isOther'
  away := by
    intro other submission' submitted' isAway progress' running
    have different : other ≠ place := by
      rintro rfl
      rw [submitted] at submitted'
      cases submitted'
      exact isOther isAway
    rw [World.running_enter_of_ne different] at running
    exact simulated.away other submission' submitted' isAway progress' running

/-- A turn of an operation of the tenant that is away, taken in the first world only. -/
theorem Simulated.enter_away {submissions : List Submission} {world world' : World}
    (simulated : Simulated rename away foreign foreign' submissions world world') {place : Nat}
    {submission : Submission} (submitted : submissions[place]? = some submission)
    (isAway : submission.context.tenant = away) {progress : OperationProgress}
    (alike : Progress.Alike (Pipeline.AwayStates away foreign) (Pipeline.AwayEnds away foreign)
      (world.store.others away) progress progress) :
    Simulated rename away foreign foreign' submissions (world.enter place progress) world' where
  linked := {
    same := by
      rw [World.enter, (apart_of_alike alike).1]
      exact simulated.linked.same
    left := (apart_of_alike alike).2
    right := simulated.linked.right }
  others := by
    intro other submission' submitted' isOther
    have different : other ≠ place := by
      rintro rfl
      rw [submitted] at submitted'
      cases submitted'
      exact isOther isAway
    rw [World.running_enter_of_ne different]
    exact simulated.others other submission' submitted' isOther
  away := by
    intro other submission' submitted' isAway' progress' running
    by_cases same : other = place
    · subst same
      rw [World.running_enter] at running
      cases running
      exact ⟨_, alike⟩
    · rw [World.running_enter_of_ne same] at running
      exact simulated.away other submission' submitted' isAway' progress' running

theorem Simulated.answers {submissions : List Submission} {world world' : World}
    (simulated : Simulated rename away foreign foreign' submissions world world') {place : Nat}
    {submission : Submission} (submitted : submissions[place]? = some submission)
    (isOther : submission.context.tenant ≠ away) :
    Option.Rel (AnswersAlike rename) (world.answer? place) (world'.answer? place) := by
  have equallyFar := simulated.others place submission submitted isOther
  rw [World.answer?, World.answer?]
  generalize world.running place = running, world'.running place = running' at equallyFar ⊢
  cases equallyFar with
  | none => exact .none
  | some alike =>
      cases alike with
      | finished ended => exact .some ended.1
      | waiting _ _ => exact .none

variable {settings : RetrievalSettings} {gateway : Gateway Unit} {submissions : List Submission}
  {identifiers identifiers' : Nat → Nat → Identifier} {world world' : World}
  (simulated : Simulated rename away foreign foreign' submissions world world')
  {place : Nat} {submission : Submission} (submitted : submissions[place]? = some submission)

include simulated submitted

theorem Simulated.turn (injective : Function.Injective rename)
    (isOther : submission.context.tenant ≠ away)
    (names : Pipeline.NamesMatch rename foreign foreign' (identifiers place) (identifiers' place)
      (submission.operation.draws settings)) :
    Simulated rename away foreign foreign' submissions
      (world.turn settings gateway submissions identifiers place)
      (world'.turn settings gateway submissions identifiers' place) := by
  have equallyFar := simulated.others place submission submitted isOther
  rw [World.turn, World.turn, submitted]
  dsimp only
  generalize world.running place = running, world'.running place = running' at equallyFar ⊢
  cases equallyFar with
  | none =>
      exact simulated.enter submitted isOther
        (Pipeline.perform_linked injective isOther names _ ⟨simulated.linked, rfl, rfl⟩)
  | some alike =>
      cases alike with
      | finished ended => exact simulated
      | waiting reached resumed =>
          exact simulated.enter submitted isOther
            (resumed () _ _ ⟨simulated.linked, reached.2⟩)

private theorem Simulated.turn_away (isAway : submission.context.tenant = away)
    (named : ∀ index < submission.operation.draws settings, foreign (identifiers place index)) :
    Simulated rename away foreign foreign' submissions
      (world.turn settings gateway submissions identifiers place) world' := by
  rw [World.turn, submitted]
  dsimp only
  cases running : world.running place with
  | none =>
      exact simulated.enter_away submitted isAway
        (Pipeline.perform_away isAway named _ ⟨rfl, rfl, simulated.linked.left, rfl⟩)
  | some progress =>
      rcases simulated.away place submission submitted isAway progress running with ⟨kept, alike⟩
      cases alike with
      | finished ended => exact simulated
      | waiting reached resumed =>
          exact simulated.enter_away submitted isAway
            (resumed _ _ _ ⟨rfl, rfl, simulated.linked.left, reached.2.2.2⟩)

end

/-! ## Without a tenant -/

def staysWithout (away : Identifier) (submissions : List Submission) (place : Nat) : Bool :=
  submissions[place]?.all (·.context.tenant ≠ away)

/-- A whole schedule, and what is left of it without the tenant that is away. -/
theorem Simulated.run {rename : Identifier → Identifier} {away : Identifier}
    {foreign foreign' : Identifier → Prop} {settings : RetrievalSettings}
    {submissions : List Submission} {identifiers identifiers' : Nat → Nat → Identifier}
    {world world' : World}
    (simulated : Simulated rename away foreign foreign' submissions world world')
    (injective : Function.Injective rename)
    (names : ∀ place submission, submissions[place]? = some submission →
      submission.context.tenant ≠ away →
      Pipeline.NamesMatch rename foreign foreign' (identifiers place) (identifiers' place)
        (submission.operation.draws settings))
    (named : ∀ place submission, submissions[place]? = some submission →
      submission.context.tenant = away →
      ∀ index < submission.operation.draws settings, foreign (identifiers place index))
    (gateway : Gateway Unit) (schedule : List Nat) :
    Simulated rename away foreign foreign' submissions
      (schedule.foldl (World.turn settings gateway submissions identifiers) world)
      ((schedule.filter (staysWithout away submissions)).foldl
        (World.turn settings gateway submissions identifiers') world') := by
  induction schedule generalizing world world' with
  | nil => exact simulated
  | cons place rest induction =>
      rw [List.filter_cons, List.foldl_cons]
      cases submitted : submissions[place]? with
      | none =>
          have idle : ∀ (identifiers : Nat → Nat → Identifier) (world : World),
              world.turn settings gateway submissions identifiers place = world := by
            intro identifiers world
            rw [World.turn, submitted]
          have stays : staysWithout away submissions place = true := by
            rw [staysWithout, submitted]
            rfl
          rw [if_pos stays, List.foldl_cons, idle, idle]
          exact induction simulated
      | some submission =>
          by_cases isAway : submission.context.tenant = away
          · have leaves : staysWithout away submissions place = false := by
              simp [staysWithout, submitted, isAway]
            rw [leaves]
            exact induction (simulated.turn_away submitted isAway
              (named place submission submitted isAway))
          · have stays : staysWithout away submissions place = true := by
              simp [staysWithout, submitted, isAway]
            rw [if_pos stays, List.foldl_cons]
            exact induction (simulated.turn submitted injective isAway
              (names place submission submitted isAway))

end GroundedAnswers
