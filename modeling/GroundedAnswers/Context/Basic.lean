import GroundedAnswers.Identifier
import GroundedAnswers.Task.Basic

namespace GroundedAnswers

/-! The context of a request: the tenant it acts for, and when it stops. -/

inductive Interruption where
  | cancelled
  | deadlineExceeded
  deriving DecidableEq, Repr

def Interruption.message : Interruption → String
  | .cancelled => "operation cancelled"
  | .deadlineExceeded => "deadline exceeded"

/-- A request that is cancelled at one moment and late from another one on. Either may never
come. -/
structure RequestContext where
  tenant : Identifier
  cancelAt : Option Moment
  deadline : Option Moment
  deriving DecidableEq, Repr, Inhabited

namespace RequestContext

def ofTenant (tenant : Identifier) : RequestContext :=
  ⟨tenant, none, none⟩

/-- Set a deadline a number of nanoseconds from now, in place of any earlier one. -/
def withTimeout (context : RequestContext) (now : Moment) (nanoseconds : Nat) : RequestContext :=
  { context with deadline := some (2 * (now.nanoseconds + nanoseconds)) }

/-- Cancel from a moment on, if no earlier one is set. -/
def cancelledFrom (context : RequestContext) (moment : Moment) : RequestContext :=
  { context with cancelAt := some ((context.cancelAt.map (min moment)).getD moment) }

def isCancelled (context : RequestContext) (now : Moment) : Bool :=
  context.cancelAt.any (· ≤ now)

/-- What a look at the context finds. A cancellation wins over a missed deadline. -/
def interruption? (context : RequestContext) (now : Moment) : Option Interruption :=
  if context.isCancelled now then some .cancelled
  else if context.deadline.any (· ≤ now) then some .deadlineExceeded
  else none

/-- The first moment, if any, at which a look finds an interruption. -/
def stopsAt? (context : RequestContext) : Option Moment :=
  match context.cancelAt, context.deadline with
  | some cancel, some deadline => some (min cancel deadline)
  | some cancel, none => some cancel
  | none, deadline => deadline

/-- The moment at which a wait ends early, if it does: an interruption that comes no later than the
awaited moment is noticed first. -/
def breaks? (context : RequestContext) (wake : Moment) : Option (Moment × Interruption) := do
  let moment ← context.stopsAt?
  if moment ≤ wake then return (moment, ← context.interruption? moment) else none

end RequestContext

/-- Drop work at the first wait that the context interrupts. -/
def Progress.under (context : RequestContext) :
    Progress σ α → Progress σ (Except Interruption α)
  | .finished value state => .finished (.ok value) state
  | .waiting wake state resume =>
      match context.breaks? wake with
      | some (moment, interruption) => .waiting moment state (.finished (.error interruption))
      | none => .waiting wake state fun later => (resume later).under context

namespace RequestContext

/-- Run a task unless the context is interrupted, and drop it when it becomes so. -/
def run (context : RequestContext) (task : Task σ α) : ExceptT Interruption (Task σ) α :=
  fun now state =>
    match context.interruption? now with
    | some interruption => .finished (.error interruption) state
    | none => (task now state).under context

def guarded (context : RequestContext) (interrupted : Interruption → ε)
    (task : ExceptT ε (Task σ) α) : ExceptT ε (Task σ) α :=
  fun now state =>
    match context.interruption? now with
    | some cause => .finished (.error (interrupted cause)) state
    | none =>
        ((task now state).under context).andThen
          (fun outcome =>
            match outcome with
            | .ok result => pure result
            | .error cause => pure (.error (interrupted cause)))
          now

def sleep (context : RequestContext) (nanoseconds : Nat) : ExceptT Interruption (Task σ) Unit :=
  context.run (Task.delay nanoseconds)

def check (context : RequestContext) : ExceptT Interruption (Task σ) Unit :=
  context.run (pure ())

theorem interruption?_isSome_iff (context : RequestContext) (now : Moment) :
    (context.interruption? now).isSome ↔ ∃ moment, context.stopsAt? = some moment ∧ moment ≤ now := by
  rcases context with ⟨tenant, cancel, deadline⟩
  cases cancel <;> cases deadline <;>
    simp only [interruption?, isCancelled, stopsAt?, Option.any_some, Option.any_none,
      decide_eq_true_eq, Option.some.injEq, exists_eq_left', reduceCtorEq, false_and, exists_false,
      Bool.false_eq_true, if_false, Option.isSome_none]
  · split <;> simp_all
  · split <;> simp_all
  · rename_i cancel deadline
    have either : min cancel deadline ≤ now ↔ cancel ≤ now ∨ deadline ≤ now := by
      rcases Nat.le_total cancel deadline with order | order
      · rw [Nat.min_eq_left order]
        exact ⟨.inl, fun early => early.elim id (Nat.le_trans order)⟩
      · rw [Nat.min_eq_right order]
        exact ⟨.inr, fun early => early.elim (Nat.le_trans order) id⟩
    rw [either]
    split
    · simp_all
    · split <;> simp_all

end RequestContext

end GroundedAnswers
