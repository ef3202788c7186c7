import GroundedAnswers.Context.Basic

namespace GroundedAnswers

/-! Contexts that share their cancellation. A clone is cancelled together with its source, while its
deadline is its own. -/

/-- A context as a member of a family: it listens to one of the signals. -/
structure FamilyMember where
  tenant : Identifier
  signal : Nat
  deadline : Option Moment
  deriving Inhabited

/-- Signals hold the moment from which they are raised, if any. -/
structure ContextFamily where
  signals : List (Option Moment)
  members : List FamilyMember

namespace ContextFamily

def sharedSignal : Nat := 1

def ofTenant (tenant : Identifier) : ContextFamily :=
  ⟨[none, none], [⟨tenant, 0, none⟩]⟩

def member (family : ContextFamily) (place : Nat) : FamilyMember :=
  family.members.getD place default

def context (family : ContextFamily) (place : Nat) : RequestContext :=
  let member := family.member place
  ⟨member.tenant, (family.signals[member.signal]?).join, member.deadline⟩

/-- Raise a signal from a moment on, if it is not raised earlier. -/
def raiseSignal (family : ContextFamily) (signal : Nat) (moment : Moment) : ContextFamily :=
  { family with
    signals := family.signals.modify signal fun raised =>
      some ((raised.map (min moment)).getD moment) }

def cancel (family : ContextFamily) (place : Nat) (moment : Moment) : ContextFamily :=
  family.raiseSignal (family.member place).signal moment

def derive (family : ContextFamily) (place : Nat) (change : FamilyMember → FamilyMember) :
    ContextFamily × Nat :=
  ({ family with members := family.members ++ [change (family.member place)] },
    family.members.length)

end ContextFamily

end GroundedAnswers
