import GroundedAnswers.Chat.Usage

namespace GroundedAnswers

/-! What a streamed answer is made of: the frames that a backend sends, and the events that a
reader sees. -/

inductive StreamEvent where
  | delta (text : String)
  | done (usage : Usage)
  | failed (message : String)
  deriving DecidableEq, Repr

def StreamEvent.isTerminal : StreamEvent → Bool
  | .delta _ => false
  | _ => true

inductive Frame where
  | skip
  | delta (text : String)
  | usage (update : Usage)
  | deltaWithUsage (text : String) (update : Usage)
  | done
  | failure (message : String)
  deriving DecidableEq, Repr

def Frame.usageAfter (current : Usage) : Frame → Usage
  | .usage update => current.updated update
  | .deltaWithUsage _ update => current.updated update
  | _ => current

def Frame.event? (usage : Usage) : Frame → Option StreamEvent
  | .skip => none
  | .usage _ => none
  | .delta text => some (.delta text)
  | .deltaWithUsage text _ => some (.delta text)
  | .done => some (.done usage)
  | .failure message => some (.failed message)

end GroundedAnswers
