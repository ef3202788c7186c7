import GroundedAnswers.Backend
import GroundedAnswers.Failure.Retrieval

namespace GroundedAnswers

abbrev RetrievalTask (σ α : Type) := ExceptT RetrievalFailure (Task σ) α

def ModelTask.forRetrieval (task : ModelTask σ α) : RetrievalTask σ α :=
  ExceptT.adapt RetrievalFailure.ofModel task

namespace RetrievalTask

/-- Go on with another piece of work when the first one fails, unless it was interrupted. -/
def orElse (task : RetrievalTask σ α) (fallback : RetrievalTask σ α) : RetrievalTask σ α := do
  match ← ExceptT.lift task.run with
  | .ok value => return value
  | .error failure => if failure.isInterruption then throw failure else fallback

end RetrievalTask

end GroundedAnswers
