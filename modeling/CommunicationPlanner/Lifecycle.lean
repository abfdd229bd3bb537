import CommunicationPlanner.Enumerations

namespace CommunicationPlanner

/-!
# The lifecycle table

`canTransition` is the table of legal plan transitions.  No handler of the
coordinator consults it; it is the reference that their effects are compared
with.
-/

/-- `PlanLifecycle::canTransition`. -/
def canTransition : PlanState → PlanState → Bool
  | .requested, next =>
      next ∈ [.discovering, .constructing, .cancelled, .failed, .retired]
  | .discovering, next =>
      next ∈ [.constructing, .filtering, .cancelled, .failed, .retired]
  | .constructing, next =>
      next ∈ [.filtering, .ranking, .cancelled, .failed, .retired]
  | .filtering, next =>
      next ∈ [.ranking, .cancelled, .failed, .retired]
  | .ranking, next =>
      next ∈ [.planReady, .cancelled, .failed, .retired]
  | .planReady, next =>
      next ∈ [.awaitingResourceCommit, .revalidationRequired, .cancelled,
        .failed, .superseded, .retired]
  | .awaitingResourceCommit, next =>
      next ∈ [.committed, .cancelled, .failed, .revalidationRequired,
        .superseded, .retired]
  | .committed, next =>
      next ∈ [.awaitingExecution, .cancelled, .failed, .revalidationRequired,
        .superseded, .retired]
  | .awaitingExecution, next =>
      next ∈ [.active, .cancelled, .failed, .revalidationRequired,
        .superseded, .retired]
  | .active, next =>
      next ∈ [.completed, .revalidationRequired, .failed, .cancelled,
        .retired]
  | .revalidationRequired, next =>
      next ∈ [.awaitingExecution, .planReady, .cancelled, .failed, .retired]
  | .completed, next => next = .retired
  | .cancelled, next => next = .retired
  | .failed, next => next = .retired
  | .superseded, next => next = .retired
  | .retired, _ => false

/-- The states that end a plan: the table leaves them only towards `RETIRED`. -/
def PlanState.terminal : PlanState → Bool
  | .completed | .cancelled | .failed | .superseded => true
  | _ => false

/-- The states in which a plan may execute or is about to. -/
def PlanState.executable : PlanState → Bool
  | .committed | .awaitingExecution | .active => true
  | _ => false

end CommunicationPlanner
