import CommunicationPlanner.BrokerHoldings

namespace CommunicationPlanner

open TransitionRun

/-!
# Commits of a cancelled request

A cancellation may come before the first critical section of a commit, between
its two, or while the broker is called.  The set of cancelled requests only
grows, and the second critical section looks into it under the lock: a commit
that is decided after the cancellation is refused, and gives back what it was
granted.
-/

namespace Coordinator

/-- The step handles a critical section of a commit of the plan. -/
def handlesCommit
    (step : CoordinatorStep)
    (planId : CommunicationPlanId) : Bool :=
  match step.event with
  | .receive _ message =>
      message.type = .commitRequest && message.planId = planId
  | .finish socket =>
      match step.before.connections[socket]? with
      | some (.acquired commit _) => commit.planId = planId
      | _ => false
  | _ => false

/-- A `COMMIT_REQUEST` for the plan is answered with `ok`. -/
def confirms (step : CoordinatorStep) (planId : CommunicationPlanId) : Bool :=
  handlesCommit step planId &&
    step.outputs.any fun
      | .send _ message => message.ok
      | _ => false

section

variable
  {config : Config}
  {before after : Coordinator}
  {event : Event}
  {actions : List Action}
  {planId : CommunicationPlanId}
  {record : PlanRecord}
  {request : CommunicationRequestId}

/-- A cancellation is entered. -/
theorem mem_cancelled_of_cancel
    {socket : Socket}
    {message : Message}
    (kind : message.type = .cancel)
    (stepped :
      step? config before (.receive socket message) =
        some (after, actions)) :
    message.requestId ∈ after.ledger.cancelled := by
  cases taken_of_step? stepped with
  | receive _ _ listening =>
      rw [ledger_resume]
      simp only [handleMessage, kind, withLedger, Ledger.handleCancel]
      split
      · exact Finset.mem_insert_self _ _
      · split <;> split <;> exact Finset.mem_insert_self _ _

theorem undoes_of_cancelled
    {ledger : Ledger}
    (isCancelled : request ∈ ledger.cancelled)
    (named : record.plan.requestId = request) :
    ledger.undoes record = true := by
  simp [Ledger.undoes, named, isCancelled]

/-- No plan of a cancelled request becomes committed. -/
theorem committed_before_of_cancelled
    (stepped : step? config before event = some (after, actions))
    (isCancelled : request ∈ before.ledger.cancelled)
    (found : after.ledger.plans[planId]? = some record)
    (named : record.plan.requestId = request)
    (committed : record.state = .committed) :
    before.ledger.plans[planId]? = some record := by
  have change : PlanStep config before planId event (some record) :=
    found ▸ planStep_of_step? stepped
  generalize isSome : some record = result at change
  cases change with
  | same => rfl
  | entered =>
      cases isSome
      rw [Ledger.state_newRecord] at committed
      cases committed
  | written old new known writes =>
      cases isSome
      cases writes with
      | commit socket commit busy isPlan kept =>
          have undone : before.ledger.undoes old = true :=
            undoes_of_cancelled isCancelled named
          rw [kept] at undone
          cases undone
      | result socket message =>
          simp only at committed
          split at committed <;> cases committed
      | beginCommit | undo | refuse | revalidate | failRevalidation
      | handoff | cancel | supersede | supersedeOlder => cases committed

/--
No commit of a cancelled request is answered with `ok`: its first critical
section answers with errors only, and its second one with this one.
-/
theorem not_confirms_of_cancelled
    (stepped : step? config before event = some (after, actions))
    (isCancelled : request ∈ before.ledger.cancelled)
    (found : before.ledger.plans[planId]? = some record)
    (named : record.plan.requestId = request) :
    confirms ⟨before, event, actions, after⟩ planId = false := by
  unfold confirms
  rw [Bool.and_eq_false_imp]
  intro handles
  have taken := taken_of_step? stepped
  cases event with
  | receive socket message =>
      simp only [handlesCommit, Bool.and_eq_true, decide_eq_true_eq] at handles
      obtain ⟨kind, isPlan⟩ := handles
      subst isPlan
      cases taken with
      | receive _ _ listening =>
          simp only [handleMessage, kind, beginCommit, Ledger.beginCommit,
            found, named, isCancelled, if_true]
          by_cases committable :
              record.state ≠ .planReady ∧
                record.state ≠ .awaitingResourceCommit
          · simp [committable, errorMessage]
          · simp [committable, errorMessage]
  | finish socket =>
      simp only [handlesCommit] at handles
      cases taken with
      | finish _ commit failure busy =>
          simp only [busy, decide_eq_true_eq] at handles
          subst handles
          have undone := undoes_of_cancelled isCancelled named
          cases failure <;>
            simp [Ledger.finishCommit, found, undone, errorMessage]
  | accept | undecodable | acquire | disconnect | saveStore => cases handles

/-- A commit that is undone leaves nothing of what it was granted. -/
theorem heldOf_of_undone
    {socket : Socket}
    {commit : Commit}
    (stepped :
      step? config before (.finish socket) = some (after, actions))
    (busy : before.connections[socket]? = some (.acquired commit none))
    (undone :
      ∀ record, before.ledger.plans[commit.planId]? = some record →
        before.ledger.undoes record = true)
    {resource : ResourceId}
    (claimed : resource ∈ commit.resources) :
    after.ledger.broker.heldOf resource = 0 := by
  have released :
      before.releasedBy (.finish socket) =
        some (commit.planId, commit.resources) := by
    simp only [releasedBy, busy]
    cases found : before.ledger.plans[commit.planId]? with
    | none => rfl
    | some record => simp [undone record found]
  rw [broker_of_step? stepped]
  simp [brokerAfter, released, claimed]

/-- A commit that the broker refuses acquires nothing. -/
theorem heldOf_of_refused
    {socket : Socket}
    {commit : Commit}
    {error : Text}
    (stepped :
      step? config before (.acquire socket) = some (after, actions))
    (refused :
      after.connections[socket]? = some (.acquired commit (some error)))
    (resource : ResourceId) :
    after.ledger.broker.heldOf resource =
      before.ledger.broker.heldOf resource := by
  cases taken_of_step? stepped with
  | acquire _ waiting busy =>
      simp only [Std.ExtTreeMap.getElem?_insert_self, Option.some.injEq,
        Connection.acquired.injEq] at refused
      simp only [MemoryResourceBroker.heldOf_acquire _ _ _ _ commit.planId,
        refused.2, Option.isNone_some, Bool.false_eq_true, if_false]

end

/--
After a request was cancelled none of its plans becomes committed, no commit of
one is answered with `ok`, and a commit of one that is decided then leaves
nothing held of what it was granted; a commit that was not granted its claims
had added nothing in the first place.
-/
theorem cancelled_request_is_not_committed
    {config : Config}
    {store : Option (List UInt8)}
    {past later : List CoordinatorStep}
    {cancellation : CoordinatorStep}
    {final : Coordinator}
    {socket : Socket}
    {message : Message}
    (run : ProcessRun config store (past ++ cancellation :: later) final)
    (received : cancellation.event = .receive socket message)
    (kind : message.type = .cancel) :
    (∀ step ∈ later,
      (∀ (planId : CommunicationPlanId) (record : PlanRecord),
        step.after.ledger.plans[planId]? = some record →
        record.plan.requestId = message.requestId →
        record.state = .committed →
        step.before.ledger.plans[planId]? = some record) ∧
      (∀ (planId : CommunicationPlanId) (record : PlanRecord),
        step.before.ledger.plans[planId]? = some record →
        record.plan.requestId = message.requestId →
        confirms step planId = false) ∧
      ∀ (connection : Socket) (commit : Commit),
        step.event = .finish connection →
        step.before.connections[connection]? =
          some (.acquired commit none) →
        (∀ record,
          step.before.ledger.plans[commit.planId]? = some record →
          record.plan.requestId = message.requestId) →
        ∀ resource ∈ commit.resources,
          step.after.ledger.broker.heldOf resource = 0) ∧
    ∀ step ∈ past ++ cancellation :: later,
      ∀ (connection : Socket) (commit : Commit) (error : Text),
        step.event = .acquire connection →
        step.after.connections[connection]? =
          some (.acquired commit (some error)) →
        ∀ resource,
          step.after.ledger.broker.heldOf resource =
            step.before.ledger.broker.heldOf resource := by
  constructor
  · obtain ⟨_, cancelStepped, continued⟩ := run.cut
    rw [received] at cancelStepped
    intro step member
    have stepped := continued.step_of_mem member
    have isCancelled :
        message.requestId ∈ step.before.ledger.cancelled := by
      refine continued.invariant_before
        (fun state => message.requestId ∈ state.ledger.cancelled)
        (mem_cancelled_of_cancel kind cancelStepped) ?_ member
      intro earlier _ earlierStepped known
      exact cancelled_subset_of_step? earlierStepped known
    refine ⟨?_, ?_, ?_⟩
    · intro planId record found named committed
      exact committed_before_of_cancelled stepped isCancelled found named
        committed
    · intro planId record found named
      exact not_confirms_of_cancelled stepped isCancelled found named
    · intro connection commit isFinish busy named resource claimed
      rw [isFinish] at stepped
      refine heldOf_of_undone stepped busy ?_ claimed
      intro record found
      exact undoes_of_cancelled isCancelled (named record found)
  · intro step member connection commit error isAcquire refused resource
    have stepped := run.step_of_mem member
    rw [isAcquire] at stepped
    exact heldOf_of_refused stepped refused resource

/-- The commit of a connection that was granted its claims. -/
def grantedAt (state : Coordinator) (socket : Socket) : Option Commit :=
  match state.connections[socket]? with
  | some (.acquired commit none) => some commit
  | _ => none

theorem connections_of_grantedAt
    {state : Coordinator}
    {socket : Socket}
    {commit : Commit}
    (isGranted : state.grantedAt socket = some commit) :
    state.connections[socket]? = some (.acquired commit none) := by
  unfold grantedAt at isGranted
  split at isGranted
  · rename_i found
    cases isGranted
    exact found
  · cases isGranted

/--
A commit is granted its claim, the request is cancelled, the claim is given
back.
-/
theorem cancelled_commit_gives_claim_back :
    ∃ past cancellation decision final,
      ProcessRun defaultConfig none (past ++ cancellation :: [decision])
        final ∧
      (∃ step ∈ past, grants step ⟨1⟩ ⟨5⟩ = true) ∧
      handlesCommit decision ⟨1⟩ = true ∧
      confirms decision ⟨1⟩ = false ∧
      final.ledger.broker.heldOf ⟨5⟩ = 0 := by
  have checked :
      (replay? (step? defaultConfig) (start none)
        (relayScenario ++
          [ .receive ⟨4⟩ (CoordinatorClient.commitPlan ⟨1⟩),
            .acquire ⟨4⟩ ])).any
        (fun reached =>
          (reached.1.any fun step => grants step ⟨1⟩ ⟨5⟩) &&
          (step? defaultConfig reached.2
            (.receive ⟨6⟩ (CoordinatorClient.cancel ⟨5⟩ ⟨1⟩))).any
            fun cancelled =>
              ((cancelled.1.grantedAt ⟨4⟩).any fun commit =>
                commit.planId = ⟨1⟩ && ⟨5⟩ ∈ commit.resources) &&
              (cancelled.1.ledger.plans[(⟨1⟩ : CommunicationPlanId)]?.any
                fun record => record.plan.requestId = ⟨5⟩) &&
              (step? defaultConfig cancelled.1 (.finish ⟨4⟩)).isSome) =
        true := by
    decide +kernel
  obtain ⟨past, middle, reached, holds⟩ := exists_run_of_replay? checked
  simp only [Bool.and_eq_true, List.any_eq_true, Option.any_eq_true,
    decide_eq_true_eq] at holds
  obtain ⟨isGranted, ⟨cancelled, cancelOutputs⟩, cancelStepped,
    ⟨⟨commit, atSocket, named, claimed⟩, record, found, ofRequest⟩, ends⟩ :=
    holds
  obtain ⟨⟨final, outputs⟩, stepped⟩ := Option.isSome_iff_exists.mp ends
  have busy := connections_of_grantedAt atSocket
  have ofPlan :
      ∀ other, cancelled.ledger.plans[commit.planId]? = some other →
        other.plan.requestId = ⟨5⟩ := by
    intro other known
    rw [named, found] at known
    cases known
    exact ofRequest
  have run :
      ProcessRun defaultConfig none
        (past ++
          ⟨middle, .receive ⟨6⟩ (CoordinatorClient.cancel ⟨5⟩ ⟨1⟩),
            cancelOutputs, cancelled⟩ ::
          [⟨cancelled, .finish ⟨4⟩, outputs, final⟩]) final := by
    simpa using (reached.snoc cancelStepped).snoc stepped
  obtain ⟨_, unconfirmed, givesBack⟩ :=
    (cancelled_request_is_not_committed run rfl rfl).1 _
      (List.mem_singleton.mpr rfl)
  refine ⟨past, _, _, final, run, isGranted, ?_,
    unconfirmed ⟨1⟩ record found ofRequest,
    givesBack ⟨4⟩ commit rfl busy ofPlan ⟨5⟩ claimed⟩
  simp [handlesCommit, busy, named]

end Coordinator

end CommunicationPlanner
