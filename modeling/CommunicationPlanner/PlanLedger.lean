import CommunicationPlanner.EvidenceRegistry
import CommunicationPlanner.Persistence
import CommunicationPlanner.PlanConstruction
import CommunicationPlanner.ResourceBroker
import CommunicationPlanner.Revalidation

namespace CommunicationPlanner

/-!
# The plan side of the coordinator

Of the members of `CoordinatorServer::Impl` the ledger holds those that clients
write: the plan table with the state of every plan, the requests, cancellations
and supersessions, the broker and the counters that identities are drawn from.
The handlers write the state of a plan directly, without consulting the
lifecycle table.
-/

/-- `PlanRecord`: a plan, its state and its executor. -/
structure PlanRecord where
  plan : CommunicationPlan
  state : PlanState := .requested
  worker : WorkerId := ⟨0⟩
  boot : WorkerBootId := ⟨0⟩

/-- A commit between its two critical sections. -/
structure Commit where
  planId : CommunicationPlanId
  resources : List ResourceId
  sizes : List Bytes

/-- The plans, what has become of them, and the counters. -/
structure Ledger where
  broker : MemoryResourceBroker := {}
  plans : Map CommunicationPlanId PlanRecord := ∅
  currentByRequest : Map CommunicationRequestId CommunicationPlanId := ∅
  cancelled : Finset CommunicationRequestId := ∅
  supersessions : List SupersessionRecord := []
  requests : List CommunicationRequest := []
  counters : Counters := {}

namespace Ledger

/-- Write the state of a plan whose record was found. -/
def setState
    (ledger : Ledger)
    (id : CommunicationPlanId)
    (record : PlanRecord)
    (state : PlanState) : Ledger :=
  { ledger with
    plans := ledger.plans.insert id { record with state := state } }

/-- The broker is told to release the resources. -/
def release (ledger : Ledger) (resources : List ResourceId) : Ledger :=
  { ledger with broker := ledger.broker.release resources }

/-- `QUERY_PLAN`: the number of the state travels in the plan's place. -/
def handleQueryPlan (ledger : Ledger) (message : Message) : Message :=
  match ledger.plans[message.planId]? with
  | none => resultMessage false ⟨0⟩
  | some record =>
      resultMessage true ⟨(ByteCodec.code record.state).toUInt64⟩

/-- The record of a new plan, with the executor of its first stage. -/
def newRecord
    (snapshot : EvidenceSnapshot)
    (plan : CommunicationPlan) : PlanRecord :=
  let executor : Option Endpoint := do
    let stage ← plan.orderedStages.head?
    snapshot.endpoints.find? fun endpoint => endpoint.id = stage.source
  match executor with
  | none => { plan := plan, state := .planReady }
  | some endpoint =>
      { plan := plan
        state := .planReady
        worker := endpoint.worker
        boot := endpoint.workerBoot }

/-- Enter a new plan as the current one of its request. -/
def enter
    (ledger : Ledger)
    (snapshot : EvidenceSnapshot)
    (request : CommunicationRequestId)
    (plan : CommunicationPlan) : Ledger :=
  { ledger with
    plans := ledger.plans.insert plan.id (newRecord snapshot plan)
    currentByRequest := ledger.currentByRequest.insert request plan.id }

/-- `SUBMIT_REQUEST`; there is no reply when the planner throws. -/
def handleSubmitRequest
    (ledger : Ledger)
    (snapshot : EvidenceSnapshot)
    (weights : RankingWeights)
    (bounds : Bounds)
    (request : CommunicationRequest) : Ledger × Option Message :=
  if request.id.isNull then
    (ledger, some (errorMessage (ascii "null request")))
  else if request.id ∈ ledger.cancelled then
    (ledger, some (errorMessage (ascii "request already cancelled")))
  else
    let ledger := { ledger with requests := ledger.requests ++ [request] }
    match (planCommunication request snapshot weights bounds).run
        ledger.counters with
    | .error _ => (ledger, none)
    | .ok (outcome, counters) =>
        let ledger := { ledger with counters := counters }
        let reply : Message := { type := .planResult, ok := outcome.success }
        match outcome.success, outcome.plan with
        | true, some plan =>
            (ledger.enter snapshot request.id plan,
              some { reply with plan := plan })
        | _, _ => (ledger, some reply)

/-- The bytes claimed of every resource. -/
def claimSize (plan : CommunicationPlan) : Bytes :=
  match plan.orderedStages with
  | [] => ⟨1024⟩
  | stage :: _ => stage.payload

/-- The first critical section of `handleCommit`. -/
def beginCommit
    (ledger : Ledger)
    (id : CommunicationPlanId) : Except Message (Ledger × Commit) :=
  match ledger.plans[id]? with
  | none => .error (errorMessage (ascii "plan not found"))
  | some record =>
      if record.state ≠ .planReady ∧
          record.state ≠ .awaitingResourceCommit then
        .error (errorMessage (ascii "plan not committable"))
      else if record.plan.requestId ∈ ledger.cancelled then
        .error (errorMessage (ascii "request cancelled"))
      else
        let resources := record.plan.requiredResourceClaims
        .ok
          (ledger.setState id record .awaitingResourceCommit,
            { planId := id
              resources := resources
              sizes := resources.map fun _ => claimSize record.plan })

/-- The second critical section finds that the plan must not be committed. -/
def undoes (ledger : Ledger) (record : PlanRecord) : Bool :=
  record.plan.requestId ∈ ledger.cancelled ||
    record.state ∈ [PlanState.cancelled, .superseded, .retired]

/-- The second critical section; `failure` is the broker's error, if any. -/
def finishCommit
    (ledger : Ledger)
    (socket : Socket)
    (commit : Commit)
    (failure : Option Text) : Ledger × List Action :=
  let givenBack :=
    if failure.isNone then
      (ledger.release commit.resources,
        [Action.release commit.planId commit.resources])
    else
      (ledger, [])
  match ledger.plans[commit.planId]? with
  | none =>
      (givenBack.1,
        givenBack.2 ++
          [.send socket (errorMessage (ascii "plan missing after commit"))])
  | some record =>
      if ledger.undoes record then
        (givenBack.1.setState commit.planId record .cancelled,
          givenBack.2 ++
            [.send socket (errorMessage (ascii "cancelled during commit"))])
      else
        match failure with
        | some error =>
            (ledger.setState commit.planId record .failed,
              [.send socket
                (errorMessage (ascii "resource commit failed: " ++ error))])
        | none =>
            (ledger.setState commit.planId record .committed,
              [.send socket (resultMessage true commit.planId)])

/-- `REVALIDATE`. -/
def handleRevalidate
    (ledger : Ledger)
    (snapshot : EvidenceSnapshot)
    (id : CommunicationPlanId) : Ledger × Message :=
  match ledger.plans[id]? with
  | none => (ledger, resultMessage false id)
  | some record =>
      if (revalidatePlan record.plan snapshot).ok then
        (ledger.setState id record .awaitingExecution, resultMessage true id)
      else
        (ledger.setState id record .revalidationRequired,
          resultMessage false id)

/-- The `EXECUTE` frame for a live executor. -/
def executeFrame
    (registry : Registry)
    (record : PlanRecord) : List Action :=
  if record.worker.isNull then
    []
  else
    match registry.workers[record.worker]? with
    | none => []
    | some info =>
        if info.alive && info.sock ≠ invalidSocket then
          [.send info.sock
            { type := .execute
              planId := record.plan.id
              bytes :=
                match record.plan.orderedStages with
                | [] => 0
                | stage :: _ => stage.payload.count
              worker := record.worker
              boot := record.boot }]
        else
          []

/-- `EXECUTION_HANDOFF`. -/
def handleExecutionHandoff
    (ledger : Ledger)
    (registry : Registry)
    (socket : Socket)
    (id : CommunicationPlanId) : Ledger × List Action :=
  match ledger.plans[id]? with
  | none => (ledger, [.send socket (resultMessage false id)])
  | some record =>
      if (revalidatePlan record.plan registry.snap).ok then
        (ledger.setState id record .active,
          executeFrame registry record ++
            [.send socket (resultMessage true id)])
      else
        (ledger.setState id record .revalidationRequired,
          [.send socket (resultMessage false id)])

/-- `EXECUTION_RESULT`: only an active plan has a result. -/
def handleExecutionResult
    (ledger : Ledger)
    (message : Message) : Ledger × Message :=
  let stale :=
    { resultMessage false message.planId with error := ascii "stale result" }
  match ledger.plans[message.planId]? with
  | none => (ledger, stale)
  | some record =>
      if record.state ≠ .active then
        (ledger, stale)
      else if !message.worker.isNull &&
          (record.worker ≠ message.worker || record.boot ≠ message.boot) then
        (ledger, errorMessage (ascii "stale result authority"))
      else
        (ledger.setState message.planId record
            (if message.ok then .completed else .failed),
          resultMessage true message.planId)

/-- The states in which a cancelled plan's claims are released. -/
def holdsClaims (state : PlanState) : Bool :=
  state ∈ [PlanState.committed, .awaitingExecution, .active,
    .awaitingResourceCommit]

/-- `CANCEL`. -/
def handleCancel
    (ledger : Ledger)
    (socket : Socket)
    (message : Message) : Ledger × List Action :=
  let reply := Action.send socket (resultMessage true message.planId)
  let ledger :=
    { ledger with cancelled := insert message.requestId ledger.cancelled }
  match ledger.plans[message.planId]? with
  | none => (ledger, [reply])
  | some record =>
      let claims := record.plan.requiredResourceClaims
      let released :=
        if holdsClaims record.state then
          (ledger.release claims, [Action.release message.planId claims])
        else
          (ledger, [])
      let closed :=
        if record.state ≠ .completed ∧ record.state ≠ .cancelled then
          released.1.setState message.planId record .cancelled
        else
          released.1
      (closed, released.2 ++ [reply])

/-- The plan that `SUPERSEDE` names is closed and its claims are released. -/
def supersedeNamed
    (ledger : Ledger)
    (id : CommunicationPlanId) : Ledger × List Action :=
  match ledger.plans[id]? with
  | none => (ledger, [])
  | some record =>
      if record.state ≠ .completed ∧ record.state ≠ .cancelled then
        let claims := record.plan.requiredResourceClaims
        ((ledger.setState id record .superseded).release claims,
          [.release id claims])
      else
        (ledger, [])

/-- The current plan of the request, if it is another one, is superseded too. -/
def supersedeOlder
    (ledger : Ledger)
    (request : CommunicationRequestId)
    (id : CommunicationPlanId) : Ledger :=
  match ledger.currentByRequest[request]? with
  | none => ledger
  | some current =>
      if current = id then
        ledger
      else
        match ledger.plans[current]? with
        | none => ledger
        | some record =>
            { ledger.setState current record .superseded with
              supersessions := ledger.supersessions ++ [⟨current, id⟩] }

/-- `SUPERSEDE`. -/
def handleSupersede
    (ledger : Ledger)
    (socket : Socket)
    (message : Message) : Ledger × List Action :=
  let (ledger, released) := ledger.supersedeNamed message.planId
  (ledger.supersedeOlder message.requestId message.planId,
    released ++ [.send socket (resultMessage true message.planId)])

/-- What `SAVE` writes: the plans in the order of their identities. -/
def storeState (ledger : Ledger) (epoch : CoordinatorEpoch) : StoreState :=
  { epoch := epoch
    plans :=
      ledger.plans.toList.map fun (_, record) => ⟨record.plan, record.state⟩
    supersessions := ledger.supersessions
    requests := ledger.requests }

/-- The loop of `loadStoreIfAny` over the recovered records. -/
def adopt (ledger : Ledger) (record : StoreRecord) : Ledger :=
  { ledger with
    plans :=
      ledger.plans.insert record.plan.id
        { plan := record.plan, state := record.state }
    currentByRequest :=
      ledger.currentByRequest.insert record.plan.requestId record.plan.id }

/-- The ledger of a process that recovered a store. -/
def recover (store : StoreState) : Ledger :=
  { store.plans.foldl adopt {} with
    supersessions := store.supersessions
    requests := store.requests }

end Ledger

end CommunicationPlanner
