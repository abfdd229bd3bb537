import CommunicationPlanner.Coordinator
import CommunicationPlanner.PlanOrigin

namespace CommunicationPlanner

open TransitionRun Allocation

/-!
# What one step of the coordinator can do

The results about runs never look into a handler.  They use what is stated
here once: `taken_of_step?` lists the kinds of steps, `registry_of_step?` says
how the registry changes, and `planStep_of_step?` says how the record of one
plan can change and which message writes which state.
-/

/--
A step of the coordinator: the states around it, its event and its actions.
-/
abbrev CoordinatorStep := Step Coordinator Event Action

/-- The plan whose commit keeps a thread busy. -/
def Connection.planId? : Connection → Option CommunicationPlanId
  | .receiving => none
  | .acquiring commit => some commit.planId
  | .acquired commit _ => some commit.planId

namespace Coordinator

variable
  {config : Config}
  {before after : Coordinator}
  {event : Event}
  {actions : List Action}

/-! ## The loop head -/

@[simp] theorem registry_resume
    (state : Coordinator)
    (socket : Socket) :
    (state.resume socket).registry = state.registry := by
  unfold resume
  split
  · split <;> rfl
  · rfl

@[simp] theorem ledger_resume
    (state : Coordinator)
    (socket : Socket) :
    (state.resume socket).ledger = state.ledger := by
  unfold resume
  split
  · split <;> rfl
  · rfl

@[simp] theorem terminated_resume
    (state : Coordinator)
    (socket : Socket) :
    (state.resume socket).terminated = state.terminated := by
  unfold resume
  split
  · split <;> rfl
  · rfl

/-- The commit of a connection, before or after the call of the broker. -/
def commitAt
    (state : Coordinator)
    (socket : Socket) : Option Connection :=
  state.connections[socket]?.filter fun connection =>
    connection.planId?.isSome

/-- A connection whose thread commits is a commit. -/
theorem commitAt_of_connections
    {state : Coordinator}
    {socket : Socket}
    {connection : Connection}
    (found : state.connections[socket]? = some connection)
    (busy : connection.planId?.isSome = true) :
    state.commitAt socket = some connection := by
  simp [commitAt, found, busy]

/-- A connection that is entered is the commit that it carries, if any. -/
theorem commitAt_insert
    (state : Coordinator)
    (socket other : Socket)
    (connection : Connection) :
    ({ state with
        connections :=
          state.connections.insert socket connection } : Coordinator).commitAt
        other =
      if socket = other then
        (some connection).filter fun connection =>
          connection.planId?.isSome
      else
        state.commitAt other := by
  simp only [commitAt, Std.ExtTreeMap.getElem?_insert,
    Std.LawfulEqCmp.compare_eq_iff_eq]
  split <;> rfl

/-- No commit ends with a connection that waits for a message. -/
theorem commitAt_erase
    {state : Coordinator}
    {socket : Socket}
    (idle : state.connections[socket]? = some .receiving)
    (other : Socket) :
    ({ state with
        connections := state.connections.erase socket } : Coordinator).commitAt
        other =
      state.commitAt other := by
  simp only [commitAt, Std.ExtTreeMap.getElem?_erase,
    Std.LawfulEqCmp.compare_eq_iff_eq]
  split_ifs with same
  · subst same
    rw [idle]
    rfl
  · rfl

/-- Leaving the loop is possible only without a commit under way. -/
@[simp] theorem commitAt_resume
    (state : Coordinator)
    (socket other : Socket) :
    (state.resume socket).commitAt other = state.commitAt other := by
  unfold resume
  split
  · rename_i idle
    split
    · exact commitAt_erase idle other
    · rfl
  · rfl

/-- A thread that listens waits for a message. -/
theorem connections_of_listens
    {state : Coordinator}
    {socket : Socket}
    (listening : state.listens socket = true) :
    state.connections[socket]? = some .receiving := by
  unfold listens at listening
  split at listening
  · assumption
  · cases listening

/-- A thread that listens commits nothing. -/
theorem commitAt_of_listens
    {state : Coordinator}
    {socket : Socket}
    (listening : state.listens socket = true) :
    state.commitAt socket = none := by
  simp [commitAt, connections_of_listens listening, Connection.planId?]

/-! ## The kinds of steps -/

/-- The steps that the machine takes, with their guards. -/
inductive Taken
    (config : Config)
    (state : Coordinator) :
    Event → Coordinator → List Action → Prop where
  | accept
      (socket : Socket)
      (fresh : socket ∉ state.connections) :
      Taken config state (.accept socket)
        (({ state with
            connections :=
              state.connections.insert socket .receiving } :
            Coordinator).resume socket)
        [.send socket { type := .hello, epoch := state.epoch }]
  | receive
      (socket : Socket)
      (message : Message)
      (listening : state.listens socket = true) :
      Taken config state (.receive socket message)
        ((handleMessage config state socket message).1.resume socket)
        (handleMessage config state socket message).2
  | undecodable
      (socket : Socket)
      (detail : Text)
      (listening : state.listens socket = true) :
      Taken config state (.undecodable socket detail)
        (state.resume socket)
        [.send socket (errorMessage detail)]
  | acquire
      (socket : Socket)
      (commit : Commit)
      (busy : state.connections[socket]? = some (.acquiring commit)) :
      Taken config state (.acquire socket)
        { state with
          ledger :=
            { state.ledger with
              broker :=
                (state.ledger.broker.acquire commit.resources
                  commit.sizes).1 }
          connections :=
            state.connections.insert socket
              (.acquired commit
                (state.ledger.broker.acquire commit.resources
                  commit.sizes).2) }
        [.acquire commit.planId commit.resources
          (state.ledger.broker.acquire commit.resources
            commit.sizes).2.isNone]
  | finish
      (socket : Socket)
      (commit : Commit)
      (failure : Option Text)
      (busy : state.connections[socket]? = some (.acquired commit failure)) :
      Taken config state (.finish socket)
        (({ state with
            ledger := (state.ledger.finishCommit socket commit failure).1
            connections :=
              state.connections.insert socket .receiving } :
            Coordinator).resume socket)
        (state.ledger.finishCommit socket commit failure).2
  | disconnect
      (socket : Socket)
      (listening : state.listens socket = true) :
      Taken config state (.disconnect socket)
        { state with
          registry := state.registry.disconnect socket
          connections := state.connections.erase socket }
        []
  | saveStore :
      Taken config state .saveStore state.save []

/-- Every step is one of the seven kinds. -/
theorem taken_of_step?
    (stepped : step? config before event = some (after, actions)) :
    Taken config before event after actions := by
  unfold step? at stepped
  split_ifs at stepped with ended
  cases event with
  | accept socket =>
      simp only [accept] at stepped
      split_ifs at stepped with refused
      cases stepped
      exact .accept socket fun known => refused (.inr known)
  | receive socket message =>
      simp only at stepped
      split_ifs at stepped with listening
      cases stepped
      exact .receive socket message listening
  | undecodable socket detail =>
      simp only at stepped
      split_ifs at stepped with listening
      cases stepped
      exact .undecodable socket detail listening
  | acquire socket =>
      simp only [acquire] at stepped
      split at stepped
      · rename_i commit busy
        cases stepped
        exact .acquire socket commit busy
      · cases stepped
  | finish socket =>
      simp only [finish] at stepped
      split at stepped
      · rename_i commit failure busy
        cases stepped
        exact .finish socket commit failure busy
      · cases stepped
  | disconnect socket =>
      simp only at stepped
      split_ifs at stepped with listening
      cases stepped
      exact .disconnect socket listening
  | saveStore =>
      cases stepped
      exact .saveStore

/-- What a received message is answered with is up to its handler. -/
theorem outputs_of_receive
    {socket : Socket}
    {message : Message}
    (stepped :
      step? config before (.receive socket message) = some (after, actions)) :
    actions = (handleMessage config before socket message).2 := by
  cases taken_of_step? stepped with
  | receive _ _ listening =>
      rfl

end Coordinator

/-! ## The registry -/

namespace Registry

/-- What a message does to the registry. -/
def receive
    (registry : Registry)
    (socket : Socket)
    (message : Message) : Registry :=
  match message.type with
  | .register => (registry.handleRegister socket message).1
  | .publishEndpoint => (registry.handlePublishEndpoint message).1
  | .publishLink => (registry.handlePublishLink message).1
  | .publishCapacity => (registry.handlePublishCapacity message).1
  | .publishCongestion => (registry.handlePublishCongestion message).1
  | _ => registry

/-- What an event does to the registry. -/
def next (registry : Registry) : Event → Registry
  | .receive socket message => registry.receive socket message
  | .disconnect socket => registry.disconnect socket
  | _ => registry

end Registry

namespace Coordinator

variable
  {config : Config}
  {before after : Coordinator}
  {event : Event}
  {actions : List Action}

/-- Of the registry a message changes what `Registry.receive` says. -/
theorem registry_handleMessage
    (state : Coordinator)
    (socket : Socket)
    (message : Message) :
    (handleMessage config state socket message).1.registry =
      state.registry.receive socket message := by
  unfold handleMessage Registry.receive
  cases message.type <;> try rfl
  · simp only [submit]
    split <;> rfl
  · simp only [beginCommit]
    split <;> rfl

/-- The registry changes by the event alone. -/
theorem registry_of_step?
    (stepped : step? config before event = some (after, actions)) :
    after.registry = before.registry.next event := by
  cases taken_of_step? stepped with
  | receive socket message listening =>
      rw [registry_resume, registry_handleMessage]
      rfl
  | accept | undecodable | acquire | finish | disconnect | saveStore =>
      simp [Registry.next, save]

end Coordinator

/-! ## The record of one plan -/

namespace Ledger

/-- A plan whose state is set, and the others. -/
@[simp] theorem getElem?_plans_setState
    (ledger : Ledger)
    (id wanted : CommunicationPlanId)
    (record : PlanRecord)
    (state : PlanState) :
    (ledger.setState id record state).plans[wanted]? =
      if id = wanted then
        some { record with state := state }
      else
        ledger.plans[wanted]? := by
  simp only [setState, Std.ExtTreeMap.getElem?_insert,
    Std.LawfulEqCmp.compare_eq_iff_eq]

@[simp] theorem plans_release
    (ledger : Ledger)
    (resources : List ResourceId) :
    (ledger.release resources).plans = ledger.plans :=
  rfl

@[simp] theorem cancelled_setState
    (ledger : Ledger)
    (id : CommunicationPlanId)
    (record : PlanRecord)
    (state : PlanState) :
    (ledger.setState id record state).cancelled = ledger.cancelled :=
  rfl

@[simp] theorem cancelled_release
    (ledger : Ledger)
    (resources : List ResourceId) :
    (ledger.release resources).cancelled = ledger.cancelled :=
  rfl

/-- A commit is begun for a plan that is ready or already being committed. -/
theorem beginCommit_eq_ok
    {ledger begun : Ledger}
    {id : CommunicationPlanId}
    {commit : Commit}
    (ok : ledger.beginCommit id = .ok (begun, commit)) :
    ∃ record,
      ledger.plans[id]? = some record ∧
      (record.state = .planReady ∨
        record.state = .awaitingResourceCommit) ∧
      record.plan.requestId ∉ ledger.cancelled ∧
      begun = ledger.setState id record .awaitingResourceCommit ∧
      commit =
        { planId := id
          resources := record.plan.requiredResourceClaims
          sizes :=
            record.plan.requiredResourceClaims.map fun _ =>
              claimSize record.plan } := by
  unfold beginCommit at ok
  split at ok
  · cases ok
  · rename_i record found
    split_ifs at ok with notReady withdrawn
    cases ok
    exact ⟨record, found, by tauto, withdrawn, rfl, rfl⟩

/-- The planner succeeds on the request with the plan. -/
def Produces
    (ledger : Ledger)
    (snapshot : EvidenceSnapshot)
    (config : Config)
    (request : CommunicationRequest)
    (plan : CommunicationPlan) : Prop :=
  ∃ outcome counters,
    (planCommunication request snapshot config.weights config.bounds).run
        ledger.counters = .ok (outcome, counters) ∧
      outcome.success = true ∧
      outcome.plan = some plan

/-- The request is accepted, and the planner succeeds on it. -/
def isPlanned
    (ledger : Ledger)
    (snapshot : EvidenceSnapshot)
    (config : Config)
    (request : CommunicationRequest) : Bool :=
  !request.id.isNull && request.id ∉ ledger.cancelled &&
    match (planCommunication request snapshot config.weights
        config.bounds).run ledger.counters with
    | .error _ => false
    | .ok (outcome, _) => outcome.success

/-- A request that produces a plan, if it is accepted, is planned. -/
theorem Produces.isPlanned
    {ledger : Ledger}
    {snapshot : EvidenceSnapshot}
    {config : Config}
    {request : CommunicationRequest}
    {plan : CommunicationPlan}
    (produced : ledger.Produces snapshot config request plan)
    (named : request.id.isNull = false)
    (open_ : request.id ∉ ledger.cancelled) :
    ledger.isPlanned snapshot config request = true := by
  obtain ⟨outcome, counters, ran, success, _⟩ := produced
  simp [Ledger.isPlanned, named, open_, ran, success]

/-- A new plan has the identity that the counter stands at. -/
theorem Produces.id
    {ledger : Ledger}
    {snapshot : EvidenceSnapshot}
    {config : Config}
    {request : CommunicationRequest}
    {plan : CommunicationPlan}
    (produced : ledger.Produces snapshot config request plan) :
    plan.id = ⟨ledger.counters.plan⟩ := by
  obtain ⟨outcome, counters, ran, _, returned⟩ := produced
  exact (numbered_of_planCommunication ran).id plan returned

/-- A new plan has the generation that the counter stands at. -/
theorem Produces.generation
    {ledger : Ledger}
    {snapshot : EvidenceSnapshot}
    {config : Config}
    {request : CommunicationRequest}
    {plan : CommunicationPlan}
    (produced : ledger.Produces snapshot config request plan) :
    plan.generation = ⟨ledger.counters.planGeneration⟩ := by
  obtain ⟨outcome, counters, ran, _, returned⟩ := produced
  exact (numbered_of_planCommunication ran).generation plan returned

/-- A new plan is one that the planner makes. -/
theorem Produces.planned
    {ledger : Ledger}
    {snapshot : EvidenceSnapshot}
    {config : Config}
    {request : CommunicationRequest}
    {plan : CommunicationPlan}
    (produced : ledger.Produces snapshot config request plan) :
    Planned request snapshot config.weights config.bounds plan := by
  obtain ⟨outcome, counters, ran, success, returned⟩ := produced
  exact ensures_planCommunication _ _ _ ran success plan returned

@[simp] theorem plan_newRecord
    (snapshot : EvidenceSnapshot)
    (plan : CommunicationPlan) :
    (newRecord snapshot plan).plan = plan := by
  unfold newRecord
  simp only
  split <;> rfl

@[simp] theorem state_newRecord
    (snapshot : EvidenceSnapshot)
    (plan : CommunicationPlan) :
    (newRecord snapshot plan).state = .planReady := by
  unfold newRecord
  simp only
  split <;> rfl

/-- What `SUBMIT_REQUEST` leaves alone. -/
theorem handleSubmitRequest_frame
    (ledger : Ledger)
    (snapshot : EvidenceSnapshot)
    (weights : RankingWeights)
    (bounds : Bounds)
    (request : CommunicationRequest) :
    let handled :=
      ledger.handleSubmitRequest snapshot weights bounds request
    handled.1.cancelled = ledger.cancelled ∧
      handled.1.broker = ledger.broker ∧
      handled.1.supersessions = ledger.supersessions := by
  unfold handleSubmitRequest
  simp only
  split_ifs
  · exact ⟨rfl, rfl, rfl⟩
  · exact ⟨rfl, rfl, rfl⟩
  · split
    · exact ⟨rfl, rfl, rfl⟩
    · split <;> exact ⟨rfl, rfl, rfl⟩

/-- A plan is entered, and reported, exactly when the planner succeeds with it. -/
theorem handleSubmitRequest_cases
    (ledger : Ledger)
    (snapshot : EvidenceSnapshot)
    (config : Config)
    (request : CommunicationRequest) :
    let handled :=
      ledger.handleSubmitRequest snapshot config.weights config.bounds
        request
    (handled.1.plans = ledger.plans ∧
      ∀ reply, handled.2 = some reply → reply.ok = false) ∨
    ∃ plan,
      ledger.Produces snapshot config request plan ∧
        request.id.isNull = false ∧
        request.id ∉ ledger.cancelled ∧
        handled.1.plans =
          ledger.plans.insert plan.id (newRecord snapshot plan) ∧
        handled.2 =
          some { type := .planResult, ok := true, plan := plan } := by
  unfold handleSubmitRequest
  simp only
  split_ifs with null withdrawn
  · refine .inl ⟨rfl, ?_⟩
    rintro reply ⟨⟩
    rfl
  · refine .inl ⟨rfl, ?_⟩
    rintro reply ⟨⟩
    rfl
  · split
    · refine .inl ⟨rfl, ?_⟩
      rintro reply ⟨⟩
    · rename_i outcome counters ran
      split
      · rename_i plan success returned
        refine .inr ⟨plan, ⟨outcome, counters, ran, success, returned⟩,
          Bool.not_eq_true _ ▸ null, withdrawn, rfl, ?_⟩
        rw [success]
      · rename_i notPlanned
        refine .inl ⟨rfl, ?_⟩
        rintro reply ⟨⟩
        by_contra succeeded
        have success : outcome.success = true := by simpa using succeeded
        obtain ⟨plan, returned⟩ := Option.isSome_iff_exists.mp
          ((numbered_of_planCommunication ran).present success)
        exact notPlanned plan success returned

end Ledger

namespace Coordinator

variable
  {config : Config}
  {before after : Coordinator}
  {event : Event}
  {actions : List Action}
  {planId : CommunicationPlanId}

/--
Which event writes which state into the record of a plan, and when.  Of the
guards only those of the source are here: `REVALIDATE` and `EXECUTION_HANDOFF`
look at no state at all.
-/
inductive Writes
    (state : Coordinator)
    (planId : CommunicationPlanId)
    (record : PlanRecord) :
    Event → PlanState → Prop where
  | beginCommit
      (socket : Socket)
      (message : Message)
      (kind : message.type = .commitRequest)
      (named : message.planId = planId)
      (committable :
        record.state = .planReady ∨
          record.state = .awaitingResourceCommit)
      (open_ : record.plan.requestId ∉ state.ledger.cancelled) :
      Writes state planId record (.receive socket message)
        .awaitingResourceCommit
  | undo
      (socket : Socket)
      (commit : Commit)
      (failure : Option Text)
      (busy : state.connections[socket]? = some (.acquired commit failure))
      (named : commit.planId = planId)
      (undone : state.ledger.undoes record = true) :
      Writes state planId record (.finish socket) .cancelled
  | refuse
      (socket : Socket)
      (commit : Commit)
      (error : Text)
      (busy :
        state.connections[socket]? = some (.acquired commit (some error)))
      (named : commit.planId = planId)
      (kept : state.ledger.undoes record = false) :
      Writes state planId record (.finish socket) .failed
  | commit
      (socket : Socket)
      (commit : Commit)
      (busy : state.connections[socket]? = some (.acquired commit none))
      (named : commit.planId = planId)
      (kept : state.ledger.undoes record = false) :
      Writes state planId record (.finish socket) .committed
  | revalidate
      (socket : Socket)
      (message : Message)
      (kind : message.type = .revalidate)
      (named : message.planId = planId)
      (passed :
        (revalidatePlan record.plan state.registry.snap).ok = true) :
      Writes state planId record (.receive socket message)
        .awaitingExecution
  | failRevalidation
      (socket : Socket)
      (message : Message)
      (kind :
        message.type = .revalidate ∨ message.type = .executionHandoff)
      (named : message.planId = planId)
      (failed :
        (revalidatePlan record.plan state.registry.snap).ok = false) :
      Writes state planId record (.receive socket message)
        .revalidationRequired
  | handoff
      (socket : Socket)
      (message : Message)
      (kind : message.type = .executionHandoff)
      (named : message.planId = planId)
      (passed :
        (revalidatePlan record.plan state.registry.snap).ok = true) :
      Writes state planId record (.receive socket message) .active
  | result
      (socket : Socket)
      (message : Message)
      (kind : message.type = .executionResult)
      (named : message.planId = planId)
      (active : record.state = .active) :
      Writes state planId record (.receive socket message)
        (if message.ok then .completed else .failed)
  | cancel
      (socket : Socket)
      (message : Message)
      (kind : message.type = .cancel)
      (named : message.planId = planId)
      (unfinished :
        record.state ≠ .completed ∧ record.state ≠ .cancelled) :
      Writes state planId record (.receive socket message) .cancelled
  | supersede
      (socket : Socket)
      (message : Message)
      (kind : message.type = .supersede)
      (named : message.planId = planId)
      (unfinished :
        record.state ≠ .completed ∧ record.state ≠ .cancelled) :
      Writes state planId record (.receive socket message) .superseded
  | supersedeOlder
      (socket : Socket)
      (message : Message)
      (kind : message.type = .supersede)
      (current :
        state.ledger.currentByRequest[message.requestId]? = some planId)
      (other : message.planId ≠ planId) :
      Writes state planId record (.receive socket message) .superseded

/-- The identity that the event gives to a new plan, if it enters one. -/
def drawn?
    (config : Config)
    (state : Coordinator) : Event → Option CommunicationPlanId
  | .receive _ message =>
      if message.type = .submitRequest &&
          state.ledger.isPlanned state.registry.snap config
            message.request then
        some ⟨state.ledger.counters.plan⟩
      else
        none
  | _ => none

/-- What a step leaves in the table under one identity. -/
inductive PlanStep
    (config : Config)
    (state : Coordinator)
    (planId : CommunicationPlanId)
    (event : Event) : Option PlanRecord → Prop where
  | same :
      PlanStep config state planId event state.ledger.plans[planId]?
  | written
      (record : PlanRecord)
      (new : PlanState)
      (found : state.ledger.plans[planId]? = some record)
      (writes : Writes state planId record event new) :
      PlanStep config state planId event
        (some { record with state := new })
  | entered
      (socket : Socket)
      (message : Message)
      (plan : CommunicationPlan)
      (received : event = .receive socket message)
      (kind : message.type = .submitRequest)
      (produced :
        state.ledger.Produces state.registry.snap config message.request
          plan)
      (open_ : message.request.id ∉ state.ledger.cancelled)
      (named : plan.id = planId)
      (drawn : state.drawn? config event = some planId) :
      PlanStep config state planId event
        (some (Ledger.newRecord state.registry.snap plan))

/-- Writing the state of one record. -/
theorem planStep_of_setState
    {id : CommunicationPlanId}
    {record : PlanRecord}
    {new : PlanState}
    {ledger : Ledger}
    (samePlans : ledger.plans = before.ledger.plans)
    (found : before.ledger.plans[id]? = some record)
    (writes : id = planId → Writes before planId record event new) :
    PlanStep config before planId event
      (ledger.setState id record new).plans[planId]? := by
  rw [Ledger.getElem?_plans_setState]
  split_ifs with same
  · subst same
    exact .written record new found (writes rfl)
  · rw [samePlans]
    exact .same

/--
Whether a submission is answered or ends the process, the ledger is the
handler's.
-/
theorem ledger_submit
    (state : Coordinator)
    (socket : Socket)
    (message : Message) :
    (submit config state socket message).1.ledger =
      (state.ledger.handleSubmitRequest state.registry.snap config.weights
        config.bounds message.request).1 := by
  unfold submit
  split <;> rename_i handled <;> rw [handled]

/-- What the ledger answers, if it answers, is sent. -/
theorem outputs_submit
    (state : Coordinator)
    (socket : Socket)
    (message : Message) :
    (submit config state socket message).2 =
      ((state.ledger.handleSubmitRequest state.registry.snap config.weights
        config.bounds message.request).2.map (.send socket)).toList := by
  unfold submit
  split <;> rename_i handled <;> rw [handled] <;> rfl

/-- A submission enters a plan, or leaves the table alone. -/
private theorem planStep_submit
    {socket : Socket}
    {message : Message}
    (kind : message.type = .submitRequest) :
    PlanStep config before planId (.receive socket message)
      (submit config before socket message).1.ledger.plans[planId]? := by
  rw [ledger_submit]
  rcases before.ledger.handleSubmitRequest_cases before.registry.snap config
    message.request with
    ⟨same, _⟩ | ⟨plan, produced, notNull, open_, entered, _⟩
  · rw [same]
    exact .same
  · rw [entered, Std.ExtTreeMap.getElem?_insert]
    simp only [Std.LawfulEqCmp.compare_eq_iff_eq]
    split_ifs with named
    · refine .entered socket message plan rfl kind produced open_ named ?_
      simp [drawn?, kind, produced.isPlanned notNull open_, ← named,
        produced.id]
    · exact .same

/-- The first critical section writes the plan that it names. -/
private theorem planStep_beginCommit
    {socket : Socket}
    {message : Message}
    (kind : message.type = .commitRequest) :
    PlanStep config before planId (.receive socket message)
      (before.beginCommit socket message).1.ledger.plans[planId]? := by
  unfold beginCommit
  split
  · exact .same
  · rename_i ledger commit begun
    obtain ⟨record, found, committable, open_, rfl, _⟩ :=
      Ledger.beginCommit_eq_ok begun
    refine planStep_of_setState rfl found ?_
    intro named
    exact .beginCommit socket message kind named committable open_

/-- The second critical section writes the plan of its commit. -/
private theorem planStep_finishCommit
    {socket : Socket}
    {commit : Commit}
    {failure : Option Text}
    (busy :
      before.connections[socket]? = some (.acquired commit failure)) :
    PlanStep config before planId (.finish socket)
      (before.ledger.finishCommit socket commit failure).1.plans[planId]? := by
  unfold Ledger.finishCommit
  simp only
  split
  · split <;> exact .same
  · rename_i record found
    split_ifs with undone given
    · refine planStep_of_setState rfl found ?_
      intro named
      exact .undo socket commit failure busy named undone
    · refine planStep_of_setState rfl found ?_
      intro named
      exact .undo socket commit failure busy named undone
    · have kept : before.ledger.undoes record = false := by simpa using undone
      cases failure with
      | some error =>
          refine planStep_of_setState rfl found ?_
          intro named
          exact .refuse socket commit error busy named kept
      | none =>
          refine planStep_of_setState rfl found ?_
          intro named
          exact .commit socket commit busy named kept

/-- A revalidation writes the plan that it names. -/
private theorem planStep_revalidate
    {socket : Socket}
    {message : Message}
    (kind : message.type = .revalidate) :
    PlanStep config before planId (.receive socket message)
      (before.ledger.handleRevalidate before.registry.snap
        message.planId).1.plans[planId]? := by
  unfold Ledger.handleRevalidate
  split
  · exact .same
  · rename_i record found
    split_ifs with passed
    · refine planStep_of_setState rfl found ?_
      intro named
      exact .revalidate socket message kind named passed
    · refine planStep_of_setState rfl found ?_
      intro named
      exact .failRevalidation socket message (.inl kind) named
        (by simpa using passed)

/-- A handoff writes the plan that it names. -/
private theorem planStep_handoff
    {socket : Socket}
    {message : Message}
    (kind : message.type = .executionHandoff) :
    PlanStep config before planId (.receive socket message)
      (before.ledger.handleExecutionHandoff before.registry socket
        message.planId).1.plans[planId]? := by
  unfold Ledger.handleExecutionHandoff
  split
  · exact .same
  · rename_i record found
    split_ifs with passed
    · refine planStep_of_setState rfl found ?_
      intro named
      exact .handoff socket message kind named passed
    · refine planStep_of_setState rfl found ?_
      intro named
      exact .failRevalidation socket message (.inr kind) named
        (by simpa using passed)

/-- A result writes the plan that it names. -/
private theorem planStep_result
    {socket : Socket}
    {message : Message}
    (kind : message.type = .executionResult) :
    PlanStep config before planId (.receive socket message)
      (before.ledger.handleExecutionResult message).1.plans[planId]? := by
  unfold Ledger.handleExecutionResult
  simp only
  split
  · exact .same
  · rename_i record found
    split
    · exact .same
    · rename_i active
      split
      · exact .same
      · refine planStep_of_setState rfl found ?_
        intro named
        exact .result socket message kind named (by simpa using active)

/-- A cancellation writes the plan that it names. -/
private theorem planStep_cancel
    {socket : Socket}
    {message : Message}
    (kind : message.type = .cancel) :
    PlanStep config before planId (.receive socket message)
      (before.ledger.handleCancel socket message).1.plans[planId]? := by
  unfold Ledger.handleCancel
  simp only
  split
  · exact .same
  · rename_i record found
    split_ifs with unfinished holding holding
    · refine planStep_of_setState rfl found ?_
      intro named
      exact .cancel socket message kind named unfinished
    · refine planStep_of_setState rfl found ?_
      intro named
      exact .cancel socket message kind named unfinished
    · exact .same
    · exact .same

/-- The state that `SUPERSEDE` writes into the plan it names. -/
theorem plans_supersedeNamed
    (ledger : Ledger)
    (id : CommunicationPlanId) :
    (ledger.supersedeNamed id).1.plans = ledger.plans ∨
    ∃ record,
      ledger.plans[id]? = some record ∧
      (record.state ≠ .completed ∧ record.state ≠ .cancelled) ∧
      (ledger.supersedeNamed id).1.plans =
        (ledger.setState id record .superseded).plans := by
  unfold Ledger.supersedeNamed
  split
  · exact .inl rfl
  · rename_i record found
    split_ifs with unfinished
    · exact .inr ⟨record, found, unfinished, rfl⟩
    · exact .inl rfl

/--
A supersession writes the plan that it names and an older one, which is another,
so that the two writes do not meet.
-/
private theorem planStep_supersede
    {socket : Socket}
    {message : Message}
    (kind : message.type = .supersede) :
    PlanStep config before planId (.receive socket message)
      (before.ledger.handleSupersede socket message).1.plans[planId]? := by
  have named :
      PlanStep config before planId (.receive socket message)
        (before.ledger.supersedeNamed message.planId).1.plans[planId]? := by
    rcases plans_supersedeNamed before.ledger message.planId with
      same | ⟨record, found, unfinished, written⟩
    · rw [same]
      exact .same
    · rw [written]
      refine planStep_of_setState rfl found ?_
      intro named
      exact .supersede socket message kind named unfinished
  have others :
      message.planId ≠ planId →
      (before.ledger.supersedeNamed message.planId).1.plans[planId]? =
        before.ledger.plans[planId]? := by
    intro other
    rcases plans_supersedeNamed before.ledger message.planId with
      same | ⟨record, found, unfinished, written⟩
    · rw [same]
    · rw [written, Ledger.getElem?_plans_setState, if_neg other]
  have currentSame :
      (before.ledger.supersedeNamed message.planId).1.currentByRequest =
        before.ledger.currentByRequest := by
    unfold Ledger.supersedeNamed
    split
    · rfl
    · split <;> rfl
  simp only [Ledger.handleSupersede, Ledger.supersedeOlder, currentSame]
  split
  · exact named
  · rename_i current isCurrent
    split_ifs with sameId
    · exact named
    · split
      · exact named
      · rename_i record found
        simp only [Ledger.getElem?_plans_setState]
        split_ifs with isPlan
        · subst isPlan
          rw [others (Ne.symm sameId)] at found
          exact .written record .superseded found
            (.supersedeOlder socket message kind isCurrent (Ne.symm sameId))
        · exact named

/-- How a step can change the record of a plan. -/
theorem planStep_of_step?
    (stepped : step? config before event = some (after, actions)) :
    PlanStep config before planId event after.ledger.plans[planId]? := by
  cases taken_of_step? stepped with
  | receive socket message listening =>
      rw [ledger_resume]
      unfold handleMessage
      cases kind : message.type with
      | submitRequest => exact planStep_submit kind
      | commitRequest => exact planStep_beginCommit kind
      | revalidate => exact planStep_revalidate kind
      | executionHandoff => exact planStep_handoff kind
      | executionResult => exact planStep_result kind
      | cancel => exact planStep_cancel kind
      | supersede => exact planStep_supersede kind
      | _ => exact .same
  | finish socket commit failure busy =>
      rw [ledger_resume]
      exact planStep_finishCommit busy
  | accept | undecodable =>
      rw [ledger_resume]
      exact .same
  | acquire | disconnect | saveStore =>
      exact .same

/-- A plan stays in the table as it is, unless its identity is drawn again. -/
theorem record_of_step?
    {record : PlanRecord}
    (stepped : step? config before event = some (after, actions))
    (found : before.ledger.plans[planId]? = some record)
    (undrawn : before.drawn? config event ≠ some planId) :
    ∃ changed,
      after.ledger.plans[planId]? = some changed ∧
      changed.plan = record.plan := by
  have change : PlanStep config before planId event
      after.ledger.plans[planId]? := planStep_of_step? stepped
  generalize after.ledger.plans[planId]? = result at change
  cases change with
  | same =>
      exact ⟨record, found, rfl⟩
  | written old new known writes =>
      rw [found] at known
      cases known
      exact ⟨_, rfl, rfl⟩
  | entered socket message plan received kind produced open_ named drawn =>
      exact (undrawn drawn).elim

/-! ## Cancellations, supersessions and the broker -/

/-- Replacing the older plan leaves the cancellations and the broker alone. -/
theorem supersedeOlder_frame
    (ledger : Ledger)
    (request : CommunicationRequestId)
    (id : CommunicationPlanId) :
    (ledger.supersedeOlder request id).cancelled = ledger.cancelled ∧
      (ledger.supersedeOlder request id).broker = ledger.broker := by
  unfold Ledger.supersedeOlder
  split
  · exact ⟨rfl, rfl⟩
  · split
    · exact ⟨rfl, rfl⟩
    · split <;> exact ⟨rfl, rfl⟩

/-- Of all messages only `CANCEL` and `SUPERSEDE` touch any of these. -/
theorem ledger_frame_handleMessage
    {socket : Socket}
    {message : Message}
    (notCancel : message.type ≠ .cancel)
    (notSupersede : message.type ≠ .supersede) :
    let ledger := (handleMessage config before socket message).1.ledger
    ledger.cancelled = before.ledger.cancelled ∧
      ledger.broker = before.ledger.broker ∧
      ledger.supersessions = before.ledger.supersessions := by
  unfold handleMessage
  cases kind : message.type with
  | cancel => exact (notCancel kind).elim
  | supersede => exact (notSupersede kind).elim
  | submitRequest =>
      have frame :=
        before.ledger.handleSubmitRequest_frame before.registry.snap
          config.weights config.bounds message.request
      simp only [ledger_submit]
      exact frame
  | commitRequest =>
      simp only [beginCommit]
      split
      · exact ⟨rfl, rfl, rfl⟩
      · rename_i ledger commit begun
        obtain ⟨record, _, _, _, rfl, _⟩ := Ledger.beginCommit_eq_ok begun
        exact ⟨rfl, rfl, rfl⟩
  | revalidate =>
      simp only [withLedger, Ledger.handleRevalidate]
      split
      · exact ⟨rfl, rfl, rfl⟩
      · split <;> exact ⟨rfl, rfl, rfl⟩
  | executionHandoff =>
      simp only [withLedger, Ledger.handleExecutionHandoff]
      split
      · exact ⟨rfl, rfl, rfl⟩
      · split <;> exact ⟨rfl, rfl, rfl⟩
  | executionResult =>
      simp only [withLedger, Ledger.handleExecutionResult]
      split
      · exact ⟨rfl, rfl, rfl⟩
      · split
        · exact ⟨rfl, rfl, rfl⟩
        · split <;> exact ⟨rfl, rfl, rfl⟩
  | _ => exact ⟨rfl, rfl, rfl⟩

/-- A request that was cancelled stays cancelled. -/
theorem cancelled_subset_of_step?
    (stepped : step? config before event = some (after, actions)) :
    before.ledger.cancelled ⊆ after.ledger.cancelled := by
  cases taken_of_step? stepped with
  | receive socket message listening =>
      rw [ledger_resume]
      by_cases cancels : message.type = .cancel
      · simp only [handleMessage, cancels, withLedger, Ledger.handleCancel]
        split
        · exact Finset.subset_insert _ _
        · split <;> split <;> exact Finset.subset_insert _ _
      by_cases supersedes : message.type = .supersede
      · have named :
            (before.ledger.supersedeNamed message.planId).1.cancelled =
              before.ledger.cancelled := by
          unfold Ledger.supersedeNamed
          split
          · rfl
          · split <;> rfl
        simp only [handleMessage, supersedes, withLedger,
          Ledger.handleSupersede, (supersedeOlder_frame _ _ _).1]
        exact named.ge
      · exact (ledger_frame_handleMessage cancels supersedes).1.ge
  | finish socket commit failure busy =>
      rw [ledger_resume]
      simp only [Ledger.finishCommit]
      split
      · split <;> exact subset_rfl
      · split
        · split <;> exact subset_rfl
        · split <;> exact subset_rfl
  | accept | undecodable =>
      rw [ledger_resume]
  | acquire | disconnect | saveStore =>
      exact subset_rfl

end Coordinator

end CommunicationPlanner
