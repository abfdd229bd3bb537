import CommunicationPlanner.CoordinatorActions
import CommunicationPlanner.Lifecycle

namespace CommunicationPlanner

open OrderedCollections TransitionRun

/-!
# What is observed of a process

The vocabulary in which properties of runs are stated: the state of a plan, the
frames and broker calls of a step on behalf of a plan, and the facts about a
process that has just started.
-/

namespace Coordinator

/-- The state of a plan in the table. -/
def planState?
    (state : Coordinator)
    (planId : CommunicationPlanId) : Option PlanState :=
  state.ledger.plans[planId]?.map fun record => record.state

/-- The step sends an `EXECUTE` frame for the plan. -/
def executes (step : CoordinatorStep) (planId : CommunicationPlanId) : Bool :=
  step.outputs.any fun action => action.executes planId

/-- The broker grants the claims of a commit of the plan. -/
def acquires (step : CoordinatorStep) (planId : CommunicationPlanId) : Bool :=
  step.outputs.any fun
    | .acquire id _ granted => id = planId && granted
    | _ => false

/-- Claims of the plan are released. -/
def releases (step : CoordinatorStep) (planId : CommunicationPlanId) : Bool :=
  step.outputs.any fun
    | .release id _ => id = planId
    | _ => false

/-- A commit of the plan is answered with success. -/
def commits (step : CoordinatorStep) (planId : CommunicationPlanId) : Bool :=
  match step.event with
  | .finish socket =>
      step.outputs.any fun
        | .send answered message =>
            answered = socket && message.type = .commitResult &&
              message.ok && message.planId = planId
        | _ => false
  | _ => false

/-- A submitted request is answered with a plan. -/
def submits
    (step : CoordinatorStep)
    (request : CommunicationRequest)
    (plan : CommunicationPlan) : Prop :=
  ∃ socket message,
    step.event = .receive socket message ∧
    message.type = .submitRequest ∧
    message.request = request ∧
    .send socket { type := .planResult, ok := true, plan := plan } ∈
      step.outputs

/-- The event enters no plan under an identity that is in the table already. -/
def drawsNew
    (config : Config)
    (state : Coordinator)
    (event : Event) : Bool :=
  (state.drawn? config event).all fun planId =>
    (state.planState? planId).isNone

section

variable
  {config : Config}
  {planId : CommunicationPlanId}

/-- Only a submission draws an identity. -/
theorem submission_of_drawn
    {state : Coordinator}
    {event : Event}
    (drawn : state.drawn? config event = some planId) :
    ∃ socket message,
      event = .receive socket message ∧
      message.type = .submitRequest ∧
      planId = ⟨state.ledger.counters.plan⟩ := by
  unfold drawn? at drawn
  split at drawn
  · rename_i socket message
    split_ifs at drawn with planned
    cases drawn
    rw [Bool.and_eq_true, decide_eq_true_eq] at planned
    exact ⟨socket, message, rfl, planned.1, rfl⟩
  · cases drawn

/-- Where only new identities are drawn, those in the table are not. -/
theorem undrawn_of_drawsNew
    {state : Coordinator}
    {event : Event}
    (new : state.drawsNew config event = true)
    (present : (state.planState? planId).isSome = true) :
    state.drawn? config event ≠ some planId := by
  intro drawn
  simp only [drawsNew, drawn, Option.all_some] at new
  rw [Option.isNone_iff_eq_none.mp new] at present
  cases present

/-- An `EXECUTE` frame comes from a handoff that passed revalidation. -/
theorem handoff_of_executes
    (step : CoordinatorStep)
    (stepped :
      step? config step.before step.event = some (step.after, step.outputs))
    (executed : executes step planId = true) :
    ∃ socket message record,
      step.event = .receive socket message ∧
      message.type = .executionHandoff ∧
      step.before.ledger.plans[message.planId]? = some record ∧
      (revalidatePlan record.plan step.before.registry.snap).ok = true ∧
      record.plan.id = planId := by
  obtain ⟨action, member, isExecute⟩ := List.any_eq_true.mp executed
  have emitted := emits_of_step? stepped action member
  generalize step.event = event at emitted ⊢
  cases emitted with
  | reply event socket message quiet =>
      simp [Action.executes, quiet] at isExecute
  | execute socket message record info frame kind found passed executor
      alive named authority =>
      simp only [Action.executes, named, Bool.and_eq_true,
        decide_eq_true_eq] at isExecute
      exact ⟨socket, message, record, rfl, kind, found, passed,
        isExecute.2⟩
  | acquire | cancel | supersede | undo =>
      simp [Action.executes] at isExecute

/-- The broker grants claims only to a commit that waits for it. -/
theorem acquiring_of_acquires
    (step : CoordinatorStep)
    (stepped :
      step? config step.before step.event = some (step.after, step.outputs))
    (acquired : acquires step planId = true) :
    ∃ socket commit,
      step.event = .acquire socket ∧
      step.before.connections[socket]? = some (.acquiring commit) ∧
      commit.planId = planId := by
  obtain ⟨action, member, isAcquire⟩ := List.any_eq_true.mp acquired
  have emitted := emits_of_step? stepped action member
  generalize step.event = event at emitted ⊢
  cases emitted with
  | acquire socket commit busy =>
      simp only [Bool.and_eq_true, decide_eq_true_eq] at isAcquire
      exact ⟨socket, commit, rfl, busy, isAcquire.1⟩
  | reply | execute | cancel | supersede | undo =>
      simp at isAcquire

/-- A successful answer to a commit means that the plan was committed. -/
theorem committed_of_commits
    (step : CoordinatorStep)
    (stepped :
      step? config step.before step.event = some (step.after, step.outputs))
    (committed : commits step planId = true) :
    ∃ socket commit record,
      step.event = .finish socket ∧
      step.before.connections[socket]? = some (.acquired commit none) ∧
      commit.planId = planId ∧
      step.before.ledger.plans[planId]? = some record ∧
      step.before.ledger.undoes record = false := by
  have taken := taken_of_step? stepped
  unfold commits at committed
  generalize step.event = event at committed taken ⊢
  generalize step.after = after at taken
  generalize step.outputs = outputs at committed taken
  cases taken with
  | accept | receive | undecodable | acquire | disconnect | saveStore =>
      simp at committed
  | finish socket commit failure busy =>
      unfold Ledger.finishCommit at committed
      simp only at committed
      split at committed
      · split_ifs at committed <;> simp [errorMessage] at committed
      · rename_i record found
        split at committed
        · split_ifs at committed <;> simp [errorMessage] at committed
        · rename_i kept
          cases failure with
          | some error =>
              simp [errorMessage] at committed
          | none =>
              have named : commit.planId = planId := by
                simpa [resultMessage] using committed
              subst named
              exact ⟨socket, commit, record, rfl, busy, rfl, found,
                by simpa using kept⟩

/-- A plan is the answer to a request only if the planner produced it. -/
theorem produced_of_submits
    (step : CoordinatorStep)
    (stepped :
      step? config step.before step.event = some (step.after, step.outputs))
    {request : CommunicationRequest}
    {plan : CommunicationPlan}
    (submitted : submits step request plan) :
    step.before.ledger.Produces step.before.registry.snap config request
        plan ∧
      step.after.ledger.plans =
        step.before.ledger.plans.insert plan.id
          (Ledger.newRecord step.before.registry.snap plan) := by
  obtain ⟨socket, message, received, kind, rfl, answered⟩ := submitted
  have taken := taken_of_step? stepped
  rw [received] at taken
  generalize step.after = after at taken ⊢
  generalize step.outputs = outputs at taken answered
  cases taken with
  | receive _ _ listening =>
      rw [ledger_resume]
      simp only [handleMessage, kind, ledger_submit, outputs_submit,
        Option.mem_toList, Option.map_eq_some_iff] at answered ⊢
      obtain ⟨sent, replied, same⟩ := answered
      cases same
      rcases step.before.ledger.handleSubmitRequest_cases
          step.before.registry.snap config message.request with
        ⟨_, refused⟩ | ⟨entered, produced, _, _, table, reply⟩
      · cases refused _ replied
      · rw [replied] at reply
        cases reply
        exact ⟨produced, table⟩

/-- A submission leaves the table as it is, or is answered with a new plan. -/
theorem submission_cases
    {before after : Coordinator}
    {actions : List Action}
    {socket : Socket}
    {message : Message}
    (stepped :
      step? config before (.receive socket message) = some (after, actions))
    (kind : message.type = .submitRequest) :
    after.ledger.plans = before.ledger.plans ∨
    ∃ plan,
      submits ⟨before, .receive socket message, actions, after⟩
        message.request plan ∧
      after.ledger.plans =
        before.ledger.plans.insert plan.id
          (Ledger.newRecord before.registry.snap plan) := by
  cases taken_of_step? stepped with
  | receive _ _ listening =>
      rw [ledger_resume]
      simp only [handleMessage, kind, ledger_submit, outputs_submit]
      rcases before.ledger.handleSubmitRequest_cases before.registry.snap
          config message.request with
        ⟨same, _⟩ | ⟨plan, _, _, _, table, reply⟩
      · exact .inl same
      · refine .inr ⟨plan, ⟨socket, message, rfl, kind, rfl, ?_⟩, table⟩
        rw [reply]
        exact List.mem_singleton.mpr rfl

/-- A request that changes the state under an identity made a plan of it. -/
theorem submits_of_entered
    {before after : Coordinator}
    {actions : List Action}
    {socket : Socket}
    {message : Message}
    {record : PlanRecord}
    (stepped :
      step? config before (.receive socket message) = some (after, actions))
    (kind : message.type = .submitRequest)
    (entered : after.ledger.plans[planId]? = some record)
    (changed : before.planState? planId ≠ after.planState? planId) :
    submits ⟨before, .receive socket message, actions, after⟩
      message.request record.plan := by
  unfold planState? at changed
  rcases submission_cases stepped kind with same | ⟨plan, submitted, table⟩
  · rw [same] at changed
    exact (changed rfl).elim
  · rw [entered] at changed
    rw [table, Std.ExtTreeMap.getElem?_insert] at entered
    split_ifs at entered with isPlan
    · cases entered
      rw [Ledger.plan_newRecord]
      exact submitted
    · rw [entered] at changed
      exact (changed rfl).elim

end

/-! ## A process that has just started -/

/-- The record under which a stored plan is adopted. -/
def adopted (record : StoreRecord) : PlanRecord :=
  { plan := record.plan, state := record.state }

theorem plans_foldl_adopt
    (records : List StoreRecord)
    (ledger : Ledger) :
    (records.foldl Ledger.adopt ledger).plans =
      (records.map adopted).foldl
        (fun plans record => plans.insert record.plan.id record)
        ledger.plans := by
  induction records generalizing ledger with
  | nil =>
      rfl
  | cons record rest inductionHypothesis =>
      simp only [List.foldl_cons, List.map_cons, inductionHypothesis]
      rfl

/-- The recovered table is the index of the stored records. -/
theorem plans_recover
    (store : StoreState) :
    (Ledger.recover store).plans =
      indexBy (fun record => record.plan.id) (store.plans.map adopted) :=
  plans_foldl_adopt store.plans {}

/-- Every plan of a new process was read from a valid store and distrusted. -/
theorem record_of_start
    {store : Option (List UInt8)}
    {planId : CommunicationPlanId}
    {record : PlanRecord}
    (found : (start store).ledger.plans[planId]? = some record) :
    ∃ bytes state stored,
      store = some bytes ∧
      parseStore bytes = .ok state ∧
      stored ∈ state.plans ∧
      stored.plan.id = planId ∧
      record =
        { plan := stored.plan, state := recoveredState stored.state } := by
  unfold start loadStoreIfAny at found
  simp only at found
  split at found
  · simp at found
  · simp at found
  · rename_i bytes _
    split at found
    · simp at found
    · rename_i state parsed
      rw [plans_recover] at found
      obtain ⟨member, same⟩ := mem_of_getElem?_indexBy found
      simp only [conservativeRecovery, List.map_map, List.mem_map,
        Function.comp_apply] at member
      obtain ⟨stored, inStore, rfl⟩ := member
      exact ⟨bytes, state, stored, rfl, parsed, inStore, same, rfl⟩

/-- No plan of a new process is ready, being committed or executable. -/
theorem state_of_start
    {store : Option (List UInt8)}
    {planId : CommunicationPlanId}
    {state : PlanState}
    (found : (start store).planState? planId = some state) :
    state ≠ .planReady ∧ state ≠ .awaitingResourceCommit ∧
      state.executable = false := by
  obtain ⟨record, inTable, rfl⟩ := Option.map_eq_some_iff.mp found
  obtain ⟨_, _, stored, _, _, _, _, rfl⟩ := record_of_start inTable
  change recoveredState stored.state ≠ _ ∧ recoveredState stored.state ≠ _ ∧
    (recoveredState stored.state).executable = false
  generalize stored.state = saved
  cases saved <;> decide

theorem commitAt_start
    (store : Option (List UInt8))
    (socket : Socket) :
    (start store).commitAt socket = none := by
  simp [commitAt, start]

/-- Adopting records leaves the broker alone. -/
private theorem broker_foldl_adopt
    (records : List StoreRecord)
    (ledger : Ledger) :
    (records.foldl Ledger.adopt ledger).broker = ledger.broker := by
  induction records generalizing ledger with
  | nil => rfl
  | cons record rest inductionHypothesis =>
      exact inductionHypothesis _

theorem broker_start
    (store : Option (List UInt8)) :
    (start store).ledger.broker = {} := by
  unfold start loadStoreIfAny
  simp only
  split
  · rfl
  · rfl
  · split
    · rfl
    · exact broker_foldl_adopt _ _

/-! ## The table is keyed by identity -/

/-- Every record is stored under the identity of its plan. -/
def Keyed (state : Coordinator) : Prop :=
  ∀ (planId : CommunicationPlanId) (record : PlanRecord),
    state.ledger.plans[planId]? = some record → record.plan.id = planId

theorem keyed_start
    (store : Option (List UInt8)) :
    Keyed (start store) := by
  intro planId record found
  obtain ⟨_, _, stored, _, _, _, same, rfl⟩ := record_of_start found
  exact same

theorem Keyed.step
    {config : Config}
    {before after : Coordinator}
    {event : Event}
    {actions : List Action}
    (keyed : Keyed before)
    (stepped : step? config before event = some (after, actions)) :
    Keyed after := by
  intro planId record found
  have change : PlanStep config before planId event (some record) :=
    found ▸ planStep_of_step? stepped
  generalize isSome : some record = changed at change
  cases change with
  | same =>
      exact keyed planId record isSome.symm
  | written old new known writes =>
      cases isSome
      exact keyed planId old known
  | entered socket message plan received kind produced open_ named =>
      cases isSome
      rw [Ledger.plan_newRecord]
      exact named

theorem keyed_of_run
    {config : Config}
    {store : Option (List UInt8)}
    {trace : List CoordinatorStep}
    {state : Coordinator}
    (run : ProcessRun config store trace state) :
    Keyed state :=
  run.invariant Keyed (keyed_start store) fun _ _ stepped keyed =>
    keyed.step stepped

/-! ## A small deployment -/

/-- The default weights and limits. -/
def defaultConfig : Config :=
  { weights := {} }

/--
A worker connects on the socket, registers, and publishes two endpoints and the
link between them.
-/
def deployment (socket : Socket) (worker : WorkerId) : List Event :=
  let boot : WorkerBootId := ⟨1⟩
  [ .accept socket,
    .receive socket (CoordinatorClient.registerWorker worker boot []),
    .receive socket (CoordinatorClient.publishEndpoint worker boot
      (mkEndpoint ⟨1⟩ ⟨1⟩ .cpuMemory .tcp)),
    .receive socket (CoordinatorClient.publishEndpoint worker boot
      (mkEndpoint ⟨2⟩ ⟨1⟩ .cpuMemory .tcp)),
    .receive socket (CoordinatorClient.publishLink worker boot
      (mkLink ⟨7⟩ ⟨1⟩ ⟨1⟩ ⟨2⟩ .tcp 1000)) ]

/-- A request that the deployment can serve over its link. -/
def directRequest (id : CommunicationRequestId) : CommunicationRequest :=
  mkRequest id ⟨1⟩ ⟨2⟩ 4096

/-- The same worker adds a second link, so that a path runs over a relay. -/
def relayDeployment (socket : Socket) (worker : WorkerId) : List Event :=
  let boot : WorkerBootId := ⟨1⟩
  deployment socket worker ++
    [ .receive socket (CoordinatorClient.publishEndpoint worker boot
        (mkEndpoint ⟨3⟩ ⟨1⟩ .cpuMemory .tcp)),
      .receive socket (CoordinatorClient.publishLink worker boot
        (mkLink ⟨8⟩ ⟨1⟩ ⟨2⟩ ⟨3⟩ .tcp 1000)) ]

/-- A request that needs the relay, and with it a claim on its staging memory. -/
def relayedRequest (id : CommunicationRequestId) : CommunicationRequest :=
  mkRequest id ⟨1⟩ ⟨3⟩ 4096

/-- A request that is refused only after its plan was numbered. -/
def miscountedRequest (id : CommunicationRequestId) : CommunicationRequest :=
  { directRequest id with
    shape := .collective
    collectiveCount := 2
    collectiveShape := .allReduce
    participants := [⟨1⟩] }

/-- Several messages, one after the other, on one socket. -/
def receiveAll (socket : Socket) (messages : List Message) : List Event :=
  messages.map (.receive socket)

end Coordinator

end CommunicationPlanner
