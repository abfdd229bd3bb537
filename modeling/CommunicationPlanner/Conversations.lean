import CommunicationPlanner.Replies
import CommunicationPlanner.RequestReply
import CommunicationPlanner.ResultAuthority

namespace CommunicationPlanner

open OrderedCollections TransitionRun RequestReply

/-!
# Conversations

What passes over one connection during a run is a session of request and reply:
a greeting, then one reply to every message that is read, in order, until the
connection ends.  Only `EXECUTE` frames are pushed in between, and they go to
the sockets that workers registered over.

A reply that is not an error describes the state that its step leaves behind;
an error leaves the state as it was, unless it ends a commit.
-/

/-- The connection that an event happens on. -/
def Event.socket? : Event → Option Socket
  | .accept socket
  | .receive socket _
  | .undecodable socket _
  | .acquire socket
  | .finish socket
  | .disconnect socket => some socket
  | .saveStore => none

namespace Coordinator

/-- A frame that answers a message, with the step that sends it. -/
structure Reply where
  step : CoordinatorStep
  frame : Message

/-- What is read off a connection: nothing, where a frame is undecodable. -/
abbrev ConversationMark := Mark (Option Message) Reply

/-! ## What passes over a connection -/

/-- What an event reads off the connection. -/
def incoming (socket : Socket) : Event → List ConversationMark
  | .receive other message =>
      if other = socket then [.request (some message)] else []
  | .undecodable other _ =>
      if other = socket then [.request none] else []
  | _ => []

/-- What an action puts on the connection. -/
def outgoing
    (socket : Socket)
    (step : CoordinatorStep) : Action → Option ConversationMark
  | .send other frame =>
      if other = socket then
        match frame.type with
        | .hello => some .opened
        | .execute => some .pushed
        | _ => some (.reply ⟨step, frame⟩)
      else
        none
  | _ => none

/-- The thread of the connection leaves its loop with the step. -/
def ends (socket : Socket) (step : CoordinatorStep) : Bool :=
  step.event.socket? = some socket && !step.after.terminated &&
    socket ∉ step.after.connections

/-- What passes over the connection at a step. -/
def passes (socket : Socket) (step : CoordinatorStep) :
    List ConversationMark :=
  incoming socket step.event ++
    step.outputs.filterMap (outgoing socket step) ++
    if ends socket step then [.closed] else []

/-- What has passed over the connection in a history. -/
def conversation
    (socket : Socket)
    (trace : List CoordinatorStep) : List ConversationMark :=
  trace.flatMap (passes socket)

/-- A longer history passes more, in the same order. -/
theorem conversation_append
    (socket : Socket)
    (trace later : List CoordinatorStep) :
    conversation socket (trace ++ later) =
      conversation socket trace ++ conversation socket later :=
  List.flatMap_append

/-! ## What a reply says -/

/-- What a reply that is no error says of the state after its step. -/
def Reply.tells
    (reply : Reply)
    (socket : Socket)
    (request : Message) : Prop :=
  let before := reply.step.before
  let after := reply.step.after
  let frame := reply.frame
  match request.type with
  | .register =>
      frame = okMessage request.worker.value ∧
        ∃ info : WorkerInfo,
          after.registry.workers[request.worker]? = some info ∧
          info.boot = request.boot ∧ info.sock = socket ∧ info.alive = true
  | .publishEndpoint =>
      frame = okMessage request.endpoint.id.value ∧
        { request.endpoint with
            worker := request.worker
            workerBoot := request.boot } ∈ after.registry.snap.endpoints
  | .publishLink =>
      frame = okMessage request.link.id.value ∧
        { request.link with workerBoot := request.boot } ∈
          after.registry.snap.links
  | .publishCapacity =>
      frame = okMessage request.linkId.value ∧
        ∀ link ∈ after.registry.snap.links,
          link.id = request.linkId → link.capacityEvidence = request.capacity
  | .publishCongestion =>
      frame = okMessage request.linkId.value ∧
        ∀ link ∈ after.registry.snap.links,
          link.id = request.linkId → link.congestion = request.congestion
  | .queryPlan =>
      frame =
        match after.planState? request.planId with
        | none => resultMessage false ⟨0⟩
        | some state => resultMessage true ⟨(ByteCodec.code state).toUInt64⟩
  | .submitRequest =>
      frame.type = .planResult ∧
        if frame.ok then
          (∃ record : PlanRecord,
            after.ledger.plans[frame.plan.id]? = some record ∧
            record.plan = frame.plan ∧ record.state = .planReady) ∧
          after.ledger.currentByRequest[request.request.id]? =
            some frame.plan.id
        else
          after.ledger.plans = before.ledger.plans
  | .commitRequest =>
      frame = resultMessage true request.planId ∧
        after.planState? request.planId = some .committed
  | .revalidate =>
      frame = resultMessage frame.ok request.planId ∧
        after.planState? request.planId =
          (before.planState? request.planId).map fun _ =>
            if frame.ok then .awaitingExecution else .revalidationRequired
  | .executionHandoff =>
      frame = resultMessage frame.ok request.planId ∧
        after.planState? request.planId =
          (before.planState? request.planId).map fun _ =>
            if frame.ok then .active else .revalidationRequired
  | .executionResult =>
      frame.type = .commitResult ∧ frame.planId = request.planId ∧
        if frame.ok then
          before.planState? request.planId = some .active ∧
          after.planState? request.planId =
            some (if request.ok then .completed else .failed)
        else
          after.ledger = before.ledger
  | .cancel =>
      frame = resultMessage true request.planId ∧
        request.requestId ∈ after.ledger.cancelled ∧
        ∀ state, after.planState? request.planId = some state →
          state = .completed ∨ state = .cancelled
  | .supersede =>
      frame = resultMessage true request.planId ∧
        ∀ state, after.planState? request.planId = some state →
          state = .completed ∨ state = .cancelled ∨ state = .superseded
  | .save =>
      frame = resultMessage true ⟨0⟩ ∧
        after.store =
          some (serializeStore (after.ledger.storeState after.epoch))
  | .shutdown => frame = resultMessage true ⟨0⟩ ∧ after.stopping = true
  | .hello | .publishTopology | .planResult | .commitResult | .execute
  | .error => False

/-- An error leaves the state alone, unless it ends the commit of a plan. -/
def Reply.refuses (reply : Reply) (request : Option Message) : Prop :=
  let before := reply.step.before
  let after := reply.step.after
  reply.frame.type = .error ∧
    ((after.registry = before.registry ∧ after.ledger = before.ledger) ∨
      ∃ message,
        request = some message ∧ message.type = .commitRequest ∧
        after.registry = before.registry ∧
        ∀ state, after.planState? message.planId = some state →
          state = .cancelled ∨ state = .failed)

/-- The reply answers the message truthfully. -/
def Reply.answers
    (socket : Socket)
    (request : Option Message)
    (reply : Reply) : Prop :=
  reply.refuses request ∨
    ∃ message, request = some message ∧ reply.tells socket message

/-! ## Where a connection stands -/

/-- The phase that the thread of a connection is in. -/
def InPhase : Option Connection → Phase (Option Message) → Prop
  | connection, .closed => connection = none
  | connection, .idle => connection = some .receiving
  | connection, .owing request =>
      ∃ message commit,
        request = some message ∧ message.type = .commitRequest ∧
        connection = some commit ∧ commit.planId? = some message.planId

variable
  {config : Config}
  {before after : Coordinator}
  {event : Event}
  {actions : List Action}
  {socket : Socket}

/-- A connection that is not there is closed. -/
theorem InPhase.closed_of_none
    {phase : Phase (Option Message)}
    (stands : InPhase none phase) :
    phase = .closed := by
  cases phase with
  | closed => rfl
  | idle => cases stands
  | owing request =>
      obtain ⟨_, _, _, _, absent, _⟩ := stands
      cases absent

/-- A thread that waits for a message owes no reply. -/
theorem InPhase.idle_of_receiving
    {phase : Phase (Option Message)}
    (stands : InPhase (some .receiving) phase) :
    phase = .idle := by
  cases phase with
  | closed => cases stands
  | idle => rfl
  | owing request =>
      obtain ⟨_, _, _, _, same, busy⟩ := stands
      cases same
      cases busy

/-- A thread that commits a plan owes the reply to that commit. -/
theorem InPhase.owing_of_busy
    {connection : Connection}
    {planId : CommunicationPlanId}
    {phase : Phase (Option Message)}
    (stands : InPhase (some connection) phase)
    (busy : connection.planId? = some planId) :
    ∃ message,
      phase = .owing (some message) ∧ message.type = .commitRequest ∧
      message.planId = planId := by
  cases phase with
  | closed => cases stands
  | idle =>
      cases stands
      cases busy
  | owing request =>
      obtain ⟨message, _, rfl, kind, same, named⟩ := stands
      cases same
      rw [busy] at named
      cases named
      exact ⟨message, rfl, kind, rfl⟩

/-! ## The connections -/

/-- Only a thread that listens leaves, and only when it finds the flag set. -/
theorem getElem?_connections_resume
    (state : Coordinator)
    (socket other : Socket) :
    (state.resume socket).connections[other]? =
      if socket = other ∧ state.listens socket = true ∧
          state.stopping = true then
        none
      else
        state.connections[other]? := by
  unfold resume listens
  split
  · by_cases isStopping : state.stopping = true
    · simp only [isStopping, if_true, and_true, Std.ExtTreeMap.getElem?_erase,
        Std.LawfulEqCmp.compare_eq_iff_eq]
    · simp [isStopping]
  · simp

/-- The loop of a connection leaves the other connections alone. -/
theorem connections_resume_of_ne
    (state : Coordinator)
    {socket other : Socket}
    (different : other ≠ socket) :
    (state.resume other).connections[socket]? =
      state.connections[socket]? := by
  rw [getElem?_connections_resume, if_neg fun same => different same.1]

/-- A change of one connection leaves the others as they are. -/
theorem getElem?_connections_insert_of_ne
    {connections : Map Socket Connection}
    {connection : Connection}
    {other : Socket}
    (different : other ≠ socket) :
    (connections.insert other connection)[socket]? = connections[socket]? := by
  rw [Std.ExtTreeMap.getElem?_insert, if_neg]
  simpa using different

/-- A step leaves the connections alone that it does not happen on. -/
theorem connections_frame_of_step?
    (stepped : step? config before event = some (after, actions))
    (elsewhere : event.socket? ≠ some socket) :
    after.connections[socket]? = before.connections[socket]? := by
  have different : ∀ other, event.socket? = some other → other ≠ socket := by
    rintro other happens rfl
    exact elsewhere happens
  cases taken_of_step? stepped with
  | accept other fresh =>
      rw [connections_resume_of_ne _ (different other rfl)]
      exact getElem?_connections_insert_of_ne (different other rfl)
  | receive other message listening =>
      rw [connections_resume_of_ne _ (different other rfl)]
      by_cases committing : message.type = .commitRequest
      · simp only [handleMessage, committing, beginCommit]
        split
        · rfl
        · exact getElem?_connections_insert_of_ne (different other rfl)
      · rw [connections_handleMessage committing]
  | undecodable other detail listening =>
      exact connections_resume_of_ne _ (different other rfl)
  | acquire other commit busy =>
      exact getElem?_connections_insert_of_ne (different other rfl)
  | finish other commit failure busy =>
      rw [connections_resume_of_ne _ (different other rfl)]
      exact getElem?_connections_insert_of_ne (different other rfl)
  | disconnect other listening =>
      rw [Std.ExtTreeMap.getElem?_erase, if_neg]
      simpa using different other rfl
  | saveStore =>
      rfl

/-! ## Answers of the handlers -/

/-- The frames that the action sends are pushed to executors. -/
def Quiet (action : Action) : Prop :=
  ∀ receiver frame, action = .send receiver frame → frame.type = .execute

/-- The actions end with one answer, and push only `EXECUTE` frames before. -/
structure AnswersWith
    (actions : List Action)
    (socket : Socket)
    (frame : Message) : Prop where
  isAnswer : frame.type ≠ .hello ∧ frame.type ≠ .execute
  shape :
    ∃ pushed,
      actions = pushed ++ [.send socket frame] ∧
      ∀ action ∈ pushed, Quiet action

/-- One frame that is an answer answers. -/
theorem AnswersWith.send
    {frame : Message}
    (isAnswer : frame.type ≠ .hello ∧ frame.type ≠ .execute) :
    AnswersWith [.send socket frame] socket frame :=
  ⟨isAnswer, [], rfl, by simp⟩

/-- The step of a message that its thread handles. -/
def handling
    (config : Config)
    (state : Coordinator)
    (socket : Socket)
    (message : Message) : CoordinatorStep :=
  let handled := handleMessage config state socket message
  ⟨state, .receive socket message, handled.2, handled.1.resume socket⟩

/-- The message is answered by its step, and truthfully. -/
def AnsweredAtOnce
    (config : Config)
    (state : Coordinator)
    (socket : Socket)
    (message : Message) : Prop :=
  ∃ frame,
    AnswersWith (handleMessage config state socket message).2 socket frame ∧
    Reply.answers socket (some message)
      ⟨handling config state socket message, frame⟩

variable {message : Message}

/-- An error is an answer. -/
theorem isAnswer_errorMessage (detail : Text) :
    (errorMessage detail).type ≠ .hello ∧
      (errorMessage detail).type ≠ .execute := by
  simp [errorMessage]

/-- A result is an answer. -/
theorem isAnswer_resultMessage
    (ok : Bool)
    (planId : CommunicationPlanId) :
    (resultMessage ok planId).type ≠ .hello ∧
      (resultMessage ok planId).type ≠ .execute := by
  simp [resultMessage]

/-- A handler that refuses the message with an error. -/
theorem answeredAtOnce_of_error
    (detail : Text)
    (handled :
      handleMessage config before socket message =
        (before, [.send socket (errorMessage detail)])) :
    AnsweredAtOnce config before socket message := by
  refine ⟨errorMessage detail, ?_, .inl ⟨rfl, .inl ?_⟩⟩
  · rw [handled]
    exact .send (isAnswer_errorMessage detail)
  · simp [handling, handled]

/-- A handler of the registry refuses the message, or enters what it says. -/
theorem answeredAtOnce_withRegistry
    (handled : Registry × Message)
    (handles :
      handleMessage config before socket message =
        before.withRegistry socket handled)
    (truthful :
      (∃ detail, handled = (before.registry, errorMessage detail)) ∨
      (∃ id, handled.2 = okMessage id) ∧
        ∀ step : CoordinatorStep,
          step.after.registry = handled.1 →
          Reply.tells ⟨step, handled.2⟩ socket message) :
    AnsweredAtOnce config before socket message := by
  refine ⟨handled.2, ?_, ?_⟩
  · rw [handles]
    change AnswersWith [.send socket handled.2] socket handled.2
    rcases truthful with ⟨detail, refused⟩ | ⟨⟨id, accepted⟩, _⟩
    · rw [refused]
      exact .send (isAnswer_errorMessage detail)
    · rw [accepted]
      exact .send (isAnswer_resultMessage true ⟨id⟩)
  · rcases truthful with ⟨detail, refused⟩ | ⟨_, tells⟩
    · refine .inl ⟨by rw [refused]; rfl, .inl ?_⟩
      simp [handling, handles, withRegistry, refused]
    · refine .inr ⟨message, rfl, tells _ ?_⟩
      simp [handling, handles, withRegistry]

/-- A `REGISTER` is answered by the step that handles it. -/
theorem answeredAtOnce_register
    (kind : message.type = .register) :
    AnsweredAtOnce config before socket message := by
  refine answeredAtOnce_withRegistry
    (before.registry.handleRegister socket message)
    (by simp only [handleMessage, kind]) ?_
  unfold Registry.handleRegister
  split_ifs with null isFenced
  · exact .inl ⟨_, rfl⟩
  · exact .inl ⟨_, rfl⟩
  · refine .inr ⟨⟨_, rfl⟩, ?_⟩
    intro step entered
    simp [Reply.tells, kind, entered, Registry.enroll]

/-- An item that replaces or extends a list is in it. -/
theorem mem_replaceOrAppend_self
    {α κ : Type}
    [DecidableEq κ]
    (key : α → κ)
    (item : α)
    (items : List α) :
    item ∈ replaceOrAppend key item items := by
  induction items with
  | nil =>
      simp [replaceOrAppend]
  | cons head rest inductionHypothesis =>
      unfold replaceOrAppend
      split
      · exact List.mem_cons_self
      · exact List.mem_cons_of_mem _ inductionHypothesis

/-- A `PUBLISH_ENDPOINT` is answered by the step that handles it. -/
theorem answeredAtOnce_publishEndpoint
    (kind : message.type = .publishEndpoint) :
    AnsweredAtOnce config before socket message := by
  refine answeredAtOnce_withRegistry
    (before.registry.handlePublishEndpoint message)
    (by simp only [handleMessage, kind]) ?_
  unfold Registry.handlePublishEndpoint
  split
  · exact .inl ⟨_, rfl⟩
  · split_ifs with stale
    · exact .inl ⟨_, rfl⟩
    · refine .inr ⟨⟨_, rfl⟩, ?_⟩
      intro step entered
      simp only [Reply.tells, kind, entered, true_and]
      exact mem_replaceOrAppend_self _ _ _

/-- A `PUBLISH_LINK` is answered by the step that handles it. -/
theorem answeredAtOnce_publishLink
    (kind : message.type = .publishLink) :
    AnsweredAtOnce config before socket message := by
  refine answeredAtOnce_withRegistry
    (before.registry.handlePublishLink message)
    (by simp only [handleMessage, kind]) ?_
  unfold Registry.handlePublishLink
  split
  · exact .inl ⟨_, rfl⟩
  · split_ifs with stale
    · exact .inl ⟨_, rfl⟩
    · refine .inr ⟨⟨_, rfl⟩, ?_⟩
      intro step entered
      simp only [Reply.tells, kind, entered, true_and]
      exact mem_replaceOrAppend_self _ _ _

/-- What an update writes is in every link of its identity. -/
theorem of_mem_updateLinks
    {links : List Link}
    {id : LinkId}
    {update : Link → Link}
    {property : Link → Prop}
    (updated : ∀ link, property (update link)) :
    ∀ link ∈ Registry.updateLinks links id update,
      link.id = id → property link := by
  intro link member named
  obtain ⟨known, _, rfl⟩ := List.mem_map.mp member
  by_cases isNamed : known.id = id
  · rw [if_pos isNamed]
    exact updated known
  · rw [if_neg isNamed] at named
    exact (isNamed named).elim

/-- A `PUBLISH_CAPACITY` is answered by the step that handles it. -/
theorem answeredAtOnce_publishCapacity
    (kind : message.type = .publishCapacity) :
    AnsweredAtOnce config before socket message := by
  refine answeredAtOnce_withRegistry
    (before.registry.handlePublishCapacity message)
    (by simp only [handleMessage, kind]) ?_
  unfold Registry.handlePublishCapacity
  split_ifs with stale
  · exact .inl ⟨_, rfl⟩
  · refine .inr ⟨⟨_, rfl⟩, ?_⟩
    intro step entered
    simp only [Reply.tells, kind, entered, true_and]
    exact of_mem_updateLinks fun _ => rfl

/-- A `PUBLISH_CONGESTION` is answered by the step that handles it. -/
theorem answeredAtOnce_publishCongestion
    (kind : message.type = .publishCongestion) :
    AnsweredAtOnce config before socket message := by
  refine answeredAtOnce_withRegistry
    (before.registry.handlePublishCongestion message)
    (by simp only [handleMessage, kind]) ?_
  unfold Registry.handlePublishCongestion
  split_ifs with stale
  · exact .inl ⟨_, rfl⟩
  · refine .inr ⟨⟨_, rfl⟩, ?_⟩
    intro step entered
    simp only [Reply.tells, kind, entered, true_and]
    exact of_mem_updateLinks fun _ => rfl

/-! The handlers of the ledger -/

/-- A plan is in the state that was set. -/
theorem planState?_setState
    (state : Coordinator)
    {ledger : Ledger}
    {id : CommunicationPlanId}
    {record : PlanRecord}
    {new : PlanState}
    (entered : state.ledger = ledger.setState id record new) :
    state.planState? id = some new := by
  simp [planState?, entered]

/-- A handler of the ledger answers with a frame, behind what it pushes. -/
theorem answeredAtOnce_withLedger
    (handled : Ledger × List Action)
    (handles :
      handleMessage config before socket message =
        before.withLedger handled)
    (frame : Message)
    (shape : AnswersWith handled.2 socket frame)
    (tells :
      ∀ step : CoordinatorStep,
        step.before = before →
        step.after.ledger = handled.1 →
        Reply.tells ⟨step, frame⟩ socket message) :
    AnsweredAtOnce config before socket message := by
  refine ⟨frame, ?_, .inr ⟨message, rfl, tells _ rfl ?_⟩⟩
  · rw [handles]
    exact shape
  · simp [handling, handles, withLedger]

/-- A `QUERY_PLAN` is answered by the step that handles it. -/
theorem answeredAtOnce_queryPlan
    (kind : message.type = .queryPlan) :
    AnsweredAtOnce config before socket message := by
  refine answeredAtOnce_withLedger
    (before.ledger, [.send socket (before.ledger.handleQueryPlan message)])
    (by simp only [handleMessage, kind]; rfl)
    (before.ledger.handleQueryPlan message) (.send ?_) ?_
  · unfold Ledger.handleQueryPlan
    split <;> exact isAnswer_resultMessage _ _
  · intro step _ unchanged
    simp only [Reply.tells, kind, planState?, unchanged,
      Ledger.handleQueryPlan]
    cases before.ledger.plans[message.planId]? <;> rfl

/-- A `REVALIDATE` is answered by the step that handles it. -/
theorem answeredAtOnce_revalidate
    (kind : message.type = .revalidate) :
    AnsweredAtOnce config before socket message := by
  let handled :=
    before.ledger.handleRevalidate before.registry.snap message.planId
  refine answeredAtOnce_withLedger (handled.1, [.send socket handled.2])
    (by simp only [handleMessage, kind]; rfl) handled.2 (.send ?_) ?_
  · unfold handled Ledger.handleRevalidate
    split
    · exact isAnswer_resultMessage _ _
    · split <;> exact isAnswer_resultMessage _ _
  · rintro step rfl entered
    simp only [Reply.tells, kind]
    cases found : step.before.ledger.plans[message.planId]? with
    | none =>
        simp only [handled, Ledger.handleRevalidate, found] at entered ⊢
        simp [planState?, entered, found, resultMessage]
    | some record =>
        by_cases passed :
            (revalidatePlan record.plan step.before.registry.snap).ok = true
        · simp only [handled, Ledger.handleRevalidate, found, passed,
            if_true] at entered ⊢
          rw [planState?_setState _ entered]
          simp [planState?, found, resultMessage]
        · simp only [handled, Ledger.handleRevalidate, found, passed,
            if_false, Bool.false_eq_true] at entered ⊢
          rw [planState?_setState _ entered]
          simp [planState?, found, resultMessage]

/-- What the handoff pushes are `EXECUTE` frames. -/
theorem quiet_executeFrame
    (registry : Registry)
    (record : PlanRecord) :
    ∀ action ∈ Ledger.executeFrame registry record, Quiet action := by
  unfold Ledger.executeFrame
  split
  · simp
  · split
    · simp
    · split
      · rintro action member receiver frame rfl
        cases List.mem_singleton.mp member
        rfl
      · simp

/-- An `EXECUTION_HANDOFF` is answered by the step that handles it. -/
theorem answeredAtOnce_executionHandoff
    (kind : message.type = .executionHandoff) :
    AnsweredAtOnce config before socket message := by
  have handles :
      handleMessage config before socket message =
        before.withLedger
          (before.ledger.handleExecutionHandoff before.registry socket
            message.planId) := by
    simp only [handleMessage, kind]
  cases found : before.ledger.plans[message.planId]? with
  | none =>
      refine answeredAtOnce_withLedger _ handles
        (resultMessage false message.planId) ?_ ?_
      · simp only [Ledger.handleExecutionHandoff, found]
        exact .send (isAnswer_resultMessage _ _)
      · rintro step rfl entered
        simp only [Ledger.handleExecutionHandoff, found] at entered
        simp [Reply.tells, kind, planState?, entered, found, resultMessage]
  | some record =>
      by_cases passed :
          (revalidatePlan record.plan before.registry.snap).ok = true
      · refine answeredAtOnce_withLedger _ handles
          (resultMessage true message.planId) ?_ ?_
        · simp only [Ledger.handleExecutionHandoff, found, passed, if_true]
          exact ⟨isAnswer_resultMessage _ _, _, rfl, quiet_executeFrame _ _⟩
        · rintro step rfl entered
          simp only [Ledger.handleExecutionHandoff, found, passed,
            if_true] at entered
          simp only [Reply.tells, kind]
          rw [planState?_setState _ entered]
          simp [planState?, found, resultMessage]
      · refine answeredAtOnce_withLedger _ handles
          (resultMessage false message.planId) ?_ ?_
        · simp only [Ledger.handleExecutionHandoff, found, passed, if_false,
            Bool.false_eq_true]
          exact .send (isAnswer_resultMessage _ _)
        · rintro step rfl entered
          simp only [Ledger.handleExecutionHandoff, found, passed, if_false,
            Bool.false_eq_true] at entered
          simp only [Reply.tells, kind]
          rw [planState?_setState _ entered]
          simp [planState?, found, resultMessage]

/--
A result is answered at once; one that is not for an active plan changes
nothing.
-/
theorem answeredAtOnce_executionResult
    (kind : message.type = .executionResult) :
    AnsweredAtOnce config before socket message := by
  let handled := before.ledger.handleExecutionResult message
  have handles :
      handleMessage config before socket message =
        before.withLedger (handled.1, [.send socket handled.2]) := by
    simp only [handleMessage, kind]
    rfl
  have ignored :
      handled =
        (before.ledger,
          { resultMessage false message.planId with
            error := ascii "stale result" }) →
      AnsweredAtOnce config before socket message := by
    intro stale
    refine answeredAtOnce_withLedger _ handles handled.2 (.send ?_) ?_
    · simp [stale, resultMessage]
    · rintro step rfl entered
      rw [stale] at entered ⊢
      simp [Reply.tells, kind, entered, resultMessage]
  cases found : before.ledger.plans[message.planId]? with
  | none =>
      refine ignored ?_
      simp only [handled, Ledger.handleExecutionResult, found]
  | some record =>
      by_cases active : record.state = .active
      · by_cases foreign :
            (!message.worker.isNull &&
              (record.worker ≠ message.worker ||
                record.boot ≠ message.boot)) = true
        · refine answeredAtOnce_of_error (ascii "stale result authority") ?_
          simp only [handles, handled, Ledger.handleExecutionResult, found,
            active, ne_eq, not_true_eq_false, if_false]
          rw [if_pos foreign]
          rfl
        · have accepted :
              handled =
                (before.ledger.setState message.planId record
                    (if message.ok then .completed else .failed),
                  resultMessage true message.planId) := by
            simp only [handled, Ledger.handleExecutionResult, found, active,
              ne_eq, not_true_eq_false, if_false]
            rw [if_neg foreign]
          refine answeredAtOnce_withLedger _ handles handled.2 (.send ?_) ?_
          · rw [accepted]
            exact isAnswer_resultMessage _ _
          · rintro step rfl entered
            rw [accepted] at entered ⊢
            simp only [Reply.tells, kind]
            rw [planState?_setState _ entered]
            simp [planState?, found, active, resultMessage]
      · refine ignored ?_
        simp only [handled, Ledger.handleExecutionResult, found, ne_eq,
          active, not_false_eq_true, if_true]

/-- A release puts nothing on a connection. -/
theorem quiet_release
    (planId : CommunicationPlanId)
    (resources : List ResourceId) :
    Quiet (.release planId resources) := by
  rintro receiver frame ⟨⟩

/-- A `CANCEL` is answered by the step that handles it. -/
theorem answeredAtOnce_cancel
    (kind : message.type = .cancel) :
    AnsweredAtOnce config before socket message := by
  refine answeredAtOnce_withLedger
    (before.ledger.handleCancel socket message)
    (by simp only [handleMessage, kind])
    (resultMessage true message.planId) ?_ ?_
  · refine ⟨isAnswer_resultMessage _ _, ?_⟩
    unfold Ledger.handleCancel
    simp only
    split
    · exact ⟨[], rfl, by simp⟩
    · refine ⟨_, rfl, ?_⟩
      split
      · simp [quiet_release]
      · simp
  · rintro step rfl entered
    simp only [Reply.tells, kind, planState?, entered, Ledger.handleCancel,
      true_and]
    cases found : step.before.ledger.plans[message.planId]? with
    | none => simp [found]
    | some record =>
        by_cases unfinished :
            record.state ≠ .completed ∧ record.state ≠ .cancelled
        · simp only [unfinished, and_self, if_true, ne_eq, not_false_eq_true]
          split <;> simp [Ledger.release]
        · simp only [unfinished, if_false]
          have finished :
              record.state = .completed ∨ record.state = .cancelled := by
            tauto
          split <;> simp [found, Ledger.release, finished]

/-- Superseding the older plan of a request leaves the newer one alone. -/
theorem plans_supersedeOlder_self
    (ledger : Ledger)
    (request : CommunicationRequestId)
    (id : CommunicationPlanId) :
    (ledger.supersedeOlder request id).plans[id]? = ledger.plans[id]? := by
  unfold Ledger.supersedeOlder
  split
  · rfl
  · rename_i current _
    split_ifs with sameId
    · rfl
    · split
      · rfl
      · simp [sameId]

/-- A `SUPERSEDE` is answered by the step that handles it. -/
theorem answeredAtOnce_supersede
    (kind : message.type = .supersede) :
    AnsweredAtOnce config before socket message := by
  refine answeredAtOnce_withLedger
    (before.ledger.handleSupersede socket message)
    (by simp only [handleMessage, kind])
    (resultMessage true message.planId) ?_ ?_
  · refine ⟨isAnswer_resultMessage _ _,
      (before.ledger.supersedeNamed message.planId).2, rfl, ?_⟩
    unfold Ledger.supersedeNamed
    split
    · simp
    · split
      · simp [quiet_release]
      · simp
  · rintro step rfl entered
    simp only [Reply.tells, kind, planState?, entered,
      Ledger.handleSupersede, plans_supersedeOlder_self, true_and]
    unfold Ledger.supersedeNamed
    cases found : step.before.ledger.plans[message.planId]? with
    | none => simp [found]
    | some record =>
        by_cases unfinished :
            record.state ≠ .completed ∧ record.state ≠ .cancelled
        · simp [unfinished]
        · simp only [unfinished, if_false, found, Option.map_some,
            Option.some.injEq, forall_eq']
          tauto

/-- A `SAVE` is answered by the step that handles it. -/
theorem answeredAtOnce_save
    (kind : message.type = .save) :
    AnsweredAtOnce config before socket message := by
  refine ⟨resultMessage true ⟨0⟩, ?_, .inr ⟨message, rfl, ?_⟩⟩
  · simp only [handleMessage, kind]
    exact .send (isAnswer_resultMessage _ _)
  · simp only [Reply.tells, kind, handling, handleMessage, true_and, resume]
    split
    · split <;> rfl
    · rfl

/-- A `SHUTDOWN` is answered by the step that handles it. -/
theorem answeredAtOnce_shutdown
    (kind : message.type = .shutdown) :
    AnsweredAtOnce config before socket message := by
  refine ⟨resultMessage true ⟨0⟩, ?_, .inr ⟨message, rfl, ?_⟩⟩
  · simp only [handleMessage, kind]
    exact .send (isAnswer_resultMessage _ _)
  · simp only [Reply.tells, kind, handling, handleMessage, true_and, resume]
    split <;> rfl

/-- The other types are for clients: the coordinator refuses them. -/
theorem answeredAtOnce_unsupported
    (kind :
      message.type ∈
        [MessageType.hello, .publishTopology, .planResult, .commitResult,
          .execute, .error]) :
    AnsweredAtOnce config before socket message := by
  refine answeredAtOnce_of_error (ascii "unsupported message") ?_
  unfold handleMessage
  cases unsupported : message.type <;> simp [unsupported] at kind <;> rfl

/-- A submission is answered, unless the planner throws and the process ends. -/
theorem answeredAtOnce_or_terminated_submit
    (kind : message.type = .submitRequest) :
    (AnsweredAtOnce config before socket message ∧
        (handleMessage config before socket message).1.terminated =
          before.terminated) ∨
      (handleMessage config before socket message).2 = [] ∧
        (handleMessage config before socket message).1.terminated = true := by
  have handles :
      handleMessage config before socket message =
        submit config before socket message := by
    simp only [handleMessage, kind]
  have answered :
      ∀ ledger frame,
        before.ledger.handleSubmitRequest before.registry.snap config.weights
            config.bounds message.request = (ledger, some frame) →
        handleMessage config before socket message =
          before.withLedger (ledger, [.send socket frame]) := by
    intro ledger frame result
    rw [handles, submit, result]
    rfl
  unfold Ledger.handleSubmitRequest at answered
  by_cases null : message.request.id.isNull = true
  · left
    have refused := answered _ _ (by rw [if_pos null])
    exact ⟨answeredAtOnce_of_error _ refused, by rw [refused]; rfl⟩
  by_cases isCancelled : message.request.id ∈ before.ledger.cancelled
  · left
    have refused := answered _ _ (by rw [if_neg null, if_pos isCancelled])
    exact ⟨answeredAtOnce_of_error _ refused, by rw [refused]; rfl⟩
  simp only [null, isCancelled, if_false, Bool.false_eq_true] at answered
  cases ran :
      (planCommunication message.request before.registry.snap config.weights
        config.bounds).run before.ledger.counters with
  | error exception =>
      right
      rw [handles]
      simp [submit, Ledger.handleSubmitRequest, null, isCancelled, ran]
  | ok planned =>
      left
      obtain ⟨outcome, counters⟩ := planned
      simp only [ran] at answered
      cases success : outcome.success with
      | false =>
          have replied := answered _ _ (by simp only [success]; rfl)
          refine ⟨answeredAtOnce_withLedger _ replied { type := .planResult }
            (.send (by simp)) ?_, by rw [replied]; rfl⟩
          rintro step rfl entered
          simp [Reply.tells, kind, entered]
      | true =>
          obtain ⟨plan, returned⟩ := Option.isSome_iff_exists.mp
            ((numbered_of_planCommunication ran).present success)
          have replied := answered _ _ (by simp only [success, returned]; rfl)
          refine ⟨answeredAtOnce_withLedger _ replied
            { type := .planResult, ok := true, plan := plan }
            (.send (by simp)) ?_, by rw [replied]; rfl⟩
          rintro step rfl entered
          simp only [Reply.tells, kind, entered, Ledger.enter, if_true,
            true_and]
          refine ⟨⟨_, Std.ExtTreeMap.getElem?_insert_self,
            Ledger.plan_newRecord _ _, Ledger.state_newRecord _ _⟩, ?_⟩
          exact Std.ExtTreeMap.getElem?_insert_self

/-- A commit is refused, or its thread is busy with it. -/
theorem answeredAtOnce_or_busy_beginCommit
    (kind : message.type = .commitRequest) :
    (AnsweredAtOnce config before socket message ∧
        (handleMessage config before socket message).1.connections =
          before.connections) ∨
      (handleMessage config before socket message).2 = [] ∧
        ∃ commit,
          (handleMessage config before socket message).1.connections[
              socket]? =
            some (.acquiring commit) ∧
          commit.planId = message.planId := by
  have handles :
      handleMessage config before socket message =
        before.beginCommit socket message := by
    simp only [handleMessage, kind]
  unfold beginCommit at handles
  cases begun : before.ledger.beginCommit message.planId with
  | error reply =>
      left
      obtain ⟨detail, rfl⟩ : ∃ detail, reply = errorMessage detail := by
        unfold Ledger.beginCommit at begun
        split at begun
        · cases begun
          exact ⟨_, rfl⟩
        · split_ifs at begun <;> cases begun <;> exact ⟨_, rfl⟩
      rw [begun] at handles
      exact ⟨answeredAtOnce_of_error detail handles, by rw [handles]⟩
  | ok committing =>
      right
      obtain ⟨record, _, _, _, _, isCommit⟩ := Ledger.beginCommit_eq_ok begun
      rw [handles, begun]
      refine ⟨rfl, committing.2, ?_, by rw [isCommit]⟩
      exact Std.ExtTreeMap.getElem?_insert_self

/-- What handling a message comes to for its connection. -/
theorem handleMessage_answers
    (config : Config)
    (running : before.terminated = false)
    (socket : Socket)
    (message : Message) :
    (AnsweredAtOnce config before socket message ∧
        (handleMessage config before socket message).1.terminated = false ∧
        (handleMessage config before socket message).1.connections =
          before.connections) ∨
      (handleMessage config before socket message).2 = [] ∧
        ((handleMessage config before socket message).1.terminated = true ∨
          message.type = .commitRequest ∧
          ∃ commit,
            (handleMessage config before socket message).1.connections[
                socket]? =
              some (.acquiring commit) ∧
            commit.planId = message.planId) := by
  by_cases committing : message.type = .commitRequest
  · rcases answeredAtOnce_or_busy_beginCommit committing with
      ⟨answered, sameConnections⟩ | ⟨silent, busy⟩
    · have unsubmitted : message.type ≠ .submitRequest := by
        simp [committing]
      exact .inl ⟨answered, (terminated_handleMessage unsubmitted).trans running,
        sameConnections⟩
    · exact .inr ⟨silent, .inr ⟨committing, busy⟩⟩
  by_cases submitted : message.type = .submitRequest
  · rcases answeredAtOnce_or_terminated_submit submitted with
      ⟨answered, alive⟩ | ⟨silent, terminated⟩
    · exact .inl ⟨answered, alive.trans running,
        connections_handleMessage committing⟩
    · exact .inr ⟨silent, .inl terminated⟩
  refine .inl ⟨?_, (terminated_handleMessage submitted).trans running,
    connections_handleMessage committing⟩
  cases kind : message.type with
  | register => exact answeredAtOnce_register kind
  | publishEndpoint => exact answeredAtOnce_publishEndpoint kind
  | publishLink => exact answeredAtOnce_publishLink kind
  | publishCapacity => exact answeredAtOnce_publishCapacity kind
  | publishCongestion => exact answeredAtOnce_publishCongestion kind
  | queryPlan => exact answeredAtOnce_queryPlan kind
  | submitRequest => exact (submitted kind).elim
  | commitRequest => exact (committing kind).elim
  | revalidate => exact answeredAtOnce_revalidate kind
  | executionHandoff => exact answeredAtOnce_executionHandoff kind
  | executionResult => exact answeredAtOnce_executionResult kind
  | cancel => exact answeredAtOnce_cancel kind
  | supersede => exact answeredAtOnce_supersede kind
  | save => exact answeredAtOnce_save kind
  | shutdown => exact answeredAtOnce_shutdown kind
  | hello | publishTopology | planResult | commitResult | execute | error =>
      exact answeredAtOnce_unsupported (by simp [kind])

/--
The second critical section answers the message that began the commit; what it
gives back is released, and no frame is sent for that.
-/
theorem finishCommit_answers
    {commit : Commit}
    (kind : message.type = .commitRequest)
    (named : commit.planId = message.planId)
    (failure : Option Text) :
    ∃ frame,
      AnswersWith (before.ledger.finishCommit socket commit failure).2 socket
        frame ∧
      ∀ step : CoordinatorStep,
        step.before = before →
        step.after.registry = before.registry →
        step.after.ledger =
          (before.ledger.finishCommit socket commit failure).1 →
        Reply.answers socket (some message) ⟨step, frame⟩ := by
  have quiet :
      ∀ action ∈
          (if failure.isNone then
            (before.ledger.release commit.resources,
              [Action.release commit.planId commit.resources])
          else
            (before.ledger, [])).2,
        Quiet action := by
    split <;> simp [quiet_release]
  have refuses :
      ∀ detail,
        AnswersWith (before.ledger.finishCommit socket commit failure).2
            socket (errorMessage detail) →
        (∀ state,
          ((before.ledger.finishCommit socket commit failure).1.plans[
              commit.planId]?.map fun record => record.state) = some state →
            state = .cancelled ∨ state = .failed) →
        ∃ frame,
          AnswersWith (before.ledger.finishCommit socket commit failure).2
            socket frame ∧
          ∀ step : CoordinatorStep,
            step.before = before →
            step.after.registry = before.registry →
            step.after.ledger =
              (before.ledger.finishCommit socket commit failure).1 →
            Reply.answers socket (some message) ⟨step, frame⟩ := by
    intro detail shape ended
    refine ⟨errorMessage detail, shape, ?_⟩
    rintro step rfl sameRegistry entered
    refine .inl ⟨rfl, .inr ⟨message, rfl, kind, sameRegistry, ?_⟩⟩
    rw [← named, planState?, entered]
    exact ended
  cases found : before.ledger.plans[commit.planId]? with
  | none =>
      refine refuses (ascii "plan missing after commit") ?_ ?_
      · simp only [Ledger.finishCommit, found]
        exact ⟨isAnswer_errorMessage _, _, rfl, quiet⟩
      · simp only [Ledger.finishCommit, found]
        split <;> simp [found]
  | some record =>
      by_cases undone : before.ledger.undoes record = true
      · refine refuses (ascii "cancelled during commit") ?_ ?_
        · simp only [Ledger.finishCommit, found, undone, if_true]
          exact ⟨isAnswer_errorMessage _, _, rfl, quiet⟩
        · simp [Ledger.finishCommit, found, undone]
      · cases failure with
        | some error =>
            refine refuses (ascii "resource commit failed: " ++ error) ?_ ?_
            · simp only [Ledger.finishCommit, found, undone, if_false,
                Bool.false_eq_true]
              exact .send (isAnswer_errorMessage _)
            · simp [Ledger.finishCommit, found, undone]
        | none =>
            refine ⟨resultMessage true commit.planId, ?_, ?_⟩
            · simp only [Ledger.finishCommit, found, undone, if_false,
                Bool.false_eq_true]
              exact .send (isAnswer_resultMessage _ _)
            · rintro step rfl sameRegistry entered
              refine .inr ⟨message, rfl, ?_⟩
              simp only [Ledger.finishCommit, found, undone, if_false,
                Bool.false_eq_true] at entered
              simp only [Reply.tells, kind, ← named, true_and]
              exact planState?_setState _ entered

/-! ## The marks of a step -/

/-- Quiet actions put nothing but `EXECUTE` frames on a connection. -/
theorem pushed_of_quiet
    {step : CoordinatorStep}
    (quiet : ∀ action ∈ actions, Quiet action) :
    ∀ mark ∈ actions.filterMap (outgoing socket step), mark = .pushed := by
  intro mark member
  obtain ⟨action, isAction, puts⟩ := List.mem_filterMap.mp member
  cases action with
  | send receiver frame =>
      have isExecute := quiet _ isAction receiver frame rfl
      simp only [outgoing, isExecute] at puts
      split_ifs at puts
      cases puts
      rfl
  | acquire | release => cases puts

/-- The answer passes over its connection, behind what is pushed there. -/
theorem session_of_answer
    {step : CoordinatorStep}
    {request : Option Message}
    {frame : Message}
    (shape : AnswersWith step.outputs socket frame)
    (answers : Reply.answers socket request ⟨step, frame⟩) :
    Session (Reply.answers socket) (.owing request)
      (step.outputs.filterMap (outgoing socket step)) .idle := by
  obtain ⟨⟨notHello, notExecute⟩, pushed, isShape, quiet⟩ := shape
  rw [isShape, List.filterMap_append]
  have replied :
      [Action.send socket frame].filterMap (outgoing socket step) =
        [.reply ⟨step, frame⟩] := by
    simp only [outgoing, List.filterMap_cons, List.filterMap_nil, if_true]
  rw [replied]
  exact (Session.pushed _ (pushed_of_quiet quiet)).append
    (.single (.reply answers))

/-- Over the other connections only frames for executors pass. -/
theorem AnswersWith.pushed_elsewhere
    {step : CoordinatorStep}
    {other : Socket}
    {frame : Message}
    (shape : AnswersWith actions other frame)
    (different : other ≠ socket) :
    ∀ mark ∈ actions.filterMap (outgoing socket step), mark = .pushed := by
  obtain ⟨_, pushed, rfl, quiet⟩ := shape
  intro mark member
  rw [List.filterMap_append] at member
  rcases List.mem_append.mp member with isPushed | isAnswer
  · exact pushed_of_quiet quiet mark isPushed
  · simp [outgoing, different] at isAnswer

/-- The connection is not ended by a step that leaves it in its place. -/
theorem ends_eq_false
    {step : CoordinatorStep}
    (kept : step.after.connections[socket]?.isSome = true) :
    ends socket step = false := by
  have present : socket ∈ step.after.connections :=
    Std.ExtTreeMap.mem_iff_isSome_getElem?.mpr kept
  simp [ends, present]

/-- The loop of a connection goes on, or ends while the coordinator stops. -/
theorem exists_session_of_resume
    {step : CoordinatorStep}
    {state : Coordinator}
    {phase : Phase (Option Message)}
    (resumed : step.after = state.resume socket)
    (happens : step.event.socket? = some socket)
    (alive : state.terminated = false)
    (idle : state.connections[socket]? = some .receiving)
    (exchanged :
      Session (Reply.answers socket) phase
        (incoming socket step.event ++
          step.outputs.filterMap (outgoing socket step)) .idle) :
    ∃ next,
      Session (Reply.answers socket) phase (passes socket step) next ∧
      (step.after.terminated = false →
        InPhase step.after.connections[socket]? next) := by
  have kept := getElem?_connections_resume state socket socket
  rw [← resumed, idle] at kept
  have sameFate : step.after.terminated = false := by
    rw [resumed, terminated_resume, alive]
  split_ifs at kept with isStopping
  · have closed : ends socket step = true := by
      have absent : socket ∉ step.after.connections := by
        rw [Std.ExtTreeMap.mem_iff_isSome_getElem?, kept]
        simp
      simp [ends, happens, absent, sameFate]
    refine ⟨.closed, ?_, fun _ => kept⟩
    rw [passes, if_pos closed]
    exact exchanged.snoc .closed
  · have goesOn : ends socket step = false := ends_eq_false (by simp [kept])
    refine ⟨.idle, ?_, fun _ => kept⟩
    rw [passes, goesOn]
    simpa using exchanged

/-- Frames for executors apart, a step keeps to the connection it is on. -/
theorem pushed_elsewhere_of_step?
    (stepped : step? config before event = some (after, actions))
    (running : before.terminated = false)
    (elsewhere : event.socket? ≠ some socket)
    (step : CoordinatorStep) :
    ∀ mark ∈ actions.filterMap (outgoing socket step), mark = .pushed := by
  have different : ∀ other, event.socket? = some other → other ≠ socket := by
    rintro other happens rfl
    exact elsewhere happens
  cases taken_of_step? stepped with
  | accept other fresh =>
      simp [outgoing, different other rfl]
  | receive other message listening =>
      rcases handleMessage_answers config running other message with
        ⟨⟨frame, shape, _⟩, _⟩ | ⟨silent, _⟩
      · exact shape.pushed_elsewhere (different other rfl)
      · simp [silent]
  | undecodable other detail listening =>
      simp [outgoing, different other rfl]
  | acquire other commit busy =>
      simp [outgoing]
  | finish other commit failure busy =>
      obtain ⟨frame, shape, _⟩ :=
        @finishCommit_answers before other
          { type := .commitRequest, planId := commit.planId } commit rfl rfl
          failure
      exact shape.pushed_elsewhere (different other rfl)
  | disconnect | saveStore =>
      simp

/-- A message is read off an idle connection. -/
private theorem session_of_receive
    (message : Message)
    (running : before.terminated = false)
    (listening : before.listens socket = true) :
    let step := handling config before socket message
    ∃ next,
      Session (Reply.answers socket) .idle (passes socket step) next ∧
      (step.after.terminated = false →
        InPhase step.after.connections[socket]? next) := by
  intro step
  have idle := connections_of_listens listening
  have asked :
      Session (Reply.answers socket) .idle (incoming socket step.event)
        (.owing (some message)) := by
    simp only [step, handling, incoming, if_true]
    exact .single (.request _)
  rcases handleMessage_answers config running socket message with
    ⟨⟨frame, shape, answers⟩, alive, sameConnections⟩ | ⟨silent, unanswered⟩
  · refine exists_session_of_resume rfl rfl alive ?_ ?_
    · rw [sameConnections]
      exact idle
    · exact asked.append (session_of_answer shape answers)
  · have goesOn : ends socket step = false := by
      rcases unanswered with ended | ⟨_, commit, busy, _⟩
      · simp [ends, step, handling, ended]
      · refine ends_eq_false ?_
        simp [step, handling, getElem?_connections_resume, listens, busy]
    have onlyAsked : passes socket step = incoming socket step.event := by
      rw [passes, goesOn]
      simp [step, handling, silent]
    refine ⟨.owing (some message), onlyAsked ▸ asked, ?_⟩
    intro alive
    rcases unanswered with ended | ⟨kind, commit, busy, named⟩
    · simp [step, handling, ended] at alive
    · refine ⟨message, .acquiring commit, rfl, kind, ?_, ?_⟩
      · simp [step, handling, getElem?_connections_resume, listens, busy]
      · rw [← named]
        rfl

/-- Only a process that lives takes a step. -/
theorem running_of_step?
    (stepped : step? config before event = some (after, actions)) :
    before.terminated = false := by
  unfold step? at stepped
  split_ifs at stepped with ended
  simpa using ended

/-- What one step puts on a connection takes it on by the protocol. -/
theorem session_of_step?
    (stepped : step? config before event = some (after, actions))
    {phase : Phase (Option Message)}
    (stands : InPhase before.connections[socket]? phase) :
    ∃ next,
      Session (Reply.answers socket) phase
        (passes socket ⟨before, event, actions, after⟩) next ∧
      (after.terminated = false → InPhase after.connections[socket]? next) := by
  have running := running_of_step? stepped
  by_cases elsewhere : event.socket? ≠ some socket
  · have nothing : incoming socket event = [] := by
      cases event <;> simp_all [incoming, Event.socket?]
    refine ⟨phase, ?_, fun _ => ?_⟩
    · refine .pushed phase ?_
      simp only [passes, nothing, List.nil_append, ends, elsewhere,
        decide_false, Bool.false_and, Bool.false_eq_true, if_false,
        List.append_nil]
      exact pushed_elsewhere_of_step? stepped running elsewhere _
    · rwa [connections_frame_of_step? stepped elsewhere]
  rw [not_not] at elsewhere
  cases taken_of_step? stepped with
  | accept own fresh =>
      cases elsewhere
      rw [Std.ExtTreeMap.getElem?_eq_none fresh] at stands
      obtain rfl := stands.closed_of_none
      refine exists_session_of_resume rfl rfl running
        Std.ExtTreeMap.getElem?_insert_self ?_
      simp only [incoming, outgoing, List.filterMap_cons, List.filterMap_nil,
        if_true, List.nil_append]
      exact .single .opened
  | receive own message listening =>
      cases elsewhere
      rw [connections_of_listens listening] at stands
      obtain rfl := stands.idle_of_receiving
      exact session_of_receive message running listening
  | undecodable own detail listening =>
      cases elsewhere
      rw [connections_of_listens listening] at stands
      obtain rfl := stands.idle_of_receiving
      refine exists_session_of_resume rfl rfl running
        (connections_of_listens listening) ?_
      have asked :
          Session (Reply.answers socket) .idle
            (incoming socket (.undecodable socket detail)) (.owing none) := by
        simp only [incoming, if_true]
        exact .single (.request none)
      refine asked.append (session_of_answer
        (.send (isAnswer_errorMessage detail)) (.inl ⟨rfl, .inl ?_⟩))
      simp
  | acquire own commit busy =>
      cases elsewhere
      rw [busy] at stands
      obtain ⟨message, rfl, kind, named⟩ := stands.owing_of_busy rfl
      have present :
          (before.connections.insert socket
            (.acquired commit
              (before.ledger.broker.acquire commit.resources
                commit.sizes).2))[socket]? =
            some (.acquired commit
              (before.ledger.broker.acquire commit.resources
                commit.sizes).2) :=
        Std.ExtTreeMap.getElem?_insert_self
      refine ⟨.owing (some message), ?_, fun _ => ?_⟩
      · rw [passes, ends_eq_false (by rw [present]; rfl)]
        exact .nil
      · exact ⟨message, _, rfl, kind, present, congrArg some named.symm⟩
  | finish own commit failure busy =>
      cases elsewhere
      rw [busy] at stands
      obtain ⟨message, rfl, kind, named⟩ := stands.owing_of_busy rfl
      obtain ⟨frame, shape, answers⟩ :=
        @finishCommit_answers before socket message commit kind named.symm
          failure
      refine exists_session_of_resume rfl rfl running
        Std.ExtTreeMap.getElem?_insert_self ?_
      exact session_of_answer shape (answers _ rfl (by simp) (by simp))
  | disconnect own listening =>
      cases elsewhere
      rw [connections_of_listens listening] at stands
      obtain rfl := stands.idle_of_receiving
      refine ⟨.closed, ?_, fun _ => Std.ExtTreeMap.getElem?_erase_self⟩
      rw [passes, if_pos (by simp [ends, Event.socket?, running])]
      exact .single .closed
  | saveStore =>
      cases elsewhere

/-! ## Runs -/

variable
  {store : Option (List UInt8)}
  {trace : List CoordinatorStep}
  {final : Coordinator}

/-- Every connection keeps to the protocol. -/
theorem session_of_run
    (run : ProcessRun config store trace final)
    (socket : Socket) :
    ∃ phase,
      Session (Reply.answers socket) .closed (conversation socket trace)
        phase ∧
      (final.terminated = false →
        InPhase final.connections[socket]? phase) := by
  induction run with
  | nil =>
      exact ⟨.closed, .nil, fun _ => by simp [InPhase, start]⟩
  | snoc earlier last inductionHypothesis =>
      obtain ⟨phase, session, stands⟩ := inductionHypothesis
      have running := running_of_step? last
      obtain ⟨next, onward, reached⟩ :=
        session_of_step? last (stands running)
      refine ⟨next, ?_, reached⟩
      rw [conversation_append]
      refine session.append ?_
      rw [conversation, List.flatMap_singleton]
      exact onward

end Coordinator

end CommunicationPlanner
