import CommunicationPlanner.BrokenConnections
import CommunicationPlanner.Conversations

namespace CommunicationPlanner

open ByteStream TransitionRun RequestReply

/-!
# Calls of the client

A call of `CoordinatorClient` sends one frame and takes the next one that it
receives for its answer.  Over a connection on which no worker registers nothing
but answers comes back, so that every call learns what became of its own
message, as long as the answers are within the limits of its receiver.
-/

namespace CoordinatorClient

/-- The second half of `CoordinatorClient::Impl::send`: the reply, if any. -/
def receive
    (calls : Calls)
    (line : Line UInt8) : Option (Message × Line UInt8) :=
  match Tcp.recvFrame calls line with
  | .error _ => none
  | .ok (frame, after) =>
      match decodeMessage frame.type frame.payload with
      | .error _ => none
      | .ok reply => some (reply, after)

/-- The replies to so many calls, one after another, if every call gets one. -/
def receiveAll
    (calls : Calls) :
    Nat → Line UInt8 → Option (List Message × Line UInt8)
  | 0, line => some ([], line)
  | count + 1, line => do
      let (reply, line) ← receive calls line
      let (replies, line) ← receiveAll calls count line
      pure (reply :: replies, line)

/-- `CP_CLIENT_SEND`: the error that the reply brings, or else the reply. -/
def call (reply : Message) : Except Text Message :=
  if reply.type = .error then
    .error reply.error
  else
    .ok reply

/-- The flag of the calls that are answered by a `COMMIT_RESULT`. -/
def succeeded (reply : Message) : Except Text Bool :=
  (call reply).map fun reply => reply.ok

/-- `submitRequest`: the plan, if the request is feasible. -/
def plannedBy (reply : Message) : Except Text (Option CommunicationPlan) :=
  (call reply).map fun reply => if reply.ok then some reply.plan else none

/-- `queryPlanState`: the number of the state, if the plan is known. -/
def stateOf (reply : Message) : Except Text (Option UInt64) :=
  (call reply).map fun reply =>
    if reply.ok then some reply.planId.value else none

section

variable
  {calls : Calls}
  {line : Line UInt8}
  {rest : List UInt8}

/-- A message that was sent is received, and the stream behind it untouched. -/
theorem receive_of_sendable
    (reliable : calls.Reliable)
    {message : Message}
    (sendable : message.Sendable)
    (transit : line.transit = Tcp.wire message.frame ++ rest) :
    ∃ after,
      receive calls line = some (message.received, after) ∧
        after.transit = rest := by
  obtain ⟨fits, small⟩ := sendable
  have decoded := decodeMessage_encodeMessage fits
  have frameFits :
      message.frame.payload.length + 25 ≤ kMaxFramePayload := small
  obtain ⟨after, received, behind⟩ :=
    Tcp.recvFrame_of_fits reliable frameFits transit
  refine ⟨after, ?_, behind⟩
  unfold receive
  rw [received]
  simp only [Message.frame, decoded]

/-- What was sent is received, message by message. -/
theorem receiveAll_of_sendable
    (reliable : calls.Reliable)
    {messages : List Message}
    (sendable : ∀ message ∈ messages, message.Sendable)
    (transit :
      line.transit =
        (messages.flatMap fun message => Tcp.wire message.frame) ++ rest) :
    ∃ after,
      receiveAll calls messages.length line =
          some (messages.map Message.received, after) ∧
        after.transit = rest := by
  induction messages generalizing line with
  | nil => exact ⟨line, rfl, transit⟩
  | cons message messages inductionHypothesis =>
      rw [List.flatMap_cons, List.append_assoc] at transit
      obtain ⟨between, received, remaining⟩ :=
        receive_of_sendable reliable (sendable message List.mem_cons_self)
          transit
      obtain ⟨after, receivedRest, last⟩ :=
        inductionHypothesis
          (fun other member => sendable other (List.mem_cons_of_mem _ member))
          remaining
      refine ⟨after, ?_, last⟩
      simp only [List.length_cons, receiveAll, received, Option.bind_eq_bind,
        Option.bind_some, receivedRest, List.map_cons]
      rfl

end

/-- A message that is received as it was sent brings its own error. -/
theorem call_received
    (message : Message) :
    call message.received =
      if message.type = .error then
        .error message.error
      else
        .ok message.received := by
  unfold call
  rw [Message.type_received]
  by_cases isError : message.type = .error
  · simp [isError, Message.received, Message.carrying]
  · simp [isError]

end CoordinatorClient

namespace Coordinator

/-- The frames that are sent to a socket, in order, without the greetings. -/
def framesTo
    (socket : Socket)
    (trace : List CoordinatorStep) : List Message :=
  trace.flatMap fun step =>
    step.outputs.filterMap fun action =>
      action.sent?.bind fun sent =>
        if sent.1 = socket ∧ sent.2.type ≠ .hello then some sent.2 else none

/-- A worker is registered over the socket by this step. -/
def registersOver (socket : Socket) (step : CoordinatorStep) : Bool :=
  match step.before.registry.effect step.event with
  | .enrolled carrier _ _ _ => carrier = socket
  | _ => false

/--
What a call learns from the reply that answers it: of a submission the plan that
was entered for it, of a query the state of the plan, of any other message
whether it took effect.
-/
def Learns
    (socket : Socket)
    (step : CoordinatorStep)
    (request : Message)
    (reply : Message) : Prop :=
  (∀ detail,
    CoordinatorClient.call reply = .error detail →
      (Reply.mk step (errorMessage detail)).refuses (some request)) ∧
  match request.type with
  | .submitRequest =>
      (CoordinatorClient.plannedBy reply = .ok none →
        step.after.ledger.plans = step.before.ledger.plans) ∧
      ∀ plan,
        CoordinatorClient.plannedBy reply = .ok (some plan) →
          ∃ record : PlanRecord,
            step.after.ledger.plans[plan.id]? = some record ∧
            record.plan.transmitted = plan ∧ record.state = .planReady
  | .queryPlan =>
      ∀ answer,
        CoordinatorClient.stateOf reply = .ok answer →
          answer =
            (step.after.planState? request.planId).map fun state =>
              (ByteCodec.code state).toUInt64
  | _ =>
      ∀ ok,
        CoordinatorClient.succeeded reply = .ok ok →
          ∃ frame : Message,
            frame.ok = ok ∧ (Reply.mk step frame).tells socket request

variable
  {config : Config}
  {store : Option (List UInt8)}
  {trace : List CoordinatorStep}
  {final : Coordinator}
  {socket : Socket}
  {step : CoordinatorStep}
  {request frame : Message}

/-- A reply that is no error has one of the two result types. -/
theorem type_of_tells
    (tells : (Reply.mk step frame).tells socket request) :
    frame.type =
      if request.type = .submitRequest then .planResult else .commitResult := by
  unfold Reply.tells at tells
  cases kind : request.type <;> simp only [kind] at tells
  case queryPlan =>
    rw [tells]
    split <;> rfl
  case register | publishEndpoint | publishLink | publishCapacity |
      publishCongestion | commitRequest | revalidate | executionHandoff |
      cancel | supersede | save | shutdown =>
    rw [tells.1]
    rfl
  case submitRequest | executionResult =>
    exact tells.1

theorem learns_of_tells
    (tells : (Reply.mk step frame).tells socket request) :
    Learns socket step request frame.received := by
  have isResult := type_of_tells tells
  have answered :
      CoordinatorClient.call frame.received = .ok frame.received := by
    rw [CoordinatorClient.call_received, if_neg]
    rw [isResult]
    split <;> simp
  refine ⟨fun detail failed => ?_, ?_⟩
  · rw [answered] at failed
    cases failed
  by_cases submitted : request.type = .submitRequest
  · rw [if_pos submitted] at isResult
    simp only [Reply.tells, submitted] at tells ⊢
    simp only [CoordinatorClient.plannedBy, answered, Except.map]
    simp only [Message.received, Message.carrying, isResult]
    obtain ⟨_, told⟩ := tells
    cases feasible : frame.ok with
    | false => simpa [feasible] using told
    | true =>
        simp only [feasible, if_true] at told ⊢
        obtain ⟨⟨record, entered, samePlan, ready⟩, _⟩ := told
        refine ⟨by simp, ?_⟩
        rintro plan ⟨⟩
        exact ⟨record, entered, by rw [samePlan], ready⟩
  rw [if_neg submitted] at isResult
  by_cases queried : request.type = .queryPlan
  · simp only [Reply.tells, queried] at tells ⊢
    rintro answer returned
    simp only [CoordinatorClient.stateOf, answered, Except.map] at returned
    simp only [Message.received, Message.carrying, isResult,
      Except.ok.injEq] at returned
    rw [← returned, tells]
    cases step.after.planState? request.planId <;> rfl
  · have acknowledged :
        ∀ ok, CoordinatorClient.succeeded frame.received = .ok ok →
          ∃ sent : Message,
            sent.ok = ok ∧ (Reply.mk step sent).tells socket request := by
      intro ok returned
      simp only [CoordinatorClient.succeeded, answered, Except.map] at returned
      simp only [Message.received, Message.carrying, isResult,
        Except.ok.injEq] at returned
      exact ⟨frame, returned, tells⟩
    cases kind : request.type with
    | submitRequest => exact (submitted kind).elim
    | queryPlan => exact (queried kind).elim
    | _ => exact acknowledged

theorem learns_of_answers
    (answers : (Reply.mk step frame).answers socket (some request)) :
    Learns socket step request frame.received := by
  rcases answers with refused | ⟨message, same, tells⟩
  · have isError : frame.type = .error := refused.1
    have failed :
        CoordinatorClient.call frame.received = .error frame.error := by
      rw [CoordinatorClient.call_received, if_pos isError]
    refine ⟨fun detail _ => ⟨rfl, refused.2⟩, ?_⟩
    simp only [CoordinatorClient.plannedBy, CoordinatorClient.stateOf,
      CoordinatorClient.succeeded, failed, Except.map]
    cases request.type <;> simp
  · cases same
    exact learns_of_tells tells

/-- Over a socket on which no worker registered no `EXECUTE` frame is sent. -/
theorem not_execute_of_unregistered
    (run : ProcessRun config store trace final)
    (unregistered : NeverIn (registersOver socket) trace)
    (member : step ∈ trace)
    (sent : .send socket frame ∈ step.outputs) :
    frame.type ≠ .execute := by
  intro isExecute
  obtain ⟨earlier, later, rfl⟩ := List.append_of_mem member
  obtain ⟨past, stepped, _⟩ := run.cut
  obtain ⟨record, info, _, known, _, rfl, _⟩ :=
    handoff_of_execute (keyed_of_run past) stepped sent isExecute
  obtain ⟨registering, inPast, isRegistration⟩ :=
    exists_of_latest (registered_of_run past _ info known)
  have never := unregistered registering (List.mem_append_left _ inPast)
  have registered := registers_iff.mpr isRegistration
  unfold registersOver at never
  unfold registers at registered
  split at registered
  · rename_i carrier enrolled boot name isEffect
    simp only [isEffect, decide_eq_false_iff_not] at never
    simp [never] at registered
  · cases registered

/-- What a frame to the socket is: a greeting, or else an answer. -/
private theorem reply?_outgoing
    (run : ProcessRun config store trace final)
    (unregistered : NeverIn (registersOver socket) trace)
    (member : step ∈ trace)
    {action : Action}
    (performed : action ∈ step.outputs) :
    (((outgoing socket step action).bind Mark.reply?).map Reply.frame) =
      action.sent?.bind fun sent =>
        if sent.1 = socket ∧ sent.2.type ≠ .hello then some sent.2 else none := by
  cases action with
  | send receiver frame =>
      by_cases own : receiver = socket
      · subst own
        have answer : frame.type ≠ .execute :=
          not_execute_of_unregistered run unregistered member performed
        simp only [outgoing, if_true, Action.sent?, Option.bind_some,
          true_and]
        cases kind : frame.type <;> simp_all [Mark.reply?]
      · simp [outgoing, Action.sent?, own]
  | acquire | release => rfl

/-- Replies come from what a step sends. -/
theorem replies_passes
    (socket : Socket)
    (step : CoordinatorStep) :
    replies (passes socket step) =
      step.outputs.filterMap fun action =>
        (outgoing socket step action).bind Mark.reply? := by
  have asked : (incoming socket step.event).filterMap Mark.reply? = [] := by
    cases step.event <;> simp only [incoming, List.filterMap_nil]
    all_goals split <;> rfl
  have closing :
      (if ends socket step then
          [(.closed : ConversationMark)]
        else
          []).filterMap Mark.reply? = [] := by
    split <;> rfl
  rw [replies, passes, List.filterMap_append, List.filterMap_append, asked,
    closing, List.filterMap_filterMap]
  simp

/-- Without registrations the frames to a socket are the replies over it. -/
theorem framesTo_eq_replies
    (run : ProcessRun config store trace final)
    (unregistered : NeverIn (registersOver socket) trace) :
    framesTo socket trace =
      (replies (conversation socket trace)).map Reply.frame := by
  rw [replies, conversation, List.filterMap_flatMap, List.map_flatMap,
    framesTo]
  refine List.flatMap_congr fun step member => ?_
  have sent := replies_passes socket step
  rw [replies] at sent
  rw [sent, List.map_filterMap]
  refine List.filterMap_congr fun action performed => ?_
  exact (reply?_outgoing run unregistered member performed).symm

/-- The replies over a connection are sent by steps of the run. -/
theorem sent_of_mem_replies
    {reply : Reply}
    (member : reply ∈ replies (conversation socket trace)) :
    reply.step ∈ trace ∧ .send socket reply.frame ∈ reply.step.outputs := by
  rw [replies, conversation, List.filterMap_flatMap, List.mem_flatMap] at member
  obtain ⟨step, inTrace, passed⟩ := member
  have sent := replies_passes socket step
  rw [replies] at sent
  rw [sent, List.mem_filterMap] at passed
  obtain ⟨action, performed, puts⟩ := passed
  cases action with
  | send receiver frame =>
      simp only [outgoing] at puts
      split_ifs at puts with own
      · subst own
        cases kind : frame.type <;> simp only [kind, Option.bind_some] at puts
        all_goals cases puts
        all_goals exact ⟨inTrace, performed⟩
      · cases puts
  | acquire | release => cases puts

/-- A client on the fifth socket has its request planned and commits the plan. -/
def controlEvents : List Event :=
  .accept ⟨5⟩ ::
    (receiveAll ⟨5⟩
      [ CoordinatorClient.submitRequest (directRequest ⟨5⟩),
        CoordinatorClient.commitPlan ⟨1⟩ ] ++
    [.acquire ⟨5⟩, .finish ⟨5⟩] ++
    receiveAll ⟨5⟩
      [ CoordinatorClient.commitPlan ⟨1⟩,
        CoordinatorClient.executionHandoff ⟨1⟩ ])

/-- The strings and lists of an answer are short. -/
def shortAnswer (frame : Message) : Bool :=
  let plan := frame.plan
  match frame.type with
  | .commitResult => true
  | .error => frame.error.length ≤ kMaxCount
  | .planResult =>
      plan.candidatePaths.length ≤ kMaxCount &&
        plan.candidatePaths.all (fun path => path.stages.length ≤ kMaxCount) &&
        plan.orderedStages.length ≤ kMaxCount &&
        plan.endpointGenerations.length ≤ kMaxCount
  | _ => false

theorem fits_of_shortAnswer
    (short : shortAnswer frame = true) :
    frame.Fits := by
  unfold shortAnswer at short
  unfold Message.Fits
  cases kind : frame.type <;> simp only [kind] at short ⊢
  case error => simpa using short
  case planResult =>
    simp only [Bool.and_eq_true, decide_eq_true_eq, List.all_eq_true] at short
    obtain ⟨⟨⟨paths, stages⟩, ordered⟩, generations⟩ := short
    exact fun _ => ⟨paths, stages, ordered, generations⟩
  all_goals cases short

end Coordinator

end CommunicationPlanner
