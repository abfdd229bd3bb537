import CommunicationPlanner.ProcessObservations
import CommunicationPlanner.PlannerTotality
import CommunicationPlanner.WireRoundTrip

namespace CommunicationPlanner

open TransitionRun

/-!
# Replies

Every handler ends by sending a reply over the connection that the message came
from; a commit does so in its second critical section, which its thread reaches
whatever the other threads do meanwhile.  The one handler that calls code which
throws is that of `SUBMIT_REQUEST`, and nothing catches what the planner throws.
-/

/-- The last thing that is sent goes to the socket. -/
def endsWithReply (actions : List Action) (socket : Socket) : Bool :=
  match actions.getLast? with
  | some (.send receiver _) => receiver = socket
  | _ => false

@[simp] theorem endsWithReply_append_send
    (actions : List Action)
    (socket : Socket)
    (reply : Message) :
    endsWithReply (actions ++ [.send socket reply]) socket = true := by
  simp [endsWithReply]

@[simp] theorem endsWithReply_send
    (socket : Socket)
    (reply : Message) :
    endsWithReply [.send socket reply] socket = true := by
  simp [endsWithReply]

namespace Coordinator

/-- What is left to do for the thread of a connection, if nobody else moves. -/
def ownEvents (state : Coordinator) (socket : Socket) : List Event :=
  match state.connections[socket]? with
  | some (.acquiring _) => [.acquire socket, .finish socket]
  | some (.acquired _ _) => [.finish socket]
  | _ => []

/-- Left alone, the thread finishes its commit with a reply. -/
def CompletesAlone
    (config : Config)
    (state : Coordinator)
    (socket : Socket) : Prop :=
  ∃ earlier last done,
    replay? (step? config) state (state.ownEvents socket) =
        some (earlier ++ [last], done) ∧
      endsWithReply last.outputs socket = true ∧
      done.terminated = false

/--
However the threads are interleaved, as long as the process lives the commit of
the connection has ended with a reply, or its thread can still finish it so.
-/
def RepliesLater
    (config : Config)
    (state : Coordinator)
    (socket : Socket) : Prop :=
  ∀ later final,
    Run (step? config) state later final →
    (∃ step ∈ later,
      step.event = .finish socket ∧
        endsWithReply step.outputs socket = true) ∨
    final.terminated = true ∨
    CompletesAlone config final socket

/--
The message is handled without an exception, and its handling ends with a reply.
-/
def Answers
    (config : Config)
    (state : Coordinator)
    (socket : Socket)
    (message : Message) : Prop :=
  ∃ after actions,
    step? config state (.receive socket message) = some (after, actions) ∧
      after.terminated = false ∧
      (endsWithReply actions socket = true ∨ RepliesLater config after socket)

/-- The message submits a request that the planner throws on. -/
def throwsOn (state : Coordinator) (message : Message) : Prop :=
  message.type = .submitRequest ∧
    message.request.id.isNull = false ∧
    message.request.id ∉ state.ledger.cancelled ∧
    message.request.Unplannable

variable
  {config : Config}
  {before after : Coordinator}
  {socket : Socket}
  {message : Message}
  {event : Event}
  {actions : List Action}

/-! ## Handlers that reply at once -/

theorem terminated_handleMessage
    (other : message.type ≠ .submitRequest) :
    (handleMessage config before socket message).1.terminated =
      before.terminated := by
  unfold handleMessage
  cases kind : message.type with
  | submitRequest => exact (other kind).elim
  | commitRequest =>
      simp only [beginCommit]
      split <;> rfl
  | _ => rfl

/-- Apart from submissions and commits a handler ends with its reply. -/
theorem endsWithReply_handleMessage
    (unsubmitted : message.type ≠ .submitRequest)
    (uncommitted : message.type ≠ .commitRequest) :
    endsWithReply (handleMessage config before socket message).2 socket =
      true := by
  unfold handleMessage
  cases kind : message.type with
  | submitRequest => exact (unsubmitted kind).elim
  | commitRequest => exact (uncommitted kind).elim
  | cancel =>
      simp only [withLedger, Ledger.handleCancel]
      split
      · exact endsWithReply_send _ _
      · exact endsWithReply_append_send _ _ _
  | supersede => exact endsWithReply_append_send _ _ _
  | executionHandoff =>
      simp only [withLedger, Ledger.handleExecutionHandoff]
      split
      · exact endsWithReply_send _ _
      · split
        · exact endsWithReply_append_send _ _ _
        · exact endsWithReply_send _ _
  | _ => exact endsWithReply_send _ _

/-! ## Submissions -/

/-- A submission has no reply exactly when the planner throws on it. -/
theorem handleSubmitRequest_eq_none_iff
    (ledger : Ledger)
    (snapshot : EvidenceSnapshot)
    (weights : RankingWeights)
    (bounds : Bounds)
    (request : CommunicationRequest) :
    (ledger.handleSubmitRequest snapshot weights bounds request).2 = none ↔
      request.id.isNull = false ∧ request.id ∉ ledger.cancelled ∧
        request.Unplannable := by
  have throws :
      (∃ exception,
        (planCommunication request snapshot weights bounds).run
            ledger.counters =
          .error exception) ↔
        request.Unplannable :=
    planCommunication_throws_iff ledger.counters
  unfold Ledger.handleSubmitRequest
  split_ifs with isNull isCancelled
  · simp [isNull]
  · simp [isCancelled]
  · simp only [Bool.not_eq_true] at isNull
    simp only [isNull, isCancelled, not_false_eq_true, true_and, ← throws]
    split
    · rename_i exception threw
      simp [threw]
    · rename_i outcome counters ran
      simp only [ran]
      split <;> simp

/-! ## Commits -/

theorem endsWithReply_finishCommit
    (ledger : Ledger)
    (commit : Commit)
    (failure : Option Text) :
    endsWithReply (ledger.finishCommit socket commit failure).2 socket =
      true := by
  unfold Ledger.finishCommit
  cases ledger.plans[commit.planId]? with
  | none => exact endsWithReply_append_send _ _ _
  | some record =>
      by_cases undone : ledger.undoes record = true
      · simp only [undone, if_true]
        exact endsWithReply_append_send _ _ _
      · simp only [undone, Bool.false_eq_true, if_false]
        cases failure <;> exact endsWithReply_send _ _

/-- Only its own second critical section ends a commit. -/
theorem busy_or_replied_of_step?
    (stepped : step? config before event = some (after, actions))
    (busy : (before.commitAt socket).isSome = true) :
    (event = .finish socket ∧ endsWithReply actions socket = true) ∨
      (after.commitAt socket).isSome = true := by
  rw [commitAt_of_step? stepped socket]
  cases taken_of_step? stepped with
  | receive other message listening =>
      right
      have isOther : other ≠ socket := by
        rintro rfl
        rw [commitAt_of_listens listening] at busy
        cases busy
      simpa [commitAfter, isOther] using busy
  | acquire other commit waiting =>
      right
      by_cases own : other = socket
      · simp [commitAfter, own, own ▸ waiting]
      · simpa [commitAfter, own] using busy
  | finish other commit failure decided =>
      by_cases own : other = socket
      · subst own
        exact .inl ⟨rfl, endsWithReply_finishCommit _ _ _⟩
      · right
        simpa [commitAfter, own] using busy
  | accept | undecodable | disconnect | saveStore => exact .inr busy

variable (config) in
theorem step?_finish
    {state : Coordinator}
    {commit : Commit}
    {failure : Option Text}
    (running : state.terminated = false)
    (busy : state.connections[socket]? = some (.acquired commit failure)) :
    ∃ after actions,
      step? config state (.finish socket) = some (after, actions) ∧
        endsWithReply actions socket = true ∧
        after.terminated = false := by
  obtain ⟨after, actions, stepped⟩ :
      ∃ after actions,
        step? config state (.finish socket) = some (after, actions) := by
    simp only [step?, finish, running, busy, Bool.false_eq_true, if_false]
    exact ⟨_, _, rfl⟩
  refine ⟨after, actions, stepped, ?_⟩
  cases taken_of_step? stepped with
  | finish =>
      exact ⟨endsWithReply_finishCommit _ _ _,
        (terminated_resume _ _).trans running⟩

theorem completesAlone_of_acquired
    {state : Coordinator}
    {commit : Commit}
    {failure : Option Text}
    (running : state.terminated = false)
    (busy : state.connections[socket]? = some (.acquired commit failure)) :
    CompletesAlone config state socket := by
  obtain ⟨done, outputs, finished, replied, alive⟩ :=
    step?_finish config running busy
  refine ⟨[], ⟨state, .finish socket, outputs, done⟩, done, ?_, replied, alive⟩
  simp [ownEvents, busy, replay?, finished]

theorem completesAlone_of_acquiring
    {state : Coordinator}
    {commit : Commit}
    (running : state.terminated = false)
    (busy : state.connections[socket]? = some (.acquiring commit)) :
    CompletesAlone config state socket := by
  obtain ⟨between, outputs, acquired, alive, decided⟩ :
      ∃ between outputs,
        step? config state (.acquire socket) = some (between, outputs) ∧
          between.terminated = false ∧
          ∃ failure,
            between.connections[socket]? = some (.acquired commit failure) := by
    simp only [step?, acquire, running, busy, Bool.false_eq_true, if_false]
    exact ⟨_, _, rfl, rfl, _, Std.ExtTreeMap.getElem?_insert_self⟩
  obtain ⟨failure, decided⟩ := decided
  obtain ⟨done, replies, finished, replied, aliveStill⟩ :=
    step?_finish config alive decided
  refine
    ⟨[⟨state, .acquire socket, outputs, between⟩],
      ⟨between, .finish socket, replies, done⟩, done, ?_, replied, aliveStill⟩
  simp [ownEvents, busy, replay?, acquired, finished]

/-- The thread of a commit can finish it, as long as the process lives. -/
theorem completesAlone_of_busy
    {state : Coordinator}
    (running : state.terminated = false)
    (busy : (state.commitAt socket).isSome = true) :
    CompletesAlone config state socket := by
  obtain ⟨connection, found⟩ := Option.isSome_iff_exists.mp busy
  simp only [commitAt, Option.filter_eq_some_iff] at found
  cases connection with
  | receiving => cases found.2
  | acquiring commit => exact completesAlone_of_acquiring running found.1
  | acquired commit failure => exact completesAlone_of_acquired running found.1

theorem repliesLater_of_busy
    (busy : (after.commitAt socket).isSome = true) :
    RepliesLater config after socket := by
  intro later final run
  have reached :
      (∃ step ∈ later,
        step.event = .finish socket ∧
          endsWithReply step.outputs socket = true) ∨
        (final.commitAt socket).isSome = true := by
    induction run with
    | nil => exact .inr busy
    | snoc earlier last inductionHypothesis =>
        rcases inductionHypothesis with ⟨step, member, replied⟩ | stillBusy
        · exact .inl ⟨step, List.mem_append_left _ member, replied⟩
        · rcases busy_or_replied_of_step? last stillBusy with replied | busyAfter
          · exact .inl ⟨⟨_, _, _, _⟩,
              List.mem_append_right _ (List.mem_singleton.mpr rfl), replied⟩
          · exact .inr busyAfter
  rcases reached with replied | stillBusy
  · exact .inl replied
  · cases running : final.terminated with
    | true => exact .inr (.inl rfl)
    | false => exact .inr (.inr (completesAlone_of_busy running stillBusy))

/-- The first critical section either answers or leaves the thread busy. -/
theorem replied_or_busy_of_beginCommit
    (state : Coordinator)
    (socket : Socket)
    (message : Message) :
    endsWithReply (state.beginCommit socket message).2 socket = true ∨
      ((state.beginCommit socket message).1.commitAt socket).isSome = true := by
  unfold beginCommit
  cases state.ledger.beginCommit message.planId with
  | error reply => exact .inl (endsWithReply_send _ _)
  | ok begun =>
      right
      simp [commitAt, Connection.planId?]

/-! ## Every message -/

/-- The process lives on after a submission unless the planner throws. -/
theorem terminated_submit
    (state : Coordinator)
    (running : state.terminated = false) :
    (submit config state socket message).1.terminated =
      (state.ledger.handleSubmitRequest state.registry.snap config.weights
        config.bounds message.request).2.isNone := by
  unfold submit
  split <;> rename_i handled <;> simp [handled, running]

theorem endsWithReply_submit
    (state : Coordinator)
    (replied :
      (state.ledger.handleSubmitRequest state.registry.snap config.weights
        config.bounds message.request).2 ≠ none) :
    endsWithReply (submit config state socket message).2 socket = true := by
  obtain ⟨reply, isReply⟩ := Option.ne_none_iff_exists'.mp replied
  rw [outputs_submit, isReply]
  exact endsWithReply_send _ _

/-- A live coordinator answers every message that reaches it, except a submission
that the planner throws on: that one ends the process. -/
theorem message_is_answered_iff
    {state : Coordinator}
    (running : state.terminated = false)
    (listening : state.listens socket = true) :
    Answers config state socket message ↔ ¬state.throwsOn message := by
  have stepped :
      step? config state (.receive socket message) =
        some
          ((handleMessage config state socket message).1.resume socket,
            (handleMessage config state socket message).2) := by
    simp only [step?, running, listening, Bool.false_eq_true, if_false, if_true]
  have unanswered :
      message.type = .submitRequest →
        ((state.ledger.handleSubmitRequest state.registry.snap config.weights
            config.bounds message.request).2 = none ↔
          state.throwsOn message) := by
    intro submitted
    rw [handleSubmitRequest_eq_none_iff]
    simp [throwsOn, submitted]
  constructor
  · rintro ⟨after, actions, taken, alive, _⟩ throws
    have silent := (unanswered throws.1).mpr throws
    rw [stepped] at taken
    cases taken
    rw [terminated_resume, handleMessage, throws.1] at alive
    simp only [terminated_submit state running, silent] at alive
    cases alive
  · intro returns
    refine ⟨_, _, stepped, ?_, ?_⟩
    · rw [terminated_resume]
      by_cases submitted : message.type = .submitRequest
      · rw [handleMessage, submitted]
        simp only [terminated_submit state running]
        rw [Option.isNone_eq_false_iff, Option.isSome_iff_ne_none]
        exact fun silent => returns ((unanswered submitted).mp silent)
      · exact (terminated_handleMessage submitted).trans running
    · by_cases submitted : message.type = .submitRequest
      · left
        rw [handleMessage, submitted]
        exact endsWithReply_submit state fun silent =>
          returns ((unanswered submitted).mp silent)
      by_cases committing : message.type = .commitRequest
      · rw [handleMessage, committing]
        rcases replied_or_busy_of_beginCommit state socket message with
          replied | busy
        · exact .inl replied
        · refine .inr (repliesLater_of_busy ?_)
          rwa [commitAt_resume]
      · exact .inl (endsWithReply_handleMessage submitted committing)

theorem direct_request_is_answered :
    ∃ past state,
      ProcessRun defaultConfig none past state ∧
        Answers defaultConfig state ⟨4⟩
          (CoordinatorClient.submitRequest (directRequest ⟨5⟩)) := by
  have checked :
      (replay? (step? defaultConfig) (start none)
        (deployment ⟨4⟩ ⟨1⟩)).any
        (fun reached =>
          !reached.2.terminated && reached.2.listens ⟨4⟩) =
        true := by
    decide +kernel
  obtain ⟨past, state, reached, holds⟩ := exists_run_of_replay? checked
  rw [Bool.and_eq_true, Bool.not_eq_true'] at holds
  refine ⟨past, state, reached, ?_⟩
  refine (message_is_answered_iff holds.1 holds.2).mpr ?_
  rintro ⟨_, _, _, unplannable⟩
  have plannable : ¬(directRequest ⟨5⟩).Unplannable := by decide
  exact plannable unplannable

/-- A request that the decoder accepts and `validate` does not. -/
def ungeneratedRequest : CommunicationRequest :=
  { directRequest ⟨5⟩ with generation := ⟨0⟩ }

/-- The request without a generation arrives, and ends the process. -/
theorem ungenerated_request_ends_process :
    ∃ past state after,
      ProcessRun defaultConfig none past state ∧
        decodeMessage .submitRequest
            (encodeMessage
              (CoordinatorClient.submitRequest ungeneratedRequest)) =
          .ok (CoordinatorClient.submitRequest ungeneratedRequest) ∧
        step? defaultConfig state
            (.receive ⟨4⟩
              (CoordinatorClient.submitRequest ungeneratedRequest)) =
          some (after, []) ∧
        after.terminated = true := by
  have fits : (CoordinatorClient.submitRequest ungeneratedRequest).Fits := by
    constructor <;> decide
  have checked :
      (replay? (step? defaultConfig) (start none)
        (deployment ⟨4⟩ ⟨1⟩)).any
        (fun reached =>
          (step? defaultConfig reached.2
            (.receive ⟨4⟩
              (CoordinatorClient.submitRequest ungeneratedRequest))).any
            fun stepped => stepped.1.terminated && stepped.2.isEmpty) =
        true := by
    decide +kernel
  obtain ⟨past, state, reached, holds⟩ := exists_run_of_replay? checked
  obtain ⟨⟨after, actions⟩, stepped, ended⟩ :=
    (Option.any_eq_true _ _).mp holds
  rw [Bool.and_eq_true, List.isEmpty_iff] at ended
  obtain ⟨terminated, silent⟩ := ended
  cases silent
  exact ⟨past, state, after, reached, decodeMessage_encodeMessage fits,
    stepped, terminated⟩

end Coordinator

end CommunicationPlanner
