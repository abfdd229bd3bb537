import CommunicationPlanner.Conversations

namespace CommunicationPlanner

open TransitionRun RequestReply

/-!
# Stopping

After a `SHUTDOWN` every thread leaves its loop where it would read its next
message.  A thread that is waiting for one reads it, and one that is in the
middle of a commit ends the commit; a connection that arrives now is greeted and
closed.  So a rank of three steps a connection runs out, and nothing can keep
the coordinator from coming to rest.

Meanwhile the main thread calls `stop`, which closes the sockets of all
connections and then waits for the threads.  None of them needs its socket to
come to its end: a thread that waits for a message finds that there is none, and
a commit is ended without its client.  What such a commit replies is handed to a
socket that is closed.
-/

namespace Coordinator

variable
  {config : Config}
  {store : Option (List UInt8)}
  {trace : List CoordinatorStep}
  {before after final : Coordinator}
  {event : Event}
  {actions : List Action}

/-- The thread of the connection does something: a step on it but its accept. -/
def worksOn (socket : Socket) (step : CoordinatorStep) : Bool :=
  match step.event with
  | .accept _ => false
  | event => event.socket? = some socket

/-- The thread of the connection reads from it. -/
def readsOn (socket : Socket) (step : CoordinatorStep) : Bool :=
  match step.event with
  | .receive other _ | .undecodable other _ | .disconnect other =>
      other = socket
  | _ => false

/-- How many steps are left to a thread that reads no second message. -/
def stepsLeft (state : Coordinator) (socket : Socket) : Nat :=
  match state.connections[socket]? with
  | none => 0
  | some (.acquired _ _) => 1
  | some (.acquiring _) => 2
  | some .receiving => 3

/-- Whether the thread has a message left to read. -/
def readsLeft (state : Coordinator) (socket : Socket) : Nat :=
  if state.listens socket then 1 else 0

/-! ## One step of a stopping coordinator -/

/-- A thread that goes on does not reset the flag. -/
@[simp] theorem stopping_resume
    (state : Coordinator)
    (socket : Socket) :
    (state.resume socket).stopping = state.stopping := by
  unfold resume
  split
  · split <;> rfl
  · rfl

/-- No message resets the flag. -/
theorem stopping_handleMessage
    {socket : Socket}
    {message : Message}
    (stopping : before.stopping = true) :
    (handleMessage config before socket message).1.stopping = true := by
  unfold handleMessage
  cases message.type with
  | submitRequest =>
      simp only [submit]
      split <;> exact stopping
  | commitRequest =>
      simp only [beginCommit]
      split <;> exact stopping
  | shutdown => rfl
  | _ => exact stopping

/-- No step resets the flag. -/
theorem stopping_of_step?
    (stepped : step? config before event = some (after, actions))
    (stopping : before.stopping = true) :
    after.stopping = true := by
  cases taken_of_step? stepped with
  | receive socket message listening =>
      rw [stopping_resume]
      exact stopping_handleMessage stopping
  | accept | undecodable | finish =>
      rw [stopping_resume]
      exact stopping
  | acquire | disconnect | saveStore => exact stopping

/-- What a step leaves of the connection it happens on. -/
inductive Closes (before after : Option Connection) : Event → Prop where
  | greeted
      (socket : Socket)
      (was : before = none)
      (is : after = none) :
      Closes before after (.accept socket)
  | read
      (event : Event)
      (was : before = some .receiving)
      (is : after = none) :
      Closes before after event
  | begun
      (socket : Socket)
      (message : Message)
      (commit : Commit)
      (was : before = some .receiving)
      (is : after = some (.acquiring commit)) :
      Closes before after (.receive socket message)
  | acquired
      (socket : Socket)
      (commit : Commit)
      (failure : Option Text)
      (was : before = some (.acquiring commit))
      (is : after = some (.acquired commit failure)) :
      Closes before after (.acquire socket)
  | finished
      (socket : Socket)
      (commit : Commit)
      (failure : Option Text)
      (was : before = some (.acquired commit failure))
      (is : after = none) :
      Closes before after (.finish socket)

/-- The loop of a thread that would read again ends. -/
theorem closed_of_resume
    {state : Coordinator}
    {socket : Socket}
    (receiving : state.connections[socket]? = some .receiving)
    (stopping : state.stopping = true) :
    (state.resume socket).connections[socket]? = none := by
  have listening : state.listens socket = true := by
    simp [listens, receiving]
  rw [getElem?_connections_resume, if_pos ⟨rfl, listening, stopping⟩]

/-- Behind the flag every step of a connection brings it closer to its end. -/
theorem closes_of_step?
    {socket : Socket}
    (stepped : step? config before event = some (after, actions))
    (stopping : before.stopping = true)
    (here : event.socket? = some socket) :
    Closes before.connections[socket]? after.connections[socket]? event := by
  cases taken_of_step? stepped with
  | saveStore => cases here
  | accept other fresh =>
      cases here
      refine .greeted socket (Std.ExtTreeMap.getElem?_eq_none fresh) ?_
      exact closed_of_resume Std.ExtTreeMap.getElem?_insert_self stopping
  | undecodable other detail listening =>
      cases here
      have receiving := connections_of_listens listening
      exact .read _ receiving (closed_of_resume receiving stopping)
  | disconnect other listening =>
      cases here
      exact .read _ (connections_of_listens listening)
        Std.ExtTreeMap.getElem?_erase_self
  | acquire other commit busy =>
      cases here
      exact .acquired socket commit _ busy Std.ExtTreeMap.getElem?_insert_self
  | finish other commit failure busy =>
      cases here
      refine .finished socket commit failure busy ?_
      exact closed_of_resume Std.ExtTreeMap.getElem?_insert_self stopping
  | receive other message listening =>
      cases here
      have receiving := connections_of_listens listening
      by_cases committing : message.type = .commitRequest
      · simp only [handleMessage, committing, beginCommit]
        split
        · exact .read _ receiving (closed_of_resume receiving stopping)
        · rename_i ledger commit begun
          refine .begun socket message commit receiving ?_
          rw [getElem?_connections_resume]
          simp [listens]
      · refine .read _ receiving (closed_of_resume ?_ ?_)
        · rw [connections_handleMessage committing]
          exact receiving
        · exact stopping_handleMessage stopping

/-- Behind the flag every step of a connection is one less to take. -/
theorem stepsLeft_of_step?
    {step : CoordinatorStep}
    (socket : Socket)
    (stepped :
      step? config step.before step.event = some (step.after, step.outputs))
    (stopping : step.before.stopping = true) :
    step.after.stepsLeft socket + (if worksOn socket step then 1 else 0) ≤
      step.before.stepsLeft socket := by
  unfold stepsLeft
  have atMostOne : (if worksOn socket step then 1 else 0) ≤ 1 := by
    split <;> simp
  by_cases here : step.event.socket? = some socket
  · have closes := closes_of_step? stepped stopping here
    unfold worksOn at atMostOne ⊢
    generalize step.event = event at closes here atMostOne
    cases closes with
    | greeted other was is => simp [was, is]
    | read event was is =>
        rw [was, is]
        simp only
        omega
    | begun other message commit was is =>
        rw [was, is]
        simp only at atMostOne ⊢
        omega
    | acquired other commit failure was is =>
        rw [was, is]
        simp only at atMostOne ⊢
        omega
    | finished other commit failure was is =>
        rw [was, is]
        simp only at atMostOne ⊢
        omega
  · rw [connections_frame_of_step? stepped here]
    have idle : worksOn socket step = false := by
      unfold worksOn
      split <;> simp [here]
    simp [idle]

/-- Behind the flag every read of a connection is one less to make. -/
theorem readsLeft_of_step?
    {step : CoordinatorStep}
    (socket : Socket)
    (stepped :
      step? config step.before step.event = some (step.after, step.outputs))
    (stopping : step.before.stopping = true) :
    step.after.readsLeft socket + (if readsOn socket step then 1 else 0) ≤
      step.before.readsLeft socket := by
  unfold readsLeft listens readsOn
  by_cases here : step.event.socket? = some socket
  · have closes := closes_of_step? stepped stopping here
    generalize step.event = event at closes here
    cases closes with
    | greeted other was is => simp [was, is]
    | read event was is =>
        rw [was, is]
        simp only [Bool.false_eq_true, if_false, if_true, Nat.zero_add]
        split_ifs <;> simp
    | begun other message commit was is =>
        rw [was, is]
        simp only [Bool.false_eq_true, if_false, if_true, Nat.zero_add]
        split_ifs <;> simp
    | acquired other commit failure was is => simp [was, is]
    | finished other commit failure was is => simp [was, is]
  · rw [connections_frame_of_step? stepped here]
    have unread : readsOn socket step = false := by
      unfold readsOn
      generalize step.event = event at here
      cases event <;> simp_all [Event.socket?]
    simp only [readsOn] at unread
    rw [unread]
    simp

/-! ## A run that is asked to stop -/

/-- The step handles a `SHUTDOWN`. -/
def asksToStop (step : CoordinatorStep) : Bool :=
  step.event.message?.any fun message => message.type = .shutdown

/-- A `SHUTDOWN` sets the flag. -/
theorem stopping_of_asksToStop
    {step : CoordinatorStep}
    (stepped :
      step? config step.before step.event = some (step.after, step.outputs))
    (asked : asksToStop step = true) :
    step.after.stopping = true := by
  unfold asksToStop at asked
  generalize step.event = event at stepped asked
  generalize step.outputs = outputs at stepped
  generalize step.after = after at stepped ⊢
  cases taken_of_step? stepped with
  | receive socket message listening =>
      have kind : message.type = .shutdown := by simpa using asked
      rw [stopping_resume]
      simp [handleMessage, kind]
  | accept | undecodable | acquire | finish | disconnect | saveStore =>
      simp [Event.message?] at asked

/-- The flag stays set. -/
theorem stopping_of_run
    {middle : Coordinator}
    (run : Run (step? config) middle trace final)
    (stopping : middle.stopping = true) :
    final.stopping = true := by
  refine run.invariant (fun state => state.stopping = true) stopping ?_
  intro step _ stepped before
  exact stopping_of_step? stepped before

/-- What no step of a stopping coordinator raises bounds what a run does. -/
theorem countP_le_of_stopping
    {middle : Coordinator}
    (run : Run (step? config) middle trace final)
    (stopping : middle.stopping = true)
    (rank : Coordinator → Nat)
    (counted : CoordinatorStep → Bool)
    (falls :
      ∀ step : CoordinatorStep,
        step? config step.before step.event =
            some (step.after, step.outputs) →
        step.before.stopping = true →
        rank step.after + (if counted step then 1 else 0) ≤
          rank step.before) :
    trace.countP counted ≤ rank middle := by
  have bounded := run.countP_add_rank_le rank counted ?_
  · omega
  intro step member
  refine falls step (run.step_of_mem member) ?_
  refine run.invariant_before (fun state => state.stopping = true) stopping ?_
    member
  intro earlier _ stepped before
  exact stopping_of_step? stepped before

/-- No connection has more than three steps to take. -/
theorem stepsLeft_le (state : Coordinator) (socket : Socket) :
    state.stepsLeft socket ≤ 3 := by
  unfold stepsLeft
  split <;> omega

/-- No connection has more than one read to make. -/
theorem readsLeft_le (state : Coordinator) (socket : Socket) :
    state.readsLeft socket ≤ 1 := by
  unfold readsLeft
  split <;> omega

/-! ## The way to rest -/

/-- A thread can do this after `stop` has closed its socket. -/
def needsNoSocket (step : CoordinatorStep) : Bool :=
  match step.event with
  | .acquire _ | .finish _ | .disconnect _ => true
  | .accept _ | .receive _ _ | .undecodable _ _ | .saveStore => false

/-- The state stops, runs, and has just these connections. -/
def StopsWith (state : Coordinator) (connections : Map Socket Connection) :
    Prop :=
  state.terminated = false ∧
  state.stopping = true ∧
  state.connections = connections

theorem erase_insert_self
    (connections : Map Socket Connection)
    (socket : Socket)
    (connection : Connection) :
    (connections.insert socket connection).erase socket =
      connections.erase socket := by
  refine Std.ExtTreeMap.ext_getElem? ?_
  intro other
  simp only [Std.ExtTreeMap.getElem?_erase, Std.ExtTreeMap.getElem?_insert]
  split <;> rfl

/-- A thread that has the broker's answer can finish its commit. -/
theorem exists_finish_of_acquired
    {state : Coordinator}
    {socket : Socket}
    {commit : Commit}
    {failure : Option Text}
    {connections : Map Socket Connection}
    (stops : state.StopsWith connections)
    (busy : connections[socket]? = some (.acquired commit failure)) :
    ∃ after actions,
      step? config state (.finish socket) = some (after, actions) ∧
      after.StopsWith (connections.erase socket) := by
  obtain ⟨running, stopping, rfl⟩ := stops
  simp only [step?, running, finish, busy, Bool.false_eq_true, if_false]
  refine ⟨_, _, rfl, ?_⟩
  simp only [resume, Std.ExtTreeMap.getElem?_insert_self, stopping, if_true]
  exact ⟨rfl, rfl, erase_insert_self _ _ _⟩

/-- A thread that has begun a commit can ask the broker. -/
theorem exists_acquire_of_acquiring
    {state : Coordinator}
    {socket : Socket}
    {commit : Commit}
    {connections : Map Socket Connection}
    (stops : state.StopsWith connections)
    (busy : connections[socket]? = some (.acquiring commit)) :
    ∃ after actions failure,
      step? config state (.acquire socket) = some (after, actions) ∧
      after.StopsWith
        (connections.insert socket (.acquired commit failure)) := by
  obtain ⟨running, stopping, rfl⟩ := stops
  simp only [step?, running, acquire, busy, Bool.false_eq_true, if_false]
  exact ⟨_, _, _, rfl, rfl, stopping, rfl⟩

/-- A thread that waits for a message can find its connection gone. -/
theorem exists_disconnect_of_receiving
    {state : Coordinator}
    {socket : Socket}
    {connections : Map Socket Connection}
    (stops : state.StopsWith connections)
    (waits : connections[socket]? = some .receiving) :
    ∃ after actions,
      step? config state (.disconnect socket) = some (after, actions) ∧
      after.StopsWith (connections.erase socket) := by
  obtain ⟨running, stopping, rfl⟩ := stops
  simp only [step?, running, listens, waits, Bool.false_eq_true, if_false,
    if_true]
  exact ⟨_, _, rfl, rfl, stopping, rfl⟩

/-- The thread of one connection can always go on to its end. -/
theorem exists_run_to_close
    {state : Coordinator}
    {socket : Socket}
    {connection : Connection}
    {connections : Map Socket Connection}
    (stops : state.StopsWith connections)
    (connected : connections[socket]? = some connection) :
    ∃ closing last,
      Run (step? config) state closing last ∧
      (∀ step ∈ closing, needsNoSocket step = true) ∧
      last.StopsWith (connections.erase socket) := by
  cases connection with
  | receiving =>
      obtain ⟨after, actions, left, stopped⟩ :=
        @exists_disconnect_of_receiving config _ _ _ stops connected
      exact ⟨_, after, Run.nil.snoc left, by simp [needsNoSocket], stopped⟩
  | acquired commit failure =>
      obtain ⟨after, actions, finished, stopped⟩ :=
        @exists_finish_of_acquired config _ _ _ _ _ stops connected
      exact ⟨_, after, Run.nil.snoc finished, by simp [needsNoSocket], stopped⟩
  | acquiring commit =>
      obtain ⟨middle, _, failure, acquired, between⟩ :=
        @exists_acquire_of_acquiring config _ _ _ _ stops connected
      obtain ⟨after, _, finished, stopped⟩ :=
        @exists_finish_of_acquired config _ _ _ _ _ between
          Std.ExtTreeMap.getElem?_insert_self
      rw [erase_insert_self] at stopped
      exact ⟨_, after, (Run.nil.snoc acquired).snoc finished,
        by simp [needsNoSocket], stopped⟩

/-- One connection after the other, the coordinator comes to rest. -/
theorem exists_run_to_rest
    {state : Coordinator}
    {connections : Map Socket Connection}
    (stops : state.StopsWith connections) :
    ∃ closing last,
      Run (step? config) state closing last ∧
      (∀ step ∈ closing, needsNoSocket step = true) ∧
      last.StopsWith ∅ := by
  induction size : connections.size generalizing state connections with
  | zero =>
      have none := Std.ExtTreeMap.eq_empty_iff_size_eq_zero.mpr size
      rw [none] at stops
      exact ⟨[], state, .nil, by simp, stops⟩
  | succ count inductionHypothesis =>
      obtain ⟨socket, connection, connected⟩ :
          ∃ socket connection, connections[socket]? = some connection := by
        by_contra unconnected
        have empty : connections = ∅ := by
          refine Std.ExtTreeMap.eq_empty_iff_forall_not_mem.mpr ?_
          intro socket member
          exact unconnected
            ⟨socket, _, Std.ExtTreeMap.getElem?_eq_some_getElem member⟩
        rw [Std.ExtTreeMap.eq_empty_iff_size_eq_zero.mp empty] at size
        cases size
      obtain ⟨first, middle, leading, firstUnsocketed, between⟩ :=
        @exists_run_to_close config _ _ _ _ stops connected
      have smaller : (connections.erase socket).size = count := by
        have member : connections.contains socket = true := by
          rw [Std.ExtTreeMap.contains_eq_isSome_getElem?, connected]
          rfl
        rw [Std.ExtTreeMap.size_erase, if_pos member, size]
        rfl
      obtain ⟨rest, last, trailing, restUnsocketed, rested⟩ :=
        inductionHypothesis between smaller
      refine ⟨first ++ rest, last, leading.append trailing, ?_, rested⟩
      intro step member
      rcases List.mem_append.mp member with inFirst | inRest
      · exact firstUnsocketed step inFirst
      · exact restUnsocketed step inRest

/-! ## The replies that come too late -/

/-- Nothing is read off a socket that is closed. -/
theorem requests_conversation_of_needsNoSocket
    {closing : List CoordinatorStep}
    (unsocketed : ∀ step ∈ closing, needsNoSocket step = true)
    (socket : Socket) :
    requests (conversation socket closing) = [] := by
  unfold requests conversation
  rw [List.filterMap_eq_nil_iff]
  intro mark isMark
  obtain ⟨step, member, passed⟩ := List.mem_flatMap.mp isMark
  have unread : incoming socket step.event = [] := by
    have closed := unsocketed step member
    unfold needsNoSocket at closed
    generalize step.event = event at closed
    cases event <;> simp_all [incoming]
  simp only [passes, unread, List.nil_append, List.mem_append] at passed
  rcases passed with isSent | isEnd
  · obtain ⟨action, _, puts⟩ := List.mem_filterMap.mp isSent
    cases action with
    | send receiver frame =>
        simp only [outgoing] at puts
        split_ifs at puts
        split at puts <;> cases puts <;> rfl
    | acquire | release => cases puts
  · split_ifs at isEnd
    · rw [List.mem_singleton.mp isEnd]
      rfl
    · cases isEnd

/-- At rest every message has got its reply. -/
theorem answered_of_rest
    (run : ProcessRun config store trace final)
    (running : final.terminated = false)
    (empty : final.connections = ∅)
    (socket : Socket) :
    List.Forall₂ (Reply.answers socket)
      (requests (conversation socket trace))
      (replies (conversation socket trace)) := by
  obtain ⟨phase, session, stands⟩ := session_of_run run socket
  obtain ⟨served, whole, answered⟩ := session.paired
  have standing := stands running
  cases phase with
  | closed | idle =>
      rw [whole]
      simpa [Phase.owed] using answered
  | owing request =>
      obtain ⟨message, commit, _, _, found, _⟩ := standing
      simp [empty] at found

/-- Only a commit under way owes a reply. -/
theorem InPhase.length_owed
    {state : Coordinator}
    {socket : Socket}
    {phase : Phase (Option Message)}
    (stands : InPhase state.connections[socket]? phase) :
    phase.owed.length = if (state.commitAt socket).isSome then 1 else 0 := by
  unfold commitAt
  cases phase with
  | closed =>
      have absent : state.connections[socket]? = none := stands
      simp [absent, Phase.owed]
  | idle =>
      have waits : state.connections[socket]? = some .receiving := stands
      simp [waits, Phase.owed, Connection.planId?]
  | owing request =>
      obtain ⟨message, commit, _, _, found, busy⟩ := stands
      simp [found, busy, Phase.owed]

/-! ## A stop as a whole -/

variable
  {past later : List CoordinatorStep}
  {asked : CoordinatorStep}

end Coordinator

end CommunicationPlanner
