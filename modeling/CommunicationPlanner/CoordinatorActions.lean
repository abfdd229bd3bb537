import CommunicationPlanner.CoordinatorSteps

namespace CommunicationPlanner

namespace Coordinator

/-!
# Commits under way and actions

Two more inversions of a step: `commitAt_of_step?` says how the commit of one
connection moves through the call of the broker to its second critical section,
and `emits_of_step?` says where `EXECUTE` frames, acquires and releases come
from.
-/

variable
  {config : Config}
  {before after : Coordinator}
  {event : Event}
  {actions : List Action}

/-! ## Commits under way -/

/-- The commit of a connection after an event that the machine takes. -/
def commitAfter
    (state : Coordinator)
    (socket : Socket) : Event → Option Connection
  | .receive other message =>
      if other = socket ∧ message.type = .commitRequest then
        match state.ledger.beginCommit message.planId with
        | .error _ => none
        | .ok (_, commit) => some (.acquiring commit)
      else
        state.commitAt socket
  | .acquire other =>
      if other = socket then
        match state.connections[other]? with
        | some (.acquiring commit) =>
            some (.acquired commit
              (state.ledger.broker.acquire commit.resources commit.sizes).2)
        | _ => none
      else
        state.commitAt socket
  | .finish other =>
      if other = socket then none else state.commitAt socket
  | _ => state.commitAt socket

/-- Only a `COMMIT_REQUEST` changes what a connection is at. -/
theorem connections_handleMessage
    {socket : Socket}
    {message : Message}
    (other : message.type ≠ .commitRequest) :
    (handleMessage config before socket message).1.connections =
      before.connections := by
  unfold handleMessage
  cases kind : message.type with
  | commitRequest => exact (other kind).elim
  | submitRequest =>
      simp only [submit]
      split <;> rfl
  | _ => rfl

/-- A message begins a commit on its own connection or none. -/
private theorem commitAt_handleMessage
    {socket other : Socket}
    {message : Message}
    (listening : before.listens socket = true) :
    (handleMessage config before socket message).1.commitAt other =
      before.commitAfter other (.receive socket message) := by
  by_cases kind : message.type = .commitRequest
  · simp only [handleMessage, kind, beginCommit, commitAfter, and_true]
    cases begun : before.ledger.beginCommit message.planId with
    | error reply =>
        split_ifs with isSocket
        · subst isSocket
          exact commitAt_of_listens listening
        · rfl
    | ok committing =>
        exact commitAt_insert { before with ledger := committing.1 } socket
          other (.acquiring committing.2)
  · have unchanged :
        (handleMessage config before socket message).1.commitAt other =
          before.commitAt other := by
      simp only [commitAt, connections_handleMessage kind]
    rw [unchanged]
    simp [commitAfter, kind]

/-- How a step changes the commit of a connection. -/
theorem commitAt_of_step?
    (stepped : step? config before event = some (after, actions))
    (other : Socket) :
    after.commitAt other = before.commitAfter other event := by
  cases taken_of_step? stepped with
  | receive socket message listening =>
      rw [commitAt_resume]
      exact commitAt_handleMessage listening
  | accept socket fresh =>
      rw [commitAt_resume, commitAt_insert]
      split_ifs with isSocket
      · subst isSocket
        simp [commitAfter, commitAt, Std.ExtTreeMap.getElem?_eq_none fresh,
          Connection.planId?]
      · rfl
  | undecodable =>
      rw [commitAt_resume]
      rfl
  | acquire socket commit busy =>
      have inserted := commitAt_insert
        { before with
          ledger :=
            { before.ledger with
              broker :=
                (before.ledger.broker.acquire commit.resources
                  commit.sizes).1 } }
        socket other
        (.acquired commit
          (before.ledger.broker.acquire commit.resources commit.sizes).2)
      rw [inserted]
      simp only [commitAfter, busy]
      rfl
  | finish socket commit failure busy =>
      rw [commitAt_resume]
      exact commitAt_insert
        { before with
          ledger := (before.ledger.finishCommit socket commit failure).1 }
        socket other .receiving
  | disconnect socket listening =>
      exact @commitAt_erase
        { before with registry := before.registry.disconnect socket }
        socket (connections_of_listens listening) other
  | saveStore =>
      rfl

/-- The ledger after the first critical section of a commit. -/
theorem ledger_of_beginCommit
    {socket : Socket}
    {message : Message}
    (kind : message.type = .commitRequest)
    (stepped :
      step? config before (.receive socket message) =
        some (after, actions)) :
    after.ledger =
      match before.ledger.beginCommit message.planId with
      | .error _ => before.ledger
      | .ok (ledger, _) => ledger := by
  cases taken_of_step? stepped with
  | receive _ _ listening =>
      simp only [ledger_resume, handleMessage, kind, beginCommit]
      cases before.ledger.beginCommit message.planId <;> rfl

/-! ## Actions -/

/-- Where the actions of a step come from. -/
inductive Emits
    (state : Coordinator) : Event → Action → Prop where
  | reply
      (event : Event)
      (socket : Socket)
      (message : Message)
      (quiet : message.type ≠ .execute) :
      Emits state event (.send socket message)
  | execute
      (socket : Socket)
      (message : Message)
      (record : PlanRecord)
      (info : WorkerInfo)
      (frame : Message)
      (kind : message.type = .executionHandoff)
      (found : state.ledger.plans[message.planId]? = some record)
      (passed :
        (revalidatePlan record.plan state.registry.snap).ok = true)
      (executor : state.registry.workers[record.worker]? = some info)
      (alive : info.alive = true)
      (named : frame.planId = record.plan.id)
      (authority : frame.worker = record.worker ∧ frame.boot = record.boot) :
      Emits state (.receive socket message) (.send info.sock frame)
  | acquire
      (socket : Socket)
      (commit : Commit)
      (busy : state.connections[socket]? = some (.acquiring commit)) :
      Emits state (.acquire socket)
        (.acquire commit.planId commit.resources
          (state.ledger.broker.acquire commit.resources
            commit.sizes).2.isNone)
  | cancel
      (socket : Socket)
      (message : Message)
      (record : PlanRecord)
      (kind : message.type = .cancel)
      (found : state.ledger.plans[message.planId]? = some record)
      (holding : Ledger.holdsClaims record.state = true) :
      Emits state (.receive socket message)
        (.release message.planId record.plan.requiredResourceClaims)
  | supersede
      (socket : Socket)
      (message : Message)
      (record : PlanRecord)
      (kind : message.type = .supersede)
      (found : state.ledger.plans[message.planId]? = some record)
      (unfinished :
        record.state ≠ .completed ∧ record.state ≠ .cancelled) :
      Emits state (.receive socket message)
        (.release message.planId record.plan.requiredResourceClaims)
  | undo
      (socket : Socket)
      (commit : Commit)
      (busy : state.connections[socket]? = some (.acquired commit none))
      (undone :
        ∀ record, state.ledger.plans[commit.planId]? = some record →
          state.ledger.undoes record = true) :
      Emits state (.finish socket)
        (.release commit.planId commit.resources)

/-- Every answer to a message of the registry is a result or an error. -/
private theorem quiet_registry
    (registry : Registry)
    (socket : Socket)
    (message : Message) :
    (registry.handleRegister socket message).2.type ≠ .execute ∧
      (registry.handlePublishEndpoint message).2.type ≠ .execute ∧
      (registry.handlePublishLink message).2.type ≠ .execute ∧
      (registry.handlePublishCapacity message).2.type ≠ .execute ∧
      (registry.handlePublishCongestion message).2.type ≠ .execute := by
  refine ⟨?_, ?_, ?_, ?_, ?_⟩
  · unfold Registry.handleRegister
    split_ifs <;> simp [errorMessage, okMessage, resultMessage]
  · unfold Registry.handlePublishEndpoint
    split
    · simp [Registry.stalePublisher, errorMessage]
    · split_ifs <;>
        simp [Registry.stalePublisher, errorMessage, okMessage, resultMessage]
  · unfold Registry.handlePublishLink
    split
    · simp [Registry.stalePublisher, errorMessage]
    · split_ifs <;>
        simp [Registry.stalePublisher, errorMessage, okMessage, resultMessage]
  · unfold Registry.handlePublishCapacity
    split_ifs <;>
      simp [Registry.stalePublisher, errorMessage, okMessage, resultMessage]
  · unfold Registry.handlePublishCongestion
    split_ifs <;>
      simp [Registry.stalePublisher, errorMessage, okMessage, resultMessage]

/-- A single quiet frame. -/
private theorem emits_reply
    {socket : Socket}
    {message : Message}
    (quiet : message.type ≠ .execute) :
    ∀ action ∈ [Action.send socket message],
      Emits before event action := by
  intro action member
  rw [List.mem_singleton.mp member]
  exact .reply event socket message quiet

/-- A result is no `EXECUTE` frame. -/
private theorem quiet_resultMessage
    (ok : Bool)
    (planId : CommunicationPlanId) :
    (resultMessage ok planId).type ≠ .execute := by
  simp [resultMessage]

/-- An error is no `EXECUTE` frame. -/
private theorem quiet_errorMessage
    (detail : Text) :
    (errorMessage detail).type ≠ .execute := by
  simp [errorMessage]

/-- A submission emits its reply. -/
private theorem emits_submit
    (socket : Socket)
    (message : Message) :
    ∀ action ∈ (submit config before socket message).2,
      Emits before (.receive socket message) action := by
  unfold submit
  split
  · rename_i ledger reply handled
    refine emits_reply ?_
    unfold Ledger.handleSubmitRequest at handled
    simp only at handled
    split_ifs at handled
    · cases handled
      exact quiet_errorMessage _
    · cases handled
      exact quiet_errorMessage _
    · split at handled
      · cases handled
      · split at handled <;> cases handled <;> simp
  · simp

/-- A handoff emits its reply and one `EXECUTE` frame at most. -/
private theorem emits_handoff
    {socket : Socket}
    {message : Message}
    (kind : message.type = .executionHandoff) :
    ∀ action ∈
        (before.ledger.handleExecutionHandoff before.registry socket
          message.planId).2,
      Emits before (.receive socket message) action := by
  unfold Ledger.handleExecutionHandoff
  split
  · exact emits_reply (quiet_resultMessage _ _)
  · rename_i record found
    split_ifs with passed
    · intro action member
      rcases List.mem_append.mp member with frame | answer
      · unfold Ledger.executeFrame at frame
        split_ifs at frame with null
        · cases frame
        · split at frame
          · cases frame
          · rename_i info executor
            split_ifs at frame with alive
            · rw [List.mem_singleton.mp frame]
              have isAlive : info.alive = true := by
                simp only [Bool.and_eq_true] at alive
                exact alive.1
              exact .execute socket message record info _ kind found passed
                executor isAlive rfl ⟨rfl, rfl⟩
            · cases frame
      · exact emits_reply (quiet_resultMessage _ _) action answer
    · exact emits_reply (quiet_resultMessage _ _)

/-- A cancellation emits its reply and the releases that it makes. -/
private theorem emits_cancel
    {socket : Socket}
    {message : Message}
    (kind : message.type = .cancel) :
    ∀ action ∈ (before.ledger.handleCancel socket message).2,
      Emits before (.receive socket message) action := by
  unfold Ledger.handleCancel
  simp only
  split
  · exact emits_reply (quiet_resultMessage _ _)
  · rename_i record found
    intro action member
    rcases List.mem_append.mp member with released | answer
    · split_ifs at released with holding
      · rw [List.mem_singleton.mp released]
        exact .cancel socket message record kind found holding
      · cases released
    · exact emits_reply (quiet_resultMessage _ _) action answer

/-- A supersession emits its reply and the releases that it makes. -/
private theorem emits_supersede
    {socket : Socket}
    {message : Message}
    (kind : message.type = .supersede) :
    ∀ action ∈ (before.ledger.handleSupersede socket message).2,
      Emits before (.receive socket message) action := by
  intro action member
  simp only [Ledger.handleSupersede] at member
  rcases List.mem_append.mp member with released | answer
  · unfold Ledger.supersedeNamed at released
    split at released
    · cases released
    · rename_i record found
      split_ifs at released with unfinished
      · rw [List.mem_singleton.mp released]
        exact .supersede socket message record kind found unfinished
      · cases released
  · exact emits_reply (quiet_resultMessage _ _) action answer

/-- The end of a commit emits its reply. -/
private theorem emits_finishCommit
    {socket : Socket}
    {commit : Commit}
    {failure : Option Text}
    (busy :
      before.connections[socket]? = some (.acquired commit failure)) :
    ∀ action ∈ (before.ledger.finishCommit socket commit failure).2,
      Emits before (.finish socket) action := by
  have givenBack :
      (∀ record, before.ledger.plans[commit.planId]? = some record →
        before.ledger.undoes record = true) →
      ∀ action ∈
        (if failure.isNone then
          (before.ledger.release commit.resources,
            [Action.release commit.planId commit.resources])
        else
          (before.ledger, [])).2,
        Emits before (.finish socket) action := by
    intro undone action member
    cases failure with
    | some error => cases member
    | none =>
        rw [List.mem_singleton.mp member]
        exact .undo socket commit busy undone
  unfold Ledger.finishCommit
  simp only
  split
  · rename_i missing
    intro action member
    rcases List.mem_append.mp member with released | answer
    · refine givenBack ?_ action released
      intro record found
      rw [missing] at found
      cases found
    · exact emits_reply (quiet_errorMessage _) action answer
  · rename_i record found
    split
    · rename_i undone
      intro action member
      rcases List.mem_append.mp member with released | answer
      · refine givenBack ?_ action released
        intro other alsoFound
        rw [found] at alsoFound
        cases alsoFound
        exact undone
      · exact emits_reply (quiet_errorMessage _) action answer
    · split
      · exact emits_reply (quiet_errorMessage _)
      · exact emits_reply (quiet_resultMessage _ _)

/-- Where the actions of a step come from. -/
theorem emits_of_step?
    (stepped : step? config before event = some (after, actions)) :
    ∀ action ∈ actions, Emits before event action := by
  cases taken_of_step? stepped with
  | receive socket message listening =>
      obtain ⟨register, publishEndpoint, publishLink, publishCapacity,
        publishCongestion⟩ := quiet_registry before.registry socket message
      unfold handleMessage
      cases kind : message.type with
      | register => exact emits_reply register
      | publishEndpoint => exact emits_reply publishEndpoint
      | publishLink => exact emits_reply publishLink
      | publishCapacity => exact emits_reply publishCapacity
      | publishCongestion => exact emits_reply publishCongestion
      | queryPlan =>
          refine emits_reply ?_
          unfold Ledger.handleQueryPlan
          split <;> exact quiet_resultMessage _ _
      | submitRequest => exact emits_submit socket message
      | commitRequest =>
          simp only [beginCommit]
          split
          · rename_i reply refused
            refine emits_reply ?_
            unfold Ledger.beginCommit at refused
            split at refused
            · cases refused
              exact quiet_errorMessage _
            · split_ifs at refused <;> cases refused <;>
                exact quiet_errorMessage _
          · simp
      | revalidate =>
          refine emits_reply ?_
          split
          · exact quiet_resultMessage _ _
          · split <;> exact quiet_resultMessage _ _
      | executionHandoff => exact emits_handoff kind
      | executionResult =>
          refine emits_reply ?_
          split
          · exact quiet_resultMessage false message.planId
          · split
            · exact quiet_resultMessage false message.planId
            · split
              · exact quiet_errorMessage _
              · exact quiet_resultMessage _ _
      | cancel => exact emits_cancel kind
      | supersede => exact emits_supersede kind
      | save => exact emits_reply (quiet_resultMessage _ _)
      | shutdown => exact emits_reply (quiet_resultMessage _ _)
      | hello | publishTopology | planResult | commitResult | execute
      | error => exact emits_reply (quiet_errorMessage _)
  | accept socket fresh => exact emits_reply (by simp)
  | undecodable socket detail listening =>
      exact emits_reply (quiet_errorMessage _)
  | acquire socket commit busy =>
      intro action member
      rw [List.mem_singleton.mp member]
      exact .acquire socket commit busy
  | finish socket commit failure busy => exact emits_finishCommit busy
  | disconnect | saveStore => simp

end Coordinator

end CommunicationPlanner
