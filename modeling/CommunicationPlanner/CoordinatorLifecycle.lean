import CommunicationPlanner.ClaimLeaks
import CommunicationPlanner.Lifecycle
import CommunicationPlanner.PlanBindings
import CommunicationPlanner.PlanHistories

namespace CommunicationPlanner

open TransitionRun

/-!
# The lifecycle that plans really have

No handler consults the table of `PlanLifecycle`.  Here is the table that the
handlers follow instead: for each two states, whether any run of the coordinator
takes a plan of its own from the one to the other.  Most of it can be read off
the handlers; what cannot is why a commit that the broker refuses never fails a
plan that awaits its execution or is completed: such a plan claims nothing, and
nothing is always granted.
-/

/-- The states of the plans that a process has made itself. -/
def PlanState.arises : PlanState → Bool
  | .planReady | .awaitingResourceCommit | .committed | .awaitingExecution
  | .active | .revalidationRequired | .completed | .cancelled | .failed
  | .superseded => true
  | _ => false

/-- The changes of state that the handlers bring about. -/
def coordinatorMoves (source target : PlanState) : Bool :=
  source ≠ target &&
    match target with
    | .awaitingResourceCommit => source = .planReady
    | .committed =>
        source ∈ [.awaitingResourceCommit, .awaitingExecution, .active,
          .revalidationRequired, .completed, .failed]
    | .failed =>
        source ∈ [.awaitingResourceCommit, .committed, .active,
          .revalidationRequired]
    | .completed => source = .active
    | .awaitingExecution | .active | .revalidationRequired | .cancelled
    | .superseded => source.arises
    | _ => false

namespace Coordinator

/-- The step does not draw the identity once it is in the table. -/
def leavesDrawn
    (config : Config)
    (planId : CommunicationPlanId)
    (step : CoordinatorStep) : Bool :=
  (step.before.planState? planId).isNone ||
    step.before.drawn? config step.event ≠ some planId

/--
Some run takes a plan that it did not recover from the one state to the other,
in one step, and does not draw the plan's identity a second time.
-/
def Moves (source target : PlanState) : Prop :=
  ∃ config store trace final planId step,
    ProcessRun config store trace final ∧
    (start store).planState? planId = none ∧
    (∀ taken ∈ trace, leavesDrawn config planId taken = true) ∧
    step ∈ trace ∧
    step.before.planState? planId = some source ∧
    step.after.planState? planId = some target ∧
    source ≠ target

variable
  {config : Config}
  {store : Option (List UInt8)}
  {trace : List CoordinatorStep}
  {before after final : Coordinator}
  {event : Event}
  {actions : List Action}
  {planId : CommunicationPlanId}

/-! ## What holds of a plan of this process -/

/-- The broker of a coordinator is never scripted to fail. -/
theorem failAfter_of_run
    (run : ProcessRun config store trace final) :
    final.ledger.broker.failAfter = -1 := by
  refine run.invariant (fun state => state.ledger.broker.failAfter = -1) ?_ ?_
  · rw [broker_start]
  · intro step _ stepped unscripted
    rw [broker_of_step? stepped]
    unfold brokerAfter MemoryResourceBroker.release
    split
    · exact unscripted
    · split
      · split
        · unfold MemoryResourceBroker.acquire
          simp only [unscripted]
          split_ifs <;> simp_all
        · exact unscripted
      · exact unscripted

/-- A plan of this process, and the commits of it that are under way. -/
structure InProcess
    (planId : CommunicationPlanId)
    (state : Coordinator) : Prop where
  arises :
    ∀ planState,
      state.planState? planId = some planState → planState.arises = true
  claims :
    ∀ record,
      state.ledger.plans[planId]? = some record →
      record.plan.requiredResourceClaims = record.plan.requiredStagingResources
  begun :
    ∀ socket connection commit,
      state.commitAt socket = some connection →
      connection.commit? = some commit →
      commit.planId = planId →
      ∃ record,
        state.ledger.plans[planId]? = some record ∧
        record.state ≠ .planReady ∧
        commit.resources = record.plan.requiredResourceClaims
  refused :
    ∀ socket commit error,
      state.commitAt socket = some (.acquired commit (some error)) →
      commit.resources ≠ []

/-- Nothing is always granted. -/
theorem acquire_nil
    {broker : MemoryResourceBroker}
    {sizes : List Bytes}
    (unscripted : broker.failAfter = -1) :
    (broker.acquire [] sizes).2 = none := by
  simp [MemoryResourceBroker.acquire, unscripted]

/-- The identity of a plan in the table is left to it. -/
theorem undrawn_of_leavesDrawn
    {step : CoordinatorStep}
    {record : PlanRecord}
    (fresh : leavesDrawn config planId step = true)
    (found : step.before.ledger.plans[planId]? = some record) :
    step.before.drawn? config step.event ≠ some planId := by
  simpa [leavesDrawn, planState?, found] using fresh

/-- What is written into a record arises. -/
theorem arises_of_writes
    {record : PlanRecord}
    {new : PlanState}
    (writes : Writes before planId record event new) :
    new.arises = true := by
  cases writes with
  | result => split <;> rfl
  | beginCommit | undo | refuse | commit | revalidate | failRevalidation
  | handoff | cancel | supersede | supersedeOlder => rfl

/-- No handler makes a plan ready. -/
theorem ne_planReady_of_writes
    {record : PlanRecord}
    {new : PlanState}
    (writes : Writes before planId record event new) :
    new ≠ .planReady := by
  cases writes with
  | result => split <;> simp
  | beginCommit | undo | refuse | commit | revalidate | failRevalidation
  | handoff | cancel | supersede | supersedeOlder => simp

/-- A plan that is not ready is not made ready, and keeps its claims. -/
theorem unready_of_step?
    {record : PlanRecord}
    (fresh : leavesDrawn config planId ⟨before, event, actions, after⟩ = true)
    (stepped : step? config before event = some (after, actions))
    (found : before.ledger.plans[planId]? = some record)
    (unready : record.state ≠ .planReady) :
    ∃ changed,
      after.ledger.plans[planId]? = some changed ∧
      changed.state ≠ .planReady ∧
      changed.plan = record.plan := by
  have change : PlanStep config before planId event
      after.ledger.plans[planId]? := planStep_of_step? stepped
  generalize after.ledger.plans[planId]? = result at change
  cases change with
  | same => exact ⟨record, found, unready, rfl⟩
  | written old new known writes =>
      rw [found] at known
      cases known
      exact ⟨_, rfl, ne_planReady_of_writes writes, rfl⟩
  | entered socket message plan received kind produced open_ named drawn =>
      exact (undrawn_of_leavesDrawn fresh found drawn).elim

theorem InProcess.step
    (inProcess : InProcess planId before)
    (unscripted : before.ledger.broker.failAfter = -1)
    (fresh : leavesDrawn config planId ⟨before, event, actions, after⟩ = true)
    (stepped : step? config before event = some (after, actions)) :
    InProcess planId after where
  arises planState found := by
    have change : PlanStep config before planId event
        after.ledger.plans[planId]? := planStep_of_step? stepped
    unfold planState? at found
    generalize after.ledger.plans[planId]? = result at change found
    cases change with
    | same => exact inProcess.arises planState found
    | written old new known writes =>
        cases found
        exact arises_of_writes writes
    | entered =>
        rw [Option.map_some, Ledger.state_newRecord, Option.some.injEq] at found
        subst found
        rfl
  claims record found := by
    have change : PlanStep config before planId event
        after.ledger.plans[planId]? := planStep_of_step? stepped
    rw [found] at change
    generalize isSome : some record = result at change
    cases change with
    | same => exact inProcess.claims record isSome.symm
    | written old new known writes =>
        cases isSome
        exact inProcess.claims old known
    | entered socket message plan received kind produced open_ named =>
        cases isSome
        obtain ⟨outcome, counters, ran, success, returned⟩ := produced
        rw [Ledger.plan_newRecord]
        exact (claims_planCommunication _ _ _ ran success plan returned).claims
  begun socket connection commit busy isCommit named := by
    rcases commit_of_step? stepped busy isCommit with
      ⟨earlier, wasBusy, wasCommit⟩ | ⟨message, ledger, rfl, kind, begun⟩
    · obtain ⟨record, found, unready, isResources⟩ :=
        inProcess.begun socket earlier commit wasBusy wasCommit named
      obtain ⟨changed, now, stillUnready, samePlan⟩ :=
        unready_of_step? fresh stepped found unready
      exact ⟨changed, now, stillUnready, samePlan ▸ isResources⟩
    · obtain ⟨record, found, _, _, isLedger, rfl⟩ :=
        Ledger.beginCommit_eq_ok begun
      subst named
      refine ⟨{ record with state := .awaitingResourceCommit }, ?_, by simp,
        rfl⟩
      rw [ledger_of_beginCommit kind stepped, begun]
      simp only [isLedger, Ledger.getElem?_plans_setState, if_true]
  refused socket commit error busy := by
    rw [commitAt_of_step? stepped] at busy
    cases event with
    | acquire other =>
        simp only [commitAfter] at busy
        split_ifs at busy with isSocket
        · split at busy
          · rintro none
            simp only [Option.some.injEq, Connection.acquired.injEq] at busy
            obtain ⟨rfl, failed⟩ := busy
            rw [none, acquire_nil unscripted] at failed
            cases failed
          · cases busy
        · exact inProcess.refused socket commit error busy
    | receive other message =>
        simp only [commitAfter] at busy
        split_ifs at busy
        · split at busy <;> cases busy
        · exact inProcess.refused socket commit error busy
    | finish other =>
        simp only [commitAfter] at busy
        split_ifs at busy
        exact inProcess.refused socket commit error busy
    | accept | undecodable | disconnect | saveStore =>
        exact inProcess.refused socket commit error busy

theorem inProcess_of_run
    (run : ProcessRun config store trace final)
    (unrecovered : (start store).planState? planId = none)
    (fresh : ∀ step ∈ trace, leavesDrawn config planId step = true) :
    InProcess planId final := by
  have idle : ∀ socket connection,
      (start store).commitAt socket ≠ some connection := by
    intro socket connection busy
    rw [commitAt_start] at busy
    cases busy
  refine run.invariant_trace (fun _ state => InProcess planId state) ?_ ?_
  · refine ⟨?_, ?_, fun socket connection _ busy =>
      (idle socket connection busy).elim, fun socket _ _ busy =>
      (idle socket _ busy).elim⟩
    · intro planState found
      rw [unrecovered] at found
      cases found
    · intro record found
      simp [planState?, found] at unrecovered
  · intro earlier before event after actions past member inProcess stepped
    exact inProcess.step (failAfter_of_run past) (fresh _ member) stepped

/-! ## The table is complete -/

/-- A commit that the broker refused fails only a plan that claims something. -/
theorem unexecuted_of_refused
    {socket : Socket}
    {commit : Commit}
    {error : Text}
    {record : PlanRecord}
    (run : ProcessRun config store trace before)
    (unrecovered : (start store).planState? planId = none)
    (inProcess : InProcess planId before)
    (busy :
      before.connections[socket]? = some (.acquired commit (some error)))
    (named : commit.planId = planId)
    (found : before.ledger.plans[planId]? = some record) :
    record.state ≠ .planReady ∧ record.state ≠ .awaitingExecution ∧
      record.state ≠ .completed := by
  have busyAt := commitAt_of_connections busy rfl
  obtain ⟨same, known, unready, isResources⟩ :=
    inProcess.begun socket _ commit busyAt rfl named
  rw [found] at known
  cases known
  have staged : record.plan.requiredStagingResources ≠ [] := by
    rw [← inProcess.claims record found, ← isResources]
    exact inProcess.refused socket commit error busyAt
  obtain ⟨unawaiting, _, uncompleted⟩ :=
    executesUnstaged_of_run run planId record found staged
  refine ⟨unready, unawaiting, fun completed => ?_⟩
  rw [uncompleted completed] at unrecovered
  cases unrecovered

/-- What is written into the record of a plan of this process is in the table. -/
theorem coordinatorMoves_of_writes
    {record : PlanRecord}
    {target : PlanState}
    (run : ProcessRun config store trace before)
    (unrecovered : (start store).planState? planId = none)
    (inProcess : InProcess planId before)
    (found : before.ledger.plans[planId]? = some record)
    (writes : Writes before planId record event target)
    (changes : record.state ≠ target) :
    coordinatorMoves record.state target = true := by
  have arises : record.state.arises = true :=
    inProcess.arises record.state (by simp [planState?, found])
  unfold coordinatorMoves
  rw [decide_eq_true changes, Bool.true_and]
  cases writes with
  | beginCommit socket message kind named committable open_ =>
      simpa [changes] using committable
  | refuse socket commit error busy named kept =>
      obtain ⟨unready, unawaiting, uncompleted⟩ :=
        unexecuted_of_refused run unrecovered inProcess busy named found
      generalize isState : record.state = source at *
      cases source <;>
        simp_all [PlanState.arises, Ledger.undoes]
  | commit socket commit busy named kept =>
      obtain ⟨same, known, unready, _⟩ := inProcess.begun socket _ commit
        (commitAt_of_connections busy rfl) rfl named
      rw [found] at known
      cases known
      generalize isState : record.state = source at *
      cases source <;>
        simp_all [PlanState.arises, Ledger.undoes]
  | result socket message kind named active =>
      rw [active]
      cases message.ok <;> decide
  | undo | revalidate | failRevalidation | handoff | cancel | supersede
  | supersedeOlder => exact arises

theorem coordinatorMoves_of_moves
    {source target : PlanState}
    (moves : Moves source target) :
    coordinatorMoves source target = true := by
  obtain ⟨config, store, trace, final, planId, step, run, unrecovered, fresh,
    member, was, is, changes⟩ := moves
  obtain ⟨past, later, rfl⟩ := List.append_of_mem member
  obtain ⟨pastRun, stepped, _⟩ := run.cut
  have inProcess : InProcess planId step.before :=
    inProcess_of_run pastRun unrecovered fun earlier isEarlier =>
      fresh earlier (List.mem_append_left _ isEarlier)
  obtain ⟨record, found, rfl⟩ := Option.map_eq_some_iff.mp was
  have different : step.before.planState? planId ≠ some target := by
    rw [was]
    simpa using changes
  rcases writes_of_changed stepped different is with
    ⟨same, known, writes⟩ | rfl
  · rw [found] at known
    cases known
    exact coordinatorMoves_of_writes pastRun unrecovered inProcess found
      writes changes
  · rcases planReady_of_step? stepped is with
      ready | ⟨socket, message, received, kind, drawn⟩
    · exact (different ready).elim
    · exact (undrawn_of_leavesDrawn (fresh step member) found drawn).elim

/-! ## The table is exact -/

/-- The relay is published again, at the generation. -/
def relayPublished (generation : EndpointGeneration) : Event :=
  .receive ⟨4⟩
    (CoordinatorClient.publishEndpoint ⟨1⟩ ⟨1⟩
      (mkEndpoint ⟨2⟩ generation .cpuMemory .tcp))

/-- The request is planned, and two more clients are connected. -/
def enters (request : CommunicationRequest) : List Event :=
  relayDeployment ⟨4⟩ ⟨1⟩ ++ [.accept ⟨5⟩, .accept ⟨6⟩] ++
    receiveAll ⟨4⟩ [CoordinatorClient.submitRequest request]

/-- A commit of the plan that has called the broker. -/
def commitUnderWay (socket : Socket) : List Event :=
  receiveAll socket [CoordinatorClient.commitPlan ⟨1⟩] ++ [.acquire socket]

/-- The plan fails a revalidation, and would pass the next one. -/
def failsRevalidation : List Event :=
  [relayPublished ⟨2⟩] ++
    receiveAll ⟨4⟩ [CoordinatorClient.revalidate ⟨1⟩] ++
    [relayPublished ⟨1⟩]

/--
From ready to the state.  But for the withdrawals, a commit is under way on the
way and stays so.
-/
def towards : PlanState → List Event
  | .awaitingResourceCommit => commitUnderWay ⟨5⟩
  | .committed =>
      receiveAll ⟨6⟩ [CoordinatorClient.commitPlan ⟨1⟩] ++
        commitUnderWay ⟨5⟩ ++ [.acquire ⟨6⟩, .finish ⟨6⟩]
  | .awaitingExecution =>
      commitUnderWay ⟨5⟩ ++
        receiveAll ⟨4⟩ [CoordinatorClient.revalidate ⟨1⟩]
  | .active =>
      commitUnderWay ⟨5⟩ ++
        receiveAll ⟨4⟩ [CoordinatorClient.executionHandoff ⟨1⟩]
  | .revalidationRequired => commitUnderWay ⟨5⟩ ++ failsRevalidation
  | .completed =>
      commitUnderWay ⟨5⟩ ++
        receiveAll ⟨4⟩
          [ CoordinatorClient.executionHandoff ⟨1⟩,
            CoordinatorClient.executionResult ⟨1⟩ true ]
  | .failed =>
      commitUnderWay ⟨5⟩ ++
        receiveAll ⟨4⟩
          [ CoordinatorClient.executionHandoff ⟨1⟩,
            CoordinatorClient.executionResult ⟨1⟩ false ]
  | .cancelled => receiveAll ⟨4⟩ [CoordinatorClient.cancel ⟨9⟩ ⟨1⟩]
  | .superseded => receiveAll ⟨4⟩ [CoordinatorClient.supersede ⟨9⟩ ⟨1⟩]
  | _ => []

/-- What is done to a plan to bring it to the state. -/
def onwards : PlanState → List Event
  | .awaitingResourceCommit => commitUnderWay ⟨5⟩
  | .committed => [.finish ⟨5⟩]
  | .awaitingExecution => receiveAll ⟨4⟩ [CoordinatorClient.revalidate ⟨1⟩]
  | .active => receiveAll ⟨4⟩ [CoordinatorClient.executionHandoff ⟨1⟩]
  | .revalidationRequired => failsRevalidation
  | .completed =>
      receiveAll ⟨4⟩ [CoordinatorClient.executionResult ⟨1⟩ true]
  | .failed => receiveAll ⟨4⟩ [CoordinatorClient.executionResult ⟨1⟩ false]
  | .cancelled => receiveAll ⟨4⟩ [CoordinatorClient.cancel ⟨5⟩ ⟨1⟩]
  | .superseded => receiveAll ⟨4⟩ [CoordinatorClient.supersede ⟨5⟩ ⟨2⟩]
  | _ => []

/-- A transfer over the relay of a payload that the broker cannot grant twice. -/
def largeRequest (payload : UInt64) : CommunicationRequest :=
  mkRequest ⟨5⟩ ⟨1⟩ ⟨3⟩ payload

/--
A run for each change of state.  Only a commit that the broker refuses fails a
plan that is not active, and only one that is undone cancels a completed plan.
-/
def journey : PlanState → PlanState → List Event
  | .awaitingResourceCommit, .failed =>
      enters (largeRequest (2 ^ 31)) ++ towards .awaitingResourceCommit ++
        [.finish ⟨5⟩]
  | .committed, .failed =>
      enters (largeRequest (2 ^ 30)) ++
        receiveAll ⟨5⟩ [CoordinatorClient.commitPlan ⟨1⟩] ++
        commitUnderWay ⟨6⟩ ++
        [.acquire ⟨5⟩, .finish ⟨6⟩, .finish ⟨5⟩]
  | .revalidationRequired, .failed =>
      enters (largeRequest (2 ^ 31)) ++ towards .revalidationRequired ++
        [.finish ⟨5⟩]
  | .completed, .cancelled =>
      enters (directRequest ⟨5⟩) ++ towards .completed ++
        receiveAll ⟨4⟩ [CoordinatorClient.cancel ⟨5⟩ ⟨2⟩] ++ [.finish ⟨5⟩]
  | source, target =>
      enters (directRequest ⟨5⟩) ++ towards source ++ onwards target

/-- The run of the two states shows the change. -/
def shows (source target : PlanState) : Bool :=
  (replay? (step? defaultConfig) (start none) (journey source target)).any
    fun reached =>
      reached.1.all (leavesDrawn defaultConfig ⟨1⟩) &&
        reached.1.any fun step =>
          step.before.planState? ⟨1⟩ = some source &&
            step.after.planState? ⟨1⟩ = some target

theorem shows_of_coordinatorMoves
    {source target : PlanState}
    (listed : coordinatorMoves source target = true) :
    shows source target = true := by
  have checked :
      ∀ source ∈ (ByteCodec.Enumerated.all : List PlanState),
        ∀ target ∈ (ByteCodec.Enumerated.all : List PlanState),
          coordinatorMoves source target = true →
          shows source target = true := by
    decide +kernel
  exact checked source
    (List.mem_of_getElem? (ByteCodec.Enumerated.all_position source)) target
    (List.mem_of_getElem? (ByteCodec.Enumerated.all_position target)) listed

/--
In some run a plan of the process goes from the one state to the other exactly
when the table says so.
-/
theorem plan_moves_iff
    (source target : PlanState) :
    Moves source target ↔ coordinatorMoves source target = true := by
  refine ⟨coordinatorMoves_of_moves, fun listed => ?_⟩
  obtain ⟨trace, final, run, holds⟩ :=
    exists_run_of_replay? (shows_of_coordinatorMoves listed)
  simp only [Bool.and_eq_true, List.all_eq_true, List.any_eq_true,
    decide_eq_true_eq] at holds
  obtain ⟨fresh, step, member, was, is⟩ := holds
  refine ⟨defaultConfig, none, trace, final, ⟨1⟩, step, run, by decide, fresh,
    member, was, is, ?_⟩
  rintro rfl
  simp [coordinatorMoves] at listed

/-- The changes of state of the table. -/
def coordinatorTable : List (PlanState × PlanState) :=
  (ByteCodec.Enumerated.all : List PlanState).flatMap fun source =>
    (ByteCodec.Enumerated.all.filter (coordinatorMoves source)).map
      fun target => (source, target)

theorem mem_coordinatorTable
    {source target : PlanState} :
    (source, target) ∈ coordinatorTable ↔
      coordinatorMoves source target = true := by
  have listed (state : PlanState) :
      state ∈ (ByteCodec.Enumerated.all : List PlanState) :=
    List.mem_of_getElem? (ByteCodec.Enumerated.all_position state)
  simp [coordinatorTable, listed]

/--
In some run a plan of the process goes from the one state to the other exactly
when the table lists the change.  More than half of its changes are none of
`PlanLifecycle`, among them all that leave a terminal state.
-/
theorem plan_moves_are_listed :
    (∀ source target,
      Moves source target ↔ (source, target) ∈ coordinatorTable) ∧
    coordinatorTable.Nodup ∧
    coordinatorTable.length = 57 ∧
    (coordinatorTable.filter fun move =>
      !canTransition move.1 move.2).length = 32 ∧
    ∀ move ∈ coordinatorTable,
      move.1.terminal = true → canTransition move.1 move.2 = false := by
  refine ⟨fun source target => ?_, by decide, by decide, by decide, by decide⟩
  rw [mem_coordinatorTable]
  exact plan_moves_iff source target

/-- A commit that ends late makes a completed plan a committed one again. -/
theorem completed_plan_is_committed_again :
    Moves .completed .committed ∧
      canTransition .completed .committed = false := by
  obtain ⟨moves, _, _, _, terminal⟩ := plan_moves_are_listed
  have listed : (.completed, .committed) ∈ coordinatorTable := by decide
  exact ⟨(moves _ _).mpr listed, terminal _ listed rfl⟩

end Coordinator

end CommunicationPlanner
