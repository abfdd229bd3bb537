import CommunicationPlanner.CommitRace
import CommunicationPlanner.ExecutionOrder
import CommunicationPlanner.Replies
import CommunicationPlanner.ResultAuthority
import CommunicationPlanner.StagedPlans

namespace CommunicationPlanner

open OrderedCollections TransitionRun

/-!
# Histories of plans

The state of a plan tells what has happened to it in this process.  A plan that
awaits the broker has a commit under way; a committed plan was granted its
claims between the two critical sections of one commit; a completed plan was
handed off and reported back without leaving `ACTIVE` in between.  And since no
message tells the coordinator the capacity of staging memory, a plan that needs
any gets no further than its commit.
-/

namespace Coordinator

variable
  {config : Config}
  {store : Option (List UInt8)}
  {trace : List CoordinatorStep}
  {before after final : Coordinator}
  {event : Event}
  {actions : List Action}
  {planId : CommunicationPlanId}

/-! ## How a state is reached -/

/-- A plan changes its state only by a write, or by being entered. -/
theorem writes_of_changed
    {new : PlanState}
    (stepped : step? config before event = some (after, actions))
    (was : before.planState? planId ≠ some new)
    (is : after.planState? planId = some new) :
    (∃ record,
      before.ledger.plans[planId]? = some record ∧
      Writes before planId record event new) ∨
    new = .planReady := by
  have change : PlanStep config before planId event
      after.ledger.plans[planId]? := planStep_of_step? stepped
  unfold planState? at was is
  generalize after.ledger.plans[planId]? = changed at change is
  cases change with
  | same => exact (was is).elim
  | written record written found writes =>
      cases is
      exact .inl ⟨record, found, writes⟩
  | entered socket message plan received kind produced open_ named =>
      right
      simpa using is.symm

/-! ## Completed plans -/

/-- The step hands the plan off: it passes revalidation and becomes active. -/
def HandsOff
    (step : CoordinatorStep)
    (planId : CommunicationPlanId) : Prop :=
  ∃ socket message record,
    step.event = .receive socket message ∧
    message.type = .executionHandoff ∧
    message.planId = planId ∧
    step.before.ledger.plans[planId]? = some record ∧
    (revalidatePlan record.plan step.before.registry.snap).ok = true

/-- The step brings a good result, from the executor or from nobody. -/
def ReportsSuccess
    (step : CoordinatorStep)
    (planId : CommunicationPlanId) : Prop :=
  ∃ socket message record,
    step.event = .receive socket message ∧
    message.type = .executionResult ∧
    message.planId = planId ∧
    message.ok = true ∧
    step.before.ledger.plans[planId]? = some record ∧
    (message.worker.isNull = true ∨
      (record.worker = message.worker ∧ record.boot = message.boot))

theorem handsOff_of_activated
    {step : CoordinatorStep}
    (stepped :
      step? config step.before step.event = some (step.after, step.outputs))
    (was : step.before.planState? planId ≠ some .active)
    (is : step.after.planState? planId = some .active) :
    HandsOff step planId := by
  rcases writes_of_changed stepped was is with ⟨record, found, writes⟩ | other
  · unfold HandsOff
    generalize isState : PlanState.active = new at writes
    generalize step.event = event at writes ⊢
    cases writes with
    | handoff socket message kind named passed =>
        exact ⟨socket, message, record, rfl, kind, named, found, passed⟩
    | result => split at isState <;> cases isState
    | beginCommit | undo | refuse | commit | revalidate | failRevalidation
    | cancel | supersede | supersedeOlder => cases isState
  · cases other

/-- A result with another authority leaves the plan as it is. -/
theorem authority_of_result
    {socket : Socket}
    {message : Message}
    {record : PlanRecord}
    (stepped :
      step? config before (.receive socket message) = some (after, actions))
    (kind : message.type = .executionResult)
    (found : before.ledger.plans[message.planId]? = some record)
    (changed :
      after.planState? message.planId ≠ before.planState? message.planId) :
    message.worker.isNull = true ∨
      (record.worker = message.worker ∧ record.boot = message.boot) := by
  by_contra foreign
  have stale :
      (!message.worker.isNull &&
        (record.worker ≠ message.worker || record.boot ≠ message.boot)) =
        true := by
    simp only [not_or, not_and, Bool.not_eq_true] at foreign
    by_cases sameWorker : record.worker = message.worker
    · simp [foreign.1, foreign.2 sameWorker]
    · simp [foreign.1, sameWorker]
  have handled := (ledger_of_result kind stepped).1
  unfold Ledger.handleExecutionResult at handled
  simp only [found, stale, if_true] at handled
  refine changed ?_
  unfold planState?
  rw [handled]
  split <;> rfl

theorem reportsSuccess_of_completed
    {step : CoordinatorStep}
    (stepped :
      step? config step.before step.event = some (step.after, step.outputs))
    (was : step.before.planState? planId ≠ some .completed)
    (is : step.after.planState? planId = some .completed) :
    step.before.planState? planId = some .active ∧
      ReportsSuccess step planId := by
  rcases writes_of_changed stepped was is with ⟨record, found, writes⟩ | other
  · unfold ReportsSuccess
    generalize isState : PlanState.completed = new at writes
    rcases step with ⟨before, event, outputs, after⟩
    simp only at writes found stepped is was ⊢
    cases writes with
    | result socket message kind named active =>
        subst named
        refine ⟨by simp [planState?, found, active], socket, message, record,
          rfl, kind, rfl, ?_, found, ?_⟩
        · by_contra failed
          simp [failed] at isState
        · refine authority_of_result stepped kind found ?_
          rw [is]
          simp [planState?, found, active]
    | beginCommit | undo | refuse | commit | revalidate | failRevalidation
    | handoff | cancel | supersede | supersedeOlder => cases isState
  · cases other

/-- A plan that has just started is in none of the states of an execution. -/
theorem not_executable_of_start
    {state : PlanState}
    (executable : state.executable = true)
    (store : Option (List UInt8))
    (planId : CommunicationPlanId) :
    (start store).planState? planId ≠ some state := by
  intro found
  rw [(state_of_start found).2.2] at executable
  cases executable

/-- The step brings the plan to the state. -/
def BringsTo
    (step : CoordinatorStep)
    (planId : CommunicationPlanId)
    (state : PlanState) : Prop :=
  step.before.planState? planId ≠ some state ∧
    step.after.planState? planId = some state

/--
A completed plan that some step of the run brought there was handed off when it
passed revalidation, stayed active, and was reported a success by its executor
or by nobody; since then its state has not changed.
-/
theorem completed_plan_was_handed_off
    (run : ProcessRun config store trace final)
    (completed : final.planState? planId = some .completed)
    (brought : ∃ step ∈ trace, BringsTo step planId .completed) :
    ∃ earlier handoff between result later,
      trace = earlier ++ handoff :: (between ++ result :: later) ∧
      HandsOff handoff planId ∧
      (∀ step ∈ between, step.after.planState? planId = some .active) ∧
      ReportsSuccess result planId ∧
      ∀ step ∈ later, step.after.planState? planId = some .completed := by
  rcases run.last_change (fun state => state.planState? planId) completed with
    ⟨recovered, stayed⟩ | ⟨past, result, later, rfl, was, is, kept⟩
  · obtain ⟨step, member, was, _⟩ := brought
    have already :=
      run.invariant_before (fun state => state.planState? planId =
        some .completed) recovered (fun earlier member _ _ =>
          stayed earlier member) member
    exact (was already).elim
  obtain ⟨pastRun, resultStepped, _⟩ := run.cut
  obtain ⟨active, reports⟩ :=
    reportsSuccess_of_completed resultStepped was is
  rcases pastRun.last_change (fun state => state.planState? planId) active with
    ⟨recovered, _⟩ | ⟨earlier, handoff, between, rfl, wasNot, became, stayed⟩
  · exact (not_executable_of_start rfl store planId recovered).elim
  obtain ⟨_, handoffStepped, _⟩ := pastRun.cut
  exact ⟨earlier, handoff, between, result, later, by simp,
    handsOff_of_activated handoffStepped wasNot became, stayed, reports, kept⟩

/-- The plan of a direct request goes all the way. -/
theorem direct_plan_was_handed_off :
    ∃ trace final earlier handoff between result later,
      ProcessRun defaultConfig none trace final ∧
      trace = earlier ++ handoff :: (between ++ result :: later) ∧
      HandsOff handoff ⟨1⟩ ∧
      (∀ step ∈ between, step.after.planState? ⟨1⟩ = some .active) ∧
      ReportsSuccess result ⟨1⟩ ∧
      ∀ step ∈ later, step.after.planState? ⟨1⟩ = some .completed := by
  have checked :
      (replay? (step? defaultConfig) (start none)
        (deployment ⟨4⟩ ⟨1⟩ ++ handoffEvents ⟨4⟩ ++
          receiveAll ⟨4⟩ [reportedResult ⟨1⟩])).any
        (fun reached =>
          reached.2.planState? ⟨1⟩ = some .completed &&
            reached.1.any fun step =>
              step.before.planState? ⟨1⟩ ≠ some .completed &&
                step.after.planState? ⟨1⟩ = some .completed) = true := by
    decide +kernel
  obtain ⟨trace, final, run, holds⟩ := exists_run_of_replay? checked
  simp only [Bool.and_eq_true, List.any_eq_true, decide_eq_true_eq] at holds
  obtain ⟨earlier, handoff, between, result, later, history⟩ :=
    completed_plan_was_handed_off run holds.1 holds.2
  exact ⟨trace, final, earlier, handoff, between, result, later, run, history⟩

/-! ## Committed plans -/

/-- The step is the first critical section of the commit, on the socket. -/
def Begins
    (step : CoordinatorStep)
    (socket : Socket)
    (commit : Commit) : Prop :=
  ∃ message begun,
    step.event = .receive socket message ∧
    message.type = .commitRequest ∧
    step.before.ledger.beginCommit message.planId = .ok (begun, commit)

/-- The step grants the claims of the commit that waits on the socket. -/
def Grants
    (step : CoordinatorStep)
    (socket : Socket)
    (commit : Commit) : Prop :=
  step.event = .acquire socket ∧
    (step.before.ledger.broker.acquire commit.resources commit.sizes).2 = none

theorem grants_of_acquired
    {step : CoordinatorStep}
    {socket : Socket}
    {commit : Commit}
    (stepped :
      step? config step.before step.event = some (step.after, step.outputs))
    (was : step.before.commitAt socket ≠ some (.acquired commit none))
    (is : step.after.commitAt socket = some (.acquired commit none)) :
    Grants step socket commit ∧
      step.before.commitAt socket = some (.acquiring commit) := by
  rw [commitAt_of_step? stepped] at is
  unfold Grants
  cases isEvent : step.event with
  | receive other message =>
      rw [isEvent] at is
      simp only [commitAfter] at is
      split_ifs at is
      · split at is <;> cases is
      · exact (was is).elim
  | acquire other =>
      rw [isEvent] at is
      simp only [commitAfter] at is
      split_ifs at is with isSocket
      · subst isSocket
        split at is
        · rename_i waiting busy
          simp only [Option.some.injEq, Connection.acquired.injEq] at is
          obtain ⟨rfl, granted⟩ := is
          exact ⟨⟨rfl, granted⟩, commitAt_of_connections busy rfl⟩
        · cases is
      · exact (was is).elim
  | finish other =>
      rw [isEvent] at is
      simp only [commitAfter] at is
      split_ifs at is
      exact (was is).elim
  | accept | undecodable | disconnect | saveStore =>
      rw [isEvent] at is
      exact (was is).elim

theorem begins_of_acquiring
    {step : CoordinatorStep}
    {socket : Socket}
    {commit : Commit}
    (stepped :
      step? config step.before step.event = some (step.after, step.outputs))
    (was : step.before.commitAt socket ≠ some (.acquiring commit))
    (is : step.after.commitAt socket = some (.acquiring commit)) :
    Begins step socket commit := by
  rw [commitAt_of_step? stepped] at is
  unfold Begins
  cases isEvent : step.event with
  | receive other message =>
      rw [isEvent] at is
      simp only [commitAfter] at is
      split_ifs at is with begins
      · obtain ⟨rfl, kind⟩ := begins
        cases begun : step.before.ledger.beginCommit message.planId with
        | error reply => simp [begun] at is
        | ok committing =>
            simp only [begun, Option.some.injEq,
              Connection.acquiring.injEq] at is
            refine ⟨message, committing.1, rfl, kind, ?_⟩
            rw [begun, ← is]
      · exact (was is).elim
  | acquire other =>
      rw [isEvent] at is
      simp only [commitAfter] at is
      split_ifs at is
      · split at is <;> cases is
      · exact (was is).elim
  | finish other =>
      rw [isEvent] at is
      simp only [commitAfter] at is
      split_ifs at is
      exact (was is).elim
  | accept | undecodable | disconnect | saveStore =>
      rw [isEvent] at is
      exact (was is).elim

/-- One commit of the plan from beginning to end, and the plan kept since. -/
structure CommitHistory
    (trace : List CoordinatorStep)
    (planId : CommunicationPlanId) where
  socket : Socket
  commit : Commit
  earlier : List CoordinatorStep
  beginning : CoordinatorStep
  waiting : List CoordinatorStep
  grant : CoordinatorStep
  holding : List CoordinatorStep
  ending : CoordinatorStep
  later : List CoordinatorStep
  whole :
    trace =
      earlier ++ beginning ::
        (waiting ++ grant :: (holding ++ ending :: later))
  named : commit.planId = planId
  begins : Begins beginning socket commit
  waits :
    ∀ step ∈ waiting, step.after.commitAt socket = some (.acquiring commit)
  grants : Grants grant socket commit
  holds :
    ∀ step ∈ holding,
      step.after.commitAt socket = some (.acquired commit none)
  ends : ending.event = .finish socket
  kept : ∀ step ∈ later, step.after.planState? planId = some .committed

/--
A committed plan went through one commit on one connection: it was ready, the
broker granted its claims, and it has stayed committed since.
-/
theorem committed_plan_was_granted
    (run : ProcessRun config store trace final)
    (committed : final.planState? planId = some .committed) :
    Nonempty (CommitHistory trace planId) := by
  rcases run.last_change (fun state => state.planState? planId) committed with
    ⟨recovered, _⟩ | ⟨past, ending, later, rfl, was, is, kept⟩
  · exact (not_executable_of_start rfl store planId recovered).elim
  obtain ⟨pastRun, stepped, _⟩ := run.cut
  rcases committed_of_step? stepped is with
    already | ⟨socket, commit, isFinish, busy, named⟩
  · exact (was already).elim
  have held : ending.before.commitAt socket = some (.acquired commit none) :=
    commitAt_of_connections busy rfl
  rcases pastRun.last_change (fun state => state.commitAt socket) held with
    ⟨recovered, _⟩ | ⟨past, grant, holding, rfl, unheld, granted, holds⟩
  · rw [commitAt_start] at recovered
    cases recovered
  obtain ⟨pastRun, stepped, _⟩ := pastRun.cut
  obtain ⟨grants, waited⟩ := grants_of_acquired stepped unheld granted
  rcases pastRun.last_change (fun state => state.commitAt socket) waited with
    ⟨recovered, _⟩ | ⟨earlier, beginning, waiting, rfl, idle, begun, waits⟩
  · rw [commitAt_start] at recovered
    cases recovered
  obtain ⟨_, stepped, _⟩ := pastRun.cut
  exact
    ⟨{ socket := socket
       commit := commit
       earlier := earlier
       beginning := beginning
       waiting := waiting
       grant := grant
       holding := holding
       ending := ending
       later := later
       whole := by simp
       named := named
       begins := begins_of_acquiring stepped idle begun
       waits := waits
       grants := grants
       holds := holds
       ends := isFinish
       kept := kept }⟩

/-- Two connections commit the plan, and the second one finds it committed. -/
theorem contested_plan_was_granted :
    ∃ trace final,
      ProcessRun defaultConfig none trace final ∧
      Nonempty (CommitHistory trace ⟨1⟩) := by
  have checked :
      (replay? (step? defaultConfig) (start none)
        (deployment ⟨4⟩ ⟨1⟩ ++ [.accept ⟨5⟩] ++
          receiveAll ⟨4⟩
            [ CoordinatorClient.submitRequest (directRequest ⟨5⟩),
              CoordinatorClient.commitPlan ⟨1⟩ ] ++
          [.acquire ⟨4⟩, .finish ⟨4⟩] ++
          receiveAll ⟨5⟩ [CoordinatorClient.commitPlan ⟨1⟩])).any
        (fun reached => reached.2.planState? ⟨1⟩ = some .committed) =
        true := by
    decide +kernel
  obtain ⟨trace, final, run, holds⟩ := exists_run_of_replay? checked
  rw [decide_eq_true_eq] at holds
  exact ⟨trace, final, run, committed_plan_was_granted run holds⟩

/-! ## Commits under way -/

/-- Every plan that awaits the broker has a commit under way. -/
def Awaited (state : Coordinator) : Prop :=
  ∀ planId,
    state.planState? planId = some .awaitingResourceCommit →
    ∃ socket, state.commitsAt planId socket

/-- The second critical section takes its plan out of the wait. -/
theorem planState?_finishCommit
    (ledger : Ledger)
    (socket : Socket)
    (commit : Commit)
    (failure : Option Text) :
    ((ledger.finishCommit socket commit failure).1.plans[
        commit.planId]?.map fun record => record.state) ≠
      some .awaitingResourceCommit := by
  unfold Ledger.finishCommit
  simp only
  cases found : ledger.plans[commit.planId]? with
  | none => cases failure <;> simp [found]
  | some record =>
      by_cases undone : ledger.undoes record = true
      · simp [undone]
      · simp only [undone, Bool.false_eq_true, if_false]
        cases failure <;> simp

theorem Awaited.step
    (awaited : Awaited before)
    (stepped : step? config before event = some (after, actions)) :
    Awaited after := by
  intro planId awaits
  by_cases awaitedBefore :
      before.planState? planId = some .awaitingResourceCommit
  · obtain ⟨socket, connection, atSocket, named⟩ :=
      awaited planId awaitedBefore
    refine ⟨socket, ?_⟩
    unfold commitsAt
    rw [commitAt_of_step? stepped]
    cases taken_of_step? stepped with
    | receive other message listening =>
        have different : other ≠ socket := by
          rintro rfl
          rw [commitAt_of_listens listening] at atSocket
          cases atSocket
        exact ⟨connection, by simpa [commitAfter, different] using atSocket,
          named⟩
    | acquire other commit busy =>
        by_cases own : other = socket
        · subst own
          rw [commitAt_of_connections busy rfl] at atSocket
          cases atSocket
          refine ⟨.acquired commit
            (before.ledger.broker.acquire commit.resources commit.sizes).2,
            ?_, named⟩
          simp only [commitAfter, busy, if_true]
        · exact ⟨connection, by simpa [commitAfter, own] using atSocket, named⟩
    | finish other commit failure busy =>
        by_cases own : other = socket
        · subst own
          rw [commitAt_of_connections busy rfl] at atSocket
          cases atSocket
          cases named
          rw [planState?, ledger_resume] at awaits
          exact (planState?_finishCommit _ _ _ _ awaits).elim
        · exact ⟨connection, by simpa [commitAfter, own] using atSocket, named⟩
    | accept | undecodable | disconnect | saveStore =>
        exact ⟨connection, atSocket, named⟩
  · rcases writes_of_changed stepped awaitedBefore awaits with
      ⟨record, found, writes⟩ | other
    · generalize isState : PlanState.awaitingResourceCommit = new at writes
      cases writes with
      | beginCommit socket message kind named committable open_ =>
          subst named
          refine ⟨socket, ?_⟩
          unfold commitsAt
          rw [commitAt_of_step? stepped]
          let commit : Commit :=
            { planId := message.planId
              resources := record.plan.requiredResourceClaims
              sizes :=
                record.plan.requiredResourceClaims.map fun _ =>
                  Ledger.claimSize record.plan }
          have begun :
              before.ledger.beginCommit message.planId =
                .ok
                  (before.ledger.setState message.planId record
                      .awaitingResourceCommit, commit) := by
            unfold Ledger.beginCommit
            rw [found]
            simp only
            rw [if_neg (by tauto), if_neg open_]
          refine ⟨.acquiring commit, ?_, rfl⟩
          simp only [commitAfter, kind, and_self, if_true, begun]
      | result => split at isState <;> cases isState
      | undo | refuse | commit | revalidate | failRevalidation | handoff
      | cancel | supersede | supersedeOlder => cases isState
    · cases other

theorem awaited_of_run
    (run : ProcessRun config store trace final) :
    Awaited final := by
  refine run.invariant Awaited ?_ fun _ _ stepped awaited =>
    awaited.step stepped
  intro planId awaits
  exact ((state_of_start awaits).2.1 rfl).elim

/-- The event is the work of a thread that is busy with a commit. -/
def WorksOn (socket : Socket) (event : Event) : Prop :=
  event = .acquire socket ∨ event = .finish socket

/--
Left alone, a busy thread is done after at most two steps, of which the last
ends its commit.
-/
private theorem exists_run_finishing
    (config : Config)
    {state : Coordinator}
    {socket : Socket}
    (running : state.terminated = false)
    (busy : (state.commitAt socket).isSome = true) :
    ∃ later done,
      Run (step? config) state later done ∧
      (∀ step ∈ later, WorksOn socket step.event) ∧
      done.terminated = false ∧
      ∀ other,
        done.commitAt other =
          if other = socket then none else state.commitAt other := by
  have finishes :
      ∀ (state : Coordinator) (commit : Commit) (failure : Option Text),
        state.terminated = false →
        state.connections[socket]? = some (.acquired commit failure) →
        ∃ later done,
          Run (step? config) state later done ∧
          (∀ step ∈ later, WorksOn socket step.event) ∧
          done.terminated = false ∧
          ∀ other,
            done.commitAt other =
              if other = socket then none else state.commitAt other := by
    intro state commit failure alive acquired
    obtain ⟨done, actions, stepped, _, aliveStill⟩ :=
      step?_finish config alive acquired
    refine ⟨_, done, Run.nil.snoc stepped, ?_, aliveStill, ?_⟩
    · intro step member
      rw [List.nil_append, List.mem_singleton] at member
      rw [member]
      exact .inr rfl
    · intro other
      rw [commitAt_of_step? stepped]
      simp only [commitAfter, eq_comm]
  obtain ⟨connection, found⟩ := Option.isSome_iff_exists.mp busy
  simp only [commitAt, Option.filter_eq_some_iff] at found
  cases connection with
  | receiving => cases found.2
  | acquired commit failure => exact finishes state commit failure running found.1
  | acquiring commit =>
      obtain ⟨between, outputs, stepped, alive, failure, acquired⟩ :
          ∃ between outputs,
            step? config state (.acquire socket) = some (between, outputs) ∧
              between.terminated = false ∧
              ∃ failure,
                between.connections[socket]? =
                  some (.acquired commit failure) := by
        simp only [step?, acquire, running, found.1, Bool.false_eq_true,
          if_false]
        exact ⟨_, _, rfl, rfl, _, Std.ExtTreeMap.getElem?_insert_self⟩
      obtain ⟨later, done, run, works, aliveStill, rest⟩ :=
        finishes between commit failure alive acquired
      refine ⟨_, done, (Run.nil.snoc stepped).append run, ?_, aliveStill, ?_⟩
      · intro step member
        rw [List.nil_append, List.singleton_append, List.mem_cons] at member
        rcases member with rfl | inLater
        · exact .inl rfl
        · exact works step inLater
      · intro other
        rw [rest other]
        split_ifs with own
        · rfl
        · rw [commitAt_of_step? stepped]
          simp only [commitAfter, if_neg (Ne.symm own)]

/-- The busy threads of a list of connections can all finish, one by one. -/
private theorem exists_run_draining
    (config : Config)
    (sockets : List Socket)
    {state : Coordinator}
    (running : state.terminated = false)
    (listed :
      ∀ socket, (state.commitAt socket).isSome = true → socket ∈ sockets) :
    ∃ later done,
      Run (step? config) state later done ∧
      (∀ step ∈ later, ∃ socket,
        (state.commitAt socket).isSome = true ∧ WorksOn socket step.event) ∧
      done.terminated = false ∧
      ∀ socket, done.commitAt socket = none := by
  induction sockets generalizing state with
  | nil =>
      refine ⟨[], state, .nil, by simp, running, ?_⟩
      intro socket
      rw [← Option.not_isSome_iff_eq_none]
      intro busy
      cases listed socket busy
  | cons socket rest inductionHypothesis =>
      by_cases busy : (state.commitAt socket).isSome = true
      · obtain ⟨first, between, firstRun, firstWorks, alive, others⟩ :=
          exists_run_finishing config running busy
        obtain ⟨later, done, run, works, aliveStill, drained⟩ :=
          inductionHypothesis alive (by
            intro other otherBusy
            rw [others] at otherBusy
            split_ifs at otherBusy with same
            · cases otherBusy
            · exact (List.mem_cons.mp (listed other otherBusy)).resolve_left
                same)
        refine ⟨first ++ later, done, firstRun.append run, ?_, aliveStill,
          drained⟩
        intro step member
        rcases List.mem_append.mp member with inFirst | inLater
        · exact ⟨socket, busy, firstWorks step inFirst⟩
        · obtain ⟨other, otherBusy, onOther⟩ := works step inLater
          rw [others] at otherBusy
          split_ifs at otherBusy with same
          · cases otherBusy
          · exact ⟨other, otherBusy, onOther⟩
      · refine inductionHypothesis running ?_
        intro other otherBusy
        refine (List.mem_cons.mp (listed other otherBusy)).resolve_left ?_
        rintro rfl
        exact busy otherBusy

/--
A plan awaits the broker only while a commit of it is under way; and whatever
has happened, the threads that are busy can finish on their own, after which no
commit is under way and no plan awaits the broker.
-/
theorem no_commit_is_stuck
    (run : ProcessRun config store trace final)
    (running : final.terminated = false) :
    (∀ planId,
      final.planState? planId = some .awaitingResourceCommit →
      ∃ socket, final.commitsAt planId socket) ∧
    ∃ later done,
      Run (step? config) final later done ∧
      (∀ step ∈ later, ∃ socket,
        (final.commitAt socket).isSome = true ∧ WorksOn socket step.event) ∧
      done.terminated = false ∧
      (∀ socket, done.commitAt socket = none) ∧
      ∀ planId,
        done.planState? planId ≠ some .awaitingResourceCommit := by
  refine ⟨awaited_of_run run, ?_⟩
  have listed :
      ∀ socket, (final.commitAt socket).isSome = true →
        socket ∈ final.connections.keys := by
    intro socket busy
    rw [Std.ExtTreeMap.mem_keys, Std.ExtTreeMap.mem_iff_isSome_getElem?]
    exact Option.isSome_of_isSome_filter _ _ busy
  obtain ⟨later, done, draining, works, alive, drained⟩ :=
    exists_run_draining config final.connections.keys running listed
  refine ⟨later, done, draining, works, alive, drained, ?_⟩
  intro planId awaits
  obtain ⟨socket, connection, busy, _⟩ :=
    awaited_of_run (run.append draining) planId awaits
  rw [drained] at busy
  cases busy

/-- A commit that has just begun can be brought to its end. -/
theorem begun_commit_is_not_stuck :
    ∃ trace final,
      ProcessRun defaultConfig none trace final ∧
      (final.commitAt ⟨4⟩).isSome = true ∧
      ∃ later done,
        Run (step? defaultConfig) final later done ∧
        ∀ socket, done.commitAt socket = none := by
  have checked :
      (replay? (step? defaultConfig) (start none)
        (deployment ⟨4⟩ ⟨1⟩ ++
          receiveAll ⟨4⟩
            [ CoordinatorClient.submitRequest (directRequest ⟨5⟩),
              CoordinatorClient.commitPlan ⟨1⟩ ])).any
        (fun reached =>
          !reached.2.terminated && (reached.2.commitAt ⟨4⟩).isSome) =
        true := by
    decide +kernel
  obtain ⟨trace, final, run, holds⟩ := exists_run_of_replay? checked
  rw [Bool.and_eq_true, Bool.not_eq_true'] at holds
  obtain ⟨_, later, done, draining, _, _, drained, _⟩ :=
    no_commit_is_stuck run holds.1
  exact ⟨trace, final, run, holds.2, later, done, draining, drained⟩

/-! ## Plans that need staging memory -/

/-- Without any known capacity nothing that needs staging memory passes. -/
theorem unstaged_of_revalidated
    {plan : CommunicationPlan}
    {snapshot : EvidenceSnapshot}
    (unknown : snapshot.resourceCapacities = [])
    (passed : (revalidatePlan plan snapshot).ok = true) :
    plan.requiredStagingResources = [] := by
  obtain ⟨_, _, _, _, staging⟩ := failures_eq_none_of_ok passed
  rw [List.eq_nil_iff_forall_not_mem]
  intro resource member
  obtain ⟨⟨capacity, known⟩, _⟩ :=
    stagingFailure_eq_none_iff.mp (staging resource member)
  rw [unknown] at known
  cases known

/-- Whatever is on its way to its execution needs no staging memory. -/
def ExecutesUnstaged (recovered state : Coordinator) : Prop :=
  ∀ (planId : CommunicationPlanId) (record : PlanRecord),
    state.ledger.plans[planId]? = some record →
    record.plan.requiredStagingResources ≠ [] →
    record.state ≠ .awaitingExecution ∧ record.state ≠ .active ∧
    (record.state = .completed →
      recovered.planState? planId = some .completed)

theorem ExecutesUnstaged.step
    {recovered : Coordinator}
    (unstaged : ExecutesUnstaged recovered before)
    (unknown : before.registry.snap.resourceCapacities = [])
    (stepped : step? config before event = some (after, actions)) :
    ExecutesUnstaged recovered after := by
  intro planId record found staged
  have change : PlanStep config before planId event
      after.ledger.plans[planId]? := planStep_of_step? stepped
  rw [found] at change
  generalize isSome : some record = changed at change
  cases change with
  | same => exact unstaged planId record isSome.symm staged
  | entered =>
      cases isSome
      simp
  | written old new known writes =>
      cases isSome
      have before := unstaged planId old known staged
      have failed : ∀ passed : (revalidatePlan old.plan _).ok = true, False :=
        fun passed => staged (unstaged_of_revalidated unknown passed)
      cases writes with
      | revalidate socket message kind named passed =>
          exact (failed passed).elim
      | handoff socket message kind named passed => exact (failed passed).elim
      | result socket message kind named active =>
          exact (before.2.1 active).elim
      | beginCommit | undo | refuse | commit | failRevalidation | cancel
      | supersede | supersedeOlder => simp

theorem executesUnstaged_of_run
    (run : ProcessRun config store trace final) :
    ExecutesUnstaged (start store) final := by
  refine run.invariant_trace
    (fun _ state => ExecutesUnstaged (start store) state) ?_ ?_
  · intro planId record found _
    have recovered :
        (start store).planState? planId = some record.state := by
      simp [planState?, found]
    refine ⟨?_, ?_, fun completed => completed ▸ recovered⟩
    · intro executable
      exact not_executable_of_start rfl store planId (executable ▸ recovered)
    · intro executable
      exact not_executable_of_start rfl store planId (executable ▸ recovered)
  · intro earlier before event after outputs past _ unstaged stepped
    exact unstaged.step (resourceCapacities_of_run past) stepped

/--
A plan that needs staging memory never awaits its execution and is never active,
no step brings it to its completion, and no `EXECUTE` frame is sent for it.  The
plans that the planner makes over a relay are such plans.
-/
theorem staged_plan_is_never_executed
    (run : ProcessRun config store trace final) :
    (∀ (planId : CommunicationPlanId) (record : PlanRecord),
      final.ledger.plans[planId]? = some record →
      record.plan.requiredStagingResources ≠ [] →
      record.state ≠ .awaitingExecution ∧ record.state ≠ .active ∧
      (record.state = .completed →
        (start store).planState? planId = some .completed)) ∧
    (∀ step ∈ trace, ∀ (planId : CommunicationPlanId) (record : PlanRecord),
      step.before.ledger.plans[planId]? = some record →
      record.plan.requiredStagingResources ≠ [] →
      ¬BringsTo step planId .completed) ∧
    (∀ step ∈ trace, ∀ planId,
      executes step planId = true →
      ∃ record : PlanRecord,
        step.before.ledger.plans[planId]? = some record ∧
        record.plan.requiredStagingResources = []) ∧
    ∀ step ∈ trace, ∀ request plan,
      submits step request plan →
      plan.direct = false →
      plan.requiredStagingResources ≠ [] := by
  refine ⟨?_, ?_, ?_, ?_⟩
  · exact executesUnstaged_of_run run
  · rintro step member planId record found staged ⟨was, is⟩
    obtain ⟨earlier, later, rfl⟩ := List.append_of_mem member
    obtain ⟨past, stepped, _⟩ := run.cut
    obtain ⟨active, _⟩ := reportsSuccess_of_completed stepped was is
    obtain ⟨_, inactive, _⟩ :=
      executesUnstaged_of_run past planId record found staged
    simp only [planState?, found, Option.map_some,
      Option.some.injEq] at active
    exact inactive active
  · intro step member planId executed
    obtain ⟨earlier, later, rfl⟩ := List.append_of_mem member
    obtain ⟨past, stepped, _⟩ := run.cut
    obtain ⟨socket, message, record, _, _, found, passed, same⟩ :=
      handoff_of_executes step stepped executed
    have named := keyed_of_run past _ record found
    rw [same] at named
    refine ⟨record, named ▸ found, ?_⟩
    exact unstaged_of_revalidated (resourceCapacities_of_run past) passed
  · intro step member request plan submitted indirect unstaged
    have produced :=
      (produced_of_submits step (run.step_of_mem member) submitted).1
    rw [produced.snapshotBound.staging.mp unstaged] at indirect
    cases indirect

/-- The plan over the relay is committed, and is not revalidated. -/
theorem relayed_plan_is_never_executed :
    ∃ trace final record,
      ProcessRun defaultConfig none trace final ∧
      final.ledger.plans[(⟨1⟩ : CommunicationPlanId)]? = some record ∧
      record.plan.requiredStagingResources ≠ [] ∧
      record.state ≠ .awaitingExecution ∧ record.state ≠ .active := by
  have checked :
      (replay? (step? defaultConfig) (start none)
        (relayDeployment ⟨4⟩ ⟨1⟩ ++
          receiveAll ⟨4⟩
            [ CoordinatorClient.submitRequest (relayedRequest ⟨5⟩),
              CoordinatorClient.commitPlan ⟨1⟩ ] ++
          [.acquire ⟨4⟩, .finish ⟨4⟩] ++
          receiveAll ⟨4⟩ [CoordinatorClient.revalidate ⟨1⟩])).any
        (fun reached =>
          reached.2.ledger.plans[(⟨1⟩ : CommunicationPlanId)]?.any
            fun record => record.plan.requiredStagingResources ≠ []) =
        true := by
    decide +kernel
  obtain ⟨trace, final, run, holds⟩ := exists_run_of_replay? checked
  obtain ⟨record, found, staged⟩ := (Option.any_eq_true _ _).mp holds
  rw [decide_eq_true_eq] at staged
  obtain ⟨idle, _, _⟩ := staged_plan_is_never_executed run
  obtain ⟨notAwaiting, notActive, _⟩ := idle ⟨1⟩ record found staged
  exact ⟨trace, final, record, run, found, staged, notAwaiting, notActive⟩

end Coordinator

end CommunicationPlanner
