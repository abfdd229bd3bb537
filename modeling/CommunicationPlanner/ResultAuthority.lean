import CommunicationPlanner.ConnectionFencing

namespace CommunicationPlanner

open OrderedCollections TransitionRun

/-!
# Executors and their results

A plan keeps the incarnation that published its first source when the plan was
made: this is its executor.  A result is compared with the executor and not
with the incarnations that are fenced, and an `EXECUTE` frame goes over the
socket over which the executor's worker registered last, whatever boot it has
there and whoever has that socket now.  So both are right exactly as long as the
executor of the plan is current and its connection has not ended.
-/

/-! ## Results of retired incarnations -/

namespace Registry

instance
    (registry : Registry)
    (worker : WorkerId)
    (boot : WorkerBootId) :
    Decidable (registry.Retired worker boot) :=
  decidable_of_iff
    ((worker, boot) ∈ registry.fenced ∨
      (registry.workers[worker]?.any fun info => info.boot ≠ boot) = true)
    (by simp [Retired, Option.any_eq_true])

end Registry

namespace Ledger

variable
  {ledger : Ledger}
  {message : Message}

/-- The plan is active, and the incarnation is its executor. -/
def awaitsResult
    (ledger : Ledger)
    (planId : CommunicationPlanId)
    (worker : WorkerId)
    (boot : WorkerBootId) : Bool :=
  match ledger.plans[planId]? with
  | none => false
  | some record =>
      record.state = .active && record.worker = worker && record.boot = boot

theorem awaitsResult_iff
    {planId : CommunicationPlanId}
    {worker : WorkerId}
    {boot : WorkerBootId} :
    ledger.awaitsResult planId worker boot = true ↔
      ∃ record,
        ledger.plans[planId]? = some record ∧
        record.state = .active ∧
        record.worker = worker ∧ record.boot = boot := by
  unfold awaitsResult
  split
  · rename_i missing
    simp [missing]
  · rename_i record found
    simp [found, and_assoc]

/-- A result that the executor of an active plan reports settles the plan. -/
theorem handleExecutionResult_of_awaited
    (awaited :
      ledger.awaitsResult message.planId message.worker message.boot =
        true) :
    ∃ record,
      ledger.plans[message.planId]? = some record ∧
      record.state = .active ∧
      ledger.handleExecutionResult message =
        (ledger.setState message.planId record
            (if message.ok then .completed else .failed),
          resultMessage true message.planId) := by
  obtain ⟨record, found, active, worker, boot⟩ := awaitsResult_iff.mp awaited
  refine ⟨record, found, active, ?_⟩
  simp [handleExecutionResult, found, active, worker, boot]

/-- A result that names another incarnation leaves the ledger as it is. -/
theorem handleExecutionResult_of_unawaited
    (named : message.worker.isNull = false)
    (unawaited :
      ledger.awaitsResult message.planId message.worker message.boot =
        false) :
    (ledger.handleExecutionResult message).1 = ledger := by
  unfold handleExecutionResult
  cases found : ledger.plans[message.planId]? with
  | none => rfl
  | some record =>
      by_cases active : record.state = .active
      · have other :
            record.worker = message.worker →
              ¬record.boot = message.boot := by
          simpa [awaitsResult, found, active] using unawaited
        have stale :
            (!message.worker.isNull &&
              (record.worker ≠ message.worker ||
                record.boot ≠ message.boot)) = true := by
          by_cases sameWorker : record.worker = message.worker
          · simp [named, other sameWorker]
          · simp [named, sameWorker]
        simp only [active, ne_eq, not_true_eq_false, if_false, stale, if_true]
      · simp only [ne_eq, active, not_false_eq_true, if_true]

end Ledger

namespace Coordinator

variable
  {config : Config}
  {store : Option (List UInt8)}
  {trace past later : List CoordinatorStep}
  {before after final : Coordinator}
  {actions : List Action}
  {socket : Socket}
  {message : Message}

theorem ledger_of_result
    (kind : message.type = .executionResult)
    (stepped :
      step? config before (.receive socket message) = some (after, actions)) :
    after.ledger = (before.ledger.handleExecutionResult message).1 ∧
      actions =
        [.send socket (before.ledger.handleExecutionResult message).2] := by
  cases taken_of_step? stepped with
  | receive _ _ listening =>
      rw [ledger_resume]
      simp [handleMessage, kind, withLedger]

/-- A result changes a plan exactly when the plan's executor reports it. -/
theorem planState?_of_result_iff
    (kind : message.type = .executionResult)
    (named : message.worker.isNull = false)
    (stepped :
      step? config before (.receive socket message) = some (after, actions)) :
    (∀ planId, after.planState? planId = before.planState? planId) ↔
      before.ledger.awaitsResult message.planId message.worker message.boot =
        false := by
  have handled := (ledger_of_result kind stepped).1
  constructor
  · intro unchanged
    by_contra awaited
    rw [Bool.not_eq_false] at awaited
    obtain ⟨record, found, active, settled⟩ :=
      Ledger.handleExecutionResult_of_awaited awaited
    have same := unchanged message.planId
    rw [settled] at handled
    simp only [planState?, handled, Ledger.getElem?_plans_setState, if_true,
      found, Option.map_some, active] at same
    cases ok : message.ok <;> simp [ok] at same
  · intro unawaited planId
    rw [Ledger.handleExecutionResult_of_unawaited named unawaited] at handled
    unfold planState?
    rw [handled]

/-- The step is a result that names a retired incarnation. -/
def bringsRetiredResult
    (step : CoordinatorStep)
    (message : Message) : Prop :=
  message.type = .executionResult ∧
    step.before.registry.Retired message.worker message.boot ∧
    ∃ socket, step.event = .receive socket message

/--
In a run, the results that name a retired incarnation change no plan exactly
when none of them finds its plan active with that incarnation as executor.
-/
theorem retired_result_changes_nothing_iff
    (run : ProcessRun config store trace final) :
    (∀ step ∈ trace, ∀ message,
      bringsRetiredResult step message →
      ∀ planId,
        step.after.planState? planId = step.before.planState? planId) ↔
    ∀ step ∈ trace, ∀ message,
      bringsRetiredResult step message →
      step.before.ledger.awaitsResult message.planId message.worker
        message.boot = false := by
  have each :
      ∀ step ∈ trace, ∀ message,
        bringsRetiredResult step message →
        ((∀ planId,
            step.after.planState? planId =
              step.before.planState? planId) ↔
          step.before.ledger.awaitsResult message.planId message.worker
            message.boot = false) := by
    rintro step member message ⟨kind, retired, socket, received⟩
    obtain ⟨leading, trailing, rfl⟩ := List.append_of_mem member
    obtain ⟨leadingRun, stepped, _⟩ := run.cut
    rw [received] at stepped
    exact planState?_of_result_iff kind
      ((fences_of_run leadingRun).unauthorized_of_retired retired).1 stepped
  constructor
  · intro unchanged step member message brings
    exact (each step member message brings).mp
      (unchanged step member message brings)
  · intro unawaited step member message brings
    exact (each step member message brings).mpr
      (unawaited step member message brings)

/-- A request is planned, committed, revalidated and handed off. -/
def handoffEvents (socket : Socket) : List Event :=
  receiveAll socket
      [ CoordinatorClient.submitRequest (directRequest ⟨5⟩),
        CoordinatorClient.commitPlan ⟨1⟩ ] ++
    [.acquire socket, .finish socket] ++
    receiveAll socket
      [ CoordinatorClient.revalidate ⟨1⟩,
        CoordinatorClient.executionHandoff ⟨1⟩ ]

/-- The success of the first plan, as the first worker reports it. -/
def reportedResult (boot : WorkerBootId) : Message :=
  { CoordinatorClient.executionResult ⟨1⟩ true with
    worker := ⟨1⟩
    boot := boot }

/-- The plan is revalidated after its executor's end, and the result is late. -/
theorem result_after_revalidation_changes_nothing :
    ∃ trace final step,
      ProcessRun defaultConfig none trace final ∧
      step ∈ trace ∧
      bringsRetiredResult step (reportedResult ⟨1⟩) ∧
      ∀ planId,
        step.after.planState? planId = step.before.planState? planId := by
  have checked :
      (replay? (step? defaultConfig) (start none)
        (deployment ⟨4⟩ ⟨1⟩ ++ handoffEvents ⟨4⟩ ++
          [ .disconnect ⟨4⟩, .accept ⟨5⟩,
            .receive ⟨5⟩ (CoordinatorClient.revalidate ⟨1⟩) ])).any
        (fun reached =>
          (reached.1.all fun step =>
            step.event.message?.all fun message =>
              message.type ≠ .executionResult) &&
          decide (reached.2.registry.Retired ⟨1⟩ ⟨1⟩) &&
          !reached.2.ledger.awaitsResult ⟨1⟩ ⟨1⟩ ⟨1⟩ &&
          (step? defaultConfig reached.2
            (.receive ⟨5⟩ (reportedResult ⟨1⟩))).isSome) = true := by
    decide +kernel
  obtain ⟨trace, state, reached, holds⟩ := exists_run_of_replay? checked
  simp only [Bool.and_eq_true, List.all_eq_true, decide_eq_true_eq,
    Bool.not_eq_true'] at holds
  obtain ⟨⟨⟨noneBefore, retired⟩, unawaited⟩, possible⟩ := holds
  obtain ⟨⟨after, outputs⟩, stepped⟩ := Option.isSome_iff_exists.mp possible
  have run := reached.snoc stepped
  have isLast :
      (⟨state, .receive ⟨5⟩ (reportedResult ⟨1⟩), outputs, after⟩ :
        CoordinatorStep) ∈
      trace ++ [⟨state, .receive ⟨5⟩ (reportedResult ⟨1⟩), outputs, after⟩] :=
    List.mem_append_right _ (List.mem_singleton.mpr rfl)
  refine ⟨_, _, _, run, isLast, ⟨rfl, retired, ⟨5⟩, rfl⟩, ?_⟩
  refine (retired_result_changes_nothing_iff run).mpr ?_ _ isLast _
    ⟨rfl, retired, ⟨5⟩, rfl⟩
  rintro step member message ⟨kind, _, socket, received⟩
  rcases List.mem_append.mp member with earlier | last
  · have other := noneBefore step earlier
    simp [received, kind] at other
  · cases List.mem_singleton.mp last
    cases received
    exact unawaited

/-- The executor's connection ends, and its result still completes the plan. -/
theorem fenced_result_completes_plan :
    ∃ trace final after outputs,
      ProcessRun defaultConfig none trace final ∧
      step? defaultConfig final (.receive ⟨5⟩ (reportedResult ⟨1⟩)) =
        some (after, outputs) ∧
      bringsRetiredResult
        ⟨final, .receive ⟨5⟩ (reportedResult ⟨1⟩), outputs, after⟩
        (reportedResult ⟨1⟩) ∧
      final.planState? ⟨1⟩ = some .active ∧
      after.planState? ⟨1⟩ = some .completed := by
  have checked :
      (replay? (step? defaultConfig) (start none)
        (deployment ⟨4⟩ ⟨1⟩ ++ handoffEvents ⟨4⟩ ++
          [.disconnect ⟨4⟩, .accept ⟨5⟩])).any
        (fun reached =>
          decide (reached.2.registry.Retired ⟨1⟩ ⟨1⟩) &&
          reached.2.planState? ⟨1⟩ = some .active &&
          (step? defaultConfig reached.2
            (.receive ⟨5⟩ (reportedResult ⟨1⟩))).any fun settled =>
              settled.1.planState? ⟨1⟩ = some .completed) = true := by
    decide +kernel
  obtain ⟨trace, state, reached, holds⟩ := exists_run_of_replay? checked
  simp only [Bool.and_eq_true, decide_eq_true_eq] at holds
  obtain ⟨⟨retired, active⟩, settles⟩ := holds
  obtain ⟨⟨after, outputs⟩, stepped, completed⟩ :=
    (Option.any_eq_true _ _).mp settles
  exact ⟨trace, state, after, outputs, reached, stepped,
    ⟨rfl, retired, ⟨5⟩, rfl⟩, active, of_decide_eq_true completed⟩

/-! ## The sockets of executors -/

/-- The socket and the boot under which the step registers the worker. -/
def registration
    (worker : WorkerId)
    (step : CoordinatorStep) : Option (Socket × WorkerBootId) :=
  match step.before.registry.effect step.event with
  | .enrolled carrier registered boot _ =>
      if registered = worker then some (carrier, boot) else none
  | _ => none

/-- The connection ends, or the worker registers again over whichever one. -/
def dislodges
    (step : CoordinatorStep)
    (carrier : Socket)
    (worker : WorkerId) : Bool :=
  match step.event with
  | .disconnect ended => ended = carrier
  | _ => (registration worker step).isSome

/--
The incarnation registered over the connection, and since then neither has its
worker registered again nor has the connection ended.
-/
def StaysRegistered
    (trace : List CoordinatorStep)
    (carrier : Socket)
    (worker : WorkerId)
    (boot : WorkerBootId) : Prop :=
  StandsIn (fun step => registers step carrier worker boot)
    (fun step => dislodges step carrier worker) trace

instance
    (trace : List CoordinatorStep)
    (carrier : Socket)
    (worker : WorkerId)
    (boot : WorkerBootId) :
    Decidable (StaysRegistered trace carrier worker boot) :=
  inferInstanceAs (Decidable (StandsIn _ _ trace))

/-- The two ways to say that a step registers the incarnation. -/
theorem registers_iff
    {step : CoordinatorStep}
    {worker : WorkerId}
    {boot : WorkerBootId} :
    registers step socket worker boot = true ↔
      registration worker step = some (socket, boot) := by
  unfold registers registration
  cases step.before.registry.effect step.event with
  | enrolled carrier registered under name =>
      by_cases same : registered = worker <;> simp [same]
  | _ => simp

/-- The end of a connection registers nobody. -/
theorem registration_of_disconnect
    {step : CoordinatorStep}
    (ended : step.event = .disconnect socket)
    (worker : WorkerId) :
    registration worker step = none := by
  unfold registration
  rw [ended, Registry.effect]
  cases step.before.registry.socketToWorker[socket]? <;> rfl

/-- A worker leaves a connection by its end or by registering over another. -/
theorem detaches_iff
    {step : CoordinatorStep}
    {worker : WorkerId} :
    detaches step socket worker = true ↔
      step.event = .disconnect socket ∨
        ∃ carrier boot,
          registration worker step = some (carrier, boot) ∧
            carrier ≠ socket := by
  by_cases ends : ∃ ended, step.event = .disconnect ended
  · obtain ⟨ended, isEnd⟩ := ends
    rw [registration_of_disconnect isEnd]
    simp [detaches, isEnd]
  · have other : ∀ ended, step.event ≠ .disconnect ended :=
      fun ended isEnd => ends ⟨ended, isEnd⟩
    unfold detaches registration
    split
    · rename_i ended isEnd
      exact (other ended isEnd).elim
    · cases step.before.registry.effect step.event with
      | enrolled carrier registered boot name =>
          by_cases same : registered = worker <;> simp [same, other]
      | _ => simp [other]

/-- A registration is dislodged by the end of its connection and by the next. -/
theorem dislodges_iff
    {step : CoordinatorStep}
    {worker : WorkerId} :
    dislodges step socket worker = true ↔
      step.event = .disconnect socket ∨
        (registration worker step).isSome = true := by
  by_cases ends : ∃ ended, step.event = .disconnect ended
  · obtain ⟨ended, isEnd⟩ := ends
    rw [registration_of_disconnect isEnd]
    simp [dislodges, isEnd]
  · have other : ∀ ended, step.event ≠ .disconnect ended :=
      fun ended isEnd => ends ⟨ended, isEnd⟩
    unfold dislodges
    split
    · rename_i ended isEnd
      exact (other ended isEnd).elim
    · simp [other]

/--
The registration that stands is the worker's last one, over a connection that
still carries it.
-/
theorem staysRegistered_iff
    {worker : WorkerId}
    {boot : WorkerBootId} :
    StaysRegistered trace socket worker boot ↔
      latest? (registration worker) trace = some (socket, boot) ∧
        RegisteredOver trace socket worker boot := by
  induction trace using List.reverseRecOn with
  | nil =>
      simp [StaysRegistered, not_standsIn_nil, latest?]
  | append_singleton earlier step inductionHypothesis =>
      unfold StaysRegistered at inductionHypothesis ⊢
      rw [standsIn_snoc, registeredOver_snoc, latest?_snoc, registers_iff,
        inductionHypothesis, ← Bool.not_eq_true, dislodges_iff,
        ← Bool.not_eq_true, detaches_iff]
      cases isRegistration : registration worker step with
      | none => simp [and_assoc]
      | some carried => aesop

/-- What is known of a worker is what its latest registration said. -/
def Registered
    (trace : List CoordinatorStep)
    (registry : Registry) : Prop :=
  ∀ (worker : WorkerId) (info : WorkerInfo),
    registry.workers[worker]? = some info →
    latest? (registration worker) trace = some (info.sock, info.boot)

/-- Only a registration changes the socket or the boot of a worker. -/
theorem carrier_apply
    (registry : Registry)
    {effect : RegistryEffect}
    (other :
      ∀ socket worker boot name,
        effect ≠ .enrolled socket worker boot name)
    (wanted : WorkerId) :
    ((registry.apply effect).workers[wanted]?.map fun info =>
        (info.sock, info.boot)) =
      registry.workers[wanted]?.map fun info => (info.sock, info.boot) := by
  cases effect with
  | enrolled socket worker boot name =>
      exact (other socket worker boot name rfl).elim
  | nothing | capacityPublished | congestionPublished => rfl
  | endpointPublished worker endpoint =>
      simp only [Registry.apply, Registry.getElem?_listEndpoint]
      split <;> simp [Function.comp_def]
  | linkPublished worker link =>
      simp only [Registry.apply, Registry.getElem?_listLink]
      split <;> simp [Function.comp_def]
  | disconnected socket worker =>
      simp only [Registry.apply, Registry.getElem?_workers_fenceWorker]
      split <;> simp [Function.comp_def]

theorem registered_of_run
    (run : ProcessRun config store trace final) :
    Registered trace final.registry := by
  refine run.invariant_trace
    (fun trace state => Registered trace state.registry) ?_ ?_
  · intro worker info found
    simp [start] at found
  · intro earlier before event after outputs _ _ registered stepped worker
      info found
    rw [registry_of_step? stepped, Registry.next_eq_apply] at found
    rw [latest?_snoc]
    by_cases enrolls :
        ∃ socket registered boot name,
          before.registry.effect event =
            .enrolled socket registered boot name
    · obtain ⟨socket, enrolled, boot, name, isEffect⟩ := enrolls
      rw [isEffect] at found
      change (before.registry.enroll socket enrolled boot
        name).workers[worker]? = some info at found
      rw [Registry.getElem?_workers_enroll] at found
      split_ifs at found with same
      · subst same
        cases found
        simp [registration, isEffect]
      · simpa [registration, isEffect, same] using
          registered worker info found
    · have other :
          ∀ socket registered boot name,
            before.registry.effect event ≠
              .enrolled socket registered boot name := by
        intro socket registered boot name isEffect
        exact enrolls ⟨socket, registered, boot, name, isEffect⟩
      have carried := carrier_apply before.registry other worker
      rw [found, Option.map_some] at carried
      obtain ⟨known, knownFound, same⟩ :=
        Option.map_eq_some_iff.mp carried.symm
      have notRegistered :
          registration worker ⟨before, event, outputs, after⟩ = none := by
        unfold registration
        split
        · rename_i isEffect
          exact (other _ _ _ _ isEffect).elim
        · rfl
      rw [notRegistered, Option.none_or, registered worker known knownFound,
        same]

/-- The executor of a plan stays the same until its identity is drawn again. -/
theorem executor_of_step?
    {event : Event}
    {planId : CommunicationPlanId}
    {record : PlanRecord}
    (stepped : step? config before event = some (after, actions))
    (found : before.ledger.plans[planId]? = some record)
    (undrawn : before.drawn? config event ≠ some planId) :
    ∃ changed,
      after.ledger.plans[planId]? = some changed ∧
      changed.worker = record.worker ∧ changed.boot = record.boot := by
  have change : PlanStep config before planId event
      after.ledger.plans[planId]? := planStep_of_step? stepped
  generalize after.ledger.plans[planId]? = result at change
  cases change with
  | same =>
      exact ⟨record, found, rfl, rfl⟩
  | written old new known writes =>
      rw [found] at known
      cases known
      exact ⟨_, rfl, rfl, rfl⟩
  | entered socket message plan received kind produced open_ named drawn =>
      exact (undrawn drawn).elim

/-- An `EXECUTE` frame goes to the socket of the executor's live worker. -/
theorem handoff_of_execute
    {step : CoordinatorStep}
    {frame : Message}
    (keyed : Keyed step.before)
    (stepped :
      step? config step.before step.event = some (step.after, step.outputs))
    (sent : .send socket frame ∈ step.outputs)
    (isExecute : frame.type = .execute) :
    ∃ (record : PlanRecord) (info : WorkerInfo),
      step.before.ledger.plans[frame.planId]? = some record ∧
      step.before.registry.workers[frame.worker]? = some info ∧
      info.alive = true ∧ info.sock = socket ∧
      frame.worker = record.worker ∧ frame.boot = record.boot ∧
      step.before.drawn? config step.event ≠ some frame.planId := by
  have emitted := emits_of_step? stepped _ sent
  generalize step.event = event at emitted ⊢
  cases emitted with
  | reply event socket message quiet =>
      exact (quiet isExecute).elim
  | execute sender message record info frame kind found passed executor alive
      named authority =>
      obtain ⟨sameWorker, sameBoot⟩ := authority
      refine ⟨record, info, ?_, ?_, alive, rfl, sameWorker, sameBoot, ?_⟩
      · rw [named, keyed message.planId record found]
        exact found
      · rw [sameWorker]
        exact executor
      · simp [drawn?, kind]

/--
The frame goes over a connection over which the incarnation that it names is
registered, with which it is live, and whatever that incarnation reports is not
refused for its authority, as long as the plan's identity is not drawn again.
-/
structure ReachesExecutor
    (config : Config)
    (past : List CoordinatorStep)
    (step : CoordinatorStep)
    (later : List CoordinatorStep)
    (socket : Socket)
    (frame : Message) : Prop where
  registered : RegisteredOver past socket frame.worker frame.boot
  live : step.before.registry.LiveOver socket frame.worker frame.boot
  accepted :
    ∀ between result rest sender message,
      later = between ++ result :: rest →
      (∀ passed ∈ between,
        passed.before.drawn? config passed.event ≠ some frame.planId) →
      result.event = .receive sender message →
      message.type = .executionResult →
      message.planId = frame.planId →
      message.worker = frame.worker →
      message.boot = frame.boot →
      .send sender (errorMessage (ascii "stale result authority")) ∉
        result.outputs

/-- Nobody refuses the executor's own result for its authority. -/
theorem not_stale_of_executor
    {record : PlanRecord}
    {result : CoordinatorStep}
    {sender : Socket}
    (stepped :
      step? config result.before result.event =
        some (result.after, result.outputs))
    (received : result.event = .receive sender message)
    (kind : message.type = .executionResult)
    (found : result.before.ledger.plans[message.planId]? = some record)
    (worker : message.worker = record.worker)
    (boot : message.boot = record.boot) :
    .send sender (errorMessage (ascii "stale result authority")) ∉
      result.outputs := by
  rw [received] at stepped
  rw [(ledger_of_result kind stepped).2]
  simp only [Ledger.handleExecutionResult, found, worker, boot, ne_eq,
    not_true_eq_false, decide_false, Bool.or_self, Bool.and_false,
    Bool.false_eq_true, if_false]
  split <;> simp [errorMessage, resultMessage]

end Coordinator

end CommunicationPlanner
