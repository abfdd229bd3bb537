import CommunicationPlanner.CommitRace

namespace CommunicationPlanner

open TransitionRun

/-!
# Commit before execution

A plan should execute only after its claims were committed.  The handlers of
`REVALIDATE` and `EXECUTION_HANDOFF` do not check this; `ordersExecution` says
of an event that it keeps the order that the lifecycle table intends.  In a
process whose events all keep it, a plan that is committed or further has a
successful commit behind it and was never released.
-/

namespace Coordinator

/-- The state, if there is one, is not one that a release leaves behind. -/
def unreleased (state : PlanState) : Bool :=
  state ≠ .cancelled && state ≠ .superseded

/--
A passing revalidation finds the plan committed or awaiting execution, a
passing handoff finds it awaiting execution, a failing one of either finds it
neither cancelled nor superseded, and no identity is drawn a second time.
-/
def ordersExecution
    (config : Config)
    (state : Coordinator) : Event → Bool
  | .receive socket message =>
      match message.type with
      | .revalidate =>
          match state.ledger.plans[message.planId]? with
          | none => true
          | some record =>
              if (revalidatePlan record.plan state.registry.snap).ok then
                record.state = .committed ||
                  record.state = .awaitingExecution
              else
                unreleased record.state
      | .executionHandoff =>
          match state.ledger.plans[message.planId]? with
          | none => true
          | some record =>
              if (revalidatePlan record.plan state.registry.snap).ok then
                record.state = .awaitingExecution
              else
                unreleased record.state
      | .submitRequest => state.drawsNew config (.receive socket message)
      | _ => true
  | _ => true

/-- A handoff leaves the plan active. -/
def handsOff (step : CoordinatorStep) (planId : CommunicationPlanId) : Bool :=
  match step.event with
  | .receive _ message =>
      message.type = .executionHandoff && message.planId = planId &&
        step.after.planState? planId = some .active
  | _ => false

/-- The plan and the resources that an event releases, if it releases any. -/
def releasedBy
    (state : Coordinator) :
    Event → Option (CommunicationPlanId × List ResourceId)
  | .receive _ message =>
      match message.type, state.ledger.plans[message.planId]? with
      | .cancel, some record =>
          if Ledger.holdsClaims record.state then
            some (message.planId, record.plan.requiredResourceClaims)
          else
            none
      | .supersede, some record =>
          if record.state ≠ .completed ∧ record.state ≠ .cancelled then
            some (message.planId, record.plan.requiredResourceClaims)
          else
            none
      | _, _ => none
  | .finish socket =>
      match state.connections[socket]? with
      | some (.acquired commit none) =>
          match state.ledger.plans[commit.planId]? with
          | none => some (commit.planId, commit.resources)
          | some record =>
              if state.ledger.undoes record then
                some (commit.planId, commit.resources)
              else
                none
      | _ => none
  | _ => none

/-- Some thread is busy with a commit of the plan. -/
def inFlight (state : Coordinator) (planId : CommunicationPlanId) : Bool :=
  state.connections.toList.any fun entry =>
    entry.2.planId? = some planId

/--
The broker forgets a released resource for all plans; the event spares the
others when no resource it releases is claimed by another plan that is
executable or being committed.
-/
def sparesClaims (state : Coordinator) (event : Event) : Bool :=
  match state.releasedBy event with
  | none => true
  | some (planId, resources) =>
      state.ledger.plans.toList.all fun entry =>
        entry.1 = planId ||
          !(entry.2.state.executable || state.inFlight entry.1) ||
          resources.all fun resource =>
            resource ∉ entry.2.plan.requiredResourceClaims

/-- The step releases one of the resources, for whichever plan. -/
def frees (step : CoordinatorStep) (resources : List ResourceId) : Bool :=
  step.outputs.any fun
    | .release _ freed => freed.any fun resource => resource ∈ resources
    | _ => false

section

variable
  {config : Config}
  {before after : Coordinator}
  {event : Event}
  {actions : List Action}
  {planId : CommunicationPlanId}
  {trace : List CoordinatorStep}

/-! ## Commits and releases as they are observed -/

/-- Writing `COMMITTED` is answered with success. -/
theorem commits_of_finish
    {socket : Socket}
    {commit : Commit}
    {record : PlanRecord}
    (busy : before.connections[socket]? = some (.acquired commit none))
    (found : before.ledger.plans[commit.planId]? = some record)
    (kept : before.ledger.undoes record = false)
    (stepped :
      step? config before (.finish socket) = some (after, actions)) :
    commits ⟨before, .finish socket, actions, after⟩ commit.planId = true := by
  cases taken_of_step? stepped with
  | finish _ other failure otherBusy =>
      rw [busy] at otherBusy
      cases otherBusy
      simp [commits, Ledger.finishCommit, found, kept, resultMessage]

/-- A granted call of the broker is observed as such. -/
theorem acquires_of_acquire
    {socket : Socket}
    {commit : Commit}
    (busy : before.connections[socket]? = some (.acquiring commit))
    (granted :
      (before.ledger.broker.acquire commit.resources commit.sizes).2 = none)
    (stepped :
      step? config before (.acquire socket) = some (after, actions)) :
    acquires ⟨before, .acquire socket, actions, after⟩ commit.planId =
      true := by
  cases taken_of_step? stepped with
  | acquire _ other otherBusy =>
      rw [busy] at otherBusy
      cases otherBusy
      simp [acquires, granted]

/-- Whoever releases claims of a plan in the table closes the plan. -/
theorem closed_of_releases
    (step : CoordinatorStep)
    (stepped :
      step? config step.before step.event = some (step.after, step.outputs))
    (present :
      ∀ socket, step.before.commitsAt planId socket →
        (step.before.planState? planId).isSome = true)
    (released : releases step planId = true) :
    step.after.planState? planId = some .cancelled ∨
      step.after.planState? planId = some .superseded := by
  rcases step with ⟨before, event, actions, after⟩
  simp only at stepped present ⊢
  obtain ⟨action, member, isRelease⟩ := List.any_eq_true.mp released
  have emitted := emits_of_step? stepped action member
  have taken := taken_of_step? stepped
  cases emitted with
  | cancel socket message record kind found holding =>
      have named : message.planId = planId := by simpa using isRelease
      subst named
      have unfinished :
          record.state ≠ .completed ∧ record.state ≠ .cancelled := by
        constructor <;> intro isState <;>
          simp [Ledger.holdsClaims, isState] at holding
      cases taken with
      | receive _ _ listening =>
          left
          simp [planState?, handleMessage, kind, withLedger,
            Ledger.handleCancel, found, holding, unfinished]
  | supersede socket message record kind found unfinished =>
      have named : message.planId = planId := by simpa using isRelease
      subst named
      cases taken with
      | receive _ _ listening =>
          right
          have written :
              (before.ledger.supersedeNamed message.planId).1.plans[
                message.planId]? =
                some { record with state := .superseded } := by
            simp [Ledger.supersedeNamed, found, unfinished]
          simp only [planState?, ledger_resume, handleMessage, kind,
            withLedger, Ledger.handleSupersede, Ledger.supersedeOlder]
          split
          · simp [written]
          · split_ifs with isNamed
            · simp [written]
            · split
              · simp [written]
              · simp [isNamed, written]
  | undo socket commit busy undone =>
      have named : commit.planId = planId := by simpa using isRelease
      subst named
      have isBusy : before.commitsAt commit.planId socket :=
        ⟨_, commitAt_of_connections busy rfl, rfl⟩
      obtain ⟨state, isState⟩ :=
        Option.isSome_iff_exists.mp (present socket isBusy)
      obtain ⟨record, found, _⟩ := Option.map_eq_some_iff.mp isState
      cases taken with
      | finish _ other failure otherBusy =>
          rw [busy] at otherBusy
          cases otherBusy
          left
          simp [planState?, Ledger.finishCommit, found,
            undone record found]
  | reply | execute | acquire =>
      simp at isRelease

/-- A commit that is under way was under way, or its plan is in the table. -/
theorem commitsAt_of_step?
    {socket : Socket}
    (stepped : step? config before event = some (after, actions))
    (busy : after.commitsAt planId socket) :
    before.commitsAt planId socket ∨
      (before.planState? planId).isSome = true := by
  obtain ⟨connection, atSocket, named⟩ := busy
  rw [commitAt_of_step? stepped] at atSocket
  cases event with
  | receive other message =>
      simp only [commitAfter] at atSocket
      split_ifs at atSocket with begins
      · cases begun : before.ledger.beginCommit message.planId with
        | error reply =>
            rw [begun] at atSocket
            cases atSocket
        | ok committing =>
            rw [begun] at atSocket
            obtain ⟨record, found, _, _, _, isCommit⟩ :=
              Ledger.beginCommit_eq_ok begun
            cases atSocket
            rw [isCommit] at named
            cases named
            exact .inr (by simp [planState?, found])
      · exact .inl ⟨connection, atSocket, named⟩
  | acquire other =>
      simp only [commitAfter] at atSocket
      split_ifs at atSocket with isSocket
      · subst isSocket
        split at atSocket
        · rename_i commit wasBusy
          cases atSocket
          exact .inl ⟨_, commitAt_of_connections wasBusy rfl, named⟩
        · cases atSocket
      · exact .inl ⟨connection, atSocket, named⟩
  | finish other =>
      simp only [commitAfter] at atSocket
      split_ifs at atSocket with isSocket
      exact .inl ⟨connection, atSocket, named⟩
  | accept | undecodable | disconnect | saveStore =>
      exact .inl ⟨connection, atSocket, named⟩

/-- Claims that a commit holds were held before, or were granted in this step. -/
theorem acquired_of_step?
    {socket : Socket}
    {commit : Commit}
    (stepped : step? config before event = some (after, actions))
    (held : after.commitAt socket = some (.acquired commit none)) :
    before.commitAt socket = some (.acquired commit none) ∨
      acquires ⟨before, event, actions, after⟩ commit.planId = true := by
  rw [commitAt_of_step? stepped] at held
  cases event with
  | receive other message =>
      simp only [commitAfter] at held
      split_ifs at held with begins
      · cases begun : before.ledger.beginCommit message.planId <;>
          simp [begun] at held
      · exact .inl held
  | acquire other =>
      simp only [commitAfter] at held
      split_ifs at held with isSocket
      · subst isSocket
        split at held
        · rename_i waiting wasBusy
          simp only [Option.some.injEq, Connection.acquired.injEq] at held
          obtain ⟨rfl, granted⟩ := held
          exact .inr (acquires_of_acquire wasBusy granted stepped)
        · cases held
      · exact .inl held
  | finish other =>
      simp only [commitAfter] at held
      split_ifs at held with isSocket
      exact .inl held
  | accept | undecodable | disconnect | saveStore =>
      exact .inl held

/-! ## The order of the states -/

/-- The plan is committed or awaits execution. -/
def awaits (state : Option PlanState) : Bool :=
  state = some .committed || state = some .awaitingExecution

/-- Only a successful commit brings a plan to where it may await execution. -/
theorem awaits_of_step?
    (ordered : before.ordersExecution config event = true)
    (stepped : step? config before event = some (after, actions))
    (waiting : awaits (after.planState? planId) = true) :
    awaits (before.planState? planId) = true ∨
      commits ⟨before, event, actions, after⟩ planId = true := by
  have change : PlanStep config before planId event
      after.ledger.plans[planId]? := planStep_of_step? stepped
  unfold planState? at waiting ⊢
  generalize after.ledger.plans[planId]? = changed at change waiting
  cases change with
  | same => exact .inl waiting
  | entered => simp [awaits] at waiting
  | written record new found writes =>
      cases writes with
      | commit socket commit busy named kept =>
          subst named
          exact .inr (commits_of_finish busy found kept stepped)
      | revalidate socket message kind named passed =>
          subst named
          refine .inl ?_
          simpa [ordersExecution, kind, found, passed, awaits] using ordered
      | result =>
          split at waiting <;> simp [awaits] at waiting
      | beginCommit | undo | refuse | failRevalidation | handoff | cancel
      | supersede | supersedeOlder => simp [awaits] at waiting

/-- Only a handoff of a waiting plan makes it active. -/
theorem active_of_step?
    (ordered : before.ordersExecution config event = true)
    (stepped : step? config before event = some (after, actions))
    (active : after.planState? planId = some .active) :
    before.planState? planId = some .active ∨
      before.planState? planId = some .awaitingExecution := by
  have change : PlanStep config before planId event
      after.ledger.plans[planId]? := planStep_of_step? stepped
  unfold planState? at active ⊢
  generalize after.ledger.plans[planId]? = changed at change active
  cases change with
  | same => exact .inl active
  | entered => simp at active
  | written record new found writes =>
      cases writes with
      | handoff socket message kind named passed =>
          subst named
          refine .inr ?_
          simpa [ordersExecution, kind, found, passed] using ordered
      | result =>
          split at active <;> simp at active
      | beginCommit | undo | refuse | commit | revalidate
      | failRevalidation | cancel | supersede | supersedeOlder =>
          simp at active

/-- The plan is committed, awaits execution or is active. -/
def pastCommit
    (state : Coordinator)
    (planId : CommunicationPlanId) : Prop :=
  awaits (state.planState? planId) = true ∨
    state.planState? planId = some .active

theorem executable_of_pastCommit
    {state : Coordinator}
    (reached : state.pastCommit planId) :
    ∃ record,
      state.ledger.plans[planId]? = some record ∧
      record.state.executable = true := by
  cases found : state.ledger.plans[planId]? with
  | none => simp [pastCommit, awaits, planState?, found] at reached
  | some record =>
      refine ⟨record, rfl, ?_⟩
      have isState :
          (record.state = .committed ∨ record.state = .awaitingExecution) ∨
            record.state = .active := by
        simpa [pastCommit, awaits, planState?, found] using reached
      rcases isState with (isState | isState) | isState <;>
        rw [isState] <;> rfl

/-- Only a successful commit brings a plan past its commit. -/
theorem pastCommit_of_step?
    (ordered : before.ordersExecution config event = true)
    (stepped : step? config before event = some (after, actions))
    (reached : after.pastCommit planId) :
    before.pastCommit planId ∨
      commits ⟨before, event, actions, after⟩ planId = true := by
  rcases reached with waiting | active
  · exact (awaits_of_step? ordered stepped waiting).imp_left .inl
  · rcases active_of_step? ordered stepped active with
      wasActive | wasAwaiting
    · exact .inl (.inr wasActive)
    · exact .inl (.inl (by simp [awaits, wasAwaiting]))

/-- The states that a release leaves behind. -/
def closed (state : Option PlanState) : Prop :=
  state = some .cancelled ∨ state = some .superseded

/-- A plan whose claims were released stays closed. -/
theorem closed_of_step?
    (ordered : before.ordersExecution config event = true)
    (stepped : step? config before event = some (after, actions))
    (wasClosed : closed (before.planState? planId)) :
    closed (after.planState? planId) := by
  have change : PlanStep config before planId event
      after.ledger.plans[planId]? := planStep_of_step? stepped
  unfold planState? at wasClosed ⊢
  generalize after.ledger.plans[planId]? = changed at change
  cases change with
  | same => exact wasClosed
  | entered socket message plan received kind produced open_ named drawn =>
      subst received
      have absent : before.planState? planId = none := by
        simpa [ordersExecution, kind, drawsNew, drawn] using ordered
      unfold planState? at absent
      rw [absent] at wasClosed
      rcases wasClosed with isState | isState <;> cases isState
  | written record new found writes =>
      have isClosed :
          record.state = .cancelled ∨ record.state = .superseded := by
        simpa [closed, found] using wasClosed
      cases writes with
      | undo | cancel => exact .inl rfl
      | supersede | supersedeOlder => exact .inr rfl
      | beginCommit socket message kind named committable open_ =>
          rcases isClosed with isState | isState <;>
            simp [isState] at committable
      | refuse socket commit error busy named kept =>
          rcases isClosed with isState | isState <;>
            simp [Ledger.undoes, isState] at kept
      | commit socket commit busy named kept =>
          rcases isClosed with isState | isState <;>
            simp [Ledger.undoes, isState] at kept
      | revalidate socket message kind named passed =>
          subst named
          rcases isClosed with isState | isState <;>
            simp [ordersExecution, kind, found, passed, isState] at ordered
      | failRevalidation socket message kind named failed =>
          subst named
          rcases kind with kind | kind <;>
            rcases isClosed with isState | isState <;>
              simp [ordersExecution, kind, found, failed, isState,
                unreleased] at ordered
      | handoff socket message kind named passed =>
          subst named
          rcases isClosed with isState | isState <;>
            simp [ordersExecution, kind, found, passed, isState] at ordered
      | result socket message kind named active =>
          rcases isClosed with isState | isState <;>
            simp [isState] at active

/-! ## What holds of every ordered run -/

/--
A successful commit, with the call of the broker that it rests on before it.
-/
def CommittedIn
    (planId : CommunicationPlanId)
    (trace : List CoordinatorStep) : Prop :=
  ∃ past answer later,
    trace = past ++ answer :: later ∧
    commits answer planId = true ∧
    ∃ call ∈ past, acquires call planId = true

theorem CommittedIn.snoc
    (committed : CommittedIn planId trace)
    (step : CoordinatorStep) :
    CommittedIn planId (trace ++ [step]) := by
  obtain ⟨past, answer, later, rfl, answered, granted⟩ := committed
  exact ⟨past, answer, later ++ [step], by simp, answered, granted⟩

/-- What has come before, by what the plan and the commits of it are at. -/
structure OrderInvariant
    (planId : CommunicationPlanId)
    (trace : List CoordinatorStep)
    (state : Coordinator) : Prop where
  present :
    ∀ socket, state.commitsAt planId socket →
      (state.planState? planId).isSome = true
  granted :
    ∀ socket commit,
      state.commitAt socket = some (.acquired commit none) →
      commit.planId = planId →
      ∃ call ∈ trace, acquires call planId = true
  committed : state.pastCommit planId → CommittedIn planId trace
  released :
    (∃ step ∈ trace, releases step planId = true) →
    closed (state.planState? planId)

theorem OrderInvariant.step
    (invariant : OrderInvariant planId trace before)
    (ordered : before.ordersExecution config event = true)
    (stepped : step? config before event = some (after, actions)) :
    OrderInvariant planId (trace ++ [⟨before, event, actions, after⟩])
      after where
  present socket busy := by
    rcases commitsAt_of_step? stepped busy with wasBusy | isPresent
    · exact present_of_step? stepped (invariant.present socket wasBusy)
    · exact present_of_step? stepped isPresent
  granted socket commit held named := by
    rcases acquired_of_step? stepped held with wasHeld | granted
    · obtain ⟨call, member, acquired⟩ :=
        invariant.granted socket commit wasHeld named
      exact ⟨call, List.mem_append_left _ member, acquired⟩
    · rw [named] at granted
      exact ⟨_, List.mem_append_right _ (List.mem_singleton.mpr rfl),
        granted⟩
  committed reached := by
    rcases pastCommit_of_step? ordered stepped reached with
      wasPast | answered
    · exact (invariant.committed wasPast).snoc _
    · obtain ⟨socket, commit, record, isEvent, busy, named, _⟩ :=
        committed_of_commits ⟨before, event, actions, after⟩ stepped answered
      obtain ⟨call, member, acquired⟩ := invariant.granted socket commit
        (commitAt_of_connections busy rfl) named
      exact ⟨trace, _, [], rfl, answered, call, member, acquired⟩
  released someReleased := by
    obtain ⟨step, member, isRelease⟩ := someReleased
    rcases List.mem_append.mp member with inTrace | isLast
    · exact closed_of_step? ordered stepped
        (invariant.released ⟨step, inTrace, isRelease⟩)
    · rw [List.mem_singleton.mp isLast] at isRelease
      exact closed_of_releases ⟨before, event, actions, after⟩ stepped
        invariant.present isRelease

theorem orderInvariant_of_run
    {store : Option (List UInt8)}
    {state : Coordinator}
    (run : ProcessRun config store trace state)
    (ordered :
      ∀ step ∈ trace, step.before.ordersExecution config step.event = true) :
    OrderInvariant planId trace state := by
  refine run.invariant_trace (OrderInvariant planId) ?_ ?_
  · refine ⟨?_, ?_, ?_, by simp⟩
    · rintro socket ⟨connection, busy, _⟩
      rw [commitAt_start] at busy
      cases busy
    · intro socket commit held
      rw [commitAt_start] at held
      cases held
    · intro reached
      obtain ⟨record, found, executable⟩ := executable_of_pastCommit reached
      have isState : (start store).planState? planId = some record.state := by
        simp [planState?, found]
      rw [(state_of_start isState).2.2] at executable
      cases executable
  · intro earlier before event after actions _ member invariant stepped
    exact invariant.step (ordered _ member) stepped

/-! ## Claims shared between plans -/

theorem inFlight_of_commitsAt
    {state : Coordinator}
    {socket : Socket}
    (busy : state.commitsAt planId socket) :
    state.inFlight planId = true := by
  obtain ⟨connection, atSocket, named⟩ := busy
  have found : state.connections[socket]? = some connection :=
    (Option.filter_eq_some_iff.mp atSocket).1
  refine List.any_eq_true.mpr ⟨(socket, connection), ?_, by simp [named]⟩
  exact Std.ExtTreeMap.mem_toList_iff_getElem?_eq_some.mpr found

/-- A release is the one that the state and the event determine. -/
theorem releasedBy_of_emits
    {resources : List ResourceId}
    (emitted : Emits before event (.release planId resources)) :
    before.releasedBy event = some (planId, resources) := by
  cases emitted with
  | cancel socket message record kind found holding =>
      simp [releasedBy, kind, found, holding]
  | supersede socket message record kind found unfinished =>
      simp [releasedBy, kind, found, unfinished]
  | undo socket commit busy undone =>
      simp only [releasedBy, busy]
      split
      · rfl
      · rename_i record found
        rw [if_pos (undone record found)]

/-- What a sparing step frees of a plan's claims, it releases for that plan. -/
theorem releases_of_frees
    {record : PlanRecord}
    (spares : before.sparesClaims event = true)
    (stepped : step? config before event = some (after, actions))
    (found : before.ledger.plans[planId]? = some record)
    (concerned :
      record.state.executable = true ∨ before.inFlight planId = true)
    (freed :
      frees ⟨before, event, actions, after⟩
        record.plan.requiredResourceClaims = true) :
    releases ⟨before, event, actions, after⟩ planId = true := by
  obtain ⟨action, member, isFreed⟩ := List.any_eq_true.mp freed
  cases action with
  | send | acquire => cases isFreed
  | release other resources =>
      obtain ⟨resource, isReleased, isClaimed⟩ := List.any_eq_true.mp isFreed
      have determined := releasedBy_of_emits
        (emits_of_step? stepped _ member)
      have inTable : (planId, record) ∈ before.ledger.plans.toList :=
        Std.ExtTreeMap.mem_toList_iff_getElem?_eq_some.mpr found
      simp only [sparesClaims, determined] at spares
      have spared := List.all_eq_true.mp spares _ inTable
      have isOther : other = planId := by
        by_contra differs
        have active :
            (record.state.executable || before.inFlight planId) = true := by
          simpa using concerned
        simp only [Ne.symm differs, active, decide_false, Bool.not_true,
          Bool.false_or, List.all_eq_true, decide_eq_true_eq] at spared
        exact spared resource isReleased (by simpa using isClaimed)
      refine List.any_eq_true.mpr ⟨_, member, ?_⟩
      simp [isOther]

/--
The broker granted the claims, and since then none of them was released for any
plan; `answered` says that the commit was also answered with success.
-/
def HeldSince
    (planId : CommunicationPlanId)
    (claims : List ResourceId)
    (answered : Prop)
    (trace : List CoordinatorStep) : Prop :=
  ∃ past call later,
    trace = past ++ call :: later ∧
    acquires call planId = true ∧
    (∀ step ∈ later, frees step claims = false) ∧
    (answered → ∃ answer ∈ later, commits answer planId = true)

theorem HeldSince.snoc
    {claims : List ResourceId}
    {answered answeredNow : Prop}
    {step : CoordinatorStep}
    (held : HeldSince planId claims answered trace)
    (kept : frees step claims = false)
    (answers : answeredNow → answered ∨ commits step planId = true) :
    HeldSince planId claims answeredNow (trace ++ [step]) := by
  obtain ⟨past, call, later, rfl, granted, unfreed, answer⟩ := held
  refine ⟨past, call, later ++ [step], by simp, granted, ?_, ?_⟩
  · intro known member
    rcases List.mem_append.mp member with inLater | isLast
    · exact unfreed known inLater
    · rw [List.mem_singleton.mp isLast]
      exact kept
  · intro isAnswered
    rcases answers isAnswered with before | now
    · obtain ⟨known, member, commits⟩ := answer before
      exact ⟨known, List.mem_append_left _ member, commits⟩
    · exact ⟨step, by simp, now⟩

/-- A commit of an open plan under way holds the claims it was granted. -/
def holdsGrant
    (state : Coordinator)
    (planId : CommunicationPlanId) : Prop :=
  (∃ socket commit,
    state.commitAt socket = some (.acquired commit none) ∧
    commit.planId = planId) ∧
  ¬closed (state.planState? planId)

/-- A plan past its commit holds its claims since it was granted them. -/
structure HoldInvariant
    (planId : CommunicationPlanId)
    (trace : List CoordinatorStep)
    (state : Coordinator) : Prop where
  order : OrderInvariant planId trace state
  held :
    ∀ record,
      state.ledger.plans[planId]? = some record →
      state.pastCommit planId ∨ state.holdsGrant planId →
      HeldSince planId record.plan.requiredResourceClaims
        (state.pastCommit planId) trace

/-- What brings a plan past its commit, or a commit to its grant. -/
private theorem hold_origin
    (ordered : before.ordersExecution config event = true)
    (stepped : step? config before event = some (after, actions))
    (holding : after.pastCommit planId ∨ after.holdsGrant planId) :
    before.pastCommit planId ∨
    before.holdsGrant planId ∨
    acquires ⟨before, event, actions, after⟩ planId = true := by
  rcases holding with reached | ⟨⟨socket, commit, held, named⟩, open_⟩
  · rcases pastCommit_of_step? ordered stepped reached with
      wasPast | answered
    · exact .inl wasPast
    · obtain ⟨socket, commit, record, isEvent, busy, named, found, kept⟩ :=
        committed_of_commits ⟨before, event, actions, after⟩ stepped answered
      refine .inr (.inl ⟨⟨socket, commit,
        commitAt_of_connections busy rfl, named⟩, ?_⟩)
      intro isClosed
      have isState :
          record.state = .cancelled ∨ record.state = .superseded := by
        simpa [closed, planState?, found] using isClosed
      rcases isState with isState | isState <;>
        simp [Ledger.undoes, isState] at kept
  · subst named
    rcases acquired_of_step? stepped held with wasHeld | granted
    · refine .inr (.inl ⟨⟨socket, commit, wasHeld, rfl⟩, ?_⟩)
      intro wasClosed
      exact open_ (closed_of_step? ordered stepped wasClosed)
    · exact .inr (.inr granted)

/-- The record of a plan that is in the table keeps its plan. -/
private theorem plan_of_step?
    {record changed : PlanRecord}
    (ordered : before.ordersExecution config event = true)
    (stepped : step? config before event = some (after, actions))
    (found : before.ledger.plans[planId]? = some record)
    (now : after.ledger.plans[planId]? = some changed) :
    changed.plan = record.plan := by
  have undrawn : before.drawn? config event ≠ some planId := by
    intro drawn
    obtain ⟨socket, message, rfl, kind, _⟩ := submission_of_drawn drawn
    refine undrawn_of_drawsNew ?_ ?_ drawn
    · simpa [ordersExecution, kind] using ordered
    · simp [planState?, found]
  obtain ⟨result, isResult, samePlan⟩ :=
    record_of_step? stepped found undrawn
  rw [now] at isResult
  cases isResult
  exact samePlan

/--
Whatever a plan holds and wherever that came from, the plan was in the table and
concerned; and no step both calls the broker and answers a commit.
-/
theorem HoldInvariant.step
    (invariant : HoldInvariant planId trace before)
    (ordered : before.ordersExecution config event = true)
    (spares : before.sparesClaims event = true)
    (stepped : step? config before event = some (after, actions)) :
    HoldInvariant planId (trace ++ [⟨before, event, actions, after⟩])
      after where
  order := invariant.order.step ordered stepped
  held changed now holding := by
    have origin := hold_origin ordered stepped holding
    have concerned :
        ∃ record,
          before.ledger.plans[planId]? = some record ∧
          (record.state.executable = true ∨
            before.inFlight planId = true) := by
      have flying :
          ∀ socket, before.commitsAt planId socket →
            ∃ record,
              before.ledger.plans[planId]? = some record ∧
              (record.state.executable = true ∨
                before.inFlight planId = true) := by
        intro socket busy
        obtain ⟨_, isState⟩ :=
          Option.isSome_iff_exists.mp (invariant.order.present socket busy)
        obtain ⟨record, found, _⟩ := Option.map_eq_some_iff.mp isState
        exact ⟨record, found, .inr (inFlight_of_commitsAt busy)⟩
      rcases origin with wasPast | wasHeld | granted
      · obtain ⟨record, found, executable⟩ :=
          executable_of_pastCommit wasPast
        exact ⟨record, found, .inl executable⟩
      · obtain ⟨⟨socket, commit, held, named⟩, _⟩ := wasHeld
        exact flying socket ⟨_, held, congrArg some named⟩
      · obtain ⟨socket, commit, _, busy, named⟩ :=
          acquiring_of_acquires ⟨before, event, actions, after⟩ stepped
            granted
        exact flying socket
          ⟨_, commitAt_of_connections busy rfl, congrArg some named⟩
    obtain ⟨record, found, isConcerned⟩ := concerned
    rw [plan_of_step? ordered stepped found now]
    have kept :
        frees ⟨before, event, actions, after⟩
          record.plan.requiredResourceClaims = false := by
      by_contra isFreed
      have released := releases_of_frees spares stepped found isConcerned
        (by simpa using isFreed)
      have nowClosed := closed_of_releases ⟨before, event, actions, after⟩
        stepped invariant.order.present released
      rcases holding with (waiting | active) | ⟨_, open_⟩
      · rcases nowClosed with isState | isState <;>
          simp [isState, awaits] at waiting
      · rcases nowClosed with isState | isState <;>
          simp [isState] at active
      · exact open_ nowClosed
    have answers := @pastCommit_of_step? config before after event actions
      planId ordered stepped
    by_cases wasPast : before.pastCommit planId
    · exact (invariant.held record found (.inl wasPast)).snoc kept
        fun _ => .inl wasPast
    · rcases origin with isPast | wasHeld | granted
      · exact (wasPast isPast).elim
      · exact (invariant.held record found (.inr wasHeld)).snoc kept answers
      · refine ⟨trace, _, [], rfl, granted, by simp, ?_⟩
        intro reached
        obtain ⟨_, _, isCall, _⟩ := acquiring_of_acquires
          ⟨before, event, actions, after⟩ stepped granted
        obtain ⟨_, _, _, isAnswer, _⟩ := committed_of_commits
          ⟨before, event, actions, after⟩ stepped
          ((answers reached).resolve_left wasPast)
        rw [isCall] at isAnswer
        cases isAnswer

theorem holdInvariant_of_run
    {store : Option (List UInt8)}
    {state : Coordinator}
    (run : ProcessRun config store trace state)
    (ordered :
      ∀ step ∈ trace, step.before.ordersExecution config step.event = true)
    (spares : ∀ step ∈ trace, step.before.sparesClaims step.event = true) :
    HoldInvariant planId trace state := by
  refine run.invariant_trace (HoldInvariant planId) ?_ ?_
  · have empty : ProcessRun config store [] (start store) := .nil
    have order : OrderInvariant planId [] (start store) :=
      orderInvariant_of_run empty (by simp)
    refine ⟨order, ?_⟩
    rintro record found (reached | ⟨⟨socket, commit, held, _⟩, _⟩)
    · obtain ⟨past, answer, later, isTrace, _⟩ := order.committed reached
      simp at isTrace
    · rw [commitAt_start] at held
      cases held
  · intro earlier before event after actions _ member invariant stepped
    exact invariant.step (ordered _ member) (spares _ member) stepped

/-- An `EXECUTE` frame takes a plan from awaiting execution to active. -/
theorem states_of_executes
    (step : CoordinatorStep)
    (keyed : Keyed step.before)
    (ordered : step.before.ordersExecution config step.event = true)
    (stepped :
      step? config step.before step.event = some (step.after, step.outputs))
    (executed : executes step planId = true) :
    step.before.planState? planId = some .awaitingExecution ∧
      step.after.planState? planId = some .active := by
  obtain ⟨socket, message, record, received, kind, found, passed, sameId⟩ :=
    handoff_of_executes step stepped executed
  have named : message.planId = planId :=
    (keyed message.planId record found).symm.trans sameId
  subst named
  rcases step with ⟨before, event, actions, after⟩
  simp only at received found passed ordered stepped ⊢
  subst received
  constructor
  · simpa [ordersExecution, kind, found, passed, planState?] using ordered
  · cases taken_of_step? stepped with
    | receive _ _ listening =>
        simp [planState?, handleMessage, kind, withLedger,
          Ledger.handleExecutionHandoff, found, passed]

/-- A handoff that leaves its plan active found it awaiting execution. -/
theorem awaiting_of_handsOff
    (step : CoordinatorStep)
    (ordered : step.before.ordersExecution config step.event = true)
    (stepped :
      step? config step.before step.event = some (step.after, step.outputs))
    (handedOff : handsOff step planId = true) :
    step.before.planState? planId = some .awaitingExecution := by
  rcases step with ⟨before, event, actions, after⟩
  simp only at ordered stepped ⊢
  cases taken_of_step? stepped with
  | receive socket message listening =>
      simp only [handsOff, Bool.and_eq_true, decide_eq_true_eq] at handedOff
      obtain ⟨⟨kind, rfl⟩, active⟩ := handedOff
      cases found : before.ledger.plans[message.planId]? with
      | none =>
          simp [planState?, handleMessage, kind, withLedger,
            Ledger.handleExecutionHandoff, found] at active
      | some record =>
          cases passed :
              (revalidatePlan record.plan before.registry.snap).ok with
          | false =>
              simp [planState?, handleMessage, kind, withLedger,
                Ledger.handleExecutionHandoff, found, passed] at active
          | true =>
              simpa [ordersExecution, kind, found, passed, planState?]
                using ordered
  | accept | undecodable | acquire | finish | disconnect | saveStore =>
      cases handedOff

end

/--
In a process whose events keep the intended order, a handoff that makes a plan
active finds it awaiting execution, with a successful commit behind it and no
release of its claims since; if also no event releases a resource that another
live plan claims, the broker has held the claims ever since it granted them.
Between two `EXECUTE` frames for a plan there is a successful commit of it.
-/
theorem handoff_follows_commit
    {config : Config}
    {store : Option (List UInt8)}
    {trace : List CoordinatorStep}
    {state : Coordinator}
    {planId : CommunicationPlanId}
    (run : ProcessRun config store trace state)
    (ordered :
      ∀ step ∈ trace, step.before.ordersExecution config step.event = true) :
    (∀ past step later,
      trace = past ++ step :: later →
      handsOff step planId = true →
      step.before.planState? planId = some .awaitingExecution ∧
      CommittedIn planId past ∧
      NeverIn (releases · planId) past ∧
      ((∀ known ∈ past, known.before.sparesClaims known.event = true) →
        ∀ record,
          step.before.ledger.plans[planId]? = some record →
          HeldSince planId record.plan.requiredResourceClaims True past)) ∧
    ∀ past first between second later,
      trace = past ++ first :: (between ++ second :: later) →
      executes first planId = true →
      executes second planId = true →
      ∃ step ∈ between, commits step planId = true := by
  constructor
  · rintro past step later rfl handedOff
    obtain ⟨reached, stepped, _⟩ := run.cut
    have pastOrdered :
        ∀ known ∈ past,
          known.before.ordersExecution config known.event = true :=
      fun known member => ordered known (List.mem_append_left _ member)
    have invariant : OrderInvariant planId past step.before :=
      orderInvariant_of_run reached pastOrdered
    have awaiting :
        step.before.planState? planId = some .awaitingExecution :=
      awaiting_of_handsOff step (ordered step (by simp)) stepped handedOff
    have waiting : step.before.pastCommit planId :=
      .inl (by simp [awaits, awaiting])
    refine ⟨awaiting, invariant.committed waiting, ?_, ?_⟩
    · intro known member
      by_contra released
      rcases invariant.released ⟨known, member, by simpa using released⟩ with
        isState | isState <;> rw [awaiting] at isState <;> cases isState
    · intro spares record found
      obtain ⟨before, call, after, isPast, granted, unfreed, answer⟩ :=
        (holdInvariant_of_run reached pastOrdered spares).held record found
          (.inl waiting)
      exact ⟨before, call, after, isPast, granted, unfreed,
        fun _ => answer waiting⟩
  · rintro past first between second later rfl firstExecutes secondExecutes
    obtain ⟨reached, firstStepped, rest⟩ := run.cut
    obtain ⟨middle, secondStepped, _⟩ := rest.cut
    have keyed : Keyed first.before := keyed_of_run reached
    have keyedSecond : Keyed second.before :=
      middle.invariant Keyed (keyed.step firstStepped)
        fun _ _ stepped isKeyed => isKeyed.step stepped
    by_contra uncommitted
    have idle : awaits (second.before.planState? planId) = false := by
      refine middle.invariant
        (fun state => awaits (state.planState? planId) = false) ?_ ?_
      · rw [(states_of_executes first keyed (ordered first (by simp))
          firstStepped firstExecutes).2]
        rfl
      · intro step member stepped isIdle
        by_contra waiting
        rcases awaits_of_step? (ordered step (by simp [member])) stepped
          (by simpa using waiting) with wasWaiting | answered
        · rw [isIdle] at wasWaiting
          cases wasWaiting
        · exact uncommitted ⟨step, member, answered⟩
    rw [(states_of_executes second keyedSecond (ordered second (by simp))
      secondStepped secondExecutes).1] at idle
    cases idle

/--
Submitted, committed, revalidated and handed off, a plan is executed.  It is a
plan over one link, which claims nothing of the broker: a plan over a relay asks
for staging memory, does not pass revalidation, and so is never handed off.
-/
theorem committed_plan_handed_off :
    ∃ past step later state,
      ProcessRun defaultConfig none (past ++ step :: later) state ∧
      handsOff step ⟨1⟩ = true ∧
      executes step ⟨1⟩ = true ∧
      step.before.planState? ⟨1⟩ = some .awaitingExecution ∧
      CommittedIn ⟨1⟩ past ∧
      NeverIn (releases · ⟨1⟩) past := by
  have checked :
      (replay? (step? defaultConfig) (start none)
        (deployment ⟨4⟩ ⟨1⟩ ++
          [ .receive ⟨4⟩
              (CoordinatorClient.submitRequest (directRequest ⟨5⟩)),
            .receive ⟨4⟩ (CoordinatorClient.commitPlan ⟨1⟩),
            .acquire ⟨4⟩,
            .finish ⟨4⟩,
            .receive ⟨4⟩ (CoordinatorClient.revalidate ⟨1⟩),
            .receive ⟨4⟩ (CoordinatorClient.executionHandoff ⟨1⟩) ])).any
        (fun reached =>
          (reached.1.all fun step =>
            step.before.ordersExecution defaultConfig step.event) &&
          passesInOrder
            [fun step => handsOff step ⟨1⟩ && executes step ⟨1⟩]
            (reached.1.drop 10)) = true := by
    decide +kernel
  obtain ⟨trace, state, run, holds⟩ := exists_run_of_replay? checked
  have parts := List.take_append_drop 10 trace
  simp only [Bool.and_eq_true, List.all_eq_true, passesInOrder_cons,
    passesInOrder_nil] at holds
  obtain ⟨ordered, step, _, isLast, ⟨handedOff, executed⟩, rfl⟩ := holds
  rw [isLast] at parts
  obtain ⟨awaiting, committed, unreleased, _⟩ :=
    (handoff_follows_commit run ordered).1 (trace.take 10) step []
      parts.symm handedOff
  refine ⟨trace.take 10, step, [], state, ?_, handedOff, executed, awaiting,
    committed, unreleased⟩
  rw [parts]
  exact run

/-- A plan that was never committed is handed off twice and executed twice. -/
theorem uncommitted_plan_executed_twice :
    ∃ past first second later state,
      ProcessRun defaultConfig none
        (past ++ first :: ([] ++ second :: later)) state ∧
      handsOff first ⟨1⟩ = true ∧
      first.before.planState? ⟨1⟩ = some .planReady ∧
      executes first ⟨1⟩ = true ∧
      executes second ⟨1⟩ = true ∧
      NeverIn (commits · ⟨1⟩)
        (past ++ first :: ([] ++ second :: later)) := by
  have checked :
      (replay? (step? defaultConfig) (start none)
        (deployment ⟨4⟩ ⟨1⟩ ++
          receiveAll ⟨4⟩
            [ CoordinatorClient.submitRequest (directRequest ⟨5⟩),
              CoordinatorClient.executionHandoff ⟨1⟩,
              CoordinatorClient.executionHandoff ⟨1⟩ ])).any
        (fun reached =>
          (reached.1.all fun step => !commits step ⟨1⟩) &&
          passesInOrder
            [fun first =>
                handsOff first ⟨1⟩ &&
                  first.before.planState? ⟨1⟩ = some .planReady &&
                  executes first ⟨1⟩,
              (executes · ⟨1⟩)]
            (reached.1.drop 6)) = true := by
    decide +kernel
  obtain ⟨trace, state, run, holds⟩ := exists_run_of_replay? checked
  have parts := List.take_append_drop 6 trace
  simp only [Bool.and_eq_true, List.all_eq_true, Bool.not_eq_true',
    passesInOrder_cons, passesInOrder_nil, decide_eq_true_eq] at holds
  obtain ⟨uncommitted, first, _, isEnd,
    ⟨⟨handedOff, ready⟩, firstExecutes⟩, second, _, rfl, secondExecutes,
    rfl⟩ := holds
  rw [isEnd] at parts
  refine ⟨trace.take 6, first, second, [], state, ?_, handedOff, ready,
    firstExecutes, secondExecutes, ?_⟩
  · simpa [parts] using run
  · intro step member
    rw [List.nil_append, parts] at member
    exact uncommitted step member

end Coordinator

end CommunicationPlanner
