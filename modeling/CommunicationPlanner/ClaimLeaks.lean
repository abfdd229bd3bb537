import CommunicationPlanner.BrokerHoldings

namespace CommunicationPlanner

open TransitionRun PooledHoldings

/-!
# Plans that end without a release

Cancelling a plan that holds its claims, superseding it by name and undoing its
commit release what was acquired for it.  The other ways in which a plan ends do
not: a result, a cancellation after a failed revalidation, being the older plan
of a supersession, and a second commit that the broker refuses.
`releasesBeforeEnd` says of a step that it takes none of these ways while
something is held for the plan; then whatever is held is held for a plan that
has not ended, or for a commit that is under way.
-/

/-- The commit that keeps a thread busy. -/
def Connection.commit? : Connection → Option Commit
  | .receiving => none
  | .acquiring commit => some commit
  | .acquired commit _ => some commit

namespace Coordinator

/-- A commit of the plan was granted its claims and is not yet decided. -/
def holdsInFlight
    (state : Coordinator)
    (planId : CommunicationPlanId) : Bool :=
  state.connections.toList.any fun entry =>
    match entry.2 with
    | .acquired commit none => commit.planId = planId
    | _ => false

/-- The event ends the plan, or would, and releases nothing for it. -/
def endsUnreleased
    (state : Coordinator)
    (planId : CommunicationPlanId) : Event → Bool
  | .receive _ message =>
      match message.type, state.ledger.plans[planId]? with
      | .executionResult, some record =>
          message.planId = planId && record.state = .active &&
            (message.worker.isNull ||
              record.worker = message.worker && record.boot = message.boot)
      | .cancel, some record =>
          message.planId = planId && !Ledger.holdsClaims record.state
      | .supersede, some _ =>
          message.planId ≠ planId &&
            state.ledger.currentByRequest[message.requestId]? = some planId
      | _, _ => false
  | .finish socket =>
      match state.connections[socket]? with
      | some (.acquired commit (some _)) => commit.planId = planId
      | _ => false
  | _ => false

/--
The step does not end a plan without a release while something is held for it,
except by a commit that is still under way, and it does not give the identity of
a plan that holds something or is being committed to a new plan.
-/
def releasesBeforeEnd
    (config : Config)
    (past : List CoordinatorStep)
    (step : CoordinatorStep) : Bool :=
  (standing past).all (fun holding =>
    step.before.drawn? config step.event ≠ some holding.owner &&
      (!step.before.endsUnreleased holding.owner step.event ||
        step.before.holdsInFlight holding.owner)) &&
  step.before.connections.toList.all fun entry =>
    entry.2.commit?.all fun commit =>
      step.before.drawn? config step.event ≠ some commit.planId

section

variable
  {config : Config}
  {before after : Coordinator}
  {event : Event}
  {actions : List Action}
  {planId : CommunicationPlanId}

theorem holdsInFlight_iff
    {state : Coordinator} :
    state.holdsInFlight planId = true ↔
      ∃ (socket : Socket) (commit : Commit),
        state.connections[socket]? = some (.acquired commit none) ∧
        commit.planId = planId := by
  unfold holdsInFlight
  rw [List.any_eq_true]
  constructor
  · rintro ⟨⟨socket, connection⟩, member, holds⟩
    have found := Std.ExtTreeMap.mem_toList_iff_getElem?_eq_some.mp member
    simp only at holds
    split at holds
    · rename_i commit
      exact ⟨socket, commit, found, by simpa using holds⟩
    · cases holds
  · rintro ⟨socket, commit, found, named⟩
    exact ⟨(socket, .acquired commit none),
      Std.ExtTreeMap.mem_toList_iff_getElem?_eq_some.mpr found,
      by simp [named]⟩

/-- A commit with its claims stays under way until its second critical section. -/
theorem holdsInFlight_of_step?
    (stepped : step? config before event = some (after, actions))
    (holds : before.holdsInFlight planId = true) :
    after.holdsInFlight planId = true ∨
    ∃ (socket : Socket) (commit : Commit),
      event = .finish socket ∧
      before.connections[socket]? = some (.acquired commit none) ∧
      commit.planId = planId := by
  obtain ⟨socket, commit, busy, named⟩ := holdsInFlight_iff.mp holds
  by_cases finishes : event = .finish socket
  · exact .inr ⟨socket, commit, finishes, busy, named⟩
  · left
    have busyAt : before.commitAt socket = some (.acquired commit none) :=
      commitAt_of_connections busy rfl
    have stillBusy :
        after.commitAt socket = some (.acquired commit none) := by
      rw [commitAt_of_step? stepped]
      cases event with
      | receive other message =>
          simp only [commitAfter]
          split_ifs with begins
          · cases taken_of_step? stepped with
            | receive _ _ listening =>
                rw [begins.1] at listening
                rw [commitAt_of_listens listening] at busyAt
                cases busyAt
          · exact busyAt
      | acquire other =>
          simp only [commitAfter]
          split_ifs with isSocket
          · cases taken_of_step? stepped with
            | acquire _ waiting isWaiting =>
                rw [isSocket, busy] at isWaiting
                cases isWaiting
          · exact busyAt
      | finish other =>
          simp only [commitAfter]
          split_ifs with isSocket
          · exact (finishes (congrArg _ isSocket)).elim
          · exact busyAt
      | accept | undecodable | disconnect | saveStore => exact busyAt
    have found : after.connections[socket]? = some (.acquired commit none) :=
      (Option.filter_eq_some_iff.mp stillBusy).1
    exact holdsInFlight_iff.mpr ⟨socket, commit, found, named⟩

/-- The second critical section releases the claims, or the plan is committed. -/
theorem committed_of_finish
    {socket : Socket}
    {commit : Commit}
    {record : PlanRecord}
    (busy : before.connections[socket]? = some (.acquired commit none))
    (found : before.ledger.plans[commit.planId]? = some record)
    (unreleased : before.releasedBy (.finish socket) = none)
    (stepped :
      step? config before (.finish socket) = some (after, actions)) :
    after.ledger.plans[commit.planId]? =
      some { record with state := .committed } := by
  have kept : before.ledger.undoes record = false := by
    by_contra undone
    simp [releasedBy, busy, found, undone] at unreleased
  cases taken_of_step? stepped with
  | finish _ other failure otherBusy =>
      rw [busy] at otherBusy
      cases otherBusy
      simp [Ledger.finishCommit, found, kept]

/--
A plan that ends without a release ends in one of the listed ways; a result
without authority leaves it active.
-/
theorem endsUnreleased_of_step?
    {record changed : PlanRecord}
    (stepped : step? config before event = some (after, actions))
    (found : before.ledger.plans[planId]? = some record)
    (now : after.ledger.plans[planId]? = some changed)
    (open_ : record.state.terminal = false)
    (ended : changed.state.terminal = true)
    (unreleased :
      ∀ resources, before.releasedBy event ≠ some (planId, resources)) :
    before.endsUnreleased planId event = true := by
  have change : PlanStep config before planId event (some changed) :=
    now ▸ planStep_of_step? stepped
  generalize isSome : some changed = result at change
  cases change with
  | same =>
      rw [found] at isSome
      cases isSome
      rw [open_] at ended
      cases ended
  | entered socket message plan received kind produced =>
      cases isSome
      rw [Ledger.state_newRecord] at ended
      cases ended
  | written old new known writes =>
      rw [found] at known
      cases known
      cases isSome
      cases writes with
      | undo socket commit failure busy named undone =>
          subst named
          cases failure with
          | some error => simp [endsUnreleased, busy]
          | none =>
              refine (unreleased commit.resources ?_).elim
              simp [releasedBy, busy, found, undone]
      | refuse socket commit error busy named kept =>
          simp [endsUnreleased, busy, named]
      | result socket message kind named active =>
          subst named
          simp only [endsUnreleased, kind, found, active, decide_true,
            Bool.true_and]
          by_contra refused
          cases taken_of_step? stepped with
          | receive _ _ listening =>
              have authority :
                  (!message.worker.isNull &&
                    (record.worker ≠ message.worker ||
                      record.boot ≠ message.boot)) = true := by
                simp only [Bool.not_eq_true, Bool.or_eq_false_iff,
                  Bool.and_eq_false_imp] at refused
                by_cases worker : record.worker = message.worker <;>
                  simp_all
              rw [ledger_resume] at now
              simp only [handleMessage, kind, withLedger,
                Ledger.handleExecutionResult, found, active, ne_eq,
                not_true_eq_false, if_false, authority, if_true] at now
              have sameState := congrArg PlanRecord.state
                (Option.some.inj now)
              simp only [active] at sameState
              split at sameState <;> cases sameState
      | cancel socket message kind named unfinished =>
          subst named
          by_cases holding : Ledger.holdsClaims record.state = true
          · refine (unreleased record.plan.requiredResourceClaims ?_).elim
            simp [releasedBy, kind, found, holding]
          · simp [endsUnreleased, kind, found, holding]
      | supersede socket message kind named unfinished =>
          subst named
          refine (unreleased record.plan.requiredResourceClaims ?_).elim
          simp [releasedBy, kind, found, unfinished]
      | supersedeOlder socket message kind current other =>
          simp [endsUnreleased, kind, found, current, other]
      | beginCommit | commit | revalidate | failRevalidation | handoff =>
          cases ended

/-! ## What is held is accounted for -/

/--
Something is held for the plan that claims it, and it can still be released.
-/
def Backed (state : Coordinator) (holding : Holding) : Prop :=
  ∃ record,
    state.ledger.plans[holding.owner]? = some record ∧
    holding.key ∈ record.plan.requiredResourceClaims ∧
    (record.state.terminal = false ∨
      state.holdsInFlight holding.owner = true)

/--
Every commit under way is for the claims of its plan, and every holding is
backed.
-/
structure ClaimsBacked
    (trace : List CoordinatorStep)
    (state : Coordinator) : Prop where
  committing :
    ∀ (socket : Socket) (connection : Connection) (commit : Commit),
      state.commitAt socket = some connection →
      connection.commit? = some commit →
      ∃ record,
        state.ledger.plans[commit.planId]? = some record ∧
        commit.resources = record.plan.requiredResourceClaims
  backed : ∀ holding ∈ standing trace, state.Backed holding

variable {trace : List CoordinatorStep}

theorem ClaimsBacked.undrawn_of_standing
    {holding : Holding}
    (releases :
      releasesBeforeEnd config trace ⟨before, event, actions, after⟩ = true)
    (member : holding ∈ standing trace) :
    before.drawn? config event ≠ some holding.owner := by
  simp only [releasesBeforeEnd, Bool.and_eq_true, List.all_eq_true] at releases
  exact of_decide_eq_true (releases.1 holding member).1

theorem ClaimsBacked.undrawn_of_committing
    {socket : Socket}
    {connection : Connection}
    {commit : Commit}
    (releases :
      releasesBeforeEnd config trace ⟨before, event, actions, after⟩ = true)
    (busy : before.commitAt socket = some connection)
    (isCommit : connection.commit? = some commit) :
    before.drawn? config event ≠ some commit.planId := by
  simp only [releasesBeforeEnd, Bool.and_eq_true, List.all_eq_true] at releases
  have found : before.connections[socket]? = some connection :=
    (Option.filter_eq_some_iff.mp busy).1
  have undrawn := releases.2 (socket, connection)
    (Std.ExtTreeMap.mem_toList_iff_getElem?_eq_some.mpr found)
  simpa [isCommit] using undrawn

/-- A release is of all the claims of its plan. -/
theorem ClaimsBacked.resources_of_releasedBy
    {record : PlanRecord}
    {resources : List ResourceId}
    (invariant : ClaimsBacked trace before)
    (found : before.ledger.plans[planId]? = some record)
    (released : before.releasedBy event = some (planId, resources)) :
    resources = record.plan.requiredResourceClaims := by
  cases event with
  | receive socket message =>
      unfold releasedBy at released
      simp only at released
      split at released
      · rename_i other _ known
        split_ifs at released
        cases released
        rw [found] at known
        cases known
        rfl
      · rename_i other _ known
        split_ifs at released
        cases released
        rw [found] at known
        cases known
        rfl
      · cases released
  | finish socket =>
      unfold releasedBy at released
      simp only at released
      split at released
      · rename_i commit busy
        obtain ⟨other, known, isResources⟩ := invariant.committing socket _
          commit (commitAt_of_connections busy rfl) rfl
        rw [known] at released
        simp only at released
        split_ifs at released
        cases released
        rw [found] at known
        cases known
        exact isResources
      · cases released
  | accept | undecodable | acquire | disconnect | saveStore =>
      cases released

/--
What stays held for a plan stays backed: where the plan has ended, a commit of
it was under way and still is.
-/
theorem ClaimsBacked.backed_of_step?
    {holding : Holding}
    (invariant : ClaimsBacked trace before)
    (releases :
      releasesBeforeEnd config trace ⟨before, event, actions, after⟩ = true)
    (stepped : step? config before event = some (after, actions))
    (member : holding ∈ standing trace)
    (unreleased :
      ∀ resources,
        before.releasedBy event ≠ some (holding.owner, resources)) :
    after.Backed holding := by
  obtain ⟨record, found, claimed, justified⟩ := invariant.backed holding member
  obtain ⟨changed, now, samePlan⟩ := record_of_step? stepped found
    (undrawn_of_standing releases member)
  refine ⟨changed, now, samePlan ▸ claimed, ?_⟩
  by_cases ended : changed.state.terminal = true
  · right
    have wasInFlight : before.holdsInFlight holding.owner = true := by
      rcases justified with open_ | inFlight
      · have ends := endsUnreleased_of_step? stepped found now open_ ended
          unreleased
        simp only [releasesBeforeEnd, Bool.and_eq_true,
          List.all_eq_true] at releases
        have allowed := (releases.1 holding member).2
        simpa [ends] using allowed
      · exact inFlight
    rcases holdsInFlight_of_step? stepped wasInFlight with
      isInFlight | ⟨socket, commit, rfl, busy, named⟩
    · exact isInFlight
    · have kept : before.releasedBy (.finish socket) = none := by
        by_contra isReleased
        obtain ⟨⟨freed, resources⟩, released⟩ :=
          Option.ne_none_iff_exists'.mp isReleased
        have isOwner : freed = holding.owner := by
          simp only [releasedBy, busy] at released
          split at released
          · cases released
            exact named
          · split_ifs at released
            cases released
            exact named
        exact unreleased resources (isOwner ▸ released)
      have committed := committed_of_finish busy (named ▸ found) kept stepped
      rw [named, now] at committed
      cases committed
      cases ended
  · left
    simpa using ended

/-- A commit that is under way was under way, or has just begun. -/
theorem commit_of_step?
    {socket : Socket}
    {connection : Connection}
    {commit : Commit}
    (stepped : step? config before event = some (after, actions))
    (busy : after.commitAt socket = some connection)
    (isCommit : connection.commit? = some commit) :
    (∃ earlier,
      before.commitAt socket = some earlier ∧
      earlier.commit? = some commit) ∨
    ∃ message ledger,
      event = .receive socket message ∧
      message.type = .commitRequest ∧
      before.ledger.beginCommit message.planId = .ok (ledger, commit) := by
  rw [commitAt_of_step? stepped] at busy
  cases event with
  | receive other message =>
      simp only [commitAfter] at busy
      split_ifs at busy with begins
      · cases begun : before.ledger.beginCommit message.planId with
        | error reply =>
            rw [begun] at busy
            cases busy
        | ok committing =>
            rw [begun] at busy
            cases busy
            cases isCommit
            exact .inr ⟨message, committing.1, by rw [begins.1], begins.2,
              begun⟩
      · exact .inl ⟨connection, busy, isCommit⟩
  | acquire other =>
      simp only [commitAfter] at busy
      split_ifs at busy with isSocket
      · subst isSocket
        split at busy
        · rename_i waiting wasBusy
          cases busy
          exact .inl ⟨_, commitAt_of_connections wasBusy rfl, isCommit⟩
        · cases busy
      · exact .inl ⟨connection, busy, isCommit⟩
  | finish other =>
      simp only [commitAfter] at busy
      split_ifs at busy with isSocket
      exact .inl ⟨connection, busy, isCommit⟩
  | accept | undecodable | disconnect | saveStore =>
      exact .inl ⟨connection, busy, isCommit⟩

/-- What is granted is granted to a commit that then holds it. -/
theorem ClaimsBacked.backed_of_granted
    {holding : Holding}
    (invariant : ClaimsBacked trace before)
    (stepped : step? config before event = some (after, actions))
    (member : holding ∈ granted ⟨before, event, actions, after⟩) :
    after.Backed holding := by
  cases taken_of_step? stepped with
  | acquire socket commit busy =>
      simp only [granted, busy] at member
      split_ifs at member with isGranted
      · obtain ⟨⟨resource, size⟩, isRequested, rfl⟩ := List.mem_map.mp member
        obtain ⟨record, found, isResources⟩ := invariant.committing socket _
          commit (commitAt_of_connections busy rfl) rfl
        refine ⟨record, found, ?_, .inr (holdsInFlight_iff.mpr
          ⟨socket, commit, ?_, rfl⟩)⟩
        · rw [← isResources]
          exact (List.of_mem_zip isRequested).1
        · simp only [Std.ExtTreeMap.getElem?_insert_self]
          rw [Option.isNone_iff_eq_none.mp isGranted]
      · cases member
  | accept | receive | undecodable | finish | disconnect | saveStore =>
      cases member

theorem ClaimsBacked.step
    (invariant : ClaimsBacked trace before)
    (releases :
      releasesBeforeEnd config trace ⟨before, event, actions, after⟩ = true)
    (stepped : step? config before event = some (after, actions)) :
    ClaimsBacked (trace ++ [⟨before, event, actions, after⟩]) after where
  committing socket connection commit busy isCommit := by
    rcases commit_of_step? stepped busy isCommit with
      ⟨earlier, wasBusy, wasCommit⟩ | ⟨message, ledger, rfl, kind, begun⟩
    · obtain ⟨record, found, isResources⟩ :=
        invariant.committing socket earlier commit wasBusy wasCommit
      obtain ⟨changed, now, samePlan⟩ := record_of_step? stepped found
        (undrawn_of_committing releases wasBusy wasCommit)
      exact ⟨changed, now, isResources.trans (by rw [samePlan])⟩
    · obtain ⟨record, found, _, _, _, rfl⟩ := Ledger.beginCommit_eq_ok begun
      obtain ⟨changed, now, samePlan⟩ := record_of_step? stepped found
        (by simp [drawn?, kind])
      exact ⟨changed, now, by rw [samePlan]⟩
  backed holding member := by
    rw [standing_snoc] at member
    unfold holdingsAfter at member
    simp only at member
    cases released : before.releasedBy event with
    | some freed =>
        rw [released] at member
        obtain ⟨stood, kept⟩ := mem_clear.mp member
        refine invariant.backed_of_step? releases stepped stood ?_
        intro resources isReleased
        obtain ⟨record, found, claimed, _⟩ := invariant.backed holding stood
        rw [released] at isReleased
        cases isReleased
        rw [invariant.resources_of_releasedBy found released] at kept
        exact kept claimed
    | none =>
        rw [released] at member
        rcases List.mem_append.mp member with stood | isGranted
        · refine invariant.backed_of_step? releases stepped stood ?_
          simp [released]
        · exact invariant.backed_of_granted stepped isGranted

theorem claimsBacked_of_run
    {store : Option (List UInt8)}
    {state : Coordinator}
    (run : ProcessRun config store trace state)
    (released : Throughout (releasesBeforeEnd config) trace) :
    ClaimsBacked trace state := by
  refine run.invariant_past ClaimsBacked ?_ ?_
  · refine ⟨?_, by simp [standing]⟩
    intro socket connection commit busy
    rw [commitAt_start] at busy
    cases busy
  · intro past before event after actions later whole invariant stepped
    exact invariant.step (released past _ later whole) stepped

end

/--
In a process in which no plan ends while something is held for it without a
release, nothing is held once no commit is under way and every plan has ended.
-/
theorem ended_plans_hold_nothing
    {config : Config}
    {store : Option (List UInt8)}
    {trace : List CoordinatorStep}
    {state : Coordinator}
    (run : ProcessRun config store trace state)
    (released : Throughout (releasesBeforeEnd config) trace)
    (idle : ∀ socket, state.commitAt socket = none)
    (ended :
      ∀ (planId : CommunicationPlanId) (record : PlanRecord),
        state.ledger.plans[planId]? = some record →
        record.state.terminal = true)
    (resource : ResourceId) :
    state.ledger.broker.heldOf resource = 0 := by
  have invariant := claimsBacked_of_run run released
  have nothing : standing trace = [] := by
    refine List.eq_nil_iff_forall_not_mem.mpr ?_
    intro holding member
    obtain ⟨record, found, _, open_ | inFlight⟩ :=
      invariant.backed holding member
    · rw [ended _ record found] at open_
      cases open_
    · obtain ⟨socket, commit, busy, _⟩ := holdsInFlight_iff.mp inFlight
      have isBusy := commitAt_of_connections busy rfl
      rw [idle socket] at isBusy
      cases isBusy
  rw [held_of_run run resource, nothing]
  rfl

/-- No commit is under way, and every plan has ended: as a check of the tables. -/
def allEnded (state : Coordinator) : Bool :=
  (state.connections.toList.all fun entry => entry.2.planId?.isNone) &&
    state.ledger.plans.toList.all fun entry => entry.2.state.terminal

theorem of_allEnded
    {state : Coordinator}
    (checked : state.allEnded = true) :
    (∀ socket, state.commitAt socket = none) ∧
    ∀ (planId : CommunicationPlanId) (record : PlanRecord),
      state.ledger.plans[planId]? = some record →
      record.state.terminal = true := by
  simp only [allEnded, Bool.and_eq_true, List.all_eq_true] at checked
  constructor
  · intro socket
    cases found : state.connections[socket]? with
    | none => simp [commitAt, found]
    | some connection =>
        have isIdle := checked.1 (socket, connection)
          (Std.ExtTreeMap.mem_toList_iff_getElem?_eq_some.mpr found)
        simp only [Option.isNone_iff_eq_none] at isIdle
        simp [commitAt, found, isIdle]
  · intro planId record found
    exact checked.2 (planId, record)
      (Std.ExtTreeMap.mem_toList_iff_getElem?_eq_some.mpr found)

/-- A plan over the relay is committed. -/
def committedRelayScenario : List Event :=
  relayDeployment ⟨4⟩ ⟨1⟩ ++
    [ .receive ⟨4⟩
        (CoordinatorClient.submitRequest (relayedRequest ⟨5⟩)),
      .receive ⟨4⟩ (CoordinatorClient.commitPlan ⟨1⟩),
      .acquire ⟨4⟩,
      .finish ⟨4⟩ ]

/-- Cancelled, the plan leaves nothing behind. -/
theorem cancelled_plan_holds_nothing :
    ∃ trace state,
      ProcessRun defaultConfig none trace state ∧
      (∃ step ∈ trace, grants step ⟨1⟩ ⟨5⟩ = true) ∧
      state.planState? ⟨1⟩ = some .cancelled ∧
      state.ledger.broker.heldOf ⟨5⟩ = 0 := by
  have checked :
      (replay? (step? defaultConfig) (start none)
        (committedRelayScenario ++
          receiveAll ⟨4⟩ [CoordinatorClient.cancel ⟨5⟩ ⟨1⟩])).any
        (fun reached =>
          passesFrom (releasesBeforeEnd defaultConfig) [] reached.1 &&
          (reached.1.any fun step => grants step ⟨1⟩ ⟨5⟩) &&
          reached.2.planState? ⟨1⟩ = some .cancelled &&
          reached.2.allEnded) = true := by
    decide +kernel
  obtain ⟨trace, state, run, holds⟩ := exists_run_of_replay? checked
  simp only [Bool.and_eq_true, decide_eq_true_eq, List.any_eq_true] at holds
  obtain ⟨⟨⟨passed, isGranted⟩, isCancelled⟩, checkedEnd⟩ := holds
  obtain ⟨idle, ended⟩ := of_allEnded checkedEnd
  exact ⟨trace, state, run, isGranted, isCancelled,
    ended_plans_hold_nothing run (throughout_of_passesFrom passed) idle ended
      ⟨5⟩⟩

/-- Cancelled after a failed revalidation, the plan leaves its claim behind. -/
theorem unrevalidated_plan_holds_claim :
    ∃ trace state,
      ProcessRun defaultConfig none trace state ∧
      (∀ socket, state.commitAt socket = none) ∧
      (∀ (planId : CommunicationPlanId) (record : PlanRecord),
        state.ledger.plans[planId]? = some record →
        record.state.terminal = true) ∧
      state.planState? ⟨1⟩ = some .cancelled ∧
      state.ledger.broker.heldOf ⟨5⟩ ≠ 0 := by
  have checked :
      (replay? (step? defaultConfig) (start none)
        (committedRelayScenario ++
          receiveAll ⟨4⟩
            [ CoordinatorClient.revalidate ⟨1⟩,
              CoordinatorClient.cancel ⟨5⟩ ⟨1⟩ ])).any
        (fun reached =>
          reached.2.allEnded &&
          reached.2.planState? ⟨1⟩ = some .cancelled &&
          decide (reached.2.ledger.broker.heldOf ⟨5⟩ ≠ 0)) = true := by
    decide +kernel
  obtain ⟨trace, state, run, holds⟩ := exists_run_of_replay? checked
  simp only [Bool.and_eq_true, decide_eq_true_eq] at holds
  obtain ⟨idle, ended⟩ := of_allEnded holds.1.1
  exact ⟨trace, state, run, idle, ended, holds.1.2, holds.2⟩

end Coordinator

end CommunicationPlanner
