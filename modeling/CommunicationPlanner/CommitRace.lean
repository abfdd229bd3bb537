import CommunicationPlanner.ProcessObservations

namespace CommunicationPlanner

open TransitionRun

/-!
# Concurrent commits of one plan

The guard of the first critical section of a commit admits a plan that another
commit has already taken to `AWAITING_RESOURCE_COMMIT`, so two commits can both
reach the broker.  Where every first critical section finds its plan ready, and
new plans get new identities, one plan goes through a commit at most once in a
process; `CommitPhase` is where it stands.
-/

namespace Coordinator

/--
The event does not begin a second commit of a plan that is being committed, and
does not draw an identity that is already in the table.
-/
def beginsAlone
    (config : Config)
    (state : Coordinator) : Event → Bool
  | .receive socket message =>
      match message.type with
      | .commitRequest =>
          match state.ledger.plans[message.planId]? with
          | none => true
          | some record =>
              record.state ≠ .awaitingResourceCommit ||
                record.plan.requestId ∈ state.ledger.cancelled
      | .submitRequest => state.drawsNew config (.receive socket message)
      | _ => true
  | _ => true

/-- A commit of the plan is answered with an error. -/
def loses (step : CoordinatorStep) (planId : CommunicationPlanId) : Bool :=
  match step.event with
  | .receive _ message =>
      message.type = .commitRequest && message.planId = planId &&
        match step.before.ledger.beginCommit planId with
        | .error _ => true
        | .ok _ => false
  | .finish socket =>
      match step.before.connections[socket]? with
      | some (.acquired commit _) =>
          commit.planId = planId && !commits step planId
      | _ => false
  | _ => false

section

variable
  {config : Config}
  {before after : Coordinator}
  {event : Event}
  {actions : List Action}
  {planId : CommunicationPlanId}

/-! ## How the states of a commit arise -/

theorem planReady_of_step?
    (stepped : step? config before event = some (after, actions))
    (ready : after.planState? planId = some .planReady) :
    before.planState? planId = some .planReady ∨
    ∃ socket message,
      event = .receive socket message ∧
      message.type = .submitRequest ∧
      before.drawn? config event = some planId := by
  have change : PlanStep config before planId event
      after.ledger.plans[planId]? := planStep_of_step? stepped
  unfold planState? at ready ⊢
  generalize after.ledger.plans[planId]? = changed at change ready
  cases change with
  | same => exact .inl ready
  | written record new found writes =>
      have isReady : new = .planReady := by simpa using ready
      subst isReady
      generalize isState : PlanState.planReady = written at writes
      cases writes with
      | result =>
          split at isState <;> cases isState
      | beginCommit | undo | refuse | commit | revalidate
      | failRevalidation | handoff | cancel | supersede
      | supersedeOlder => cases isState
  | entered socket message plan received kind produced open_ named drawn =>
      exact .inr ⟨socket, message, received, kind, drawn⟩

theorem committed_of_step?
    (stepped : step? config before event = some (after, actions))
    (committed : after.planState? planId = some .committed) :
    before.planState? planId = some .committed ∨
    ∃ socket commit,
      event = .finish socket ∧
      before.connections[socket]? = some (.acquired commit none) ∧
      commit.planId = planId := by
  have change : PlanStep config before planId event
      after.ledger.plans[planId]? := planStep_of_step? stepped
  unfold planState? at committed ⊢
  generalize after.ledger.plans[planId]? = changed at change committed
  cases change with
  | same => exact .inl committed
  | written record new found writes =>
      have isCommitted : new = .committed := by simpa using committed
      subst isCommitted
      generalize isState : PlanState.committed = written at writes
      cases writes with
      | commit socket commit busy named kept =>
          exact .inr ⟨socket, commit, rfl, busy, named⟩
      | result =>
          split at isState <;> cases isState
      | beginCommit | undo | refuse | revalidate | failRevalidation
      | handoff | cancel | supersede | supersedeOlder => cases isState
  | entered socket message plan received kind produced open_ named =>
      simp at committed

/-- Plans are never removed from the table. -/
theorem present_of_step?
    (stepped : step? config before event = some (after, actions))
    (present : (before.planState? planId).isSome = true) :
    (after.planState? planId).isSome = true := by
  have change : PlanStep config before planId event
      after.ledger.plans[planId]? := planStep_of_step? stepped
  unfold planState? at present ⊢
  generalize after.ledger.plans[planId]? = changed at change
  cases change with
  | same => exact present
  | written | entered => rfl

end

/-! ## The phases of a plan's commit -/

/-- The connection is busy with a commit of the plan. -/
def commitsAt
    (state : Coordinator)
    (planId : CommunicationPlanId)
    (socket : Socket) : Prop :=
  ∃ connection,
    state.commitAt socket = some connection ∧
    connection.planId? = some planId

/-- Where the one commit of a plan stands, in the state and in the trace. -/
inductive CommitPhase
    (planId : CommunicationPlanId)
    (trace : List CoordinatorStep)
    (state : Coordinator) : Prop where
  | untouched
      (idle : ∀ socket, ¬state.commitsAt planId socket)
      (ungranted : NeverIn (acquires · planId) trace)
      (unanswered : NeverIn (commits · planId) trace)
  | acquiring
      (socket : Socket)
      (commit : Commit)
      (busy : state.commitAt socket = some (.acquiring commit))
      (named : commit.planId = planId)
      (only : ∀ other, state.commitsAt planId other → other = socket)
      (present : (state.planState? planId).isSome = true)
      (unready : state.planState? planId ≠ some .planReady)
      (uncommitted : state.planState? planId ≠ some .committed)
      (ungranted : NeverIn (acquires · planId) trace)
      (unanswered : NeverIn (commits · planId) trace)
  | acquired
      (socket : Socket)
      (commit : Commit)
      (failure : Option Text)
      (busy : state.commitAt socket = some (.acquired commit failure))
      (named : commit.planId = planId)
      (only : ∀ other, state.commitsAt planId other → other = socket)
      (present : (state.planState? planId).isSome = true)
      (unready : state.planState? planId ≠ some .planReady)
      (uncommitted : state.planState? planId ≠ some .committed)
      (granted : AtMostOnceIn (acquires · planId) trace)
      (unanswered : NeverIn (commits · planId) trace)
  | finished
      (idle : ∀ socket, ¬state.commitsAt planId socket)
      (present : (state.planState? planId).isSome = true)
      (unready : state.planState? planId ≠ some .planReady)
      (granted : AtMostOnceIn (acquires · planId) trace)
      (answered : AtMostOnceIn (commits · planId) trace)

section

variable
  {config : Config}
  {before after : Coordinator}
  {event : Event}
  {actions : List Action}
  {planId : CommunicationPlanId}
  {trace : List CoordinatorStep}

/-- A step that concerns no commit of the plan leaves its phase as it is. -/
theorem CommitPhase.quiet
    (phase : CommitPhase planId trace before)
    (stepped : step? config before event = some (after, actions))
    (kept :
      ∀ socket,
        after.commitsAt planId socket ∨ before.commitsAt planId socket →
        after.commitAt socket = before.commitAt socket)
    (ungranted : acquires ⟨before, event, actions, after⟩ planId = false)
    (unanswered : commits ⟨before, event, actions, after⟩ planId = false)
    (ready :
      after.planState? planId = some .planReady →
        before.planState? planId = some .planReady ∨
        before.planState? planId = none)
    (committed :
      after.planState? planId = some .committed →
        before.planState? planId = some .committed) :
    CommitPhase planId (trace ++ [⟨before, event, actions, after⟩]) after := by
  have back :
      ∀ socket, after.commitsAt planId socket →
        before.commitsAt planId socket := by
    rintro socket ⟨connection, busy, named⟩
    refine ⟨connection, ?_, named⟩
    rw [← kept socket (.inl ⟨connection, busy, named⟩)]
    exact busy
  have stillUnready :
      (before.planState? planId).isSome = true →
      before.planState? planId ≠ some .planReady →
      after.planState? planId ≠ some .planReady := by
    intro present unready isReady
    rcases ready isReady with alreadyReady | absent
    · exact unready alreadyReady
    · rw [absent] at present
      cases present
  cases phase with
  | untouched idle neverGranted neverAnswered =>
      exact .untouched (fun socket busy => idle socket (back socket busy))
        (neverGranted.snoc ungranted) (neverAnswered.snoc unanswered)
  | acquiring socket commit busy named only present unready uncommitted
      neverGranted neverAnswered =>
      have isBusy : before.commitsAt planId socket :=
        ⟨_, busy, congrArg some named⟩
      exact .acquiring socket commit
        ((kept socket (.inr isBusy)).trans busy) named
        (fun other isOther => only other (back other isOther))
        (present_of_step? stepped present) (stillUnready present unready)
        (fun isCommitted => uncommitted (committed isCommitted))
        (neverGranted.snoc ungranted) (neverAnswered.snoc unanswered)
  | acquired socket commit failure busy named only present unready
      uncommitted granted neverAnswered =>
      have isBusy : before.commitsAt planId socket :=
        ⟨_, busy, congrArg some named⟩
      exact .acquired socket commit failure
        ((kept socket (.inr isBusy)).trans busy) named
        (fun other isOther => only other (back other isOther))
        (present_of_step? stepped present) (stillUnready present unready)
        (fun isCommitted => uncommitted (committed isCommitted))
        (granted.snoc ungranted) (neverAnswered.snoc unanswered)
  | finished idle present unready granted answered =>
      exact .finished (fun socket busy => idle socket (back socket busy))
        (present_of_step? stepped present) (stillUnready present unready)
        (granted.snoc ungranted) (answered.snoc unanswered)

/-- The broker is called for a commit: of this plan, or of another one. -/
private theorem phase_acquire
    {socket : Socket}
    (phase : CommitPhase planId trace before)
    (stepped :
      step? config before (.acquire socket) = some (after, actions)) :
    CommitPhase planId
      (trace ++ [⟨before, .acquire socket, actions, after⟩]) after := by
  have unanswered :
      commits ⟨before, .acquire socket, actions, after⟩ planId = false :=
    rfl
  have afterAt := commitAt_of_step? stepped
  have samePlans : after.ledger.plans = before.ledger.plans := by
    cases taken_of_step? stepped with
    | acquire => rfl
  have sameState : after.planState? planId = before.planState? planId := by
    simp only [planState?, samePlans]
  obtain ⟨commit, busy⟩ :
      ∃ commit,
        before.connections[socket]? = some (.acquiring commit) := by
    cases taken_of_step? stepped with
    | acquire _ commit busy => exact ⟨commit, busy⟩
  have busyAt : before.commitAt socket = some (.acquiring commit) :=
    commitAt_of_connections busy rfl
  by_cases named : commit.planId = planId
  · have isBusy : before.commitsAt planId socket :=
      ⟨_, busyAt, congrArg some named⟩
    cases phase with
    | untouched idle => exact (idle socket isBusy).elim
    | finished idle => exact (idle socket isBusy).elim
    | acquired other _ _ otherBusy _ only =>
        rw [only socket isBusy, otherBusy] at busyAt
        cases busyAt
    | acquiring other _ otherBusy _ only present unready uncommitted
        neverGranted neverAnswered =>
        obtain rfl := only socket isBusy
        refine .acquired socket commit _
          (by rw [afterAt]; simp [commitAfter, busy]; rfl) named ?_
          (by rw [sameState]; exact present)
          (by rw [sameState]; exact unready)
          (by rw [sameState]; exact uncommitted)
          (neverGranted.atMostOnceIn_snoc _)
          (neverAnswered.snoc unanswered)
        intro another isAnother
        by_contra isOther
        refine isOther (only another ?_)
        obtain ⟨connection, atAnother, anotherNamed⟩ := isAnother
        rw [afterAt] at atAnother
        simp only [commitAfter, if_neg (Ne.symm isOther)] at atAnother
        exact ⟨connection, atAnother, anotherNamed⟩
  · refine phase.quiet stepped ?_ ?_ unanswered ?_ ?_
    · intro other concerned
      rw [afterAt]
      simp only [commitAfter, busy]
      split_ifs with isSocket
      · subst isSocket
        exfalso
        rcases concerned with isAfter | isBefore
        · obtain ⟨connection, atSocket, isPlan⟩ := isAfter
          rw [afterAt] at atSocket
          simp only [commitAfter, busy, if_true] at atSocket
          cases atSocket
          exact named (Option.some.inj isPlan)
        · obtain ⟨connection, atSocket, isPlan⟩ := isBefore
          rw [busyAt] at atSocket
          cases atSocket
          exact named (Option.some.inj isPlan)
      · rfl
    · by_contra isGranted
      obtain ⟨other, otherCommit, isEvent, otherBusy, isPlan⟩ :=
        acquiring_of_acquires ⟨before, .acquire socket, actions, after⟩
          stepped (by simpa using isGranted)
      cases isEvent
      rw [busy] at otherBusy
      cases otherBusy
      exact named isPlan
    · intro isReady
      rw [sameState] at isReady
      exact .inl isReady
    · intro isCommitted
      rw [sameState] at isCommitted
      exact isCommitted

/-- The broker is called for nobody else's sake than a waiting commit's. -/
private theorem ungranted_of_ne_acquire
    (stepped : step? config before event = some (after, actions))
    (other : ∀ socket, event ≠ .acquire socket) :
    acquires ⟨before, event, actions, after⟩ planId = false := by
  by_contra isGranted
  obtain ⟨socket, _, isEvent, _, _⟩ :=
    acquiring_of_acquires ⟨before, event, actions, after⟩ stepped
      (by simpa using isGranted)
  exact other socket isEvent

/-- The second critical section of a commit: of this plan, or of another one. -/
private theorem phase_finish
    {socket : Socket}
    (phase : CommitPhase planId trace before)
    (stepped :
      step? config before (.finish socket) = some (after, actions)) :
    CommitPhase planId
      (trace ++ [⟨before, .finish socket, actions, after⟩]) after := by
  have ungranted :
      acquires ⟨before, .finish socket, actions, after⟩ planId = false :=
    ungranted_of_ne_acquire stepped (by simp)
  have afterAt := commitAt_of_step? stepped
  obtain ⟨commit, failure, busy⟩ :
      ∃ commit failure,
        before.connections[socket]? = some (.acquired commit failure) := by
    cases taken_of_step? stepped with
    | finish _ commit failure busy => exact ⟨commit, failure, busy⟩
  have busyAt : before.commitAt socket = some (.acquired commit failure) :=
    commitAt_of_connections busy rfl
  have stillUnready :
      before.planState? planId ≠ some .planReady →
      after.planState? planId ≠ some .planReady := by
    intro unready isReady
    rcases planReady_of_step? stepped isReady with
      alreadyReady | ⟨_, _, isEvent, _⟩
    · exact unready alreadyReady
    · cases isEvent
  by_cases named : commit.planId = planId
  · have isBusy : before.commitsAt planId socket :=
      ⟨_, busyAt, congrArg some named⟩
    cases phase with
    | untouched idle => exact (idle socket isBusy).elim
    | finished idle => exact (idle socket isBusy).elim
    | acquiring other _ otherBusy _ only =>
        rw [only socket isBusy, otherBusy] at busyAt
        cases busyAt
    | acquired other _ _ otherBusy _ only present unready uncommitted
        granted neverAnswered =>
        obtain rfl := only socket isBusy
        refine .finished ?_ (present_of_step? stepped present)
          (stillUnready unready) (granted.snoc ungranted)
          (neverAnswered.atMostOnceIn_snoc _)
        rintro another ⟨connection, atAnother, anotherNamed⟩
        rw [afterAt] at atAnother
        simp only [commitAfter] at atAnother
        split_ifs at atAnother with isSocket
        exact isSocket (only another
          ⟨connection, atAnother, anotherNamed⟩).symm
  · refine phase.quiet stepped ?_ ungranted ?_ ?_ ?_
    · intro other concerned
      rw [afterAt]
      simp only [commitAfter]
      split_ifs with isSocket
      · subst isSocket
        exfalso
        rcases concerned with isAfter | isBefore
        · obtain ⟨connection, atSocket, _⟩ := isAfter
          rw [afterAt] at atSocket
          simp [commitAfter] at atSocket
        · obtain ⟨connection, atSocket, isPlan⟩ := isBefore
          rw [busyAt] at atSocket
          cases atSocket
          exact named (Option.some.inj isPlan)
      · rfl
    · by_contra isAnswered
      obtain ⟨other, otherCommit, _, isEvent, otherBusy, isPlan, _⟩ :=
        committed_of_commits ⟨before, .finish socket, actions, after⟩
          stepped (by simpa using isAnswered)
      cases isEvent
      rw [busy] at otherBusy
      cases otherBusy
      exact named isPlan
    · intro isReady
      refine .inl ?_
      by_contra unready
      exact stillUnready unready isReady
    · intro isCommitted
      rcases committed_of_step? stepped isCommitted with
        alreadyCommitted | ⟨other, otherCommit, isEvent, otherBusy, isPlan⟩
      · exact alreadyCommitted
      · cases isEvent
        rw [busy] at otherBusy
        cases otherBusy
        exact (named isPlan).elim

/-- A message: it begins a commit of the plan, or it does not concern one. -/
private theorem phase_receive
    {socket : Socket}
    {message : Message}
    (phase : CommitPhase planId trace before)
    (alone : before.beginsAlone config (.receive socket message) = true)
    (stepped :
      step? config before (.receive socket message) =
        some (after, actions)) :
    CommitPhase planId
      (trace ++ [⟨before, .receive socket message, actions, after⟩])
      after := by
  have ungranted :
      acquires ⟨before, .receive socket message, actions, after⟩ planId =
        false :=
    ungranted_of_ne_acquire stepped (by simp)
  have unanswered :
      commits ⟨before, .receive socket message, actions, after⟩ planId =
        false :=
    rfl
  have afterAt := commitAt_of_step? stepped
  have idleSocket : before.commitAt socket = none := by
    cases taken_of_step? stepped with
    | receive _ _ listening => exact commitAt_of_listens listening
  by_cases begins :
      message.type = .commitRequest ∧ message.planId = planId ∧
        ∃ begun, before.ledger.beginCommit message.planId = .ok begun
  · obtain ⟨kind, named, ⟨ledger, commit⟩, begun⟩ := begins
    obtain ⟨record, found, committable, open_, isLedger, isCommit⟩ :=
      Ledger.beginCommit_eq_ok begun
    subst named
    have ready : record.state = .planReady := by
      rcases committable with ready | awaiting
      · exact ready
      · simp [beginsAlone, kind, found, awaiting, open_] at alone
    have wasReady :
        before.planState? message.planId = some .planReady := by
      simp [planState?, found, ready]
    have nowAwaiting :
        after.planState? message.planId =
          some .awaitingResourceCommit := by
      have isAfter := ledger_of_beginCommit kind stepped
      rw [begun] at isAfter
      simp [planState?, isAfter, isLedger]
    cases phase with
    | acquiring _ _ _ _ _ _ unready => exact (unready wasReady).elim
    | acquired _ _ _ _ _ _ _ unready => exact (unready wasReady).elim
    | finished _ _ unready => exact (unready wasReady).elim
    | untouched idle neverGranted neverAnswered =>
        refine .acquiring socket commit
          (by rw [afterAt]; simp [commitAfter, kind, begun])
          (by rw [isCommit]) ?_ (by rw [nowAwaiting]; rfl)
          (by rw [nowAwaiting]; simp) (by rw [nowAwaiting]; simp)
          (neverGranted.snoc ungranted) (neverAnswered.snoc unanswered)
        rintro other ⟨connection, atOther, otherNamed⟩
        rw [afterAt] at atOther
        simp only [commitAfter, kind, and_true] at atOther
        split_ifs at atOther with isSocket
        · exact isSocket.symm
        · exact (idle other ⟨connection, atOther, otherNamed⟩).elim
  · refine phase.quiet stepped ?_ ungranted unanswered ?_ ?_
    · intro other concerned
      rw [afterAt]
      simp only [commitAfter]
      split_ifs with isSocket
      · obtain ⟨rfl, kind⟩ := isSocket
        rw [idleSocket]
        cases begun : before.ledger.beginCommit message.planId with
        | error reply => rfl
        | ok committing =>
            exfalso
            obtain ⟨record, _, _, _, _, isCommit⟩ :=
              Ledger.beginCommit_eq_ok begun
            rcases concerned with isAfter | isBefore
            · obtain ⟨connection, atSocket, isPlan⟩ := isAfter
              rw [afterAt] at atSocket
              simp only [commitAfter, kind, and_self, if_true,
                begun] at atSocket
              cases atSocket
              refine begins ⟨kind, ?_, committing, begun⟩
              rw [isCommit] at isPlan
              exact Option.some.inj isPlan
            · obtain ⟨connection, atSocket, _⟩ := isBefore
              rw [idleSocket] at atSocket
              cases atSocket
      · rfl
    · intro isReady
      rcases planReady_of_step? stepped isReady with
        alreadyReady | ⟨_, _, isEvent, kind, drawn⟩
      · exact .inl alreadyReady
      · cases isEvent
        refine .inr ?_
        simpa [beginsAlone, kind, drawsNew, drawn] using alone
    · intro isCommitted
      rcases committed_of_step? stepped isCommitted with
        alreadyCommitted | ⟨_, _, isEvent, _⟩
      · exact alreadyCommitted
      · cases isEvent

/-- What a step does to the phase of a plan's commit. -/
theorem CommitPhase.step
    (phase : CommitPhase planId trace before)
    (alone : before.beginsAlone config event = true)
    (stepped : step? config before event = some (after, actions)) :
    CommitPhase planId (trace ++ [⟨before, event, actions, after⟩]) after := by
  have others :
      (∀ socket message, event ≠ .receive socket message) →
      (∀ socket, event ≠ .acquire socket) →
      (∀ socket, event ≠ .finish socket) →
      CommitPhase planId (trace ++ [⟨before, event, actions, after⟩])
        after := by
    intro noMessage noCall noFinish
    refine phase.quiet stepped ?_
      (ungranted_of_ne_acquire stepped noCall) ?_ ?_ ?_
    · intro socket _
      rw [commitAt_of_step? stepped]
      cases event with
      | receive socket message => exact (noMessage socket message rfl).elim
      | acquire socket => exact (noCall socket rfl).elim
      | finish socket => exact (noFinish socket rfl).elim
      | accept | undecodable | disconnect | saveStore => rfl
    · by_contra isAnswered
      obtain ⟨socket, _, _, isEvent, _⟩ :=
        committed_of_commits ⟨before, event, actions, after⟩ stepped
          (by simpa using isAnswered)
      exact noFinish socket isEvent
    · intro isReady
      rcases planReady_of_step? stepped isReady with
        alreadyReady | ⟨socket, message, isEvent, _⟩
      · exact .inl alreadyReady
      · exact (noMessage socket message isEvent).elim
    · intro isCommitted
      rcases committed_of_step? stepped isCommitted with
        alreadyCommitted | ⟨socket, _, isEvent, _⟩
      · exact alreadyCommitted
      · exact (noFinish socket isEvent).elim
  cases event with
  | receive socket message => exact phase_receive phase alone stepped
  | acquire socket => exact phase_acquire phase stepped
  | finish socket => exact phase_finish phase stepped
  | accept | undecodable | disconnect | saveStore =>
      exact others (by simp) (by simp) (by simp)

theorem commitPhase_of_run
    {store : Option (List UInt8)}
    {state : Coordinator}
    (run : ProcessRun config store trace state)
    (alone :
      ∀ step ∈ trace, step.before.beginsAlone config step.event = true) :
    CommitPhase planId trace state := by
  refine run.invariant_trace (CommitPhase planId) ?_ ?_
  · refine .untouched ?_ (by simp [NeverIn]) (by simp [NeverIn])
    rintro socket ⟨connection, busy, _⟩
    rw [commitAt_start] at busy
    cases busy
  · intro earlier before event after actions _ member phase stepped
    exact phase.step (alone _ member) stepped

end

/--
Where no commit of a plan begins while another one is under way, and no
identity is drawn twice, the broker grants the claims of a plan at most once
between two releases, at most one commit of the plan is answered with success,
and a commit that is answered with an error leaves a committed plan committed.
-/
theorem commit_wins_at_most_once
    {config : Config}
    {store : Option (List UInt8)}
    {trace : List CoordinatorStep}
    {state : Coordinator}
    {planId : CommunicationPlanId}
    (run : ProcessRun config store trace state)
    (alone :
      ∀ step ∈ trace, step.before.beginsAlone config step.event = true) :
    (∀ past first between second later,
      trace = past ++ first :: (between ++ second :: later) →
      acquires first planId = true →
      acquires second planId = true →
      ∃ step ∈ between, releases step planId = true) ∧
    AtMostOnceIn (commits · planId) trace ∧
    ∀ step ∈ trace,
      loses step planId = true →
      step.before.planState? planId = some .committed →
      step.after.planState? planId = some .committed := by
  have phase : CommitPhase planId trace state := commitPhase_of_run run alone
  have granted : AtMostOnceIn (acquires · planId) trace := by
    cases phase with
    | untouched _ never => exact never.atMostOnceIn
    | acquiring _ _ _ _ _ _ _ _ never => exact never.atMostOnceIn
    | acquired _ _ _ _ _ _ _ _ _ once => exact once
    | finished _ _ _ once => exact once
  refine ⟨?_, ?_, ?_⟩
  · rintro past first between second later rfl firstGranted secondGranted
    have pairs := (List.pairwise_append.mp granted).2.1
    rw [List.pairwise_cons] at pairs
    exact (pairs.1 second (by simp) ⟨firstGranted, secondGranted⟩).elim
  · cases phase with
    | untouched _ _ never => exact never.atMostOnceIn
    | acquiring _ _ _ _ _ _ _ _ _ never => exact never.atMostOnceIn
    | acquired _ _ _ _ _ _ _ _ _ _ never => exact never.atMostOnceIn
    | finished _ _ _ _ once => exact once
  · intro step member lost wasCommitted
    obtain ⟨past, later, rfl⟩ := List.append_of_mem member
    obtain ⟨reached, stepped, _⟩ := run.cut
    have earlier : CommitPhase planId past step.before :=
      commitPhase_of_run reached fun known inPast =>
        alone known (List.mem_append_left _ inPast)
    rcases step with ⟨before, event, actions, after⟩
    simp only at stepped wasCommitted earlier ⊢
    cases event with
    | receive socket message =>
        simp only [loses, Bool.and_eq_true, decide_eq_true_eq] at lost
        obtain ⟨⟨kind, rfl⟩, failed⟩ := lost
        have isAfter := ledger_of_beginCommit kind stepped
        cases begun : before.ledger.beginCommit message.planId with
        | error reply =>
            rw [begun] at isAfter
            simpa [planState?, isAfter] using wasCommitted
        | ok committing =>
            rw [begun] at failed
            cases failed
    | finish socket =>
        simp only [loses] at lost
        split at lost
        · rename_i commit failure busy
          simp only [Bool.and_eq_true, decide_eq_true_eq] at lost
          have isBusy : before.commitsAt planId socket :=
            ⟨_, commitAt_of_connections busy rfl, congrArg some lost.1⟩
          cases earlier with
          | untouched idle => exact (idle socket isBusy).elim
          | finished idle => exact (idle socket isBusy).elim
          | acquiring _ _ _ _ _ _ _ uncommitted =>
              exact (uncommitted wasCommitted).elim
          | acquired _ _ _ _ _ _ _ _ uncommitted =>
              exact (uncommitted wasCommitted).elim
        · cases lost
    | accept | undecodable | acquire | disconnect | saveStore =>
        cases lost

/-- A plan over a relay, and a second client. -/
def relayScenario : List Event :=
  relayDeployment ⟨4⟩ ⟨1⟩ ++
    [ .receive ⟨4⟩
        (CoordinatorClient.submitRequest (relayedRequest ⟨5⟩)),
      .accept ⟨6⟩ ]

/-- A commit succeeds, and a later one is refused. -/
theorem later_commit_is_refused :
    ∃ trace state,
      ProcessRun defaultConfig none trace state ∧
      (∃ step ∈ trace, commits step ⟨1⟩ = true) ∧
      (∃ step ∈ trace, loses step ⟨1⟩ = true) ∧
      AtMostOnceIn (commits · ⟨1⟩) trace := by
  have checked :
      (replay? (step? defaultConfig) (start none)
        (relayScenario ++
          [ .receive ⟨4⟩ (CoordinatorClient.commitPlan ⟨1⟩),
            .acquire ⟨4⟩,
            .finish ⟨4⟩,
            .receive ⟨6⟩ (CoordinatorClient.commitPlan ⟨1⟩) ])).any
        (fun reached =>
          (reached.1.all fun step =>
            step.before.beginsAlone defaultConfig step.event) &&
          (reached.1.any fun step => commits step ⟨1⟩) &&
          (reached.1.any fun step => loses step ⟨1⟩)) = true := by
    decide +kernel
  obtain ⟨trace, state, run, holds⟩ := exists_run_of_replay? checked
  simp only [Bool.and_eq_true, List.all_eq_true, List.any_eq_true] at holds
  exact ⟨trace, state, run, holds.1.2, holds.2,
    (commit_wins_at_most_once run holds.1.1).2.1⟩

/-- Two interleaved commits are both granted the claims and both succeed. -/
theorem both_commits_win :
    ∃ trace state past first second later,
      ProcessRun defaultConfig none trace state ∧
      trace = past ++ first :: ([] ++ second :: later) ∧
      acquires first ⟨1⟩ = true ∧
      acquires second ⟨1⟩ = true ∧
      ¬AtMostOnceIn (commits · ⟨1⟩) trace := by
  have checked :
      (replay? (step? defaultConfig) (start none)
        (relayScenario ++
          [ .receive ⟨4⟩ (CoordinatorClient.commitPlan ⟨1⟩),
            .receive ⟨6⟩ (CoordinatorClient.commitPlan ⟨1⟩),
            .acquire ⟨4⟩,
            .acquire ⟨6⟩,
            .finish ⟨4⟩,
            .finish ⟨6⟩ ])).any
        (fun reached =>
          passesInOrder
            [(acquires · ⟨1⟩), (acquires · ⟨1⟩),
              (commits · ⟨1⟩), (commits · ⟨1⟩)]
            (reached.1.drop 11)) = true := by
    decide +kernel
  obtain ⟨trace, state, run, holds⟩ := exists_run_of_replay? checked
  have parts := List.take_append_drop 11 trace
  simp only [passesInOrder_cons, passesInOrder_nil] at holds
  obtain ⟨firstCall, _, calls, firstGranted, secondCall, _, rfl,
    secondGranted, firstEnd, _, rfl, firstAnswered, secondEnd, _, rfl,
    secondAnswered, rfl⟩ := holds
  rw [calls] at parts
  refine ⟨trace, state, trace.take 11, firstCall, secondCall,
    [firstEnd, secondEnd], run, parts.symm, firstGranted, secondGranted,
    ?_⟩
  intro once
  rw [AtMostOnceIn, ← parts] at once
  have pairs := (List.pairwise_append.mp once).2.1
  simp [firstAnswered, secondAnswered] at pairs

end Coordinator

end CommunicationPlanner
