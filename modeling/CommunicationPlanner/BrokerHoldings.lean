import CommunicationPlanner.ExecutionOrder
import CommunicationPlanner.PooledHoldings

namespace CommunicationPlanner

open TransitionRun PooledHoldings

/-!
# What the broker holds, and for whom

The broker keeps one total for each resource.  A grant adds to it and a release
forgets it, whoever else holds the same resource.  `standing` is what the trace
of a process says is in the totals, with the plan that each amount was granted
for, and `held_of_run` says that the totals are exactly that, as 64-bit numbers.
-/

namespace MemoryResourceBroker

/-- `held` of the source: nothing is held of a resource that is not in the map. -/
def heldOf
    (broker : MemoryResourceBroker)
    (resource : ResourceId) : UInt64 :=
  broker.held[resource]?.getD 0

theorem getElem?_held_release
    (broker : MemoryResourceBroker)
    (resources : List ResourceId)
    (resource : ResourceId) :
    (broker.release resources).held[resource]? =
      if resource ∈ resources then none else broker.held[resource]? := by
  unfold release
  simp only
  generalize broker.held = held
  induction resources generalizing held with
  | nil =>
      simp
  | cons first rest inductionHypothesis =>
      rw [List.foldl_cons, inductionHypothesis, Std.ExtTreeMap.getElem?_erase]
      simp only [Std.LawfulEqCmp.compare_eq_iff_eq, List.mem_cons]
      by_cases isFirst : resource = first
      · simp [isFirst]
      · simp [isFirst, Ne.symm isFirst]

@[simp] theorem heldOf_release
    (broker : MemoryResourceBroker)
    (resources : List ResourceId)
    (resource : ResourceId) :
    (broker.release resources).heldOf resource =
      if resource ∈ resources then 0 else broker.heldOf resource := by
  unfold heldOf
  rw [getElem?_held_release]
  split_ifs <;> rfl

/-- What a list of requested amounts adds to a total. -/
theorem getD_foldl_hold
    (requested : List (ResourceId × Bytes))
    (held : Map ResourceId UInt64)
    (resource : ResourceId)
    {Owner : Type}
    (owner : Owner) :
    (requested.foldl (fun held (resource, size) => hold held resource size)
        held)[resource]?.getD 0 =
      held[resource]?.getD 0 +
        UInt64.ofNat
          (total
            (requested.map fun (resource, size) =>
              (⟨owner, resource, size.count.toNat⟩ : Entry Owner ResourceId))
            resource) := by
  induction requested generalizing held with
  | nil =>
      simp [total]
  | cons first rest inductionHypothesis =>
      rw [List.foldl_cons, inductionHypothesis, List.map_cons,
        ← List.singleton_append, total_append]
      simp only [hold, Std.ExtTreeMap.getElem?_insert,
        Std.LawfulEqCmp.compare_eq_iff_eq]
      by_cases isFirst : first.1 = resource
      · subst isFirst
        simp [total, UInt64.ofNat_add, UInt64.add_assoc]
      · simp [total, isFirst]

/-- An acquire that fails adds nothing, one that is granted what was asked for. -/
theorem heldOf_acquire
    (broker : MemoryResourceBroker)
    (resources : List ResourceId)
    (sizes : List Bytes)
    (resource : ResourceId)
    {Owner : Type}
    (owner : Owner) :
    (broker.acquire resources sizes).1.heldOf resource =
      if (broker.acquire resources sizes).2.isNone then
        broker.heldOf resource +
          UInt64.ofNat
            (total
              ((resources.zip sizes).map fun (resource, size) =>
                (⟨owner, resource, size.count.toNat⟩ :
                  Entry Owner ResourceId))
              resource)
      else
        broker.heldOf resource := by
  have counted :
      (if 0 < broker.failAfter then
        { broker with failAfter := broker.failAfter - 1 }
      else
        broker).held = broker.held := by
    split <;> rfl
  unfold acquire heldOf
  simp only
  split_ifs with scripted _ exceeded <;>
    simp_all [getD_foldl_hold _ _ _ owner]

end MemoryResourceBroker

namespace Coordinator

/-! ## How a step changes the broker -/

/-- The broker after an event: called by a commit, or told of a release. -/
def brokerAfter (state : Coordinator) (event : Event) : MemoryResourceBroker :=
  match state.releasedBy event with
  | some (_, resources) => state.ledger.broker.release resources
  | none =>
      match event with
      | .acquire socket =>
          match state.connections[socket]? with
          | some (.acquiring commit) =>
              (state.ledger.broker.acquire commit.resources commit.sizes).1
          | _ => state.ledger.broker
      | _ => state.ledger.broker

section

variable
  {config : Config}
  {before after : Coordinator}
  {event : Event}
  {actions : List Action}

/-- Only `CANCEL` and `SUPERSEDE` release, of all messages. -/
private theorem brokerAfter_receive
    {socket : Socket}
    {message : Message}
    (notCancel : message.type ≠ .cancel)
    (notSupersede : message.type ≠ .supersede) :
    before.brokerAfter (.receive socket message) = before.ledger.broker := by
  have unreleased : before.releasedBy (.receive socket message) = none := by
    unfold releasedBy
    simp only
    split
    · rename_i kind _
      exact (notCancel kind).elim
    · rename_i kind _
      exact (notSupersede kind).elim
    · rfl
  simp [brokerAfter, unreleased]

private theorem broker_cancel
    {socket : Socket}
    {message : Message}
    (kind : message.type = .cancel) :
    (before.ledger.handleCancel socket message).1.broker =
      before.brokerAfter (.receive socket message) := by
  unfold Ledger.handleCancel brokerAfter releasedBy
  simp only [kind]
  cases found : before.ledger.plans[message.planId]? with
  | none => rfl
  | some record =>
      by_cases holding : Ledger.holdsClaims record.state = true
      · simp only [holding, if_true]
        split <;> rfl
      · simp only [holding, Bool.false_eq_true, if_false]
        split <;> rfl

private theorem broker_supersede
    {socket : Socket}
    {message : Message}
    (kind : message.type = .supersede) :
    (before.ledger.handleSupersede socket message).1.broker =
      before.brokerAfter (.receive socket message) := by
  simp only [Ledger.handleSupersede, (supersedeOlder_frame _ _ _).2]
  unfold Ledger.supersedeNamed brokerAfter releasedBy
  simp only [kind]
  cases found : before.ledger.plans[message.planId]? with
  | none => rfl
  | some record =>
      simp only
      split_ifs <;> rfl

private theorem broker_finishCommit
    {socket : Socket}
    {commit : Commit}
    {failure : Option Text}
    (busy :
      before.connections[socket]? = some (.acquired commit failure)) :
    (before.ledger.finishCommit socket commit failure).1.broker =
      before.brokerAfter (.finish socket) := by
  unfold Ledger.finishCommit brokerAfter releasedBy
  simp only [busy]
  cases failure with
  | some error =>
      simp only [Option.isNone_some, Bool.false_eq_true, if_false]
      split
      · rfl
      · split <;> rfl
  | none =>
      simp only [Option.isNone_none, if_true]
      cases found : before.ledger.plans[commit.planId]? with
      | none => rfl
      | some record =>
          simp only
          split_ifs <;> rfl

/-- How a step changes the broker. -/
theorem broker_of_step?
    (stepped : step? config before event = some (after, actions)) :
    after.ledger.broker = before.brokerAfter event := by
  cases taken_of_step? stepped with
  | receive socket message listening =>
      rw [ledger_resume]
      by_cases cancels : message.type = .cancel
      · simp only [handleMessage, cancels]
        exact broker_cancel cancels
      by_cases supersedes : message.type = .supersede
      · simp only [handleMessage, supersedes]
        exact broker_supersede supersedes
      · rw [brokerAfter_receive cancels supersedes]
        exact (ledger_frame_handleMessage cancels supersedes).2.1
  | finish socket commit failure busy =>
      rw [ledger_resume]
      exact broker_finishCommit busy
  | acquire socket commit busy =>
      simp [brokerAfter, releasedBy, busy]
  | accept | undecodable =>
      rw [ledger_resume]
      rfl
  | disconnect | saveStore => rfl

end

/-! ## Who holds what -/

/-- A size of a resource that a plan holds. -/
abbrev Holding := Entry CommunicationPlanId ResourceId

/-- What the broker grants in a step, and for which plan. -/
def granted (step : CoordinatorStep) : List Holding :=
  match step.event with
  | .acquire socket =>
      match step.before.connections[socket]? with
      | some (.acquiring commit) =>
          if (step.before.ledger.broker.acquire commit.resources
              commit.sizes).2.isNone then
            (commit.resources.zip commit.sizes).map fun (resource, size) =>
              ⟨commit.planId, resource, size.count.toNat⟩
          else
            []
      | _ => []
  | _ => []

/-- What a step leaves of the holdings: a release forgets them for every plan. -/
def holdingsAfter
    (holdings : List Holding)
    (step : CoordinatorStep) : List Holding :=
  match step.before.releasedBy step.event with
  | some (_, resources) => clear holdings resources
  | none => holdings ++ granted step

/-- What was granted in a trace and is still in the totals of the broker. -/
def standing (trace : List CoordinatorStep) : List Holding :=
  trace.foldl holdingsAfter []

@[simp] theorem standing_snoc
    (trace : List CoordinatorStep)
    (step : CoordinatorStep) :
    standing (trace ++ [step]) = holdingsAfter (standing trace) step := by
  simp [standing]

section

variable
  {config : Config}
  {before after : Coordinator}
  {event : Event}
  {actions : List Action}

/-- A step keeps the totals equal to what stands. -/
theorem held_of_step?
    {holdings : List Holding}
    (held :
      ∀ resource,
        before.ledger.broker.heldOf resource =
          UInt64.ofNat (total holdings resource))
    (stepped : step? config before event = some (after, actions))
    (resource : ResourceId) :
    after.ledger.broker.heldOf resource =
      UInt64.ofNat
        (total (holdingsAfter holdings ⟨before, event, actions, after⟩)
          resource) := by
  rw [broker_of_step? stepped]
  unfold brokerAfter holdingsAfter
  simp only
  cases released : before.releasedBy event with
  | some freed =>
      simp only [MemoryResourceBroker.heldOf_release, total_clear, held]
      split_ifs <;> rfl
  | none =>
      have ungranted :
          (∀ socket, event ≠ .acquire socket) →
          before.ledger.broker.heldOf resource =
            UInt64.ofNat
              (total
                (holdings ++ granted ⟨before, event, actions, after⟩)
                resource) := by
        intro other
        have nothing : granted ⟨before, event, actions, after⟩ = [] := by
          cases event with
          | acquire socket => exact (other socket rfl).elim
          | _ => rfl
        rw [nothing, List.append_nil]
        exact held resource
      cases event with
      | acquire socket =>
          cases taken_of_step? stepped with
          | acquire _ commit busy =>
              simp only [busy, granted,
                MemoryResourceBroker.heldOf_acquire _ _ _ _ commit.planId]
              split_ifs
              · rw [total_append, UInt64.ofNat_add, held]
              · rw [List.append_nil]
                exact held resource
      | _ => exact ungranted (by simp)

/-- The broker holds what stands in the trace, as 64-bit numbers. -/
theorem held_of_run
    {store : Option (List UInt8)}
    {trace : List CoordinatorStep}
    {state : Coordinator}
    (run : ProcessRun config store trace state)
    (resource : ResourceId) :
    state.ledger.broker.heldOf resource =
      UInt64.ofNat (total (standing trace) resource) := by
  have everything :
      ∀ resource,
        state.ledger.broker.heldOf resource =
          UInt64.ofNat (total (standing trace) resource) := by
    refine run.invariant_trace
      (fun trace state =>
        ∀ resource,
          state.ledger.broker.heldOf resource =
            UInt64.ofNat (total (standing trace) resource)) ?_ ?_
    · intro resource
      rw [broker_start]
      simp [standing, total, MemoryResourceBroker.heldOf]
    · intro earlier before event after actions _ _ held stepped resource
      rw [standing_snoc]
      exact held_of_step? held stepped resource
  exact everything resource

end

/-! ## Withdrawing one of several plans -/

/-- The plan that a message withdraws, or whose commit is undone. -/
def withdrawnBy (state : Coordinator) : Event → Option CommunicationPlanId
  | .receive _ message =>
      if message.type = .cancel ∨ message.type = .supersede then
        some message.planId
      else
        none
  | .finish socket =>
      match state.connections[socket]? with
      | some (.acquired commit _) =>
          match state.ledger.plans[commit.planId]? with
          | none => some commit.planId
          | some record =>
              if state.ledger.undoes record then
                some commit.planId
              else
                none
      | _ => none
  | _ => none

/--
Of no resource that the step releases for a plan something is held for another.
-/
def sparesOthers (past : List CoordinatorStep) (step : CoordinatorStep) : Bool :=
  match step.before.releasedBy step.event with
  | none => true
  | some (planId, resources) => Spares (standing past) planId resources

/-- The broker grants an amount of the resource to the plan. -/
def grants
    (step : CoordinatorStep)
    (planId : CommunicationPlanId)
    (resource : ResourceId) : Bool :=
  (granted step).any fun holding =>
    holding.owner = planId && holding.key = resource

/--
The resource was acquired for the plan, and nothing was released for it since.
-/
def AcquiredFor
    (planId : CommunicationPlanId)
    (resource : ResourceId)
    (trace : List CoordinatorStep) : Prop :=
  StandsIn (grants · planId resource) (releases · planId) trace

instance
    (planId : CommunicationPlanId)
    (resource : ResourceId)
    (trace : List CoordinatorStep) :
    Decidable (AcquiredFor planId resource trace) :=
  inferInstanceAs (Decidable (StandsIn _ _ _))

section

variable
  {config : Config}
  {before after : Coordinator}
  {event : Event}
  {actions : List Action}
  {planId : CommunicationPlanId}
  {resources : List ResourceId}

/-- Who releases for a plan withdraws it. -/
theorem withdrawnBy_of_releasedBy
    (released : before.releasedBy event = some (planId, resources)) :
    before.withdrawnBy event = some planId := by
  cases event with
  | receive socket message =>
      unfold releasedBy at released
      simp only at released
      split at released
      · rename_i record kind _
        split_ifs at released
        cases released
        simp [withdrawnBy, kind]
      · rename_i record kind _
        split_ifs at released
        cases released
        simp [withdrawnBy, kind]
      · cases released
  | finish socket =>
      unfold releasedBy at released
      simp only at released
      split at released
      · rename_i commit busy
        split at released
        · rename_i missing
          cases released
          simp only [withdrawnBy, busy, missing]
        · rename_i record found
          split_ifs at released with undone
          cases released
          simp only [withdrawnBy, busy, found, undone, if_true]
      · cases released
  | accept | undecodable | acquire | disconnect | saveStore =>
      cases released

/-- What is released for a plan is observed as such. -/
theorem releases_of_releasedBy
    (stepped : step? config before event = some (after, actions))
    (released : before.releasedBy event = some (planId, resources)) :
    releases ⟨before, event, actions, after⟩ planId = true := by
  have taken := taken_of_step? stepped
  cases event with
  | receive socket message =>
      unfold releasedBy at released
      simp only at released
      cases taken with
      | receive _ _ listening =>
          split at released
          · rename_i record kind found
            split_ifs at released with holding
            cases released
            simp [releases, handleMessage, kind, withLedger,
              Ledger.handleCancel, found, holding]
          · rename_i record kind found
            split_ifs at released with unfinished
            cases released
            simp [releases, handleMessage, kind, withLedger,
              Ledger.handleSupersede, Ledger.supersedeNamed, found,
              unfinished]
          · cases released
  | finish socket =>
      unfold releasedBy at released
      simp only at released
      split at released
      · rename_i commit busy
        cases taken with
        | finish _ other failure otherBusy =>
            rw [busy] at otherBusy
            cases otherBusy
            split at released
            · rename_i missing
              cases released
              simp [releases, Ledger.finishCommit, missing]
            · rename_i record found
              split_ifs at released with undone
              cases released
              simp [releases, Ledger.finishCommit, found, undone]
      · cases released
  | accept | undecodable | acquire | disconnect | saveStore =>
      cases released

/--
Where every release spares the other plans, what was acquired for a plan stands.
-/
theorem standing_of_acquiredFor
    {store : Option (List UInt8)}
    {trace : List CoordinatorStep}
    {state : Coordinator}
    {resource : ResourceId}
    (run : ProcessRun config store trace state)
    (spared : Throughout sparesOthers trace)
    (acquired : AcquiredFor planId resource trace) :
    ∃ holding ∈ standing trace,
      holding.owner = planId ∧ holding.key = resource := by
  have kept :
      AcquiredFor planId resource trace →
        ∃ holding ∈ standing trace,
          holding.owner = planId ∧ holding.key = resource := by
    refine run.invariant_past
      (fun trace _ =>
        AcquiredFor planId resource trace →
          ∃ holding ∈ standing trace,
            holding.owner = planId ∧ holding.key = resource) ?_ ?_
    · intro nothing
      exact (not_standsIn_nil nothing).elim
    · intro past before event after actions later whole earlier stepped stands
      have spares := spared past _ later whole
      rw [standing_snoc]
      unfold holdingsAfter
      simp only [sparesOthers] at spares ⊢
      cases released : before.releasedBy event with
      | none =>
          simp only
          rcases standsIn_snoc.mp stands with isGrant | ⟨stood, _⟩
          · obtain ⟨holding, member, isHolding⟩ := List.any_eq_true.mp isGrant
            simp only [Bool.and_eq_true, decide_eq_true_eq] at isHolding
            exact ⟨holding, List.mem_append_right _ member, isHolding⟩
          · obtain ⟨holding, member, isHolding⟩ := earlier stood
            exact ⟨holding, List.mem_append_left _ member, isHolding⟩
      | some freed =>
          rw [released] at spares
          simp only [decide_eq_true_eq] at spares ⊢
          have ungranted :
              grants ⟨before, event, actions, after⟩ planId resource =
                false := by
            cases event with
            | acquire socket => cases released
            | _ => rfl
          rcases standsIn_snoc.mp stands with isGrant | ⟨stood, unreleased⟩
          · rw [ungranted] at isGrant
            cases isGrant
          · obtain ⟨holding, member, isHolding⟩ := earlier stood
            refine ⟨holding, spares.kept member ?_, isHolding⟩
            intro sameOwner
            have isReleased := releases_of_releasedBy stepped released
            rw [← sameOwner, isHolding.1, unreleased] at isReleased
            cases isReleased
  exact kept acquired

end

/--
In a process in which no release takes a resource from another plan, withdrawing
a plan takes from no total more than is held for that plan, and what was
acquired for another plan stays in the totals.
-/
theorem withdrawal_takes_own_share
    {config : Config}
    {store : Option (List UInt8)}
    {trace past later : List CoordinatorStep}
    {step : CoordinatorStep}
    {state : Coordinator}
    {withdrawn other : CommunicationPlanId}
    {resource : ResourceId}
    (run : ProcessRun config store trace state)
    (spared : Throughout sparesOthers trace)
    (whole : trace = past ++ step :: later)
    (withdraws : step.before.withdrawnBy step.event = some withdrawn)
    (distinct : other ≠ withdrawn)
    (acquired : AcquiredFor other resource past) :
    (step.before.ledger.broker.heldOf resource).toNat ≤
        (step.after.ledger.broker.heldOf resource).toNat +
          share (standing past) withdrawn resource ∧
    share (standing (past ++ [step])) other resource =
      share (standing past) other resource ∧
    ∃ holding ∈ standing (past ++ [step]),
      holding.owner = other ∧ holding.key = resource := by
  subst whole
  obtain ⟨reached, stepped, _⟩ := run.cut
  have spares := spared past step later rfl
  have earlierSpared : Throughout sparesOthers past := by
    intro leading earlier between isPast
    refine spared leading earlier (between ++ step :: later) ?_
    rw [isPast, List.append_assoc, List.cons_append]
  obtain ⟨holding, member, isOther, isResource⟩ :=
    standing_of_acquiredFor reached earlierSpared acquired
  have heldBefore := held_of_run reached resource
  have heldAfter := held_of_run (reached.snoc stepped) resource
  rw [standing_snoc] at heldAfter ⊢
  rw [heldBefore, heldAfter]
  unfold holdingsAfter
  unfold sparesOthers at spares
  cases released : step.before.releasedBy step.event with
  | none =>
      have ungranted : granted step = [] := by
        unfold granted
        split
        · rename_i isAcquire
          rw [isAcquire] at withdraws
          cases withdraws
        · rfl
      simp only [ungranted, List.append_nil]
      exact ⟨Nat.le_add_right _ _, trivial, holding, member, isOther,
        isResource⟩
  | some freed =>
      have isWithdrawn := withdrawnBy_of_releasedBy released
      rw [withdraws] at isWithdrawn
      cases isWithdrawn
      rw [released] at spares
      simp only [decide_eq_true_eq] at spares ⊢
      refine ⟨?_, spares.share_clear distinct resource, holding,
        spares.kept member (isOther ▸ distinct), isOther, isResource⟩
      rw [total_clear]
      split_ifs with isFreed
      · rw [spares.total_eq_share isFreed, UInt64.toNat_ofNat']
        exact (Nat.mod_le _ _).trans (Nat.le_add_left _ _)
      · exact Nat.le_add_right _ _

/-- Two plans over the same relay, the first of which is committed. -/
def sharedRelayScenario : List Event :=
  relayDeployment ⟨4⟩ ⟨1⟩ ++
    [ .receive ⟨4⟩
        (CoordinatorClient.submitRequest (relayedRequest ⟨5⟩)),
      .receive ⟨4⟩
        (CoordinatorClient.submitRequest (relayedRequest ⟨6⟩)),
      .receive ⟨4⟩ (CoordinatorClient.commitPlan ⟨1⟩),
      .acquire ⟨4⟩,
      .finish ⟨4⟩ ]

/-- The plan that is not committed is cancelled, and the other keeps its claim. -/
theorem cancelled_plan_leaves_other_claim :
    ∃ past middle after outputs,
      ProcessRun defaultConfig none past middle ∧
      step? defaultConfig middle
          (.receive ⟨4⟩ (CoordinatorClient.cancel ⟨6⟩ ⟨2⟩)) =
        some (after, outputs) ∧
      AcquiredFor ⟨1⟩ ⟨5⟩ past ∧
      (middle.ledger.broker.heldOf ⟨5⟩).toNat ≤
        (after.ledger.broker.heldOf ⟨5⟩).toNat +
          share (standing past) ⟨2⟩ ⟨5⟩ := by
  have checked :
      (replay? (step? defaultConfig) (start none) sharedRelayScenario).any
        (fun reached =>
          AcquiredFor ⟨1⟩ ⟨5⟩ reached.1 &&
          (step? defaultConfig reached.2
            (.receive ⟨4⟩ (CoordinatorClient.cancel ⟨6⟩ ⟨2⟩))).any
            fun ended =>
              passesFrom sparesOthers []
                (reached.1 ++
                  [⟨reached.2,
                    .receive ⟨4⟩ (CoordinatorClient.cancel ⟨6⟩ ⟨2⟩),
                    ended.2, ended.1⟩])) = true := by
    decide +kernel
  obtain ⟨past, middle, reached, holds⟩ := exists_run_of_replay? checked
  simp only [Bool.and_eq_true, decide_eq_true_eq] at holds
  obtain ⟨acquired, ends⟩ := holds
  obtain ⟨⟨after, outputs⟩, stepped, passed⟩ :=
    (Option.any_eq_true _ _).mp ends
  have taken := withdrawal_takes_own_share (reached.snoc stepped)
    (throughout_of_passesFrom passed) rfl rfl
    (show (⟨1⟩ : CommunicationPlanId) ≠ ⟨2⟩ by decide) acquired
  exact ⟨past, middle, after, outputs, reached, stepped, acquired, taken.1⟩

/--
Both plans are committed and one is cancelled: nothing is held any more of what
they share, although each of them acquired an amount of it.
-/
theorem cancelled_plan_takes_other_claim :
    ∃ past middle after outputs,
      ProcessRun defaultConfig none past middle ∧
      step? defaultConfig middle
          (.receive ⟨4⟩ (CoordinatorClient.cancel ⟨5⟩ ⟨1⟩)) =
        some (after, outputs) ∧
      (∃ step ∈ past, commits step ⟨2⟩ = true) ∧
      AcquiredFor ⟨2⟩ ⟨5⟩ past ∧
      ¬(middle.ledger.broker.heldOf ⟨5⟩).toNat ≤
        (after.ledger.broker.heldOf ⟨5⟩).toNat +
          share (standing past) ⟨1⟩ ⟨5⟩ := by
  have checked :
      (replay? (step? defaultConfig) (start none)
        (sharedRelayScenario ++
          [ .receive ⟨4⟩ (CoordinatorClient.commitPlan ⟨2⟩),
            .acquire ⟨4⟩,
            .finish ⟨4⟩ ])).any
        (fun reached =>
          (reached.1.any fun step => commits step ⟨2⟩) &&
          AcquiredFor ⟨2⟩ ⟨5⟩ reached.1 &&
          (step? defaultConfig reached.2
            (.receive ⟨4⟩ (CoordinatorClient.cancel ⟨5⟩ ⟨1⟩))).any
            fun ended =>
              !decide ((reached.2.ledger.broker.heldOf ⟨5⟩).toNat ≤
                (ended.1.ledger.broker.heldOf ⟨5⟩).toNat +
                  share (standing reached.1) ⟨1⟩ ⟨5⟩)) = true := by
    decide +kernel
  obtain ⟨past, middle, reached, holds⟩ := exists_run_of_replay? checked
  simp only [Bool.and_eq_true, decide_eq_true_eq, List.any_eq_true] at holds
  obtain ⟨⟨committed, acquired⟩, ends⟩ := holds
  obtain ⟨⟨after, outputs⟩, stepped, exceeds⟩ :=
    (Option.any_eq_true _ _).mp ends
  exact ⟨past, middle, after, outputs, reached, stepped, committed, acquired,
    by simpa using exceeds⟩

end Coordinator

end CommunicationPlanner
