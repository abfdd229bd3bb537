import CommunicationPlanner.BrokerAccounts
import CommunicationPlanner.ClaimLeaks
import CommunicationPlanner.PlanBindings

namespace CommunicationPlanner

open PooledHoldings TransitionRun

/-!
# What the coordinator may hold

The broker looks at the items of an acquire one at a time and adds in 64 bits,
so it can be overdrawn by a list that names a resource twice and by a size that
wraps around.  The coordinator never passes the first: the claims of a plan are
distinct.  It passes the second only for a payload near the end of the 64-bit
range.  Without one, no interleaving of commits and withdrawals makes the broker
hold more of a resource than there is, as long as the calls of the broker come
one after the other.

Nothing in the code makes them do so.  The broker has no lock, and `handleCommit`
calls it outside the mutex of the coordinator; two calls that both check before
either adds are both granted.  A step of the coordinator is a whole call, so
what is said here of runs is said of runs in which the calls do not overlap.
-/

/-- With everything there is of a resource the size does not wrap around. -/
def Bytes.leavesRoom (size : Bytes) : Bool :=
  size.count.toNat + 2 ^ 30 < 2 ^ 64

namespace MemoryResourceBroker

variable
  {broker : MemoryResourceBroker}
  {resources : List ResourceId}
  {size : Bytes}

/-- Distinct resources, each for one size that leaves room, are covered. -/
theorem covers_of_leavesRoom
    (distinct : resources.Nodup)
    (room : size.leavesRoom = true)
    (within : ∀ resource, (broker.heldOf resource).toNat ≤ 2 ^ 30) :
    broker.Covers (.acquire (resources.map fun resource => (resource, size))) := by
  refine covers_of_distinct ?_ ?_
  · rw [List.map_map]
    simpa [Function.comp_def] using distinct
  · intro item member
    obtain ⟨resource, _, rfl⟩ := List.mem_map.mp member
    have held := within resource
    have fits : size.count.toNat + 2 ^ 30 < 2 ^ 64 := of_decide_eq_true room
    simp only
    omega

/-! ## Calls that overlap -/

/-- The second loop of `acquire`, which adds what the first has checked. -/
def add
    (broker : MemoryResourceBroker)
    (requested : List (ResourceId × Bytes)) : MemoryResourceBroker :=
  { broker with
    held := requested.foldl (fun held item => hold held item.1 item.2)
      broker.held }

/-- A call that nothing overlaps checks and adds at once. -/
theorem acquire_eq_add
    {requested : List (ResourceId × Bytes)}
    (unscripted : broker.failAfter < 0)
    (admits : broker.Admits requested) :
    broker.acquire (requested.map Prod.fst) (requested.map Prod.snd) =
      (broker.add requested, none) := by
  have unrefused :
      (requested.any fun item => broker.exceeds item.1 item.2) = false := by
    rw [List.any_eq_false]
    intro item member
    simp [admits.2 item member]
  have uncounted : ¬0 < broker.failAfter := by omega
  unfold acquire
  simp only [zip_map_fst_snd, if_neg admits.1, if_neg uncounted, unrefused]
  rfl

/-- Two calls that both check before either adds get twice what there is. -/
theorem overlapping_acquires_exceed_capacity :
    let broker : MemoryResourceBroker := {}
    let resource := stagingResourceFor ⟨2⟩
    let requested := [(resource, (⟨2 ^ 30⟩ : Bytes))]
    broker.Admits requested ∧
      broker.capacity resource <
        ((broker.add requested).add requested).heldOf resource := by
  refine ⟨⟨by decide, ?_⟩, by decide +kernel⟩
  intro item member
  rw [List.mem_singleton.mp member]
  decide +kernel

end MemoryResourceBroker

namespace Coordinator

variable
  {config : Config}
  {store : Option (List UInt8)}
  {trace : List CoordinatorStep}
  {before after final : Coordinator}
  {event : Event}
  {actions : List Action}

/-- What is submitted leaves room. -/
def submitsRoom (step : CoordinatorStep) : Bool :=
  step.event.message?.all fun message =>
    message.type ≠ .submitRequest || message.request.payloadSize.leavesRoom

/-- The claims can be acquired together: they are distinct and leave room. -/
structure Coverable (resources : List ResourceId) (size : Bytes) : Prop where
  distinct : resources.Nodup
  room : size.leavesRoom = true

/-- The claims of the plans that can be committed, and of the commits. -/
structure ClaimsCoverable (state : Coordinator) : Prop where
  committable :
    ∀ (planId : CommunicationPlanId) (record : PlanRecord),
      state.ledger.plans[planId]? = some record →
      record.state = .planReady ∨ record.state = .awaitingResourceCommit →
      Coverable record.plan.requiredResourceClaims
        (Ledger.claimSize record.plan)
  committing :
    ∀ (socket : Socket) (connection : Connection) (commit : Commit),
      state.commitAt socket = some connection →
      connection.commit? = some commit →
      ∃ size,
        commit.sizes = commit.resources.map (fun _ => size) ∧
        Coverable commit.resources size

/-- The claims of a new plan are for the payload of its request. -/
theorem coverable_of_produces
    {ledger : Ledger}
    {snapshot : EvidenceSnapshot}
    {request : CommunicationRequest}
    {plan : CommunicationPlan}
    (produced : ledger.Produces snapshot config request plan)
    (room : request.payloadSize.leavesRoom = true) :
    Coverable plan.requiredResourceClaims (Ledger.claimSize plan) := by
  have planned := produced.planned
  obtain ⟨outcome, counters, ran, success, returned⟩ := produced
  have claimed := claims_planCommunication _ _ _ ran success plan returned
  refine ⟨claimed.claims ▸ claimed.distinct, ?_⟩
  unfold Ledger.claimSize
  rw [planned.stages]
  cases paths : plan.candidatePaths with
  | nil => decide
  | cons primary fallbacks =>
      obtain ⟨_, _, candidate, cost, _, built⟩ :=
        planned.paths.chosen primary (by simp [paths])
      simp only [List.head?_cons, Option.map_some, Option.getD_some]
      split
      · decide
      · rename_i stage later stages
        rw [built.payloads stage (by simp [stages])]
        exact room

theorem ClaimsCoverable.step
    (coverable : ClaimsCoverable before)
    (room : submitsRoom ⟨before, event, actions, after⟩ = true)
    (stepped : step? config before event = some (after, actions)) :
    ClaimsCoverable after where
  committable planId record found isState := by
    have change : PlanStep config before planId event
        after.ledger.plans[planId]? := planStep_of_step? stepped
    rw [found] at change
    generalize isSome : some record = result at change
    cases change with
    | same => exact coverable.committable planId record isSome.symm isState
    | written old new known writes =>
        cases isSome
        cases writes with
        | beginCommit socket message kind named committable open_ =>
            exact coverable.committable planId old known committable
        | result => split at isState <;> simp at isState
        | undo | refuse | commit | revalidate | failRevalidation | handoff
        | cancel | supersede | supersedeOlder => simp at isState
    | entered socket message plan received kind produced open_ named =>
        cases isSome
        rw [Ledger.plan_newRecord]
        refine coverable_of_produces produced ?_
        subst received
        simpa [submitsRoom, kind] using room
  committing socket connection commit busy isCommit := by
    rcases commit_of_step? stepped busy isCommit with
      ⟨earlier, wasBusy, wasCommit⟩ | ⟨message, ledger, rfl, kind, begun⟩
    · exact coverable.committing socket earlier commit wasBusy wasCommit
    · obtain ⟨record, found, committable, _, _, rfl⟩ :=
        Ledger.beginCommit_eq_ok begun
      exact ⟨_, rfl, coverable.committable _ record found committable⟩

/-- What a process recovers cannot be committed. -/
theorem claimsCoverable_start (store : Option (List UInt8)) :
    ClaimsCoverable (start store) where
  committable planId record found isState := by
    have isRecovered :
        (start store).planState? planId = some record.state := by
      simp [planState?, found]
    have recovered := state_of_start isRecovered
    tauto
  committing socket connection commit busy := by
    rw [commitAt_start] at busy
    cases busy

/-! ## What stands is within the limits -/

/-- What is asked for is asked for by whichever owner. -/
theorem total_asked
    (owner : CommunicationPlanId)
    (requested : List (ResourceId × Bytes))
    (resource : ResourceId) :
    total
        (requested.map fun item =>
          (⟨owner, item.1, item.2.count.toNat⟩ : Holding))
        resource =
      total (asked requested) resource := by
  simp [total, asked, List.filter_map, Function.comp_def]

/-- What a granted commit adds to what stands. -/
theorem total_granted
    {socket : Socket}
    {commit : Commit}
    {size : Bytes}
    (sizes : commit.sizes = commit.resources.map fun _ => size)
    (busy : before.connections[socket]? = some (.acquiring commit))
    (resource : ResourceId) :
    total (granted ⟨before, .acquire socket, actions, after⟩) resource = 0 ∨
      before.ledger.broker.Admits
          (commit.resources.map fun resource => (resource, size)) ∧
        total (granted ⟨before, .acquire socket, actions, after⟩) resource =
          total (asked (commit.resources.map fun resource => (resource, size)))
            resource := by
  let requested := commit.resources.map fun resource => (resource, size)
  have isResources : requested.map Prod.fst = commit.resources := by
    simp [requested, Function.comp_def]
  have isSizes : requested.map Prod.snd = commit.sizes := by
    rw [sizes, List.map_map]
    rfl
  have zipped : commit.resources.zip commit.sizes = requested := by
    rw [← isResources, ← isSizes, MemoryResourceBroker.zip_map_fst_snd]
  unfold granted
  simp only [busy]
  split_ifs with admitted
  · right
    rw [zipped]
    refine ⟨?_, total_asked commit.planId requested resource⟩
    rw [← MemoryResourceBroker.isNone_acquire_iff]
    change (before.ledger.broker.acquire (requested.map Prod.fst)
      (requested.map Prod.snd)).2.isNone = true
    rw [isResources, isSizes]
    exact admitted
  · exact .inl rfl

theorem capacity_of_run
    (run : ProcessRun config store trace final)
    (resource : ResourceId) :
    final.ledger.broker.capacity resource = 2 ^ 30 := by
  refine run.invariant
    (fun state => state.ledger.broker.capacity resource = 2 ^ 30) ?_ ?_
  · rw [broker_start]
    rfl
  · intro step _ stepped capacity
    rw [broker_of_step? stepped]
    unfold brokerAfter
    split
    · exact capacity
    · split
      · split
        · rw [MemoryResourceBroker.capacity_acquire]
          exact capacity
        · exact capacity
      · exact capacity

/-- What stands stays within the capacity, whatever a step grants or frees. -/
theorem within_of_step?
    (coverable : ClaimsCoverable before)
    (capacity :
      ∀ resource, before.ledger.broker.capacity resource = 2 ^ 30)
    (held :
      ∀ resource,
        before.ledger.broker.heldOf resource =
          UInt64.ofNat (total (standing trace) resource))
    (within : ∀ resource, total (standing trace) resource ≤ 2 ^ 30)
    (stepped : step? config before event = some (after, actions))
    (resource : ResourceId) :
    total (standing (trace ++ [⟨before, event, actions, after⟩])) resource ≤
      2 ^ 30 := by
  have counted :
      ∀ resource,
        (before.ledger.broker.heldOf resource).toNat =
          total (standing trace) resource := by
    intro resource
    have small := within resource
    rw [held, UInt64.toNat_ofNat', Nat.mod_eq_of_lt (by omega)]
  rw [standing_snoc]
  unfold holdingsAfter
  simp only
  cases released : before.releasedBy event with
  | some freed =>
      simp only [total_clear]
      split_ifs
      · exact Nat.zero_le _
      · exact within resource
  | none =>
      simp only [total_append]
      have unchanged :
          total (granted ⟨before, event, actions, after⟩) resource = 0 →
          total (standing trace) resource +
              total (granted ⟨before, event, actions, after⟩) resource ≤
            2 ^ 30 := by
        intro nothing
        rw [nothing]
        exact within resource
      cases event with
      | acquire socket =>
          cases taken_of_step? stepped with
          | acquire _ commit busy =>
              obtain ⟨size, sizes, distinct, room⟩ :=
                coverable.committing socket _ commit
                  (commitAt_of_connections busy rfl) rfl
              rcases total_granted sizes busy resource with
                nothing | ⟨admits, isAsked⟩
              · exact unchanged nothing
              rw [isAsked]
              by_cases named :
                  resource ∈
                    (commit.resources.map fun resource =>
                      (resource, size)).map Prod.fst
              · have covered :=
                  MemoryResourceBroker.covers_of_leavesRoom distinct room
                    (fun resource =>
                      (counted resource).trans_le (within resource))
                    admits resource named
                rwa [counted, capacity] at covered
              · rw [MemoryResourceBroker.total_asked_of_notMem named]
                exact within resource
      | accept | receive | undecodable | finish | disconnect | saveStore =>
          exact unchanged rfl

/--
As long as no two calls of the broker overlap, and however the rest of commits,
withdrawals and failures interleaves, the broker holds of each resource exactly
what it has granted and not been told to release since, and never more than
there is, unless a payload is submitted with which 64 bits wrap around.
-/
theorem broker_is_never_overcommitted
    (run : ProcessRun config store trace final)
    (room : ∀ step ∈ trace, submitsRoom step = true)
    (resource : ResourceId) :
    (final.ledger.broker.heldOf resource).toNat =
        total (standing trace) resource ∧
      total (standing trace) resource ≤ 2 ^ 30 := by
  have within :
      ClaimsCoverable final ∧
        ∀ resource, total (standing trace) resource ≤ 2 ^ 30 := by
    refine run.invariant_trace
      (fun trace state =>
        ClaimsCoverable state ∧
          ∀ resource, total (standing trace) resource ≤ 2 ^ 30)
      ⟨claimsCoverable_start store, by simp [standing, total]⟩ ?_
    rintro earlier before event after actions past member ⟨coverable, within⟩
      stepped
    exact ⟨coverable.step (room _ member) stepped,
      within_of_step? coverable (capacity_of_run past) (held_of_run past) within
        stepped⟩
  have small := within.2 resource
  rw [held_of_run run, UInt64.toNat_ofNat', Nat.mod_eq_of_lt (by omega)]
  exact ⟨rfl, small⟩

/-- One commit takes all there is, and the next one is refused. -/
theorem large_claims_take_turns :
    ∃ trace final,
      ProcessRun defaultConfig none trace final ∧
      (∀ step ∈ trace, submitsRoom step = true) ∧
      final.planState? ⟨1⟩ = some .committed ∧
      final.planState? ⟨2⟩ = some .failed ∧
      (final.ledger.broker.heldOf (stagingResourceFor ⟨2⟩)).toNat =
        total (standing trace) (stagingResourceFor ⟨2⟩) ∧
      total (standing trace) (stagingResourceFor ⟨2⟩) ≤ 2 ^ 30 := by
  have checked :
      (replay? (step? defaultConfig) (start none)
        (relayDeployment ⟨4⟩ ⟨1⟩ ++
          receiveAll ⟨4⟩
            [ CoordinatorClient.submitRequest (mkRequest ⟨5⟩ ⟨1⟩ ⟨3⟩ (2 ^ 30)),
              CoordinatorClient.submitRequest (mkRequest ⟨6⟩ ⟨1⟩ ⟨3⟩ (2 ^ 30)),
              CoordinatorClient.commitPlan ⟨1⟩ ] ++
          [.acquire ⟨4⟩, .finish ⟨4⟩] ++
          receiveAll ⟨4⟩ [CoordinatorClient.commitPlan ⟨2⟩] ++
          [.acquire ⟨4⟩, .finish ⟨4⟩])).any
        (fun reached =>
          reached.1.all submitsRoom &&
            reached.2.planState? ⟨1⟩ = some .committed &&
            reached.2.planState? ⟨2⟩ = some .failed) = true := by
    decide +kernel
  obtain ⟨trace, final, run, holds⟩ := exists_run_of_replay? checked
  simp only [Bool.and_eq_true, decide_eq_true_eq, List.all_eq_true] at holds
  obtain ⟨⟨room, committed⟩, failed⟩ := holds
  exact ⟨trace, final, run, room, committed, failed,
    broker_is_never_overcommitted run room _⟩

end Coordinator

end CommunicationPlanner
