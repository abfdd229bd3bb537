import CommunicationPlanner.ProcessObservations
import CommunicationPlanner.StoreIntegrity

namespace CommunicationPlanner

open OrderedCollections TransitionRun

/-!
# Recovery of what was saved

Every plan in the table of a coordinator was produced by the planner or read
from a valid store, so it passes the checks of the parser on paths and bindings.
What is left to decide whether a saved store is accepted are the limits of the
format, the costs, the requests that were submitted more than once, and the
plans that are executable without a claim.  A store that is accepted brings
back the whole plan table.
-/

/-! ## Planned plans pass the checks of the store -/

/-- The walk along a vertex-simple chain ends at its destination. -/
theorem walkStages_of_contiguous
    {stages : List Stage}
    {source destination : EndpointId}
    {seen : List EndpointId}
    (contiguous :
      Contiguous source (stages.map Stage.hop) destination)
    (simple :
      (source :: (stages.map Stage.hop).map fun hop => hop.target).Nodup)
    (unseen : ∀ stage ∈ stages, stage.destination ∉ seen) :
    walkStages source seen stages = .ok destination := by
  induction stages generalizing source seen with
  | nil =>
      exact congrArg _ contiguous
  | cons stage rest inductionHypothesis =>
      obtain ⟨fromSource, restContiguous⟩ := contiguous
      simp only [List.map_cons, List.nodup_cons, List.mem_cons,
        not_or] at simple
      obtain ⟨⟨notSelf, _⟩, notAgain, restNodup⟩ := simple
      have isSource : stage.source = source := fromSource
      unfold walkStages
      rw [if_neg (not_not.mpr isSource), if_neg (isSource ▸ notSelf),
        if_neg (unseen stage List.mem_cons_self)]
      refine inductionHypothesis restContiguous
        (List.nodup_cons.mpr ⟨notAgain, restNodup⟩) ?_
      intro later member inSeen
      rcases List.mem_cons.mp inSeen with same | earlier
      · refine notAgain ?_
        rw [List.map_map]
        exact List.mem_map.mpr ⟨later, member, same⟩
      · exact unseen later (List.mem_cons_of_mem _ member) earlier

section

variable
  {request : CommunicationRequest}
  {snapshot : EvidenceSnapshot}
  {weights : RankingWeights}
  {bounds : Bounds}
  {plan : CommunicationPlan}

/-- The endpoints of every stage are among the bound ones. -/
private theorem bound_of_stage
    (planned : Planned request snapshot weights bounds plan)
    {path : Path}
    (inPlan : path ∈ plan.candidatePaths)
    {stage : Stage}
    (inPath : stage ∈ path.stages) :
    stage.source ∈ plan.endpointGenerations.map Prod.fst ∧
      stage.destination ∈ plan.endpointGenerations.map Prod.fst := by
  obtain ⟨link, source, target, hop⟩ :=
    planned.hop_admissible inPlan inPath
  have isBound :
      ∀ (id : EndpointId) (endpoint : Endpoint),
        (stage.source = id ∨ stage.destination = id) →
        snapshot.endpointMap[id]? = some endpoint →
        id ∈ plan.endpointGenerations.map Prod.fst := by
    intro id endpoint visited found
    have inPairs := planned.endpoint_bound inPlan inPath visited found
    obtain ⟨_, sameId⟩ := mem_of_getElem?_indexBy found
    rw [← sameId]
    exact List.mem_map_of_mem inPairs
  exact ⟨isBound _ source (.inl rfl) hop.sourceFound,
    isBound _ target (.inr rfl) hop.targetFound⟩

private theorem pathRejection_eq_none
    (planned : Planned request snapshot weights bounds plan)
    {path : Path}
    (inPlan : path ∈ plan.candidatePaths) :
    pathRejection plan path = none := by
  obtain ⟨source, destination, candidate, cost, chosen, built⟩ :=
    planned.paths.chosen path inPlan
  have walked :
      walkStages path.source [] path.stages = .ok path.destination := by
    rw [built.source, built.destination, chosen.path.fromSource,
      chosen.path.toDestination]
    refine walkStages_of_contiguous ?_ ?_ (by simp)
    · rw [built.hops]
      exact chosen.path.contiguous
    · rw [built.hops]
      exact chosen.path.simple
  have samePayloads :
      (path.stages.any fun stage =>
        stage.payload.count ≠ path.totalPayload.count) = false := by
    rw [List.any_eq_false]
    intro stage inPath
    simp [built.payloads stage inPath, built.totalPayload]
  have allBound :
      (path.stages.any fun stage =>
        stage.source ∉ plan.endpointGenerations.map Prod.fst ||
          stage.destination ∉ plan.endpointGenerations.map Prod.fst) =
        false := by
    rw [List.any_eq_false]
    intro stage inPath
    have isBound := bound_of_stage planned inPlan inPath
    simp only [isBound.1, isBound.2, not_true_eq_false, decide_false,
      Bool.or_self, Bool.false_eq_true, not_false_eq_true]
  unfold pathRejection
  rw [samePayloads, walked]
  simp only [Bool.false_eq_true, if_false, ne_eq, not_true_eq_false,
    and_false, allBound]

/-- Paths of distinct identities that pass one by one pass together. -/
theorem pathsRejection_eq_none
    {paths : List Path}
    {seen : List PathId}
    (distinct : (paths.map fun path => path.id).Nodup)
    (unseen : ∀ path ∈ paths, path.id ∉ seen)
    (passes : ∀ path ∈ paths, pathRejection plan path = none) :
    pathsRejection plan seen paths = none := by
  induction paths generalizing seen with
  | nil => rfl
  | cons path rest inductionHypothesis =>
      simp only [List.map_cons, List.nodup_cons] at distinct
      unfold pathsRejection
      rw [if_neg (unseen path List.mem_cons_self),
        passes path List.mem_cons_self]
      refine inductionHypothesis distinct.2 ?_ ?_
      · intro later member inSeen
        rcases List.mem_cons.mp inSeen with same | earlier
        · exact distinct.1 (same ▸ List.mem_map_of_mem member)
        · exact unseen later (List.mem_cons_of_mem _ member) earlier
      · intro later member
        exact passes later (List.mem_cons_of_mem _ member)

/-- Numbers from one on are distinct until they return to one. -/
private theorem nodup_numberedIds
    {count : Nat}
    (countable : count ≤ 2 ^ 64) :
    (numberedIds count).Nodup := by
  refine List.Nodup.map_on ?_ List.nodup_range
  intro first inRange second alsoInRange same
  rw [List.mem_range] at inRange alsoInRange
  have numbers := congrArg (fun id : PathId => id.value.toNat) same
  simp only [UInt64.toNat_ofNat'] at numbers
  omega

/-- A planned plan with a finite cost passes the checks of a record. -/
theorem Planned.recordRejection_eq_none
    (planned : Planned request snapshot weights bounds plan)
    (finite : plan.cost.totalValid = true)
    (countable : plan.candidatePaths.length ≤ 2 ^ 64) :
    recordRejection ⟨plan, .planReady⟩ = none := by
  obtain ⟨components, costed⟩ := planned.costed
  have validComponents :
      (plan.cost.components.any fun component => !component.isValid) =
        false := by
    rw [List.any_eq_false]
    intro component member
    rw [costed] at finite member
    simp [CostSummary.isValid_of_totalValid finite component member]
  have paths :
      pathsRejection plan [] plan.candidatePaths = none := by
    refine pathsRejection_eq_none ?_ (by simp) fun path inPlan =>
      pathRejection_eq_none planned inPlan
    rw [planned.paths.numbered]
    exact nodup_numberedIds countable
  have primary :
      ¬((plan.candidatePaths.all fun path =>
          path.id ≠ plan.primaryPath) = true ∧
        (!plan.primaryPath.isNull) = true) := by
    rintro ⟨missing, named⟩
    rw [planned.primary] at missing named
    cases first : plan.candidatePaths with
    | nil =>
        rw [first] at named
        cases named
    | cons path rest =>
        simp [first] at missing
  unfold recordRejection
  simp only [finite, validComponents, paths, Bool.not_true,
    Bool.false_eq_true, if_false, if_neg primary]
  simp

/-- What the checks of a record demand, whatever its state. -/
def CommunicationPlan.Checked (plan : CommunicationPlan) : Prop :=
  plan.cost.totalValid = true →
  plan.candidatePaths.length ≤ kMaxCount →
  recordRejection ⟨plan, .planReady⟩ = none

theorem Planned.checked
    (planned : Planned request snapshot weights bounds plan) :
    plan.Checked := by
  intro finite short
  have countable : plan.candidatePaths.length ≤ 2 ^ 64 := by
    unfold kMaxCount at short
    omega
  exact planned.recordRejection_eq_none finite countable

end

/-! ## The verdict on a whole store -/

/-- The state of a record matters only if it claims to be executable. -/
theorem recordRejection_eq_none_iff
    {plan : CommunicationPlan}
    {state : PlanState} :
    recordRejection ⟨plan, state⟩ = none ↔
      recordRejection ⟨plan, .planReady⟩ = none ∧
        (state.executable = true → plan.requiredResourceClaims ≠ []) := by
  have executableIff :
      state ∈ [PlanState.committed, .awaitingExecution, .active] ↔
        state.executable = true := by
    cases state <;> decide
  have notReady :
      ¬(PlanState.planReady ∈
            [PlanState.committed, .awaitingExecution, .active] ∧
          plan.requiredResourceClaims = []) := by
    simp
  unfold recordRejection
  simp only [executableIff, if_neg notReady]
  by_cases infinite : (!plan.cost.totalValid) = true
  · simp [infinite]
  rw [if_neg infinite, if_neg infinite]
  by_cases invalid :
      (plan.cost.components.any fun component => !component.isValid) = true
  · simp [invalid]
  rw [if_neg invalid, if_neg invalid]
  cases pathsRejection plan [] plan.candidatePaths with
  | some error => simp
  | none =>
      by_cases unselected :
          (plan.candidatePaths.all fun path =>
              path.id ≠ plan.primaryPath) = true ∧
            (!plan.primaryPath.isNull) = true
      · simp only [if_pos unselected]
        simp
      · simp only [if_neg unselected]
        by_cases unclaimed :
            state.executable = true ∧ plan.requiredResourceClaims = []
        · simp [unclaimed]
        · simpa [if_neg unclaimed] using unclaimed

/-- Records of distinct identities pass together when they pass one by one. -/
theorem recordsRejection_eq_none_iff
    {records : List StoreRecord}
    {seen : List CommunicationPlanId}
    (distinct : (records.map fun record => record.plan.id).Nodup)
    (unseen : ∀ record ∈ records, record.plan.id ∉ seen) :
    recordsRejection seen records = none ↔
      ∀ record ∈ records, recordRejection record = none := by
  induction records generalizing seen with
  | nil => simp [recordsRejection]
  | cons record rest inductionHypothesis =>
      simp only [List.map_cons, List.nodup_cons] at distinct
      unfold recordsRejection
      rw [if_neg (unseen record List.mem_cons_self), List.forall_mem_cons]
      have restUnseen :
          ∀ later ∈ rest, later.plan.id ∉ record.plan.id :: seen := by
        intro later member inSeen
        rcases List.mem_cons.mp inSeen with same | earlier
        · exact distinct.1 (same ▸ List.mem_map_of_mem member)
        · exact unseen later (List.mem_cons_of_mem _ member) earlier
      cases recordRejection record with
      | some error => simp
      | none => simpa using inductionHypothesis distinct.2 restUnseen

theorem recordRejection_of_mem
    {records : List StoreRecord}
    {seen : List CommunicationPlanId}
    (passed : recordsRejection seen records = none)
    {record : StoreRecord}
    (member : record ∈ records) :
    recordRejection record = none := by
  induction records generalizing seen with
  | nil => cases member
  | cons first rest inductionHypothesis =>
      unfold recordsRejection at passed
      split_ifs at passed
      split at passed
      · cases passed
      · rename_i accepted
        rcases List.mem_cons.mp member with rfl | later
        · exact accepted
        · exact inductionHypothesis passed later

/-- Every record of a parsed store passes the checks of a record. -/
theorem recordRejection_of_parseStore
    {bytes : List UInt8}
    {state : StoreState}
    (parsed : parseStore bytes = .ok state)
    {record : StoreRecord}
    (member : record ∈ state.plans) :
    recordRejection record = none := by
  have valid := validateStore_of_parseStore parsed
  unfold validateStore at valid
  split at valid
  · cases valid
  · rename_i passed
    exact recordRejection_of_mem passed member

namespace Coordinator

variable
  {config : Config}
  {store : Option (List UInt8)}
  {trace : List CoordinatorStep}
  {state : Coordinator}

/-! ## The plans of a coordinator -/

/-- Every plan in the table passes the checks that do not depend on its state. -/
def PlansChecked (state : Coordinator) : Prop :=
  ∀ (planId : CommunicationPlanId) (record : PlanRecord),
    state.ledger.plans[planId]? = some record → record.plan.Checked

theorem plansChecked_of_run
    (run : ProcessRun config store trace state) :
    PlansChecked state := by
  refine run.invariant PlansChecked ?_ ?_
  · intro planId record found
    obtain ⟨bytes, stored, member, _, parsed, inStore, _, rfl⟩ :=
      record_of_start found
    intro _ _
    exact (recordRejection_eq_none_iff.mp
      (recordRejection_of_parseStore parsed inStore)).1
  · intro step _ stepped checked planId record found
    have change :
        PlanStep config step.before planId step.event (some record) :=
      found ▸ planStep_of_step? stepped
    generalize isSome : some record = changed at change
    cases change with
    | same => exact checked planId record isSome.symm
    | written old new known writes =>
        cases isSome
        exact checked planId old known
    | entered socket message plan received kind produced open_ named =>
        cases isSome
        rw [Ledger.plan_newRecord]
        exact produced.planned.checked

/-! ## Saving and starting again -/

/-- What recovery makes of a record: the plan, in a state that is not trusted. -/
def recovered (record : PlanRecord) : PlanRecord :=
  { plan := record.plan, state := recoveredState record.state }

/-- The saved store is accepted, and brings back the plans and supersessions. -/
structure Recovers (state : Coordinator) : Prop where
  accepted :
    ∃ bytes stored,
      state.save.store = some bytes ∧ parseStore bytes = .ok stored
  plans :
    ∀ planId : CommunicationPlanId,
      (start state.save.store).ledger.plans[planId]? =
        state.ledger.plans[planId]?.map recovered
  supersessions :
    (start state.save.store).ledger.supersessions =
      state.ledger.supersessions

/-- Everything in the state can be written in the format. -/
structure WithinLimits (state : Coordinator) : Prop where
  fits : (state.ledger.storeState state.epoch).Fits
  identified :
    ∀ (planId : CommunicationPlanId) (record : PlanRecord),
      state.ledger.plans[planId]? = some record → planId.isNull = false

/-- No request twice, no executable plan without a claim, no infinite cost. -/
structure Recoverable (state : Coordinator) : Prop where
  requests : (state.ledger.requests.map fun request => request.id).Nodup
  claims :
    ∀ (planId : CommunicationPlanId) (record : PlanRecord),
      state.ledger.plans[planId]? = some record →
      record.state.executable = true →
      record.plan.requiredResourceClaims ≠ []
  costs :
    ∀ (planId : CommunicationPlanId) (record : PlanRecord),
      state.ledger.plans[planId]? = some record →
      record.plan.cost.totalValid = true

/-- The saved records are those of the table. -/
theorem mem_plans_storeState
    {ledger : Ledger}
    {epoch : CoordinatorEpoch}
    {stored : StoreRecord} :
    stored ∈ (ledger.storeState epoch).plans ↔
      ∃ (planId : CommunicationPlanId) (record : PlanRecord),
        ledger.plans[planId]? = some record ∧
        stored = ⟨record.plan, record.state⟩ := by
  simp only [Ledger.storeState, List.mem_map]
  constructor
  · rintro ⟨⟨planId, record⟩, member, rfl⟩
    exact ⟨planId, record,
      Std.ExtTreeMap.mem_toList_iff_getElem?_eq_some.mp member, rfl⟩
  · rintro ⟨planId, record, found, rfl⟩
    exact ⟨(planId, record),
      Std.ExtTreeMap.mem_toList_iff_getElem?_eq_some.mpr found, rfl⟩

/-- A table keyed by identity saves every identity once. -/
theorem nodup_ids_storeState
    (keyed : Keyed state)
    (epoch : CoordinatorEpoch) :
    ((state.ledger.storeState epoch).plans.map fun stored =>
      stored.plan.id).Nodup := by
  have sameIds :
      ((state.ledger.storeState epoch).plans.map fun stored =>
        stored.plan.id) =
      state.ledger.plans.toList.map Prod.fst := by
    simp only [Ledger.storeState, List.map_map]
    refine List.map_congr_left ?_
    rintro ⟨planId, record⟩ member
    exact keyed planId record
      (Std.ExtTreeMap.mem_toList_iff_getElem?_eq_some.mp member)
  rw [sameIds, List.Nodup, List.pairwise_map]
  refine Std.ExtTreeMap.distinct_keys_toList.imp ?_
  intro first second different same
  exact different (Std.LawfulEqCmp.compare_eq_iff_eq.mpr same)

/-- The verdict of the parser on the saved store, within the limits. -/
theorem parseStore_saved
    (keyed : Keyed state)
    (limits : WithinLimits state) :
    parseStore (serializeStore (state.ledger.storeState state.epoch)) =
      match validateStore
          (state.ledger.storeState state.epoch).persisted with
      | some error => .error error
      | none => .ok (state.ledger.storeState state.epoch).persisted := by
  refine parseStore_serializeStore limits.fits ?_
    (nodup_ids_storeState keyed state.epoch)
  intro stored member
  obtain ⟨planId, record, found, rfl⟩ := mem_plans_storeState.mp member
  have sameId := keyed planId record found
  simp only [sameId]
  exact limits.identified planId record found

/-- Within the limits, the checks pass exactly for the recoverable states. -/
theorem validateStore_saved_iff
    (keyed : Keyed state)
    (checked : PlansChecked state)
    (limits : WithinLimits state) :
    validateStore (state.ledger.storeState state.epoch).persisted = none ↔
      Recoverable state := by
  have sameRequestIds :
      ((state.ledger.storeState state.epoch).persisted.requests.map
        fun request => request.id) =
      state.ledger.requests.map fun request => request.id := by
    simp only [StoreState.persisted, Ledger.storeState, List.map_map]
    exact List.map_congr_left fun _ _ => rfl
  have verdict :
      validateStore (state.ledger.storeState state.epoch).persisted =
          none ↔
        (∀ stored ∈ (state.ledger.storeState state.epoch).plans,
          recordRejection stored = none) ∧
        (state.ledger.requests.map fun request => request.id).Nodup := by
    have each :
        recordsRejection [] (state.ledger.storeState state.epoch).plans =
            none ↔
          ∀ stored ∈ (state.ledger.storeState state.epoch).plans,
            recordRejection stored = none :=
      recordsRejection_eq_none_iff
        (nodup_ids_storeState keyed state.epoch) (by simp)
    rw [← each, ← sameRequestIds]
    unfold validateStore
    change (match recordsRejection []
        (state.ledger.storeState state.epoch).plans with
      | some error => some error
      | none => _) = none ↔ _
    cases recordsRejection []
        (state.ledger.storeState state.epoch).plans with
    | some error => simp
    | none => simp
  rw [verdict]
  constructor
  · rintro ⟨passes, distinct⟩
    have passesEach :
        ∀ (planId : CommunicationPlanId) (record : PlanRecord),
          state.ledger.plans[planId]? = some record →
          recordRejection ⟨record.plan, record.state⟩ = none := by
      intro planId record found
      exact passes _ (mem_plans_storeState.mpr ⟨planId, record, found, rfl⟩)
    refine ⟨distinct, ?_, ?_⟩
    · intro planId record found
      exact (recordRejection_eq_none_iff.mp
        (passesEach planId record found)).2
    · intro planId record found
      have passed := passesEach planId record found
      by_contra infinite
      rw [Bool.not_eq_true] at infinite
      simp [recordRejection, infinite] at passed
  · intro recoverable
    refine ⟨?_, recoverable.requests⟩
    intro stored member
    obtain ⟨planId, record, found, rfl⟩ := mem_plans_storeState.mp member
    refine recordRejection_eq_none_iff.mpr
      ⟨checked planId record found (recoverable.costs planId record found)
        ?_, recoverable.claims planId record found⟩
    exact (limits.fits.everyPlan _ member).candidatePaths

/-- An accepted file is loaded: its ledger recovered, at the next epoch. -/
theorem loadStoreIfAny_of_parse
    {bytes : List UInt8}
    {stored : StoreState}
    (parsed : parseStore bytes = .ok stored) :
    loadStoreIfAny (some bytes) =
      (Ledger.recover (conservativeRecovery stored), stored.epoch.next) := by
  cases bytes with
  | nil =>
      have rejected :
          parseStore [] = .error (truncated "missing magic") := rfl
      rw [rejected] at parsed
      cases parsed
  | cons byte rest =>
      simp [loadStoreIfAny, parsed]

/-- A process that is started on an accepted store. -/
theorem ledger_start_of_parse
    {bytes : List UInt8}
    {stored : StoreState}
    (parsed : parseStore bytes = .ok stored) :
    (start (some bytes)).ledger =
      Ledger.recover (conservativeRecovery stored) := by
  simp [start, loadStoreIfAny_of_parse parsed]

/-- The table that is recovered from the saved records. -/
theorem plans_recover_saved
    (keyed : Keyed state)
    (planId : CommunicationPlanId) :
    (Ledger.recover (conservativeRecovery
        (state.ledger.storeState state.epoch).persisted)).plans[planId]? =
      state.ledger.plans[planId]?.map recovered := by
  rw [plans_recover]
  have records :
      (conservativeRecovery
        (state.ledger.storeState state.epoch).persisted).plans.map adopted =
      (state.ledger.storeState state.epoch).plans.map fun stored =>
        { plan := stored.plan, state := recoveredState stored.state } := by
    simp only [conservativeRecovery, StoreState.persisted, List.map_map]
    exact List.map_congr_left fun _ _ => rfl
  rw [records]
  cases found : state.ledger.plans[planId]? with
  | none =>
      rw [Option.map_none, ← Option.not_isSome_iff_eq_none]
      intro present
      obtain ⟨record, lookup⟩ := Option.isSome_iff_exists.mp present
      obtain ⟨member, sameId⟩ := mem_of_getElem?_indexBy lookup
      obtain ⟨stored, inStore, rfl⟩ := List.mem_map.mp member
      obtain ⟨known, old, oldFound, rfl⟩ :=
        mem_plans_storeState.mp inStore
      have isKnown : known = planId :=
        (keyed known old oldFound).symm.trans sameId
      rw [isKnown, found] at oldFound
      cases oldFound
  | some record =>
      have member :
          recovered record ∈
            (state.ledger.storeState state.epoch).plans.map fun stored =>
              ({ plan := stored.plan
                 state := recoveredState stored.state } : PlanRecord) :=
        List.mem_map.mpr ⟨⟨record.plan, record.state⟩,
          mem_plans_storeState.mpr ⟨planId, record, found, rfl⟩, rfl⟩
      have distinct :
          (((state.ledger.storeState state.epoch).plans.map fun stored =>
            ({ plan := stored.plan
               state := recoveredState stored.state } : PlanRecord)).map
            fun record => record.plan.id).Nodup := by
        rw [List.map_map]
        exact nodup_ids_storeState keyed state.epoch
      have lookup := getElem?_indexBy_of_mem distinct member
      have sameId : (recovered record).plan.id = planId :=
        keyed planId record found
      simp only [sameId] at lookup
      exact lookup

/--
A saved store that can be written in the format is accepted, and brings back
the saved plans and supersessions, exactly when no request was submitted twice,
every executable plan has a claim and every cost is finite.
-/
theorem saved_store_recovers_iff
    (run : ProcessRun config store trace state) :
    (WithinLimits state ∧ Recoverable state → Recovers state) ∧
    (WithinLimits state → Recovers state → Recoverable state) := by
  have keyed := keyed_of_run run
  have checked := plansChecked_of_run run
  constructor
  · rintro ⟨limits, recoverable⟩
    have valid :=
      (validateStore_saved_iff keyed checked limits).mpr recoverable
    have parsed := parseStore_saved keyed limits
    rw [valid] at parsed
    refine ⟨⟨_, _, rfl, parsed⟩, ?_, ?_⟩
    · intro planId
      simp only [save, ledger_start_of_parse parsed]
      exact plans_recover_saved keyed planId
    · simp only [save, ledger_start_of_parse parsed]
      rfl
  · intro limits recovers
    obtain ⟨bytes, stored, saved, parsed⟩ := recovers.accepted
    cases saved
    rw [parseStore_saved keyed limits] at parsed
    refine (validateStore_saved_iff keyed checked limits).mp ?_
    cases verdict :
        validateStore (state.ledger.storeState state.epoch).persisted with
    | none => rfl
    | some error =>
        rw [verdict] at parsed
        cases parsed

/--
Of three planned requests the plan of one supersedes that of another; they are
saved, and the next process has all of it.
-/
theorem superseded_plans_are_recovered :
    ∃ trace state,
      ProcessRun defaultConfig none trace state ∧
      state.planState? ⟨1⟩ = some .superseded ∧
      state.planState? ⟨3⟩ = some .planReady ∧
      state.ledger.supersessions = [⟨⟨1⟩, ⟨2⟩⟩] ∧
      Recovers state := by
  have checked :
      (replay? (step? defaultConfig) (start none)
        (deployment ⟨4⟩ ⟨1⟩ ++
          receiveAll ⟨4⟩
            [ CoordinatorClient.submitRequest (directRequest ⟨5⟩),
              CoordinatorClient.submitRequest (directRequest ⟨6⟩),
              CoordinatorClient.submitRequest (directRequest ⟨7⟩),
              CoordinatorClient.supersede ⟨5⟩ ⟨2⟩ ])).any
        (fun reached =>
          reached.2.planState? ⟨1⟩ = some .superseded &&
          reached.2.planState? ⟨3⟩ = some .planReady &&
          reached.2.ledger.supersessions = [⟨⟨1⟩, ⟨2⟩⟩] &&
          decide (reached.2.ledger.storeState reached.2.epoch).Fits &&
          decide (reached.2.ledger.requests.map fun request =>
            request.id).Nodup &&
          reached.2.ledger.plans.toList.all fun entry =>
            !entry.1.isNull && !entry.2.state.executable &&
              entry.2.plan.cost.totalValid) = true := by
    decide +kernel
  obtain ⟨trace, state, run, holds⟩ := exists_run_of_replay? checked
  simp only [Bool.and_eq_true, decide_eq_true_eq, List.all_eq_true] at holds
  obtain ⟨⟨⟨⟨⟨older, ready⟩, recorded⟩, fits⟩, requests⟩, entries⟩ := holds
  have entry :
      ∀ (planId : CommunicationPlanId) (record : PlanRecord),
        state.ledger.plans[planId]? = some record →
        planId.isNull = false ∧ record.state.executable = false ∧
          record.plan.cost.totalValid = true := by
    intro planId record found
    have passes := entries (planId, record)
      (Std.ExtTreeMap.mem_toList_iff_getElem?_eq_some.mpr found)
    simpa [and_assoc] using passes
  refine ⟨trace, state, run, older, ready, recorded,
    (saved_store_recovers_iff run).1 ⟨⟨fits, ?_⟩, requests, ?_, ?_⟩⟩
  · intro planId record found
    exact (entry planId record found).1
  · intro planId record found executable
    rw [(entry planId record found).2.1] at executable
    cases executable
  · intro planId record found
    exact (entry planId record found).2.2

/-- The same request is submitted twice, and the saved store is refused. -/
theorem resubmitted_request_loses_store :
    ∃ trace state,
      ProcessRun defaultConfig none trace state ∧
      state.planState? ⟨1⟩ = some .planReady ∧
      ¬Recovers state := by
  have checked :
      (replay? (step? defaultConfig) (start none)
        (deployment ⟨4⟩ ⟨1⟩ ++
          receiveAll ⟨4⟩
            [ CoordinatorClient.submitRequest (directRequest ⟨5⟩),
              CoordinatorClient.submitRequest (directRequest ⟨5⟩) ])).any
        (fun reached =>
          reached.2.planState? ⟨1⟩ = some .planReady &&
          (parseStore (serializeStore
            (reached.2.ledger.storeState reached.2.epoch))).toOption.isNone) =
        true := by
    decide +kernel
  obtain ⟨trace, state, run, holds⟩ := exists_run_of_replay? checked
  simp only [Bool.and_eq_true, decide_eq_true_eq] at holds
  refine ⟨trace, state, run, holds.1, ?_⟩
  intro recovers
  obtain ⟨bytes, stored, saved, parsed⟩ := recovers.accepted
  cases saved
  rw [parsed] at holds
  cases holds.2

end Coordinator

end CommunicationPlanner
