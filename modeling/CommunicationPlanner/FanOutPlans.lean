import CommunicationPlanner.PlannerTotality

namespace CommunicationPlanner

open OrderedCollections Allocation

/-!
# Fan-out plans, destination by destination

The multicast and the collective builder repeat the enumeration, the filter and
the ranking of the point-to-point planner with bookkeeping of their own.  Here
their paths are compared with what that planner selects for the same request,
recast as a point-to-point one, for each destination on its own.
-/

/-- The same request, to one destination. -/
def CommunicationRequest.recast
    (request : CommunicationRequest)
    (source destination : EndpointId) : CommunicationRequest :=
  { request with
    shape := .pointToPoint
    allowMulticast := false
    source := source
    destinations := [destination] }

section

variable
  (request : CommunicationRequest)
  (snapshot : EvidenceSnapshot)
  (weights : RankingWeights)
  (bounds : Bounds)

/-- Some enumerated candidate passes the hard filter for the recast request. -/
def HasFeasiblePath (source destination : EndpointId) : Prop :=
  ∃ candidate ∈ enumerateCandidatePaths snapshot source destination bounds,
    (evaluateCandidateFeasibility (request.recast source destination) snapshot
      candidate bounds).feasible = true

/--
The point-to-point planner succeeds for the recast request, and its primary
path has the hops and the cost of the given one.
-/
def SelectedPointToPoint
    (source destination : EndpointId)
    (path : Path) : Prop :=
  ∀ counters : Counters, ∃ outcome after plan primary,
    (planPointToPoint (request.recast source destination) snapshot weights
        bounds).run counters = .ok (outcome, after) ∧
      outcome.success = true ∧
      outcome.plan = some plan ∧
      plan.candidatePaths.head? = some primary ∧
      plan.primaryPath = primary.id ∧
      path.stages.map Stage.hop = primary.stages.map Stage.hop ∧
      path.cost = primary.cost

/-- The path runs over the best candidate between the endpoints. -/
def RunsOverBest
    (source destination : EndpointId)
    (path : Path) : Prop :=
  ∃ best rest,
    (assess request snapshot weights bounds source destination).ranking =
        best :: rest ∧
      PathFrom request best.path best.cost path

end

section

variable
  {request : CommunicationRequest}
  {snapshot : EvidenceSnapshot}
  {weights : RankingWeights}
  {bounds : Bounds}

/-! ## The point-to-point planner on the recast request -/

theorem destinations_recast
    (request : CommunicationRequest)
    (source destination : EndpointId) :
    (request.recast source destination).destinations = [destination] :=
  rfl

/-- Recasting changes nothing that the filter, the cost or the ranking reads. -/
theorem assess_recast
    (source destination : EndpointId) :
    assess (request.recast source destination) snapshot weights bounds source
        destination =
      assess request snapshot weights bounds source destination := by
  rfl

theorem ranking_ne_nil_iff
    {source destination : EndpointId} :
    (assess request snapshot weights bounds source destination).ranking ≠ [] ↔
      HasFeasiblePath request snapshot bounds source destination := by
  constructor
  · intro ranked
    obtain ⟨rankable, member⟩ := List.exists_mem_of_ne_nil _ ranked
    obtain ⟨enumerated, feasible, same, _⟩ :=
      mem_rankables_assess_iff.mp (mem_ranking_assess_iff.mp member)
    rw [same] at feasible
    exact ⟨rankable.path, enumerated, feasible⟩
  · rintro ⟨candidate, enumerated, feasible⟩ unranked
    let rankable : Rankable :=
      { path := candidate
        feasibility :=
          evaluateCandidateFeasibility request snapshot candidate bounds
        cost := evaluateCandidateCost request snapshot candidate weights }
    have member :
        rankable ∈
          (assess request snapshot weights bounds source
            destination).ranking :=
      mem_ranking_assess_iff.mpr
        (mem_rankables_assess_iff.mpr ⟨enumerated, feasible, rfl, rfl⟩)
    simp [unranked] at member

theorem succeeds_recast
    (source destination : EndpointId) :
    Succeeds
      (planPointToPoint (request.recast source destination) snapshot weights
        bounds) :=
  succeeds_planPointToPoint (destinations_recast request source destination)

/-- The point-to-point planner succeeds where there is a feasible path. -/
theorem planPointToPoint_recast
    (source destination : EndpointId)
    (counters : Counters) :
    ∃ outcome after,
      (planPointToPoint (request.recast source destination) snapshot weights
          bounds).run counters = .ok (outcome, after) ∧
        (outcome.success = true ↔
          HasFeasiblePath request snapshot bounds source destination) := by
  obtain ⟨outcome, after, ran⟩ := succeeds_recast source destination counters
  have described :=
    ensures_planPointToPoint_ranking
      (destinations_recast request source destination) _ _ _ ran
  exact ⟨outcome, after, ran, described.1.trans ranking_ne_nil_iff⟩

/-- A path over the best candidate is the one the planner selects. -/
theorem RunsOverBest.selectedPointToPoint
    {source destination : EndpointId}
    {path : Path}
    (built : RunsOverBest request snapshot weights bounds source destination
      path) :
    SelectedPointToPoint request snapshot weights bounds source destination
      path := by
  obtain ⟨best, rest, ranking, fromBest⟩ := built
  intro counters
  obtain ⟨outcome, after, ran⟩ := succeeds_recast source destination counters
  obtain ⟨successIff, planned⟩ :=
    ensures_planPointToPoint_ranking
      (destinations_recast request source destination) _ _ _ ran
  have ranked :
      (assess (request.recast source destination) snapshot weights bounds
        source destination).ranking = best :: rest := by
    rw [assess_recast]
    exact ranking
  have success : outcome.success = true :=
    successIff.mpr (by
      change (assess (request.recast source destination) snapshot weights
        bounds source destination).ranking ≠ []
      simp [ranked])
  obtain ⟨plan, isPlan, _, order, builtAll⟩ := planned success
  change List.Forall₂ _
    (List.take _ (assess (request.recast source destination) snapshot weights
      bounds source destination).ranking) _ at builtAll
  rw [ranked, Nat.add_comm, List.take_succ_cons] at builtAll
  obtain ⟨primary, fallbacks, fromPrimary, _, paths⟩ :=
    List.forall₂_cons_left_iff.mp builtAll
  refine ⟨outcome, after, plan, primary, ran, success, isPlan, by simp [paths],
    ?_, ?_, ?_⟩
  · rw [paths, List.map_cons, List.cons.injEq] at order
    exact order.1
  · rw [fromBest.hops, fromPrimary.hops]
  · rw [fromBest.costed, fromPrimary.costed]

/-! ## What the builders take from an assessment -/

/-- Where nothing is ranked there is no best position. -/
theorem rankOrder_eq_nil
    {source destination : EndpointId}
    (unranked :
      (assess request snapshot weights bounds source destination).ranking =
        []) :
    (assess request snapshot weights bounds source
      destination).rankOrder = [] := by
  have aligned :=
    forall₂_rankOrder_ranking
      (assess request snapshot weights bounds source destination) rfl
  rw [unranked] at aligned
  exact List.forall₂_nil_right_iff.mp aligned

/--
The first ranked position leads to the best candidate, to its rankable entry
and to the report with its cost.
-/
theorem exists_best_of_ranking
    {source destination : EndpointId}
    {best : Rankable}
    {rest : List Rankable}
    (ranking :
      (assess request snapshot weights bounds source destination).ranking =
        best :: rest) :
    ∃ position original report,
      (assess request snapshot weights bounds source
        destination).rankOrder.head? = some position ∧
      (assess request snapshot weights bounds source
        destination).feasibleOrig[position]? = some original ∧
      (assess request snapshot weights bounds source
        destination).candidates[original]? = some best.path ∧
      (assess request snapshot weights bounds source
        destination).rankables[position]? = some best ∧
      (assess request snapshot weights bounds source
        destination).reports[original]? = some report ∧
      report.cost = best.cost := by
  have aligned :=
    forall₂_rankOrder_ranking
      (assess request snapshot weights bounds source destination) rfl
  rw [ranking] at aligned
  obtain ⟨position, others, related, _, order⟩ :=
    List.forall₂_cons_right_iff.mp aligned
  obtain ⟨ranked, original, located, found⟩ := related
  have chosen :
      Chosen request snapshot weights bounds source destination best.path
        best.cost := by
    apply chosen_of_mem_ranking
    simp [ranking]
  refine ⟨position, original,
    candidateReport request snapshot weights bounds best.path,
    by rw [order]; rfl, located, found, ranked, ?_, ?_⟩
  · change (List.map (candidateReport request snapshot weights bounds)
      (assess request snapshot weights bounds source
        destination).candidates)[original]? = _
    rw [List.getElem?_map, found, Option.map_some]
  · rw [chosen.costed]
    simp [candidateReport, chosen.feasible]

/-! ## Multicast -/

/-- What holds after some of the destinations of a multicast. -/
structure MulticastProgress
    (request : CommunicationRequest)
    (snapshot : EvidenceSnapshot)
    (weights : RankingWeights)
    (bounds : Bounds)
    (done : List EndpointId)
    (state : MulticastState) : Prop where
  anyFail :
    state.anyFail = false ↔
      ∀ destination ∈ done,
        HasFeasiblePath request snapshot bounds request.source destination
  paths :
    state.anyFail = false →
      List.Forall₂
        (RunsOverBest request snapshot weights bounds request.source)
        done state.candidatePaths

theorem ensures_multicastStep_progress
    {done : List EndpointId}
    {state : MulticastState}
    (progress :
      MulticastProgress request snapshot weights bounds done state)
    (destination : EndpointId) :
    Ensures (multicastStep request snapshot weights bounds state destination)
      (MulticastProgress request snapshot weights bounds
        (done ++ [destination])) := by
  cases ranking :
      (assess request snapshot weights bounds request.source
        destination).ranking with
  | nil =>
      have infeasible :
          ¬ HasFeasiblePath request snapshot bounds request.source
            destination := by
        rw [← ranking_ne_nil_iff, ranking]
        simp
      unfold multicastStep
      simp only [Assessment.bestLocal, rankOrder_eq_nil ranking,
        List.head?_nil, Option.bind_eq_bind, Option.bind_none]
      apply Ensures.pure
      constructor
      · simp only [Bool.true_eq_false, List.mem_append, List.mem_singleton,
          false_iff, not_forall]
        exact ⟨destination, .inr rfl, infeasible⟩
      · intro unfailed
        cases unfailed
  | cons best rest =>
      have feasible :
          HasFeasiblePath request snapshot bounds request.source
            destination := by
        rw [← ranking_ne_nil_iff, ranking]
        simp
      obtain ⟨position, original, report, first, located, found, _,
        reported, sameCost⟩ := exists_best_of_ranking ranking
      have reportedLater :
          (state.reports ++
            (assess request snapshot weights bounds request.source
              destination).reports)[state.reports.length + original]? =
            some report := by
        rw [List.getElem?_append_right (Nat.le_add_right _ _),
          Nat.add_sub_cancel_left]
        exact reported
      unfold multicastStep
      simp only [Assessment.bestLocal, first, located, found, reportedLater,
        Option.bind_eq_bind, Option.bind_some, Option.pure_def]
      refine Ensures.bind (ensures_makePath _ _ _ _ _) ?_
      rintro path ⟨_, built⟩
      rw [sameCost] at built
      apply Ensures.pure
      constructor
      · simp only [progress.anyFail, List.forall_mem_append,
          List.forall_mem_singleton, feasible, and_true]
      · intro unfailed
        exact List.rel_append (progress.paths unfailed)
          (.cons ⟨best, rest, ranking, built⟩ .nil)

/--
A multicast succeeds when every destination has a feasible path, and then its
paths run over the best candidates, one for each destination in order.
-/
theorem ensures_buildMulticastPlan_best :
    Ensures (buildMulticastPlan request snapshot weights bounds)
      fun outcome =>
        (outcome.success = true ↔
          ∀ destination ∈ request.destinations,
            HasFeasiblePath request snapshot bounds request.source
              destination) ∧
        (outcome.success = true →
          ∃ plan,
            outcome.plan = some plan ∧
            List.Forall₂
              (RunsOverBest request snapshot weights bounds request.source)
              request.destinations plan.candidatePaths) := by
  unfold buildMulticastPlan
  refine Ensures.bind Ensures.trivial ?_
  intro id _
  refine Ensures.bind Ensures.trivial ?_
  intro generation _
  have initially :
      MulticastProgress request snapshot weights bounds [] {} :=
    ⟨by simp, fun _ => .nil⟩
  have whole :
      Ensures
        (request.destinations.foldlM
          (multicastStep request snapshot weights bounds) {})
        (MulticastProgress request snapshot weights bounds
          ([] ++ request.destinations)) := by
    refine Ensures.foldlM_done _ ?_ initially
    intro done state progress destination
    exact ensures_multicastStep_progress progress destination
  refine Ensures.bind whole ?_
  intro final progress
  rw [List.nil_append] at progress
  apply Ensures.pure
  simp only [Bool.not_eq_true']
  exact ⟨progress.anyFail, fun unfailed =>
    ⟨_, rfl, progress.paths unfailed⟩⟩

/-! ## Collectives -/

/-- What the admission of a collective asks of a participant. -/
def ParticipantAdmitted
    (snapshot : EvidenceSnapshot)
    (participant : EndpointId) : Prop :=
  ∃ endpoint,
    snapshot.endpointMap[participant]? = some endpoint ∧
      endpointFresh endpoint snapshot = true ∧
      endpoint.reachable = true ∧
      endpoint.ready = true ∧
      endpoint.kind ≠ .unknown

theorem participantRejection_eq_none_iff :
    participantRejection request snapshot bounds = none ↔
      request.collectiveCount.toNat = request.participants.length ∧
        request.collectiveCount ≤ bounds.maxCollectiveParticipants ∧
        ∀ participant ∈ request.participants,
          ParticipantAdmitted snapshot participant := by
  unfold participantRejection
  by_cases counted :
      request.collectiveCount.toNat = request.participants.length
  · by_cases bounded :
        bounds.maxCollectiveParticipants < request.collectiveCount
    · simp [counted, bounded]
    · rw [if_neg (not_not.mpr counted), if_neg bounded,
        List.findSome?_eq_none_iff]
      simp only [counted, UInt32.not_lt.mp bounded, true_and]
      apply forall₂_congr
      intro participant _
      unfold ParticipantAdmitted
      cases snapshot.endpointMap[participant]? with
      | none =>
          simp
      | some endpoint =>
          simp [and_assoc]
  · simp [counted]

theorem ensures_collectiveLoop_best
    (root : EndpointId)
    (members : List EndpointId)
    (state : CollectiveState) :
    Ensures
      (collectiveLoop request snapshot weights bounds root members state)
      fun result =>
        (result.2 = none ↔
          ∀ member ∈ members, member ≠ root →
            HasFeasiblePath request snapshot bounds root member) ∧
        (result.2 = none →
          ∃ paths,
            result.1.candidatePaths = state.candidatePaths ++ paths ∧
            List.Forall₂
              (RunsOverBest request snapshot weights bounds root)
              (members.filter fun member => member ≠ root) paths) := by
  induction members generalizing state with
  | nil =>
      apply Ensures.pure
      exact ⟨by simp, fun _ => ⟨[], by simp, .nil⟩⟩
  | cons member rest inductionHypothesis =>
      unfold collectiveLoop
      by_cases isRoot : member = root
      · rw [if_pos isRoot]
        refine (inductionHypothesis state).weaken ?_
        intro result described
        simpa [isRoot] using described
      rw [if_neg isRoot]
      cases ranking :
          (assess request snapshot weights bounds root member).ranking with
      | nil =>
          have infeasible :
              ¬ HasFeasiblePath request snapshot bounds root member := by
            rw [← ranking_ne_nil_iff, ranking]
            simp
          simp only [rankOrder_eq_nil ranking, List.head?_nil,
            Option.bind_eq_bind, Option.bind_none]
          apply Ensures.pure
          simp [isRoot, infeasible]
      | cons best others =>
          have feasible :
              HasFeasiblePath request snapshot bounds root member := by
            rw [← ranking_ne_nil_iff, ranking]
            simp
          obtain ⟨position, original, _, first, located, found, ranked, _⟩ :=
            exists_best_of_ranking ranking
          simp only [first, located, found, ranked, Option.bind_eq_bind,
            Option.bind_some, Option.pure_def]
          refine Ensures.bind (ensures_makePath _ _ _ _ _) ?_
          rintro path ⟨_, built⟩
          refine (inductionHypothesis _).weaken ?_
          rintro result ⟨reachedIff, reached⟩
          constructor
          · simp [reachedIff, isRoot, feasible]
          · intro complete
            obtain ⟨paths, appended, laterBuilt⟩ := reached complete
            refine ⟨path :: paths, by simp [appended], ?_⟩
            rw [List.filter_cons_of_pos (by simpa using isRoot)]
            exact .cons ⟨best, others, ranking, built⟩ laterBuilt

/--
A collective succeeds when it is admitted and its root has a feasible path to
every other participant, and then its paths run over the best candidates.
-/
theorem ensures_buildCollectivePlan_best
    {root : EndpointId}
    {others : List EndpointId}
    (participants : request.participants = root :: others) :
    Ensures (buildCollectivePlan request snapshot weights bounds)
      fun outcome =>
        (outcome.success = true ↔
          participantRejection request snapshot bounds = none ∧
            ∀ member ∈ request.participants, member ≠ root →
              HasFeasiblePath request snapshot bounds root member) ∧
        (outcome.success = true →
          ∃ plan,
            outcome.plan = some plan ∧
            List.Forall₂
              (RunsOverBest request snapshot weights bounds root)
              (request.participants.filter fun member => member ≠ root)
              plan.candidatePaths) := by
  unfold buildCollectivePlan
  refine Ensures.bind Ensures.trivial ?_
  intro id _
  refine Ensures.bind Ensures.trivial ?_
  intro generation _
  simp only
  split
  · rename_i why refused
    apply Ensures.pure
    simp [refused]
  · exact Ensures.throw
  · rename_i first rest admitted shape
    obtain ⟨rfl, rfl⟩ : first = root ∧ rest = others := by
      simpa [shape] using participants
    refine Ensures.bind (ensures_collectiveLoop_best first _ _) ?_
    rintro ⟨final, unreached⟩ ⟨reachedIff, reached⟩
    cases unreached with
    | some member =>
        apply Ensures.pure
        simp only [reduceCtorEq, false_iff] at reachedIff
        simp [admitted, reachedIff]
    | none =>
        apply Ensures.pure
        obtain ⟨paths, appended, built⟩ := reached rfl
        refine ⟨?_, fun _ => ⟨_, rfl, ?_⟩⟩
        · simp only [true_iff]
          exact ⟨admitted, reachedIff.mp rfl⟩
        · rw [List.nil_append] at appended
          rw [← appended] at built
          exact built

/-- A valid request stays valid when it is recast from an actual source. -/
theorem validate_recast
    {source : EndpointId}
    (valid : request.validate = true)
    (hasSource : source.isNull = false)
    (destination : EndpointId) :
    (request.recast source destination).validate = true := by
  have accepted : request.rejection = none := by
    simpa [CommunicationRequest.validate] using valid
  have shaped := (lists_of_valid accepted).2
  have recastShaped :
      CommunicationRequest.rejection.shapeRejection
        (request.recast source destination) = none := by
    simp [CommunicationRequest.rejection.shapeRejection,
      CommunicationRequest.recast, hasSource]
  have notCollective (wrong : Prop) :
      ¬((request.recast source destination).shape = .collective ∧ wrong) := by
    rintro ⟨isCollective, _⟩
    cases isCollective
  unfold CommunicationRequest.rejection at accepted
  obtain ⟨hasId, accepted⟩ := passed_of_eq_none accepted
  obtain ⟨hasGeneration, accepted⟩ := passed_of_eq_none accepted
  obtain ⟨hasPayload, accepted⟩ := passed_of_eq_none accepted
  obtain ⟨hops, accepted⟩ := passed_of_eq_none accepted
  obtain ⟨stages, accepted⟩ := passed_of_eq_none accepted
  obtain ⟨_, accepted⟩ := passed_of_eq_none accepted
  obtain ⟨_, accepted⟩ := passed_of_eq_none accepted
  obtain ⟨_, accepted⟩ := passed_of_eq_none accepted
  obtain ⟨_, accepted⟩ := passed_of_eq_none accepted
  rw [shaped] at accepted
  rw [CommunicationRequest.validate, Option.isNone_iff_eq_none]
  unfold CommunicationRequest.rejection
  rw [recastShaped]
  refine eq_none_of_passed hasId ?_
  refine eq_none_of_passed hasGeneration ?_
  refine eq_none_of_passed hasPayload ?_
  refine eq_none_of_passed hops ?_
  refine eq_none_of_passed stages ?_
  refine eq_none_of_passed (notCollective _) ?_
  refine eq_none_of_passed (notCollective _) ?_
  refine eq_none_of_passed (notCollective _) ?_
  refine eq_none_of_passed (notCollective _) ?_
  exact accepted

/-- Over the recast request, `planCommunication` is the point-to-point planner. -/
theorem planCommunication_recast
    {source : EndpointId}
    (valid : request.validate = true)
    (hasSource : source.isNull = false)
    (destination : EndpointId) :
    planCommunication (request.recast source destination) snapshot weights
        bounds =
      planPointToPoint (request.recast source destination) snapshot weights
        bounds :=
  planCommunication_eq_planPointToPoint snapshot weights bounds
    (validate_recast valid hasSource destination) (.inl rfl) rfl

end

/--
A multicast succeeds exactly when the same request, recast as a point-to-point
one, has a feasible path to each destination; a collective exactly when it is
admitted and the recast request has a feasible path from the first participant
to every other one.  The paths of such a plan have, in order, the hops and the
costs of the primary paths that the point-to-point planner selects.
-/
theorem fanOutPlans_are_pointToPoint_primaries
    (request : CommunicationRequest)
    (snapshot : EvidenceSnapshot)
    (weights : RankingWeights)
    (bounds : Bounds) :
    (∀ counters : Counters, ∃ outcome after,
      (buildMulticastPlan request snapshot weights bounds).run counters =
        .ok (outcome, after) ∧
      (outcome.success = true ↔
        ∀ destination ∈ request.destinations,
          HasFeasiblePath request snapshot bounds request.source
            destination) ∧
      (outcome.success = true →
        ∃ plan,
          outcome.plan = some plan ∧
          List.Forall₂
            (SelectedPointToPoint request snapshot weights bounds
              request.source)
            request.destinations plan.candidatePaths)) ∧
    (∀ root others, request.participants = root :: others →
      ∀ counters : Counters, ∃ outcome after,
        (buildCollectivePlan request snapshot weights bounds).run counters =
          .ok (outcome, after) ∧
        (outcome.success = true ↔
          request.collectiveCount.toNat = request.participants.length ∧
            request.collectiveCount ≤ bounds.maxCollectiveParticipants ∧
            (∀ participant ∈ request.participants,
              ParticipantAdmitted snapshot participant) ∧
            ∀ member ∈ request.participants, member ≠ root →
              HasFeasiblePath request snapshot bounds root member) ∧
        (outcome.success = true →
          ∃ plan,
            outcome.plan = some plan ∧
            List.Forall₂
              (SelectedPointToPoint request snapshot weights bounds root)
              (request.participants.filter fun member => member ≠ root)
              plan.candidatePaths)) ∧
    (∀ source destination,
      (∀ counters : Counters, ∃ outcome after,
        (planPointToPoint (request.recast source destination) snapshot weights
            bounds).run counters = .ok (outcome, after) ∧
          (outcome.success = true ↔
            HasFeasiblePath request snapshot bounds source destination)) ∧
      (request.validate = true → source.isNull = false →
        planCommunication (request.recast source destination) snapshot weights
            bounds =
          planPointToPoint (request.recast source destination) snapshot
            weights bounds)) := by
  refine ⟨?_, ?_, ?_⟩
  · intro counters
    have succeeds :
        Succeeds (buildMulticastPlan request snapshot weights bounds) :=
      succeeds_buildMulticastPlan
    obtain ⟨outcome, after, ran⟩ := succeeds counters
    obtain ⟨successIff, planned⟩ := ensures_buildMulticastPlan_best _ _ _ ran
    refine ⟨outcome, after, ran, successIff, ?_⟩
    intro success
    obtain ⟨plan, isPlan, built⟩ := planned success
    refine ⟨plan, isPlan, built.imp ?_⟩
    intro destination path
    exact RunsOverBest.selectedPointToPoint
  · intro root others participants counters
    have succeeds :
        Succeeds (buildCollectivePlan request snapshot weights bounds) := by
      apply succeeds_buildCollectivePlan
      simp [participants]
    obtain ⟨outcome, after, ran⟩ := succeeds counters
    obtain ⟨successIff, planned⟩ :=
      ensures_buildCollectivePlan_best participants _ _ _ ran
    refine ⟨outcome, after, ran, ?_, ?_⟩
    · rw [successIff, participantRejection_eq_none_iff]
      tauto
    · intro success
      obtain ⟨plan, isPlan, built⟩ := planned success
      refine ⟨plan, isPlan, built.imp ?_⟩
      intro member path
      exact RunsOverBest.selectedPointToPoint
  · intro source destination
    exact ⟨planPointToPoint_recast source destination,
      fun valid hasSource =>
        planCommunication_recast valid hasSource destination⟩

end CommunicationPlanner
