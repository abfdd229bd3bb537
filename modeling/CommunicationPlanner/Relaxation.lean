import CommunicationPlanner.PlanBindings
import CommunicationPlanner.PlannerTotality

namespace CommunicationPlanner

open OrderedCollections Allocation

/-!
# Relaxing a request

A caller whose request is not planned may ask again with looser constraints.
Loosening the limits, the permissions, the transports, the failure domain or the
policy generation keeps every feasible candidate feasible.  The cost of a
candidate depends on the payload alone, so the best candidate of the relaxed
request is at least as good as that of the strict one.
-/

/-- The second request constrains a transfer no more than the first. -/
structure Relaxes (strict relaxed : CommunicationRequest) : Prop where
  maxHops : strict.maxHops ≤ relaxed.maxHops
  maxStages : strict.maxStages ≤ relaxed.maxStages
  allowStaging : strict.allowStaging = true → relaxed.allowStaging = true
  allowHostStaging :
    strict.allowHostStaging = true → relaxed.allowHostStaging = true
  allowStorageStaging :
    strict.allowStorageStaging = true → relaxed.allowStorageStaging = true
  allowRelay : strict.allowRelay = true → relaxed.allowRelay = true
  forbidden : relaxed.forbidden ⊆ strict.forbidden
  allowed :
    relaxed.allowed = ∅ ∨
      (strict.allowed ≠ ∅ ∧ strict.allowed ⊆ relaxed.allowed)
  requiredFailureDomain :
    relaxed.requiredFailureDomain = strict.requiredFailureDomain ∨
      relaxed.requiredFailureDomain = []
  policyGeneration : relaxed.policyGeneration ≤ strict.policyGeneration

namespace Relaxes

variable
  {strict relaxed : CommunicationRequest}
  {snapshot : EvidenceSnapshot}
  {bounds : Bounds}

/-! ## The checks of the filter, one by one -/

theorem transportAllowed
    (relaxes : Relaxes strict relaxed)
    {transport : Transport}
    (allowed : (transportAllowed strict transport).feasible = true) :
    (CommunicationPlanner.transportAllowed relaxed transport).feasible =
      true := by
  have permitted :
      transport ∉ strict.forbidden ∧
        (strict.allowed = ∅ ∨ transport ∈ strict.allowed) := by
    unfold CommunicationPlanner.transportAllowed at allowed
    split_ifs at allowed with forbidden excluded
    · cases allowed
    · cases allowed
    · exact ⟨forbidden, by tauto⟩
  have stillPermitted :
      transport ∉ relaxed.forbidden ∧
        (relaxed.allowed = ∅ ∨ transport ∈ relaxed.allowed) := by
    refine ⟨fun forbidden => permitted.1 (relaxes.forbidden forbidden), ?_⟩
    rcases relaxes.allowed with any | ⟨some, wider⟩
    · exact .inl any
    · exact .inr (wider (permitted.2.resolve_left some))
  unfold CommunicationPlanner.transportAllowed
  rw [if_neg stillPermitted.1, if_neg (by tauto)]
  rfl

theorem relayRejection
    (relaxes : Relaxes strict relaxed)
    {endpoints : Map EndpointId Endpoint}
    {relay : EndpointId}
    (admitted : relayRejection strict endpoints relay = none) :
    CommunicationPlanner.relayRejection relaxed endpoints relay = none := by
  unfold CommunicationPlanner.relayRejection at admitted ⊢
  cases found : endpoints[relay]? with
  | none =>
      simp [found] at admitted
  | some endpoint =>
      simp only [found] at admitted ⊢
      split_ifs at admitted with stages storage storageRefused hostRefused
      · have permitted : relaxed.allowStorageStaging = true :=
          relaxes.allowStorageStaging (by simpa using storageRefused)
        simp [storage, permitted]
      · have permitted : relaxed.allowHostStaging = true :=
          relaxes.allowHostStaging (by simpa using hostRefused)
        simp [storage, permitted]
      · rw [if_neg stages]

theorem shapeRejection
    (relaxes : Relaxes strict relaxed)
    {endpoints : Map EndpointId Endpoint}
    {candidate : CandidatePath}
    (admitted : shapeRejection strict endpoints candidate bounds = none) :
    CommunicationPlanner.shapeRejection relaxed endpoints candidate bounds =
      none := by
  have moreStages := UInt32.le_iff_toNat_le.mp relaxes.maxStages
  have moreHops := UInt32.le_iff_toNat_le.mp relaxes.maxHops
  unfold CommunicationPlanner.shapeRejection at admitted ⊢
  simp only at admitted ⊢
  split_ifs at admitted with empty depth stages hops several unstaged unrelayed
  · have staging :
        ¬((!relaxed.allowStaging && !relaxed.allowHostStaging) = true) := by
      have strictly :
          strict.allowStaging = true ∨ strict.allowHostStaging = true := by
        by_contra neither
        simp_all
      rcases strictly with permitted | permitted
      · simp [relaxes.allowStaging permitted]
      · simp [relaxes.allowHostStaging permitted]
    have relaying : ¬((!relaxed.allowRelay) = true) := by
      simp [relaxes.allowRelay (by simpa using unrelayed)]
    rw [if_neg empty, if_neg depth, if_neg (by omega), if_neg (by omega),
      if_pos several, if_neg staging, if_neg relaying,
      List.findSome?_eq_none_iff]
    intro hop member
    exact relaxes.relayRejection
      (List.findSome?_eq_none_iff.mp admitted hop member)
  · rw [if_neg empty, if_neg depth, if_neg (by omega), if_neg (by omega),
      if_neg several]

theorem hopAdmissible
    (relaxes : Relaxes strict relaxed)
    {hop : Hop}
    {link : Link}
    {source target : Endpoint}
    (admissible : HopAdmissible strict snapshot hop link source target) :
    HopAdmissible relaxed snapshot hop link source target :=
  { admissible with
    transportAllowed :=
      relaxes.transportAllowed admissible.transportAllowed
    failureDomain := by
      rcases relaxes.requiredFailureDomain with same | dropped
      · rw [same]
        exact admissible.failureDomain
      · exact .inl dropped }

/-- A null policy generation is the least one, and asks for nothing. -/
theorem policy
    (relaxes : Relaxes strict relaxed)
    (current :
      strict.policyGeneration.isNull = true ∨
        strict.policyGeneration ≤ snapshot.policyGeneration) :
    relaxed.policyGeneration.isNull = true ∨
      relaxed.policyGeneration ≤ snapshot.policyGeneration := by
  right
  rcases current with unconstrained | current
  · rw [Generation.isNull_iff] at unconstrained
    have atMostZero := relaxes.policyGeneration
    rw [unconstrained] at atMostZero
    exact atMostZero.trans (Nat.zero_le _)
  · exact relaxes.policyGeneration.trans current

theorem admissible
    (relaxes : Relaxes strict relaxed)
    {candidate : CandidatePath}
    (admissible : Admissible strict snapshot candidate bounds) :
    Admissible relaxed snapshot candidate bounds where
  shape := relaxes.shapeRejection admissible.shape
  hops := by
    intro hop member
    obtain ⟨link, source, target, admitted⟩ := admissible.hops hop member
    exact ⟨link, source, target, relaxes.hopAdmissible admitted⟩
  policy := relaxes.policy admissible.policy

/-- What is feasible stays feasible. -/
theorem feasible
    (relaxes : Relaxes strict relaxed)
    {candidate : CandidatePath}
    (feasible :
      (evaluateCandidateFeasibility strict snapshot candidate
        bounds).feasible = true) :
    (evaluateCandidateFeasibility relaxed snapshot candidate
      bounds).feasible = true := by
  rw [evaluateCandidateFeasibility_feasible_iff] at feasible ⊢
  exact relaxes.admissible feasible

end Relaxes

section

variable
  {request strict relaxed : CommunicationRequest}
  {snapshot : EvidenceSnapshot}
  {weights : RankingWeights}
  {bounds : Bounds}
  {source destination : EndpointId}

/-! ## The best candidates -/

/-- The cost of a candidate depends on the payload alone. -/
theorem evaluateCandidateCost_eq_of_payload
    (samePayload : relaxed.payloadSize = strict.payloadSize)
    (candidate : CandidatePath) :
    evaluateCandidateCost relaxed snapshot candidate weights =
      evaluateCandidateCost strict snapshot candidate weights := by
  unfold evaluateCandidateCost
  rw [samePayload]

/--
The best candidate of a relaxed request is not worse, since the best strict one
competes for it as well.
-/
theorem Relaxes.best_le
    (relaxes : Relaxes strict relaxed)
    (samePayload : relaxed.payloadSize = strict.payloadSize)
    {best : Rankable}
    {rest : List Rankable}
    (ranking :
      (assess strict snapshot weights bounds source destination).ranking =
        best :: rest) :
    ∃ relaxedBest relaxedRest,
      (assess relaxed snapshot weights bounds source destination).ranking =
        relaxedBest :: relaxedRest ∧
      keyLess (rankingKey best) (rankingKey relaxedBest) = false := by
  have bestMember :
      best ∈
        (assess strict snapshot weights bounds source
          destination).ranking := by
    simp [ranking]
  obtain ⟨enumerated, feasible, sameFeasibility, sameCost⟩ :=
    mem_rankables_assess_iff.mp (mem_ranking_assess_iff.mp bestMember)
  rw [sameFeasibility] at feasible
  let competitor : Rankable :=
    { path := best.path
      feasibility :=
        evaluateCandidateFeasibility relaxed snapshot best.path bounds
      cost := evaluateCandidateCost relaxed snapshot best.path weights }
  have competes :
      competitor ∈
        (assess relaxed snapshot weights bounds source
          destination).ranking :=
    mem_ranking_assess_iff.mpr
      (mem_rankables_assess_iff.mpr
        ⟨enumerated, relaxes.feasible feasible, rfl, rfl⟩)
  have sameKey : rankingKey competitor = rankingKey best := by
    have costs : competitor.cost = best.cost :=
      (evaluateCandidateCost_eq_of_payload samePayload best.path).trans
        sameCost.symm
    unfold rankingKey
    rw [costs]
  cases relaxedRanking :
      (assess relaxed snapshot weights bounds source destination).ranking with
  | nil =>
      simp [relaxedRanking] at competes
  | cons relaxedBest relaxedRest =>
      have relaxedMember :
          relaxedBest ∈
            (assess relaxed snapshot weights bounds source
              destination).ranking := by
        simp [relaxedRanking]
      refine ⟨relaxedBest, relaxedRest, rfl, ?_⟩
      have ascending :
          ∀ later ∈ relaxedBest :: relaxedRest,
            (rankingKey relaxedBest).rank ≤ (rankingKey later).rank := by
        have ordered :
            (assess relaxed snapshot weights bounds source
              destination).ranking.Pairwise fun first second =>
                (rankingKey first).rank ≤ (rankingKey second).rank :=
          pairwise_rank_ranking
        rw [relaxedRanking] at ordered
        intro later member
        rcases List.mem_cons.mp member with rfl | inRest
        · exact le_refl _
        · exact (List.pairwise_cons.mp ordered).1 later inRest
      have notWorse := ascending competitor (relaxedRanking ▸ competes)
      rw [sameKey] at notWorse
      rw [← Bool.not_eq_true, keyLess_iff_rank
        (numeric_of_mem_ranking bestMember)
        (numeric_of_mem_ranking relaxedMember)]
      exact not_lt.mpr notWorse

theorem PathFrom.candidate_eq
    {candidate : CandidatePath}
    {cost : CostSummary}
    {path : Path}
    (built : PathFrom request candidate cost path) :
    path.candidate = candidate := by
  unfold Path.candidate
  rw [built.source, built.destination, built.hops]

/-- The primary path runs over the best candidate, and is ranked by its key. -/
theorem primary_of_planPointToPoint
    (destinations : request.destinations = [destination])
    {before after : Counters}
    {outcome : PlanOutcome}
    (ran :
      (planPointToPoint request snapshot weights bounds).run before =
        .ok (outcome, after))
    {best : Rankable}
    {rest : List Rankable}
    (ranking :
      (assess request snapshot weights bounds request.source
        destination).ranking = best :: rest) :
    outcome.success = true ∧
      ∃ plan primary,
        outcome.plan = some plan ∧
        plan.primary? = some primary ∧
        candidateKey request snapshot weights bounds primary.candidate =
          rankingKey best := by
  obtain ⟨successIff, planned⟩ :=
    ensures_planPointToPoint_ranking destinations _ _ _ ran
  have success : outcome.success = true := by
    rw [successIff, ranking]
    simp
  obtain ⟨plan, isPlan, _, order, built⟩ := planned success
  rw [ranking, Nat.add_comm, List.take_succ_cons] at built
  obtain ⟨primary, fallbacks, fromBest, _, paths⟩ :=
    List.forall₂_cons_left_iff.mp built
  refine ⟨success, plan, primary, isPlan, ?_, ?_⟩
  · have sound : Planned request snapshot weights bounds plan :=
      ensures_planPointToPoint _ _ _ ran success plan isPlan
    rw [sound.primary?_eq_head?, paths]
    rfl
  · have member :
        best ∈
          (assess request snapshot weights bounds request.source
            destination).ranking := by
      simp [ranking]
    rw [fromBest.candidate_eq, rankable_eq_of_mem_ranking member]
    rfl

/-- A request that is dispatched to the point-to-point planner. -/
theorem shape_of_effectiveShape
    (effective : request.effectiveShape = .pointToPoint) :
    request.shape = .pointToPoint ∧ request.allowMulticast = false := by
  unfold CommunicationRequest.effectiveShape at effective
  split_ifs at effective with multicast
  rw [not_or, Bool.not_eq_true] at multicast
  exact ⟨effective, multicast.2⟩

end

/--
Between two valid point-to-point requests for the same transfer, of which the
second relaxes the first, everything feasible stays feasible: where the first is
planned the second is planned too, and its primary path is not ranked behind.
-/
theorem relaxed_request_is_planned_as_well
    (strict relaxed : CommunicationRequest)
    (snapshot : EvidenceSnapshot)
    (weights : RankingWeights)
    (bounds : Bounds)
    (strictValid : strict.validate = true)
    (relaxedValid : relaxed.validate = true)
    (strictShape : strict.effectiveShape = .pointToPoint)
    (relaxedShape : relaxed.effectiveShape = .pointToPoint)
    (sameSource : relaxed.source = strict.source)
    (sameDestinations : relaxed.destinations = strict.destinations)
    (samePayload : relaxed.payloadSize = strict.payloadSize)
    (relaxes : Relaxes strict relaxed) :
    (∀ candidate,
      (evaluateCandidateFeasibility strict snapshot candidate
          bounds).feasible = true →
        (evaluateCandidateFeasibility relaxed snapshot candidate
          bounds).feasible = true) ∧
    ∀ (before after : Counters) (outcome : PlanOutcome),
      (planCommunication strict snapshot weights bounds).run before =
        .ok (outcome, after) →
      outcome.success = true →
      ∃ plan primary,
        outcome.plan = some plan ∧
        plan.primary? = some primary ∧
        ∀ counters : Counters,
          ∃ relaxedOutcome relaxedAfter relaxedPlan relaxedPrimary,
            (planCommunication relaxed snapshot weights bounds).run counters =
              .ok (relaxedOutcome, relaxedAfter) ∧
            relaxedOutcome.success = true ∧
            relaxedOutcome.plan = some relaxedPlan ∧
            relaxedPlan.primary? = some relaxedPrimary ∧
            keyLess
              (candidateKey strict snapshot weights bounds primary.candidate)
              (candidateKey relaxed snapshot weights bounds
                relaxedPrimary.candidate) = false := by
  refine ⟨fun candidate => relaxes.feasible, ?_⟩
  intro before after outcome ran success
  obtain ⟨strictKind, strictUnicast⟩ := shape_of_effectiveShape strictShape
  obtain ⟨relaxedKind, relaxedUnicast⟩ := shape_of_effectiveShape relaxedShape
  obtain ⟨destination, destinations⟩ :=
    destinations_eq_singleton strictValid (.inl strictKind) strictUnicast
  have relaxedDestinations : relaxed.destinations = [destination] :=
    sameDestinations.trans destinations
  rw [planCommunication_eq_planPointToPoint snapshot weights bounds strictValid
    (.inl strictKind) strictUnicast] at ran
  have ranked :
      (assess strict snapshot weights bounds strict.source
        destination).ranking ≠ [] :=
    (ensures_planPointToPoint_ranking destinations _ _ _ ran).1.mp success
  obtain ⟨best, rest, ranking⟩ := List.exists_cons_of_ne_nil ranked
  obtain ⟨relaxedBest, relaxedRest, relaxedRanking, notBehind⟩ :=
    relaxes.best_le samePayload ranking
  rw [← sameSource] at relaxedRanking
  obtain ⟨_, plan, primary, isPlan, isPrimary, key⟩ :=
    primary_of_planPointToPoint destinations ran ranking
  refine ⟨plan, primary, isPlan, isPrimary, ?_⟩
  intro counters
  have succeeds :
      Succeeds (planPointToPoint relaxed snapshot weights bounds) :=
    succeeds_planPointToPoint relaxedDestinations
  obtain ⟨relaxedOutcome, relaxedAfter, relaxedRan⟩ := succeeds counters
  obtain ⟨relaxedSuccess, relaxedPlan, relaxedPrimary, isRelaxedPlan,
    isRelaxedPrimary, relaxedKey⟩ :=
    primary_of_planPointToPoint relaxedDestinations relaxedRan relaxedRanking
  refine ⟨relaxedOutcome, relaxedAfter, relaxedPlan, relaxedPrimary, ?_,
    relaxedSuccess, isRelaxedPlan, isRelaxedPrimary, ?_⟩
  · rw [planCommunication_eq_planPointToPoint snapshot weights bounds
      relaxedValid (.inl relaxedKind) relaxedUnicast]
    exact relaxedRan
  · rw [key, relaxedKey]
    exact notBehind

/-- One hop only, and without staging. -/
def directOnly : CommunicationRequest :=
  { mkRequest ⟨5⟩ ⟨1⟩ ⟨2⟩ 4096 with
    maxHops := 1
    allowStaging := false
    allowRelay := false }

/-- The transfer over the one link is planned without the constraints as well. -/
theorem direct_request_can_be_relaxed :
    ∃ outcome after,
      (planCommunication (mkRequest ⟨5⟩ ⟨1⟩ ⟨2⟩ 4096) oneLinkSnapshot {}
        {}).run {} = .ok (outcome, after) ∧
      outcome.success = true := by
  have checked :
      ((planCommunication directOnly oneLinkSnapshot {} {}).run
        {}).toOption.any (fun result =>
          result.1.success && result.1.plan.any fun _ => true) = true := by
    decide +kernel
  obtain ⟨outcome, after, plan, ran, success, _⟩ := exists_plan_of_run checked
  have relaxes : Relaxes directOnly (mkRequest ⟨5⟩ ⟨1⟩ ⟨2⟩ 4096) :=
    { maxHops := by decide
      maxStages := by decide
      allowStaging := by decide
      allowHostStaging := by decide
      allowStorageStaging := by decide
      allowRelay := by decide
      forbidden := by decide
      allowed := by decide
      requiredFailureDomain := by decide
      policyGeneration := by decide }
  obtain ⟨_, planned⟩ :=
    relaxed_request_is_planned_as_well directOnly
      (mkRequest ⟨5⟩ ⟨1⟩ ⟨2⟩ 4096) oneLinkSnapshot {} {} (by decide +kernel)
      (by decide +kernel) (by decide) (by decide) rfl rfl rfl relaxes
  obtain ⟨_, _, _, _, relaxedPlanned⟩ := planned {} after outcome ran success
  obtain ⟨relaxedOutcome, relaxedAfter, _, _, relaxedRan, relaxedSuccess, _⟩ :=
    relaxedPlanned {}
  exact ⟨relaxedOutcome, relaxedAfter, relaxedRan, relaxedSuccess⟩

end CommunicationPlanner
