import CommunicationPlanner.Relaxation

namespace CommunicationPlanner

open OrderedCollections Allocation

/-!
# Planning after evidence is lost

Links go down or are withdrawn, endpoints become unreachable or their publisher
is fenced.  What the filter and the cost say about a candidate depends on the
records that its hops name and on nothing else, so a candidate that rests on
nothing that was lost keeps its verdict, its cost and its place.  The ranking
after the loss is the ranking before it without the candidates that rested on
what was lost.

The candidate paths of a plan are the head of that ranking.  When the primary
path is lost, the plan for the same request over what is left begins with the
fallback paths that survive.
-/

namespace EvidenceSnapshot

/-- The records that the hop names, and what is said about them, are the same. -/
structure AgreesOn (first second : EvidenceSnapshot) (hop : Hop) : Prop where
  link : second.linkMap[hop.link]? = first.linkMap[hop.link]?
  source : second.endpointMap[hop.source]? = first.endpointMap[hop.source]?
  target : second.endpointMap[hop.target]? = first.endpointMap[hop.target]?
  freshness :
    ∀ endpoint,
      first.endpointMap[hop.source]? = some endpoint ∨
        first.endpointMap[hop.target]? = some endpoint →
      endpointFresh endpoint second = endpointFresh endpoint first

end EvidenceSnapshot

section

variable
  {request : CommunicationRequest}
  {first second before after : EvidenceSnapshot}
  {weights : RankingWeights}
  {bounds : Bounds}
  {source destination : EndpointId}
  {candidate : CandidatePath}

/-! ## The verdict and the cost are local -/

theorem findSome?_congr
    {α β : Type}
    {one other : α → Option β}
    {items : List α}
    (same : ∀ item ∈ items, one item = other item) :
    items.findSome? one = items.findSome? other := by
  induction items with
  | nil =>
      rfl
  | cons item rest inductionHypothesis =>
      rw [List.findSome?_cons, List.findSome?_cons, same item (by simp),
        inductionHypothesis fun later member =>
          same later (List.mem_cons_of_mem _ member)]

theorem hopRejection_eq_of_agreesOn
    {hop : Hop}
    (agrees : first.AgreesOn second hop)
    (reservations : second.reservations = first.reservations) :
    hopRejection request second second.endpointMap second.linkMap hop =
      hopRejection request first first.endpointMap first.linkMap hop := by
  have reserved : reservedOn second = reservedOn first := by
    unfold reservedOn
    rw [reservations]
  unfold hopRejection
  rw [agrees.link]
  cases first.linkMap[hop.link]? with
  | none =>
      rfl
  | some link =>
      simp only [linkRejection, reserved, agrees.source, agrees.target]
      have freshness := agrees.freshness
      generalize first.endpointMap[hop.source]? = source? at freshness ⊢
      generalize first.endpointMap[hop.target]? = target? at freshness ⊢
      cases source? with
      | none =>
          rfl
      | some source =>
          cases target? with
          | none =>
              rfl
          | some target =>
              have sameSource :
                  endpointRejection second link.transport source =
                    endpointRejection first link.transport source := by
                unfold endpointRejection
                rw [freshness source (.inl rfl)]
              have sameTarget :
                  endpointRejection second link.transport target =
                    endpointRejection first link.transport target := by
                unfold endpointRejection
                rw [freshness target (.inr rfl)]
              simp only [List.findSome?_cons, List.findSome?_nil, sameSource,
                sameTarget]

/-- The verdict on a candidate depends on what its hops name. -/
theorem evaluateCandidateFeasibility_eq_of_agreesOn
    (agrees : ∀ hop ∈ candidate.hops, first.AgreesOn second hop)
    (reservations : second.reservations = first.reservations)
    (policy : second.policyGeneration = first.policyGeneration) :
    evaluateCandidateFeasibility request second candidate bounds =
      evaluateCandidateFeasibility request first candidate bounds := by
  have interior :
      (candidate.hops.dropLast.findSome? fun hop =>
          relayRejection request second.endpointMap hop.target) =
        candidate.hops.dropLast.findSome? fun hop =>
          relayRejection request first.endpointMap hop.target := by
    apply findSome?_congr
    intro hop member
    unfold relayRejection
    rw [(agrees hop (List.dropLast_subset _ member)).target]
  have everyHop :
      candidate.hops.findSome?
          (hopRejection request second second.endpointMap second.linkMap) =
        candidate.hops.findSome?
          (hopRejection request first first.endpointMap first.linkMap) := by
    apply findSome?_congr
    intro hop member
    exact hopRejection_eq_of_agreesOn (agrees hop member) reservations
  simp only [evaluateCandidateFeasibility, shapeRejection, interior, everyHop,
    policy]

/-- So does its cost. -/
theorem evaluateCandidateCost_eq_of_agreesOn
    (agrees : ∀ hop ∈ candidate.hops, first.AgreesOn second hop) :
    evaluateCandidateCost request second candidate weights =
      evaluateCandidateCost request first candidate weights := by
  have kinds :
      interiorKinds second.endpointMap candidate.hops =
        interiorKinds first.endpointMap candidate.hops := by
    apply List.filterMap_congr
    intro hop member
    rw [(agrees hop (List.dropLast_subset _ member)).target]
  have costs :
      candidate.hops.foldl
          (HopCosts.addHop request.payloadSize.count second.endpointMap
            second.linkMap) {} =
        candidate.hops.foldl
          (HopCosts.addHop request.payloadSize.count first.endpointMap
            first.linkMap) {} := by
    apply List.foldl_ext
    intro costs hop member
    have same := agrees hop member
    unfold HopCosts.addHop
    rw [same.link, same.source, same.target]
  simp only [evaluateCandidateCost, kinds, costs]

/-! ## Losses -/

/--
Between the snapshots some links went down, hit their hard limit or were
withdrawn, and some endpoints became unusable; everything else is as it was.
-/
structure Loses
    (lostLinks : LinkId → Bool)
    (lostEndpoints : EndpointId → Bool)
    (before after : EvidenceSnapshot) : Prop where
  linkKept :
    ∀ id, lostLinks id = false → after.linkMap[id]? = before.linkMap[id]?
  linkLost :
    ∀ id link,
      lostLinks id = true →
      after.linkMap[id]? = some link →
      (link.health.healthy = false ∨
        link.congestion.hardLimitExceeded = true) ∧
        ∃ old,
          before.linkMap[id]? = some old ∧
          old.source = link.source ∧
          old.destination = link.destination
  endpointKept :
    ∀ id,
      lostEndpoints id = false →
      after.endpointMap[id]? = before.endpointMap[id]?
  freshnessKept :
    ∀ id endpoint,
      lostEndpoints id = false →
      before.endpointMap[id]? = some endpoint →
      endpointFresh endpoint after = endpointFresh endpoint before
  endpointLost :
    ∀ id endpoint transport,
      lostEndpoints id = true →
      after.endpointMap[id]? = some endpoint →
      ¬EndpointAdmissible after transport endpoint
  reservations : after.reservations = before.reservations
  policyGeneration : after.policyGeneration = before.policyGeneration

/-- The candidate rests on nothing that was lost. -/
def CandidatePath.survives
    (lostLinks : LinkId → Bool)
    (lostEndpoints : EndpointId → Bool)
    (candidate : CandidatePath) : Bool :=
  candidate.hops.all fun hop =>
    !lostLinks hop.link && !lostEndpoints hop.source &&
      !lostEndpoints hop.target

/-- A hop is linked exactly when the link under its identity leads its way. -/
theorem hopLinked_iff_linkMap
    {snapshot : EvidenceSnapshot}
    (distinct : (snapshot.links.map fun link => link.id).Nodup)
    {hop : Hop} :
    HopLinked snapshot.links hop ↔
      ∃ link,
        snapshot.linkMap[hop.link]? = some link ∧
          link.source = hop.source ∧
          link.destination = hop.target := by
  constructor
  · rintro ⟨link, member, sameId, sameEnds⟩
    exact ⟨link, sameId ▸ getElem?_indexBy_of_mem distinct member, sameEnds⟩
  · rintro ⟨link, found, sameEnds⟩
    obtain ⟨member, sameId⟩ := mem_of_getElem?_indexBy found
    exact ⟨link, member, sameId, sameEnds⟩

namespace Loses

theorem refl (snapshot : EvidenceSnapshot) :
    Loses (fun _ => false) (fun _ => false) snapshot snapshot where
  linkKept _ _ := rfl
  linkLost _ _ lost := by cases lost
  endpointKept _ _ := rfl
  freshnessKept _ _ _ _ := rfl
  endpointLost _ _ _ lost := by cases lost
  reservations := rfl
  policyGeneration := rfl

/-- Losses add up. -/
theorem trans
    {earlierLinks laterLinks : LinkId → Bool}
    {earlierEndpoints laterEndpoints : EndpointId → Bool}
    {between : EvidenceSnapshot}
    (earlier : Loses earlierLinks earlierEndpoints before between)
    (later : Loses laterLinks laterEndpoints between after) :
    Loses (fun id => earlierLinks id || laterLinks id)
      (fun id => earlierEndpoints id || laterEndpoints id) before after where
  linkKept := by
    intro id kept
    rw [Bool.or_eq_false_iff] at kept
    rw [later.linkKept id kept.2, earlier.linkKept id kept.1]
  linkLost := by
    intro id link lost found
    cases lostLater : laterLinks id with
    | false =>
        rw [lostLater, Bool.or_false] at lost
        exact earlier.linkLost id link lost
          (later.linkKept id lostLater ▸ found)
    | true =>
        obtain ⟨unusable, old, known, sameSource, sameDestination⟩ :=
          later.linkLost id link lostLater found
        refine ⟨unusable, ?_⟩
        cases lostEarlier : earlierLinks id with
        | false =>
            exact ⟨old, earlier.linkKept id lostEarlier ▸ known, sameSource,
              sameDestination⟩
        | true =>
            obtain ⟨_, oldest, first, olderSource, olderDestination⟩ :=
              earlier.linkLost id old lostEarlier known
            exact ⟨oldest, first, olderSource.trans sameSource,
              olderDestination.trans sameDestination⟩
  endpointKept := by
    intro id kept
    rw [Bool.or_eq_false_iff] at kept
    rw [later.endpointKept id kept.2, earlier.endpointKept id kept.1]
  freshnessKept := by
    intro id endpoint kept found
    rw [Bool.or_eq_false_iff] at kept
    rw [later.freshnessKept id endpoint kept.2
      ((earlier.endpointKept id kept.1).trans found),
      earlier.freshnessKept id endpoint kept.1 found]
  endpointLost := by
    intro id endpoint transport lost found admissible
    cases lostLater : laterEndpoints id with
    | true => exact later.endpointLost id endpoint _ lostLater found admissible
    | false =>
        rw [lostLater, Bool.or_false] at lost
        have foundBetween := later.endpointKept id lostLater ▸ found
        refine earlier.endpointLost id endpoint transport lost foundBetween
          { admissible with fresh := ?_ }
        rw [← later.freshnessKept id endpoint lostLater foundBetween]
        exact admissible.fresh
  reservations := later.reservations.trans earlier.reservations
  policyGeneration := later.policyGeneration.trans earlier.policyGeneration

variable {lostLinks : LinkId → Bool} {lostEndpoints : EndpointId → Bool}

theorem agreesOn
    (loses : Loses lostLinks lostEndpoints before after)
    (survives : candidate.survives lostLinks lostEndpoints = true) :
    ∀ hop ∈ candidate.hops, before.AgreesOn after hop := by
  intro hop member
  have kept := List.all_eq_true.mp survives hop member
  simp only [Bool.and_eq_true, Bool.not_eq_true'] at kept
  obtain ⟨⟨link, source⟩, target⟩ := kept
  exact
    { link := loses.linkKept _ link
      source := loses.endpointKept _ source
      target := loses.endpointKept _ target
      freshness := by
        rintro endpoint (found | found)
        · exact loses.freshnessKept _ endpoint source found
        · exact loses.freshnessKept _ endpoint target found }

/-- What is still feasible rests on nothing that was lost. -/
theorem survives_of_feasible
    (loses : Loses lostLinks lostEndpoints before after)
    (feasible :
      (evaluateCandidateFeasibility request after candidate
        bounds).feasible = true) :
    candidate.survives lostLinks lostEndpoints = true := by
  rw [evaluateCandidateFeasibility_feasible_iff] at feasible
  refine List.all_eq_true.mpr fun hop member => ?_
  obtain ⟨link, source, target, admissible⟩ := feasible.hops hop member
  simp only [Bool.and_eq_true, Bool.not_eq_true', ← Bool.not_eq_true]
  refine ⟨⟨fun lost => ?_, fun lost => ?_⟩, fun lost => ?_⟩
  · obtain ⟨unusable, _⟩ := loses.linkLost _ link lost admissible.linkFound
    rw [admissible.healthy, admissible.belowHardLimit] at unusable
    rcases unusable with unusable | unusable <;> cases unusable
  · exact loses.endpointLost _ source _ lost admissible.sourceFound
      admissible.sourceAdmissible
  · exact loses.endpointLost _ target _ lost admissible.targetFound
      admissible.targetAdmissible

/-- No path appears. -/
theorem hopLinked
    (loses : Loses lostLinks lostEndpoints before after)
    (distinctBefore : (before.links.map fun link => link.id).Nodup)
    (distinctAfter : (after.links.map fun link => link.id).Nodup)
    {hop : Hop}
    (linked : HopLinked after.links hop) :
    HopLinked before.links hop := by
  rw [hopLinked_iff_linkMap distinctAfter] at linked
  rw [hopLinked_iff_linkMap distinctBefore]
  obtain ⟨link, found, fromSource, toTarget⟩ := linked
  cases lost : lostLinks hop.link with
  | false =>
      exact ⟨link, loses.linkKept _ lost ▸ found, fromSource, toTarget⟩
  | true =>
      obtain ⟨_, old, known, sameSource, sameDestination⟩ :=
        loses.linkLost _ link lost found
      exact ⟨old, known, sameSource.trans fromSource,
        sameDestination.trans toTarget⟩

theorem linkPath
    (loses : Loses lostLinks lostEndpoints before after)
    (distinctBefore : (before.links.map fun link => link.id).Nodup)
    (distinctAfter : (after.links.map fun link => link.id).Nodup)
    (path : LinkPath after source destination bounds candidate) :
    LinkPath before source destination bounds candidate :=
  { path with
    linked := fun hop member =>
      loses.hopLinked distinctBefore distinctAfter (path.linked hop member) }

/-- A path that rests on nothing that was lost stays. -/
theorem linkPath_of_survives
    (loses : Loses lostLinks lostEndpoints before after)
    (distinctBefore : (before.links.map fun link => link.id).Nodup)
    (distinctAfter : (after.links.map fun link => link.id).Nodup)
    (survives : candidate.survives lostLinks lostEndpoints = true)
    (path : LinkPath before source destination bounds candidate) :
    LinkPath after source destination bounds candidate :=
  { path with
    linked := by
      intro hop member
      rw [hopLinked_iff_linkMap distinctAfter,
        (loses.agreesOn survives hop member).link,
        ← hopLinked_iff_linkMap distinctBefore]
      exact path.linked hop member }

/--
If the cap admits every link path, the ranking after the loss is the ranking
before it, less what rested on what was lost: both ascend by the same keys, so
it is enough that they have the same members.
-/
theorem ranking_eq_filter
    (loses : Loses lostLinks lostEndpoints before after)
    (distinctBefore : (before.links.map fun link => link.id).Nodup)
    (distinctAfter : (after.links.map fun link => link.id).Nodup)
    (fits :
      Set.encard {candidate |
          LinkPath before source destination bounds candidate} ≤
        (bounds.maxCandidates.toNat : ℕ∞)) :
    (assess request after weights bounds source destination).ranking =
      (assess request before weights bounds source
        destination).ranking.filter fun rankable =>
          rankable.path.survives lostLinks lostEndpoints := by
  have fitsAfter :
      Set.encard {candidate |
          LinkPath after source destination bounds candidate} ≤
        (bounds.maxCandidates.toNat : ℕ∞) := by
    refine le_trans (Set.encard_le_encard ?_) fits
    intro candidate path
    exact loses.linkPath distinctBefore distinctAfter path
  have verdict :
      ∀ candidate : CandidatePath,
        candidate.survives lostLinks lostEndpoints = true →
        evaluateCandidateFeasibility request after candidate bounds =
          evaluateCandidateFeasibility request before candidate bounds :=
    fun candidate survives =>
      evaluateCandidateFeasibility_eq_of_agreesOn (loses.agreesOn survives)
        loses.reservations loses.policyGeneration
  have costs :
      ∀ candidate : CandidatePath,
        candidate.survives lostLinks lostEndpoints = true →
        evaluateCandidateCost request after candidate weights =
          evaluateCandidateCost request before candidate weights :=
    fun candidate survives =>
      evaluateCandidateCost_eq_of_agreesOn (loses.agreesOn survives)
  have sameMembers :
      ∀ rankable,
        rankable ∈
            (assess request after weights bounds source
              destination).ranking ↔
          rankable ∈
            (assess request before weights bounds source
              destination).ranking.filter fun rankable =>
                rankable.path.survives lostLinks lostEndpoints := by
    intro rankable
    rw [List.mem_filter, mem_ranking_assess_iff, mem_ranking_assess_iff,
      mem_rankables_assess_iff, mem_rankables_assess_iff,
      mem_enumerateCandidatePaths_iff distinctBefore fits,
      mem_enumerateCandidatePaths_iff distinctAfter fitsAfter]
    constructor
    · rintro ⟨path, feasible, judged, costed⟩
      have survives := loses.survives_of_feasible (judged ▸ feasible)
      exact ⟨⟨loses.linkPath distinctBefore distinctAfter path, feasible,
        judged.trans (verdict _ survives), costed.trans (costs _ survives)⟩,
        survives⟩
    · rintro ⟨⟨path, feasible, judged, costed⟩, survives⟩
      exact ⟨loses.linkPath_of_survives distinctBefore distinctAfter survives
        path, feasible, judged.trans (verdict _ survives).symm,
        costed.trans (costs _ survives).symm⟩
  have permuted :=
    (List.perm_ext_iff_of_nodup (nodup_ranking distinctAfter)
      ((nodup_ranking distinctBefore).filter _)).mpr sameMembers
  refine permuted.eq_of_pairwise ?_ pairwise_rank_ranking
    (pairwise_rank_ranking.filter _)
  intro one other oneMember otherMember below above
  exact rankingKey_rank_injective distinctBefore
    (List.mem_filter.mp ((sameMembers one).mp oneMember)).1
    (List.mem_filter.mp otherMember).1 (le_antisymm below above)

end Loses

/-! ## Plans over what is left -/

/-- What a plan says about one of its paths: the candidate and its cost. -/
def Path.offer (path : Path) : CandidatePath × CostSummary :=
  (path.candidate, path.cost)

/-- The ranked candidates with their costs. -/
def Assessment.offers
    (assessment : Assessment) : List (CandidatePath × CostSummary) :=
  assessment.ranking.map fun rankable => (rankable.path, rankable.cost)

theorem map_offer_filter
    (keeps : CandidatePath → Bool)
    (paths : List Path) :
    (paths.filter fun path => keeps path.candidate).map Path.offer =
      (paths.map Path.offer).filter fun offer => keeps offer.1 := by
  rw [List.filter_map]
  rfl

theorem Loses.offers_eq_filter
    {lostLinks : LinkId → Bool}
    {lostEndpoints : EndpointId → Bool}
    (loses : Loses lostLinks lostEndpoints before after)
    (distinctBefore : (before.links.map fun link => link.id).Nodup)
    (distinctAfter : (after.links.map fun link => link.id).Nodup)
    (fits :
      Set.encard {candidate |
          LinkPath before source destination bounds candidate} ≤
        (bounds.maxCandidates.toNat : ℕ∞)) :
    (assess request after weights bounds source destination).offers =
      (assess request before weights bounds source
        destination).offers.filter fun offer =>
          offer.1.survives lostLinks lostEndpoints := by
  unfold Assessment.offers
  rw [loses.ranking_eq_filter distinctBefore distinctAfter fits,
    List.filter_map]
  rfl

/-- The paths of a point-to-point plan are the head of the ranking. -/
theorem ensures_planPointToPoint_offers
    {others : List EndpointId}
    (destinations : request.destinations = destination :: others) :
    Ensures (planPointToPoint request before weights bounds)
      fun outcome =>
        let offers :=
          (assess request before weights bounds request.source
            destination).offers
        (outcome.success = true ↔ offers ≠ []) ∧
        (outcome.success = true →
          ∃ plan,
            outcome.plan = some plan ∧
            plan.candidatePaths.map Path.offer =
              offers.take (1 + bounds.maxFallbacks.toNat)) := by
  intro counters outcome remaining ran
  obtain ⟨successIff, planned⟩ :=
    ensures_planPointToPoint_ranking destinations counters outcome remaining
      ran
  simp only [Assessment.offers, ne_eq, List.map_eq_nil_iff]
  refine ⟨successIff, fun success => ?_⟩
  obtain ⟨plan, isPlan, _, _, built⟩ := planned success
  refine ⟨plan, isPlan, ?_⟩
  have sameOffers :
      ∀ (rankables : List Rankable) (paths : List Path),
        List.Forall₂
          (fun rankable path =>
            PathFrom request rankable.path rankable.cost path)
          rankables paths →
        paths.map Path.offer =
          rankables.map fun rankable => (rankable.path, rankable.cost) := by
    intro rankables paths built
    induction built with
    | nil =>
        rfl
    | cons head _ inductionHypothesis =>
        rw [List.map_cons, List.map_cons, inductionHypothesis, Path.offer,
          head.candidate_eq, head.costed]
  rw [sameOffers _ _ built, ← List.map_take]
  congr 1
  have some := successIff.mp success
  have positive := List.length_pos_of_ne_nil some
  rw [List.take_eq_take_iff]
  omega

/-- What a filter keeps of the head of a list is the head of what it keeps. -/
theorem filter_take_prefix
    {α : Type}
    (keeps : α → Bool)
    (count : Nat)
    (items : List α) :
    (items.take count).filter keeps <+: (items.filter keeps).take count := by
  rw [List.prefix_take_iff]
  refine ⟨(List.take_prefix count items).filter keeps, ?_⟩
  exact (List.length_filter_le keeps _).trans (List.length_take_le count items)

/-- What was planned was valid. -/
theorem validate_of_run
    {counters remaining : Counters}
    {outcome : PlanOutcome}
    (ran :
      (planCommunication request before weights bounds).run counters =
        .ok (outcome, remaining)) :
    request.validate = true := by
  unfold planCommunication at ran
  cases rejected : request.rejection with
  | none => simp [CommunicationRequest.validate, rejected]
  | some detail =>
      rw [rejected] at ran
      cases ran

theorem id_of_validate
    (valid : request.validate = true) :
    request.id.isNull = false := by
  by_contra null
  rw [Bool.not_eq_false] at null
  simp [CommunicationRequest.validate, CommunicationRequest.rejection, null]
    at valid

/--
Two plans for one request, before and after a loss.  What survives of the first
is the head of the second, and all of the second rests on what is left.
-/
theorem Loses.offers_survive
    {lostLinks : LinkId → Bool}
    {lostEndpoints : EndpointId → Bool}
    (loses : Loses lostLinks lostEndpoints before after)
    (distinctBefore : (before.links.map fun link => link.id).Nodup)
    (distinctAfter : (after.links.map fun link => link.id).Nodup)
    (shape : request.shape = .pointToPoint ∨ request.shape = .staged)
    (unicast : request.allowMulticast = false)
    (fits :
      Set.encard {candidate | RequestPath request before bounds candidate} ≤
        (bounds.maxCandidates.toNat : ℕ∞))
    {counters remaining : Counters}
    {outcome : PlanOutcome}
    {plan : CommunicationPlan}
    (ran :
      (planCommunication request before weights bounds).run counters =
        .ok (outcome, remaining))
    (success : outcome.success = true)
    (isPlan : outcome.plan = some plan)
    (again : Counters) :
    ∃ replanned left,
      (planCommunication request after weights bounds).run again =
        .ok (replanned, left) ∧
      ((∃ path ∈ plan.candidatePaths,
          path.candidate.survives lostLinks lostEndpoints = true) →
        replanned.success = true) ∧
      (replanned.success = true →
        ∃ replan,
          replanned.plan = some replan ∧
          (plan.candidatePaths.filter fun path =>
              path.candidate.survives lostLinks lostEndpoints).map
            Path.offer <+: replan.candidatePaths.map Path.offer ∧
          ∀ path ∈ replan.candidatePaths,
            path.candidate.survives lostLinks lostEndpoints = true) := by
  have valid := validate_of_run ran
  obtain ⟨destination, destinations⟩ :=
    destinations_eq_singleton valid shape unicast
  have paths := requestPath_eq_linkPath destinations before bounds
  rw [paths] at fits
  rw [planCommunication_eq_planPointToPoint before weights bounds valid shape
    unicast] at ran
  obtain ⟨_, planned⟩ := ensures_planPointToPoint_offers destinations _ _ _ ran
  obtain ⟨same, samePlan, offers⟩ := planned success
  rw [isPlan] at samePlan
  cases samePlan
  have succeeds :
      Succeeds (planPointToPoint request after weights bounds) :=
    succeeds_planPointToPoint destinations
  obtain ⟨replanned, left, reran⟩ := succeeds again
  obtain ⟨successIff, replans⟩ :=
    ensures_planPointToPoint_offers destinations _ _ _ reran
  rw [loses.offers_eq_filter distinctBefore distinctAfter fits]
    at successIff replans
  refine ⟨replanned, left, ?_, ?_, ?_⟩
  · rw [planCommunication_eq_planPointToPoint after weights bounds valid shape
      unicast]
    exact reran
  · rintro ⟨path, member, survived⟩
    refine successIff.mpr (List.ne_nil_of_mem (a := path.offer) ?_)
    have offered := List.mem_map_of_mem (f := Path.offer) member
    rw [offers] at offered
    exact List.mem_filter.mpr ⟨List.mem_of_mem_take offered, survived⟩
  · intro replannedSuccess
    obtain ⟨replan, isReplan, reoffers⟩ := replans replannedSuccess
    refine ⟨replan, isReplan, ?_, ?_⟩
    · rw [map_offer_filter, offers, reoffers]
      exact filter_take_prefix _ _ _
    · intro path member
      have offered := List.mem_map_of_mem (f := Path.offer) member
      rw [reoffers] at offered
      exact (List.mem_filter.mp (List.mem_of_mem_take offered)).2

end

end CommunicationPlanner
