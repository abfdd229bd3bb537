import CommunicationPlanner.PlanOrigin

namespace CommunicationPlanner

open OrderedCollections Allocation

/-!
# Correctness of point-to-point planning

When the cap on candidates does not cut the enumeration short, a point-to-point
request is planned if and only if some link path passes the hard filter, and
the plan retains the best feasible paths in the strict order of their keys.
-/

/-- A link path from the source of the request to its destination. -/
def RequestPath
    (request : CommunicationRequest)
    (snapshot : EvidenceSnapshot)
    (bounds : Bounds)
    (candidate : CandidatePath) : Prop :=
  ∃ destination ∈ request.destinations,
    LinkPath snapshot request.source destination bounds candidate

/-- A request for one destination is for the link paths that lead there. -/
theorem requestPath_eq_linkPath
    {request : CommunicationRequest}
    {destination : EndpointId}
    (destinations : request.destinations = [destination])
    (snapshot : EvidenceSnapshot)
    (bounds : Bounds) :
    RequestPath request snapshot bounds =
      LinkPath snapshot request.source destination bounds := by
  funext candidate
  simp [RequestPath, destinations]

/-- The key a feasible candidate is ranked by. -/
def candidateKey
    (request : CommunicationRequest)
    (snapshot : EvidenceSnapshot)
    (weights : RankingWeights)
    (bounds : Bounds)
    (candidate : CandidatePath) : Key :=
  rankingKey
    { path := candidate
      feasibility :=
        evaluateCandidateFeasibility request snapshot candidate bounds
      cost := evaluateCandidateCost request snapshot candidate weights }

section

variable
  {request : CommunicationRequest}
  {snapshot : EvidenceSnapshot}
  {weights : RankingWeights}
  {bounds : Bounds}
  {source destination : EndpointId}

/-! ## Building paths over link paths never throws -/

theorem succeeds_buildStages
    {hops : List Hop}
    (linked : ∀ hop ∈ hops, HopLinked snapshot.links hop) :
    Succeeds (buildStages request snapshot.linkMap hops) := by
  induction hops with
  | nil =>
      exact Succeeds.pure
  | cons hop rest inductionHypothesis =>
      obtain ⟨link, member, sameId, _⟩ := linked hop (by simp)
      have present : snapshot.linkMap[hop.link]?.isSome :=
        isSome_getElem?_indexBy.mpr ⟨link, member, sameId⟩
      obtain ⟨found, lookup⟩ := Option.isSome_iff_exists.mp present
      unfold buildStages
      rw [lookup]
      refine Succeeds.bind Succeeds.modifyGet fun id => ?_
      refine Succeeds.bind (inductionHypothesis ?_) fun later =>
        Succeeds.pure
      intro later laterMember
      exact linked later (by simp [laterMember])

theorem succeeds_makePath
    {candidate : CandidatePath}
    (linked : ∀ hop ∈ candidate.hops, HopLinked snapshot.links hop)
    (id : PathId)
    (cost : CostSummary) :
    Succeeds (makePath id candidate snapshot request cost) := by
  unfold makePath
  refine Succeeds.bind ?_ fun stages => Succeeds.pure
  exact succeeds_buildStages linked

theorem succeeds_makePaths
    {retained : List (CandidatePath × CostSummary)}
    (linked :
      ∀ chosen ∈ retained, ∀ hop ∈ chosen.1.hops,
        HopLinked snapshot.links hop)
    (built : Nat) :
    Succeeds (makePaths snapshot request built retained) := by
  induction retained generalizing built with
  | nil =>
      exact Succeeds.pure
  | cons chosen rest inductionHypothesis =>
      unfold makePaths
      refine Succeeds.bind ?_ fun path => ?_
      · exact succeeds_makePath (linked chosen (by simp)) _ _
      · refine Succeeds.bind ?_ fun later => Succeeds.pure
        apply inductionHypothesis
        intro other member
        exact linked other (by simp [member])

theorem succeeds_planPointToPoint
    {others : List EndpointId}
    (destinations : request.destinations = destination :: others) :
    Succeeds (planPointToPoint request snapshot weights bounds) := by
  unfold planPointToPoint
  rw [destinations]
  simp only
  split_ifs
  · exact Succeeds.pure
  · refine Succeeds.bind Succeeds.modifyGet fun id => ?_
    refine Succeeds.bind Succeeds.modifyGet fun generation => ?_
    refine Succeeds.bind ?_ fun paths => Succeeds.pure
    apply succeeds_makePaths
    intro chosen member
    exact (chosen_of_mem_retained chosen member).path.linked

/-! ## The ranking is the strict order of the keys -/

/-- A ranked candidate determines everything it is ranked with. -/
theorem rankable_eq_of_mem_ranking
    {rankable : Rankable}
    (member :
      rankable ∈
        (assess request snapshot weights bounds source destination).ranking) :
    rankable =
      { path := rankable.path
        feasibility :=
          evaluateCandidateFeasibility request snapshot rankable.path bounds
        cost :=
          evaluateCandidateCost request snapshot rankable.path weights } := by
  obtain ⟨_, _, feasibility, cost⟩ :=
    mem_rankables_assess_iff.mp (mem_ranking_assess_iff.mp member)
  rw [← feasibility, ← cost]

/-- Ranked candidates that tie have the same links. -/
theorem rankingKey_rank_injective
    (distinct : (snapshot.links.map fun link => link.id).Nodup)
    {first second : Rankable}
    (firstMember :
      first ∈
        (assess request snapshot weights bounds source destination).ranking)
    (secondMember :
      second ∈
        (assess request snapshot weights bounds source destination).ranking)
    (tied : (rankingKey first).rank = (rankingKey second).rank) :
    first = second := by
  have firstPath := (chosen_of_mem_ranking firstMember).path
  have secondPath := (chosen_of_mem_ranking secondMember).path
  have sameHops : first.path.hops = second.path.hops :=
    hops_eq_of_map_link_eq distinct firstPath.linked secondPath.linked
      (Key.idseq_eq_of_rank_eq tied)
  have samePath : first.path = second.path := by
    have sameSource :=
      firstPath.fromSource.trans secondPath.fromSource.symm
    have sameDestination :=
      firstPath.toDestination.trans secondPath.toDestination.symm
    cases firstShape : first.path
    cases secondShape : second.path
    simp_all
  rw [rankable_eq_of_mem_ranking firstMember,
    rankable_eq_of_mem_ranking secondMember, samePath]

/-- The keys of ranked candidates have no NaN. -/
theorem numeric_of_mem_ranking
    {rankable : Rankable}
    (member :
      rankable ∈
        (assess request snapshot weights bounds source destination).ranking) :
    (rankingKey rankable).Numeric := by
  apply numeric_rankingKey
  intro component inCost
  rw [(chosen_of_mem_ranking member).costed] at inCost
  exact isNaN_of_mem_evaluateCandidateCost inCost

/-- No candidate is ranked twice. -/
theorem nodup_ranking
    (distinct : (snapshot.links.map fun link => link.id).Nodup) :
    (assess request snapshot weights bounds source
      destination).ranking.Nodup := by
  have candidates :=
    nodup_enumerateCandidatePaths distinct source destination bounds
  have reported :
      (((enumerateCandidatePaths snapshot source destination bounds).map
        (candidateReport request snapshot weights bounds)).map
          CandidateReport.path).Nodup := by
    simpa [Function.comp_def] using candidates
  have ranked :
      ((assess request snapshot weights bounds source
        destination).rankables.map Rankable.path).Nodup := by
    simp only [assess, List.map_map]
    exact reported.sublist (List.filter_sublist.map _)
  apply (perm_sortBy _ _).nodup_iff.mpr
  exact (List.Nodup.of_map _ ranked).filter _

/-- The ranking ascends. -/
theorem pairwise_rank_ranking :
    (assess request snapshot weights bounds source
      destination).ranking.Pairwise fun first second =>
        (rankingKey first).rank ≤ (rankingKey second).rank := by
  have ranked :
      RankedBy
        (fun first second =>
          keyLess (rankingKey first) (rankingKey second))
        (fun rankable => (rankingKey rankable).rank)
        ((assess request snapshot weights bounds source
          destination).rankables.filter fun rankable =>
            rankable.feasibility.feasible) := by
    intro first firstMember second secondMember
    apply keyLess_iff_rank
    · exact numeric_of_mem_ranking (mem_sortBy.mpr firstMember)
    · exact numeric_of_mem_ranking (mem_sortBy.mpr secondMember)
  exact pairwise_sortBy ranked

/-- With distinct link identities the ranking ascends strictly. -/
theorem pairwise_ranking
    (distinct : (snapshot.links.map fun link => link.id).Nodup) :
    (assess request snapshot weights bounds source
      destination).ranking.Pairwise fun first second =>
        keyLess (rankingKey first) (rankingKey second) = true := by
  let ranking :=
    (assess request snapshot weights bounds source destination).ranking
  have different : ranking.Pairwise (· ≠ ·) := nodup_ranking distinct
  apply (pairwise_rank_ranking.and different).imp_of_mem
  intro first second firstMember secondMember ordered
  rw [keyLess_iff_rank (numeric_of_mem_ranking firstMember)
    (numeric_of_mem_ranking secondMember)]
  apply lt_of_le_of_ne ordered.1
  intro tied
  exact ordered.2
    (rankingKey_rank_injective distinct firstMember secondMember tied)

/-! ## The plan retains the head of the ranking -/

/-- If the cap admits every link path, the ranking holds the feasible ones. -/
theorem mem_map_path_ranking_iff
    (distinct : (snapshot.links.map fun link => link.id).Nodup)
    (fits :
      Set.encard {candidate |
          LinkPath snapshot source destination bounds candidate} ≤
        (bounds.maxCandidates.toNat : ℕ∞))
    (candidate : CandidatePath) :
    candidate ∈
        (assess request snapshot weights bounds source
          destination).ranking.map Rankable.path ↔
      LinkPath snapshot source destination bounds candidate ∧
        (evaluateCandidateFeasibility request snapshot candidate
          bounds).feasible = true := by
  rw [List.mem_map]
  constructor
  · rintro ⟨rankable, member, rfl⟩
    have chosen := chosen_of_mem_ranking member
    exact ⟨chosen.path, chosen.feasible⟩
  · rintro ⟨path, feasible⟩
    let rankable : Rankable :=
      { path := candidate
        feasibility :=
          evaluateCandidateFeasibility request snapshot candidate bounds
        cost := evaluateCandidateCost request snapshot candidate weights }
    have enumerated :=
      (mem_enumerateCandidatePaths_iff distinct fits).mpr path
    have member :
        rankable ∈
          (assess request snapshot weights bounds source
            destination).rankables :=
      mem_rankables_assess_iff.mpr ⟨enumerated, feasible, rfl, rfl⟩
    exact ⟨rankable, mem_ranking_assess_iff.mpr member, rfl⟩

/-- The candidates of the ranking ascend strictly by their keys. -/
theorem pairwise_map_path_ranking
    (distinct : (snapshot.links.map fun link => link.id).Nodup) :
    ((assess request snapshot weights bounds source
      destination).ranking.map Rankable.path).Pairwise fun first second =>
        keyLess (candidateKey request snapshot weights bounds first)
          (candidateKey request snapshot weights bounds second) = true := by
  rw [List.pairwise_map]
  apply (pairwise_ranking distinct).imp_of_mem
  intro first second firstMember secondMember ordered
  rw [rankable_eq_of_mem_ranking firstMember,
    rankable_eq_of_mem_ranking secondMember] at ordered
  exact ordered

/-- No candidate of the ranking precedes itself. -/
theorem nodup_map_path_ranking
    (distinct : (snapshot.links.map fun link => link.id).Nodup) :
    ((assess request snapshot weights bounds source
      destination).ranking.map Rankable.path).Nodup := by
  rw [List.nodup_map_iff_inj_on (nodup_ranking distinct)]
  intro first firstMember second secondMember samePath
  rw [rankable_eq_of_mem_ranking firstMember,
    rankable_eq_of_mem_ranking secondMember, samePath]

/-- A path over a chosen candidate is contiguous and its hops are feasible. -/
theorem PathFrom.sound
    {candidate : CandidatePath}
    {cost : CostSummary}
    {path : Path}
    (built : PathFrom request candidate cost path)
    (chosen :
      Chosen request snapshot weights bounds source destination candidate
        cost) :
    path.source = source ∧
    path.destination = destination ∧
    Contiguous path.source (path.stages.map Stage.hop) path.destination ∧
    (∀ stage ∈ path.stages, stage.payload = request.payloadSize) ∧
    (evaluateCandidateFeasibility request snapshot
      ⟨path.source, path.destination, path.stages.map Stage.hop⟩
      bounds).feasible = true := by
  have sameSource := built.source.trans chosen.path.fromSource
  have sameDestination := built.destination.trans chosen.path.toDestination
  refine ⟨sameSource, sameDestination, ?_, built.payloads, ?_⟩
  · rw [sameSource, sameDestination, built.hops]
    exact chosen.path.contiguous
  · rw [built.source, built.destination, built.hops]
    exact chosen.feasible

/-- A valid unicast request has exactly one destination. -/
theorem destinations_eq_singleton
    (valid : request.validate = true)
    (shape : request.shape = .pointToPoint ∨ request.shape = .staged)
    (unicast : request.allowMulticast = false) :
    ∃ destination, request.destinations = [destination] := by
  rw [← List.length_eq_one_iff]
  by_contra several
  have notMulticast : request.shape ≠ .multicast := by
    rcases shape with shape | shape <;> simp [shape]
  have notCollective : request.shape ≠ .collective := by
    rcases shape with shape | shape <;> simp [shape]
  have rejected :
      (CommunicationRequest.rejection.shapeRejection request).isSome := by
    simp only [CommunicationRequest.rejection.shapeRejection, notMulticast,
      unicast, shape]
    split_ifs <;> simp_all
  obtain ⟨why, because⟩ := Option.isSome_iff_exists.mp rejected
  simp only [CommunicationRequest.validate, CommunicationRequest.rejection,
    notCollective, because, false_and, if_false] at valid
  split_ifs at valid <;> simp at valid

/-- A valid unicast request goes to the point-to-point builder. -/
theorem planCommunication_eq_planPointToPoint
    (snapshot : EvidenceSnapshot)
    (weights : RankingWeights)
    (bounds : Bounds)
    (valid : request.validate = true)
    (shape : request.shape = .pointToPoint ∨ request.shape = .staged)
    (unicast : request.allowMulticast = false) :
    planCommunication request snapshot weights bounds =
      planPointToPoint request snapshot weights bounds := by
  have accepted : request.rejection = none := by
    simpa [CommunicationRequest.validate] using valid
  have sameShape : request.effectiveShape = request.shape := by
    rcases shape with shape | shape <;>
      simp [CommunicationRequest.effectiveShape, shape, unicast]
  unfold planCommunication
  rw [accepted, sameShape]
  rcases shape with shape | shape <;> rw [shape]

/--
What a point-to-point outcome says about the ranking behind it; only the first
destination counts.
-/
theorem ensures_planPointToPoint_ranking
    {others : List EndpointId}
    (destinations : request.destinations = destination :: others) :
    Ensures (planPointToPoint request snapshot weights bounds)
      fun outcome =>
        let ranking :=
          (assess request snapshot weights bounds request.source
            destination).ranking
        let total := 1 + min bounds.maxFallbacks.toNat (ranking.length - 1)
        (outcome.success = true ↔ ranking ≠ []) ∧
        (outcome.success = true →
          ∃ plan,
            outcome.plan = some plan ∧
            plan.candidatePaths.map (fun path => path.id) =
              numberedIds plan.candidatePaths.length ∧
            plan.primaryPath :: plan.fallbackPaths =
              plan.candidatePaths.map (fun path => path.id) ∧
            List.Forall₂
              (fun rankable path =>
                PathFrom request rankable.path rankable.cost path)
              (ranking.take total) plan.candidatePaths) := by
  have assessed := forall₂_orderOrig_ranking
    (assess request snapshot weights bounds request.source destination) rfl
  unfold planPointToPoint
  rw [destinations]
  simp only
  split_ifs with infeasible
  · apply Ensures.pure
    rw [infeasible] at assessed
    have none : (assess request snapshot weights bounds request.source
        destination).ranking = [] :=
      List.length_eq_zero_iff.mp assessed.2.symm
    simp [none]
  · refine Ensures.bind Ensures.trivial ?_
    intro id _
    refine Ensures.bind Ensures.trivial ?_
    intro generation _
    refine Ensures.bind (ensures_makePaths _ _ _ _) ?_
    rintro paths ⟨ids, built⟩
    apply Ensures.pure
    rw [retained_eq_take_ranking _ rfl, assessed.2] at ids built
    have some : (assess request snapshot weights bounds request.source
        destination).ranking ≠ [] := by
      intro none
      rw [none] at assessed
      exact infeasible (List.length_eq_zero_iff.mp assessed.2)
    have positive := List.length_pos_of_ne_nil some
    have pathCount := built.length_eq
    refine ⟨by simp [some], fun _ => ⟨_, rfl, ?_, ?_, ?_⟩⟩
    · simp only [pointToPointPlan, CommunicationPlan.bindSnapshot]
      rw [ids, ← pathCount]
      simp [numberedIds]
    · cases paths with
      | nil =>
          rw [List.length_map, List.length_take, List.length_nil] at pathCount
          omega
      | cons primary fallbacks =>
          rfl
    · rw [List.forall₂_map_left_iff] at built
      exact built

/--
A valid point-to-point or staged request is planned exactly when one of its
link paths is feasible, provided that the cap on candidates admits them all.
The candidate paths of the plan are the first of the feasible link paths in the
strict order of `keyLess`: the primary path is the least, the fallbacks follow.
Each is a contiguous chain from the source to the destination that carries the
payload of the request on every stage, and each is feasible.
-/
theorem planCommunication_retains_best_paths
    (request : CommunicationRequest)
    (snapshot : EvidenceSnapshot)
    (weights : RankingWeights)
    (bounds : Bounds)
    (counters : Counters)
    (valid : request.validate = true)
    (shape : request.shape = .pointToPoint ∨ request.shape = .staged)
    (unicast : request.allowMulticast = false)
    (distinct : (snapshot.links.map fun link => link.id).Nodup)
    (fits :
      Set.encard {candidate | RequestPath request snapshot bounds candidate} ≤
        (bounds.maxCandidates.toNat : ℕ∞)) :
    ∃ outcome after, ∃ ranked : List CandidatePath,
      (planCommunication request snapshot weights bounds).run counters =
        .ok (outcome, after) ∧
      (∀ candidate,
        candidate ∈ ranked ↔
          RequestPath request snapshot bounds candidate ∧
            (evaluateCandidateFeasibility request snapshot candidate
              bounds).feasible = true) ∧
      ranked.Nodup ∧
      ranked.Pairwise (fun first second =>
        keyLess (candidateKey request snapshot weights bounds first)
          (candidateKey request snapshot weights bounds second) = true) ∧
      (outcome.success = true ↔
        ∃ candidate,
          RequestPath request snapshot bounds candidate ∧
            (evaluateCandidateFeasibility request snapshot candidate
              bounds).feasible = true) ∧
      (outcome.success = true →
        ∃ plan,
          outcome.plan = some plan ∧
          plan.candidatePaths.map (fun path => path.id) =
            numberedIds plan.candidatePaths.length ∧
          plan.primaryPath :: plan.fallbackPaths =
            plan.candidatePaths.map (fun path => path.id) ∧
          List.Forall₂
            (fun candidate path =>
              PathFrom request candidate
                (evaluateCandidateCost request snapshot candidate weights)
                path)
            (ranked.take
              (1 + min bounds.maxFallbacks.toNat (ranked.length - 1)))
            plan.candidatePaths ∧
          ∀ path ∈ plan.candidatePaths,
            path.source = request.source ∧
            path.destination ∈ request.destinations ∧
            Contiguous path.source (path.stages.map Stage.hop)
              path.destination ∧
            (∀ stage ∈ path.stages, stage.payload = request.payloadSize) ∧
            (evaluateCandidateFeasibility request snapshot
              ⟨path.source, path.destination, path.stages.map Stage.hop⟩
              bounds).feasible = true) := by
  obtain ⟨destination, destinations⟩ :=
    destinations_eq_singleton valid shape unicast
  have dispatched :=
    planCommunication_eq_planPointToPoint snapshot weights bounds valid shape
      unicast
  rw [requestPath_eq_linkPath destinations] at fits ⊢
  obtain ⟨outcome, after, ran⟩ :=
    succeeds_planPointToPoint destinations counters
  obtain ⟨successIff, planned⟩ :=
    ensures_planPointToPoint_ranking destinations _ _ _ ran
  have memberIff := fun candidate =>
    @mem_map_path_ranking_iff request snapshot weights bounds request.source
      destination distinct fits candidate
  refine ⟨outcome, after,
    (assess request snapshot weights bounds request.source
      destination).ranking.map Rankable.path, dispatched ▸ ran, memberIff,
    nodup_map_path_ranking distinct, pairwise_map_path_ranking distinct,
    ?_, ?_⟩
  · rw [successIff]
    simp only [← memberIff]
    constructor
    · intro nonempty
      exact List.exists_mem_of_ne_nil _ (by simpa using nonempty)
    · rintro ⟨candidate, member⟩ empty
      simp [empty] at member
  · intro success
    obtain ⟨plan, isPlan, numbered, order, built⟩ := planned success
    have chosenAll :
        ∀ rankable ∈
            (assess request snapshot weights bounds request.source
              destination).ranking.take
                (1 + min bounds.maxFallbacks.toNat
                  ((assess request snapshot weights bounds request.source
                    destination).ranking.length - 1)),
          Chosen request snapshot weights bounds request.source destination
            rankable.path rankable.cost := by
      intro rankable taken
      exact chosen_of_mem_ranking (List.mem_of_mem_take taken)
    have chosenBuilt := (List.forall₂_and_left _ _).mpr ⟨chosenAll, built⟩
    refine ⟨plan, isPlan, numbered, order, ?_, ?_⟩
    · rw [← List.map_take, List.length_map, List.forall₂_map_left_iff]
      apply chosenBuilt.imp
      rintro rankable path ⟨chosen, fromCandidate⟩
      rw [← chosen.costed]
      exact fromCandidate
    · intro path member
      obtain ⟨rankable, _, chosen, fromCandidate⟩ :=
        exists_of_mem_of_forall₂ chosenBuilt member
      rw [destinations, List.mem_singleton]
      exact fromCandidate.sound chosen

end

/-- Two endpoints and one link between them. -/
def oneLinkSnapshot : EvidenceSnapshot :=
  { endpoints :=
      [ mkEndpoint ⟨1⟩ ⟨1⟩ .cpuMemory .tcp,
        mkEndpoint ⟨2⟩ ⟨1⟩ .cpuMemory .tcp ]
    links := [mkLink ⟨7⟩ ⟨1⟩ ⟨1⟩ ⟨2⟩ .tcp 1000] }

/-- Three endpoints, a direct link and a route over the third endpoint. -/
def twoRoutesSnapshot : EvidenceSnapshot :=
  { twoRoutes with
    endpoints :=
      [ mkEndpoint ⟨1⟩ ⟨1⟩ .cpuMemory .tcp,
        mkEndpoint ⟨2⟩ ⟨1⟩ .cpuMemory .tcp,
        mkEndpoint ⟨3⟩ ⟨1⟩ .cpuMemory .tcp ] }

/-- The direct link is the primary path, the route over the relay a fallback. -/
theorem planCommunication_retains_both_routes :
    ∃ outcome after plan,
      (planCommunication (mkRequest ⟨1⟩ ⟨1⟩ ⟨2⟩ 4096) twoRoutesSnapshot {}
        {}).run {} = .ok (outcome, after) ∧
      outcome.plan = some plan ∧
      plan.primaryPath :: plan.fallbackPaths =
        plan.candidatePaths.map (fun path => path.id) ∧
      plan.candidatePaths.map (fun path =>
          path.stages.map fun stage => stage.link) =
        [[⟨7⟩], [⟨8⟩, ⟨9⟩]] ∧
      ∀ path ∈ plan.candidatePaths,
        ∀ stage ∈ path.stages, stage.payload = ⟨4096⟩ := by
  have listed :
      ((planCommunication (mkRequest ⟨1⟩ ⟨1⟩ ⟨2⟩ 4096) twoRoutesSnapshot {}
        {}).run {}).toOption.all (fun reached =>
          reached.1.success && reached.1.plan.all fun plan =>
            plan.candidatePaths.map (fun path =>
                path.stages.map fun stage => stage.link) =
              [[⟨7⟩], [⟨8⟩, ⟨9⟩]]) = true := by
    decide +kernel
  have fits :
      Set.encard {candidate |
          RequestPath (mkRequest ⟨1⟩ ⟨1⟩ ⟨2⟩ 4096) twoRoutesSnapshot {}
            candidate} ≤
        (({} : Bounds).maxCandidates.toNat : ℕ∞) := by
    rw [requestPath_eq_linkPath rfl]
    exact encard_linkPaths_le_of_length_lt (by decide +kernel)
  obtain ⟨outcome, after, ranked, ran, _, _, _, _, planned⟩ :=
    planCommunication_retains_best_paths (mkRequest ⟨1⟩ ⟨1⟩ ⟨2⟩ 4096)
      twoRoutesSnapshot {} {} {} (by decide +kernel) (by decide) (by decide)
      (by decide) fits
  rw [ran] at listed
  simp only [Except.toOption, Option.all_some, Bool.and_eq_true] at listed
  obtain ⟨success, routes⟩ := listed
  obtain ⟨plan, isPlan, _, order, _, sound⟩ := planned success
  rw [isPlan, Option.all_some, decide_eq_true_eq] at routes
  refine ⟨outcome, after, plan, ran, isPlan, order, routes, ?_⟩
  intro path member stage inPath
  obtain ⟨_, _, _, payloads, _⟩ := sound path member
  exact payloads stage inPath

end CommunicationPlanner
