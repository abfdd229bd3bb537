import CommunicationPlanner.PlanConstruction

namespace CommunicationPlanner

open OrderedCollections Allocation

/-!
# Where plans come from

Every path of a plan that the planner returns was built from a candidate that
was enumerated from the snapshot and passed the hard filter, and the plan is
bound to the generations of everything its stages use.  `Planned` collects
these facts; `ensures_planCommunication` establishes them for all request
shapes, and later results about revalidation, fencing and persistence start
from there.
-/

/-! ## The ranking behind an assessment -/

/-- The feasible candidates of an assessment, best first. -/
def Assessment.ranking (assessment : Assessment) : List Rankable :=
  rankedRankables assessment.rankables

/-- The candidate between the endpoints is a feasible one, with its cost. -/
structure Chosen
    (request : CommunicationRequest)
    (snapshot : EvidenceSnapshot)
    (weights : RankingWeights)
    (bounds : Bounds)
    (source destination : EndpointId)
    (candidate : CandidatePath)
    (cost : CostSummary) : Prop where
  path : LinkPath snapshot source destination bounds candidate
  feasible :
    (evaluateCandidateFeasibility request snapshot candidate
      bounds).feasible = true
  costed : cost = evaluateCandidateCost request snapshot candidate weights

section

variable
  {request : CommunicationRequest}
  {snapshot : EvidenceSnapshot}
  {weights : RankingWeights}
  {bounds : Bounds}
  {source destination : EndpointId}

@[simp] theorem path_candidateReport
    (candidate : CandidatePath) :
    (candidateReport request snapshot weights bounds candidate).path =
      candidate := by
  unfold candidateReport
  simp only
  split <;> rfl

@[simp] theorem feasibility_candidateReport
    (candidate : CandidatePath) :
    (candidateReport request snapshot weights bounds candidate).feasibility =
      evaluateCandidateFeasibility request snapshot candidate bounds := by
  unfold candidateReport
  simp only
  split <;> rfl

/-- Everything that is ranked is an enumerated and feasible candidate. -/
theorem mem_rankables_assess_iff
    {rankable : Rankable} :
    rankable ∈
        (assess request snapshot weights bounds source
          destination).rankables ↔
      rankable.path ∈
          enumerateCandidatePaths snapshot source destination bounds ∧
        rankable.feasibility.feasible = true ∧
        rankable.feasibility =
          evaluateCandidateFeasibility request snapshot rankable.path bounds ∧
        rankable.cost =
          evaluateCandidateCost request snapshot rankable.path weights := by
  have reportCost :
      ∀ candidate,
        (evaluateCandidateFeasibility request snapshot candidate
          bounds).feasible = true →
        (candidateReport request snapshot weights bounds candidate).cost =
          evaluateCandidateCost request snapshot candidate weights := by
    intro candidate feasible
    simp [candidateReport, feasible]
  simp only [assess, List.mem_map, List.mem_filter]
  constructor
  · rintro ⟨report, ⟨⟨candidate, member, rfl⟩, feasible⟩, rfl⟩
    rw [feasibility_candidateReport] at feasible
    simp only [path_candidateReport, feasibility_candidateReport]
    exact ⟨member, feasible, trivial, reportCost candidate feasible⟩
  · rintro ⟨member, feasible, feasibility, cost⟩
    refine ⟨candidateReport request snapshot weights bounds rankable.path,
      ⟨⟨rankable.path, member, rfl⟩, ?_⟩, ?_⟩
    · rw [feasibility_candidateReport, ← feasibility]
      exact feasible
    · rw [feasibility] at feasible
      rw [path_candidateReport, feasibility_candidateReport,
        reportCost _ feasible, ← feasibility, ← cost]

theorem mem_ranking_assess_iff
    {rankable : Rankable} :
    rankable ∈
        (assess request snapshot weights bounds source
          destination).ranking ↔
      rankable ∈
        (assess request snapshot weights bounds source
          destination).rankables := by
  simp only [Assessment.ranking, rankedRankables, mem_sortBy, List.mem_filter,
    and_iff_left_iff_imp]
  intro member
  exact (mem_rankables_assess_iff.mp member).2.1

/-- Whatever heads the ranking, or is retained from it, is a chosen candidate. -/
theorem chosen_of_mem_ranking
    {rankable : Rankable}
    (member :
      rankable ∈
        (assess request snapshot weights bounds source
          destination).ranking) :
    Chosen request snapshot weights bounds source destination
      rankable.path rankable.cost := by
  obtain ⟨enumerated, feasible, feasibility, cost⟩ :=
    mem_rankables_assess_iff.mp (mem_ranking_assess_iff.mp member)
  exact
    { path := linkPath_of_mem_enumerateCandidatePaths enumerated
      feasible := by rw [← feasibility]; exact feasible
      costed := cost }

/-- The positions of the feasible candidates line up with what is ranked. -/
theorem map_getElem?_feasibleOrig
    (assessment : Assessment)
    (assessed :
      assessment = assess request snapshot weights bounds source destination) :
    assessment.feasibleOrig.map (assessment.candidates[·]?) =
      assessment.rankables.map fun rankable => some rankable.path := by
  have found := map_getElem?_filterMap_zipIdx
    (fun report : CandidateReport => report.feasibility.feasible)
    ((enumerateCandidatePaths snapshot source destination bounds).map
      (candidateReport request snapshot weights bounds))
  have projected := congrArg
    (List.map (Option.map fun report : CandidateReport => report.path)) found
  have sameCandidate :
      ∀ index : Nat,
        (enumerateCandidatePaths snapshot source destination bounds)[index]? =
          (((enumerateCandidatePaths snapshot source destination bounds).map
            (candidateReport request snapshot weights bounds))[index]?).map
              CandidateReport.path := by
    intro index
    simp [Function.comp_def]
  subst assessed
  simp only [List.map_map] at projected
  simp only [assess, sameCandidate, List.map_map]
  exact projected

/-- Each ranked position leads to the ranked candidate through both maps. -/
theorem forall₂_rankOrder_ranking
    (assessment : Assessment)
    (assessed :
      assessment = assess request snapshot weights bounds source destination) :
    List.Forall₂
      (fun position rankable =>
        assessment.rankables[position]? = some rankable ∧
          ∃ original,
            assessment.feasibleOrig[position]? = some original ∧
              assessment.candidates[original]? = some rankable.path)
      assessment.rankOrder assessment.ranking := by
  have ranked :
      assessment.rankOrder.map (assessment.rankables[·]?) =
        assessment.ranking.map some := by
    rw [assessed]
    exact map_getElem?_rankFeasible _
  rw [← List.forall₂_eq_eq_eq, List.forall₂_map_left_iff,
    List.forall₂_map_right_iff] at ranked
  apply ranked.imp
  intro position rankable found
  refine ⟨found, ?_⟩
  have originals := congrArg (·[position]?)
    (map_getElem?_feasibleOrig assessment assessed)
  simp only [List.getElem?_map, found, Option.map_some] at originals
  cases located : assessment.feasibleOrig[position]? with
  | none =>
      simp [located] at originals
  | some original =>
      refine ⟨original, rfl, ?_⟩
      simpa [located] using originals

/-- Following the ranked positions never leaves the lists. -/
theorem forall₂_orderOrig_ranking
    (assessment : Assessment)
    (assessed :
      assessment = assess request snapshot weights bounds source destination) :
    List.Forall₂
      (fun (positions : Nat × Nat) (rankable : Rankable) =>
        assessment.candidates[positions.1]? = some rankable.path ∧
          assessment.rankables[positions.2]? = some rankable)
      (assessment.orderOrig.zip assessment.rankOrder)
      assessment.ranking ∧
    assessment.orderOrig.length = assessment.ranking.length := by
  have aligned := forall₂_rankOrder_ranking assessment assessed
  unfold Assessment.orderOrig
  generalize assessment.rankOrder = order at aligned
  generalize assessment.ranking = ranking at aligned
  induction aligned with
  | nil =>
      exact ⟨List.Forall₂.nil, rfl⟩
  | cons first _ inductionHypothesis =>
      obtain ⟨ranked, original, located, candidate⟩ := first
      simp only [List.filterMap_cons, located, List.zip_cons_cons,
        List.length_cons, Nat.add_right_cancel_iff]
      exact ⟨List.Forall₂.cons ⟨candidate, ranked⟩ inductionHypothesis.1,
        inductionHypothesis.2⟩

/-- The retained candidates are the first ones of the ranking. -/
theorem retained_eq_take_ranking
    (assessment : Assessment)
    (assessed :
      assessment = assess request snapshot weights bounds source destination)
    (total : Nat) :
    assessment.retained total =
      (assessment.ranking.take total).map fun rankable =>
        (rankable.path, rankable.cost) := by
  have aligned := (forall₂_orderOrig_ranking assessment assessed).1
  unfold Assessment.retained
  generalize assessment.orderOrig.zip assessment.rankOrder = positions
    at aligned
  generalize assessment.ranking = ranking at aligned
  induction aligned generalizing total with
  | nil =>
      simp
  | cons first _ inductionHypothesis =>
      cases total with
      | zero =>
          simp
      | succ total =>
          rw [List.take_succ_cons, List.take_succ_cons, List.map_cons,
            ← inductionHypothesis]
          simp [first.1, first.2]

end

/-! ## Stages and paths -/

/-- The hop a stage carries the payload over. -/
def Stage.hop (stage : Stage) : Hop :=
  ⟨stage.link, stage.source, stage.destination⟩

/-- The path runs over the candidate, with the request's payload on each stage. -/
structure PathFrom
    (request : CommunicationRequest)
    (candidate : CandidatePath)
    (cost : CostSummary)
    (path : Path) : Prop where
  source : path.source = candidate.source
  destination : path.destination = candidate.destination
  hops : path.stages.map Stage.hop = candidate.hops
  payloads : ∀ stage ∈ path.stages, stage.payload = request.payloadSize
  totalPayload : path.totalPayload = request.payloadSize
  costed : path.cost = cost

theorem PathFrom.length_stages
    {candidate : CandidatePath}
    {cost : CostSummary}
    {path : Path}
    (built : PathFrom request candidate cost path) :
    path.stages.length = candidate.hops.length := by
  rw [← built.hops, List.length_map]

theorem ensures_buildStages
    (request : CommunicationRequest)
    (links : Map LinkId Link)
    (hops : List Hop) :
    Ensures (buildStages request links hops) fun stages =>
      stages.map Stage.hop = hops ∧
        ∀ stage ∈ stages, stage.payload = request.payloadSize := by
  induction hops with
  | nil =>
      exact Ensures.pure (by simp)
  | cons hop rest inductionHypothesis =>
      unfold buildStages
      cases links[hop.link]? with
      | none =>
          exact Ensures.throw
      | some link =>
          refine Ensures.bind Ensures.trivial ?_
          intro id _
          refine Ensures.bind inductionHypothesis ?_
          rintro later ⟨laterHops, laterPayloads⟩
          apply Ensures.pure
          constructor
          · rw [List.map_cons, laterHops]
            rfl
          · intro stage member
            rcases List.mem_cons.mp member with rfl | member
            · rfl
            · exact laterPayloads stage member

theorem ensures_makePath
    (id : PathId)
    (candidate : CandidatePath)
    (snapshot : EvidenceSnapshot)
    (request : CommunicationRequest)
    (cost : CostSummary) :
    Ensures (makePath id candidate snapshot request cost) fun path =>
      path.id = id ∧ PathFrom request candidate cost path := by
  refine Ensures.bind (ensures_buildStages _ _ _) ?_
  rintro stages ⟨hops, payloads⟩
  apply Ensures.pure
  exact ⟨rfl, rfl, rfl, hops, payloads, rfl, rfl⟩

/-- The identities of paths numbered from one. -/
def numberedIds (count : Nat) : List PathId :=
  (List.range count).map fun index => ⟨UInt64.ofNat (index + 1)⟩

/-- Appending the next path keeps the numbering. -/
theorem map_id_append_eq_numberedIds
    {paths : List Path}
    {path : Path}
    (numbered : paths.map (fun path => path.id) = numberedIds paths.length)
    (next : path.id = ⟨UInt64.ofNat (paths.length + 1)⟩) :
    (paths ++ [path]).map (fun path => path.id) =
      numberedIds (paths ++ [path]).length := by
  simp [numberedIds, List.range_succ, numbered, next] at *

theorem ensures_makePaths
    (snapshot : EvidenceSnapshot)
    (request : CommunicationRequest)
    (built : Nat)
    (retained : List (CandidatePath × CostSummary)) :
    Ensures (makePaths snapshot request built retained) fun paths =>
      paths.map (fun path => path.id) =
          (List.range retained.length).map
            (fun index => ⟨UInt64.ofNat (built + index + 1)⟩) ∧
        List.Forall₂
          (fun chosen path => PathFrom request chosen.1 chosen.2 path)
          retained paths := by
  induction retained generalizing built with
  | nil =>
      exact Ensures.pure ⟨rfl, List.Forall₂.nil⟩
  | cons chosen rest inductionHypothesis =>
      refine Ensures.bind (ensures_makePath _ _ _ _ _) ?_
      rintro path ⟨sameId, fromCandidate⟩
      refine Ensures.bind (inductionHypothesis (built + 1)) ?_
      rintro later ⟨laterIds, laterFrom⟩
      apply Ensures.pure
      constructor
      · rw [List.map_cons, laterIds, sameId, List.length_cons,
          List.range_succ_eq_map, List.map_cons, List.map_map]
        congr 1
        apply List.map_congr_left
        intro index _
        simp only [Function.comp_apply, Nat.succ_eq_add_one]
        congr 2
        omega
      · exact List.Forall₂.cons fromCandidate laterFrom

/-! ## Plans -/

/-- Paths over chosen candidates, numbered from one. -/
structure PathsFrom
    (request : CommunicationRequest)
    (snapshot : EvidenceSnapshot)
    (weights : RankingWeights)
    (bounds : Bounds)
    (paths : List Path) : Prop where
  chosen :
    ∀ path ∈ paths,
      ∃ source destination candidate cost,
        Chosen request snapshot weights bounds source destination
            candidate cost ∧
          PathFrom request candidate cost path
  numbered : paths.map (fun path => path.id) = numberedIds paths.length

/-- What holds of every plan the planner succeeds with. -/
structure Planned
    (request : CommunicationRequest)
    (snapshot : EvidenceSnapshot)
    (weights : RankingWeights)
    (bounds : Bounds)
    (plan : CommunicationPlan) : Prop where
  requestId : plan.requestId = request.id
  paths : PathsFrom request snapshot weights bounds plan.candidatePaths
  primary :
    plan.primaryPath =
      (plan.candidatePaths.head?.map fun path => path.id).getD ⟨0⟩
  stages :
    plan.orderedStages =
      (plan.candidatePaths.head?.map fun path => path.stages).getD []
  costed : ∃ components, plan.cost = .ofComponents components
  endpoints :
    plan.endpointGenerations =
      boundEndpoints snapshot.endpointMap
        ((plan.candidatePaths.flatMap fun path => path.stages).flatMap
          fun stage => [stage.source, stage.destination])
  links :
    plan.linkGenerations =
      boundLinks snapshot.linkMap
        ((plan.candidatePaths.flatMap fun path => path.stages).map
          fun stage => stage.link)
  participants :
    ∀ participant ∈ plan.collectiveParticipants,
      ∃ endpoint,
        snapshot.endpointMap[participant]? = some endpoint ∧
          endpointFresh endpoint snapshot = true

namespace PathsFrom

variable
  {request : CommunicationRequest}
  {snapshot : EvidenceSnapshot}
  {weights : RankingWeights}
  {bounds : Bounds}
  {paths : List Path}

theorem nil :
    PathsFrom request snapshot weights bounds [] :=
  ⟨by simp, rfl⟩

/-- One more path over a chosen candidate, with the next number. -/
theorem append
    {source destination : EndpointId}
    {candidate : CandidatePath}
    {cost : CostSummary}
    {path : Path}
    (sound : PathsFrom request snapshot weights bounds paths)
    (chosen :
      Chosen request snapshot weights bounds source destination
        candidate cost)
    (built : PathFrom request candidate cost path)
    (next : path.id = ⟨UInt64.ofNat (paths.length + 1)⟩) :
    PathsFrom request snapshot weights bounds (paths ++ [path]) := by
  refine ⟨?_, map_id_append_eq_numberedIds sound.numbered next⟩
  intro wanted member
  rcases List.mem_append.mp member with earlier | last
  · exact sound.chosen wanted earlier
  · rw [List.mem_singleton] at last
    subst last
    exact ⟨source, destination, candidate, cost, chosen, built⟩

end PathsFrom

section

variable
  {request : CommunicationRequest}
  {snapshot : EvidenceSnapshot}
  {weights : RankingWeights}
  {bounds : Bounds}

/-- Paths over retained candidates use exactly the hops of the candidates. -/
private theorem flatMap_hops_eq
    {retained : List (CandidatePath × CostSummary)}
    {paths : List Path}
    (built :
      List.Forall₂
        (fun chosen path => PathFrom request chosen.1 chosen.2 path)
        retained paths) :
    (retained.flatMap fun (candidate, _) => candidate.hops) =
      (paths.flatMap fun path => path.stages).map Stage.hop := by
  induction built with
  | nil =>
      rfl
  | cons first _ inductionHypothesis =>
      simp only [List.flatMap_cons, List.map_append, first.hops,
        inductionHypothesis]

/-- Paths built from chosen candidates in order are numbered paths from them. -/
private theorem pathsFrom_of_retained
    {source destination : EndpointId}
    {retained : List (CandidatePath × CostSummary)}
    {paths : List Path}
    (chosen :
      ∀ selected ∈ retained,
        Chosen request snapshot weights bounds source destination
          selected.1 selected.2)
    (ids :
      paths.map (fun path => path.id) =
        (List.range retained.length).map
          (fun index => ⟨UInt64.ofNat (0 + index + 1)⟩))
    (built :
      List.Forall₂
        (fun selected path => PathFrom request selected.1 selected.2 path)
        retained paths) :
    PathsFrom request snapshot weights bounds paths := by
  constructor
  · intro path member
    obtain ⟨selected, selectedMember, fromSelected⟩ :=
      exists_of_mem_of_forall₂ built member
    exact ⟨source, destination, selected.1, selected.2,
      chosen selected selectedMember, fromSelected⟩
  · rw [ids, built.length_eq]
    simp [numberedIds]

/-- The candidates retained for a point-to-point request are chosen ones. -/
theorem chosen_of_mem_retained
    {source destination : EndpointId}
    {total : Nat} :
    ∀ selected ∈
        (assess request snapshot weights bounds source
          destination).retained total,
      Chosen request snapshot weights bounds source destination
        selected.1 selected.2 := by
  intro selected member
  rw [retained_eq_take_ranking (assess request snapshot weights bounds source
    destination) rfl, List.mem_map] at member
  obtain ⟨rankable, taken, rfl⟩ := member
  exact chosen_of_mem_ranking (List.mem_of_mem_take taken)

/-- A plan that is returned was assembled over the paths that were made. -/
theorem ensures_pointToPoint_assembled
    {made : List (CandidatePath × CostSummary) → List Path → Prop}
    {post : CommunicationPlan → Prop}
    (makes :
      ∀ retained,
        Ensures (makePaths snapshot request 0 retained) (made retained))
    (assembles :
      ∀ destination id generation total rejected paths,
        total ≤ 1 + bounds.maxFallbacks.toNat →
        made
          ((assess request snapshot weights bounds request.source
            destination).retained total) paths →
        post
          (pointToPointPlan request snapshot id generation
            ((assess request snapshot weights bounds request.source
              destination).retained total) paths total rejected)) :
    Ensures (planPointToPoint request snapshot weights bounds)
      fun outcome => ∀ plan, outcome.plan = some plan → post plan := by
  unfold planPointToPoint
  cases request.destinations with
  | nil =>
      exact Ensures.throw
  | cons destination others =>
      simp only
      split_ifs with infeasible
      · exact Ensures.pure (by simp)
      refine Ensures.bind Ensures.trivial ?_
      intro id _
      refine Ensures.bind Ensures.trivial ?_
      intro generation _
      refine Ensures.bind (makes _) ?_
      intro paths isMade
      apply Ensures.pure
      intro plan same
      rw [Option.some.injEq] at same
      subst same
      exact assembles destination id generation _ _ paths (by omega) isMade

theorem ensures_planPointToPoint :
    Ensures (planPointToPoint request snapshot weights bounds)
      fun outcome =>
        outcome.success = true →
        ∀ plan, outcome.plan = some plan →
          Planned request snapshot weights bounds plan := by
  refine (ensures_pointToPoint_assembled (ensures_makePaths _ _ _)
    ?_).weaken fun outcome planned _ => planned
  rintro destination id generation total rejected paths - ⟨ids, built⟩
  have sound := pathsFrom_of_retained chosen_of_mem_retained ids built
  have sameHops := flatMap_hops_eq built
  refine
    { requestId := rfl
      paths := sound
      primary := rfl
      stages := rfl
      costed := ?_
      endpoints := ?_
      links := ?_
      participants := by simp [pointToPointPlan,
        CommunicationPlan.bindSnapshot] }
  · simp only [pointToPointPlan, CommunicationPlan.bindSnapshot]
    cases paths with
    | nil =>
        exact ⟨[], rfl⟩
    | cons primary fallbacks =>
        obtain ⟨_, _, _, _, chosen, fromCandidate⟩ :=
          sound.chosen primary (by simp)
        obtain ⟨components, summed⟩ :=
          evaluateCandidateCost_eq_ofComponents request snapshot _ weights
        exact ⟨components,
          (fromCandidate.costed.trans chosen.costed).trans summed⟩
  · simp only [pointToPointPlan, CommunicationPlan.bindSnapshot,
      sameHops]
    rw [List.flatMap_map]
    rfl
  · simp only [pointToPointPlan, CommunicationPlan.bindSnapshot,
      sameHops, List.map_map]
    rfl

/-- What holds of the accumulator after any number of destinations. -/
private structure MulticastInvariant
    (request : CommunicationRequest)
    (snapshot : EvidenceSnapshot)
    (weights : RankingWeights)
    (bounds : Bounds)
    (state : MulticastState) : Prop where
  paths : PathsFrom request snapshot weights bounds state.candidatePaths
  primary :
    state.primaryPath =
      (state.candidatePaths.head?.map fun path => path.id).getD ⟨0⟩

/-- A lookup through the ranking yields a chosen candidate. -/
private theorem chosen_of_rankOrder
    {source destination : EndpointId}
    {position original : Nat}
    {candidate : CandidatePath}
    (assessment : Assessment)
    (assessed :
      assessment = assess request snapshot weights bounds source destination)
    (first : assessment.rankOrder.head? = some position)
    (located : assessment.feasibleOrig[position]? = some original)
    (found : assessment.candidates[original]? = some candidate) :
    ∃ rankable,
      assessment.rankables[position]? = some rankable ∧
        candidate = rankable.path ∧
        Chosen request snapshot weights bounds source destination
          candidate rankable.cost := by
  have aligned := forall₂_rankOrder_ranking assessment assessed
  have members :
      ∀ rankable ∈ assessment.ranking,
        Chosen request snapshot weights bounds source destination
          rankable.path rankable.cost := by
    intro rankable member
    rw [assessed] at member
    exact chosen_of_mem_ranking member
  cases order : assessment.rankOrder with
  | nil =>
      simp [order] at first
  | cons head others =>
      rw [order] at aligned first
      obtain rfl : head = position := by simpa using first
      obtain ⟨rankable, rest, related, _, ranking⟩ :=
        List.forall₂_cons_left_iff.mp aligned
      obtain ⟨ranked, other, otherLocated, otherFound⟩ := related
      have sameOriginal : other = original := by
        rw [located] at otherLocated
        exact (Option.some.inj otherLocated).symm
      subst sameOriginal
      have samePath : candidate = rankable.path := by
        rw [found] at otherFound
        exact Option.some.inj otherFound
      refine ⟨rankable, ranked, samePath, ?_⟩
      rw [samePath]
      exact members rankable (by simp [ranking])

/-- The report at a position holds the cost of the candidate there. -/
private theorem cost_of_getElem?_reports
    {source destination : EndpointId}
    {original : Nat}
    {candidate : CandidatePath}
    {report : CandidateReport}
    (assessment : Assessment)
    (assessed :
      assessment = assess request snapshot weights bounds source destination)
    (found : assessment.candidates[original]? = some candidate)
    (reported : assessment.reports[original]? = some report)
    (feasible :
      (evaluateCandidateFeasibility request snapshot candidate
        bounds).feasible = true) :
    report.cost =
      evaluateCandidateCost request snapshot candidate weights := by
  subst assessed
  simp only [assess] at found reported
  rw [List.getElem?_map, found, Option.map_some, Option.some.injEq] at reported
  subst reported
  simp [candidateReport, feasible]

private theorem ensures_multicastStep
    {state : MulticastState}
    (holds : MulticastInvariant request snapshot weights bounds state)
    (destination : EndpointId) :
    Ensures (multicastStep request snapshot weights bounds state destination)
      (MulticastInvariant request snapshot weights bounds) := by
  unfold multicastStep
  simp only
  split
  · exact Ensures.pure ⟨holds.paths, holds.primary⟩
  · rename_i bestLocal candidate cost selected
    simp only [Assessment.bestLocal, Option.bind_eq_bind, Option.bind_eq_some_iff,
      Option.pure_def, Option.some.injEq, Prod.mk.injEq] at selected
    obtain ⟨original, ⟨position, first, located⟩, _, found, report, reported,
      rfl, rfl, rfl⟩ := selected
    obtain ⟨rankable, ranked, samePath, chosen⟩ :=
      chosen_of_rankOrder _ rfl first located found
    have sameReport :
        (assess request snapshot weights bounds request.source
          destination).reports[original]? = some report := by
      rw [List.getElem?_append_right (by omega)] at reported
      simpa using reported
    have sameCost := cost_of_getElem?_reports _ rfl found sameReport
      chosen.feasible
    refine Ensures.bind (ensures_makePath _ _ _ _ _) ?_
    rintro path ⟨sameId, built⟩
    apply Ensures.pure
    constructor
    · rw [sameCost, ← chosen.costed] at built
      exact holds.paths.append chosen built sameId
    · simp only
      rw [holds.primary]
      cases earlier : state.candidatePaths with
      | nil =>
          simp [Id.isNull]
      | cons primary others =>
          have numbered := holds.paths.numbered
          rw [earlier] at numbered
          simp only [numberedIds, List.length_cons, List.range_succ_eq_map,
            List.map_cons, List.cons.injEq] at numbered
          simp [numbered.1, Id.isNull]

/-- What a fan-out plan takes from the request and from its paths. -/
structure Gathers
    (request : CommunicationRequest)
    (comps : List CostComponent)
    (paths : List Path)
    (bare : CommunicationPlan) : Prop where
  requestId : bare.requestId = request.id
  fansOut : bare.shape ≠ .pointToPoint
  samePaths : bare.candidatePaths = paths
  stages :
    bare.orderedStages = (paths.head?.map fun path => path.stages).getD []
  cost : bare.cost = .ofComponents comps

/-- A fan-out plan is planned once it is bound to the snapshot. -/
private theorem planned_of_gathers
    {comps : List CostComponent}
    {paths : List Path}
    {bare : CommunicationPlan}
    (gathers : Gathers request comps paths bare)
    (sound : PathsFrom request snapshot weights bounds paths)
    (primary :
      bare.primaryPath = (paths.head?.map fun path => path.id).getD ⟨0⟩)
    (participants :
      ∀ participant ∈ bare.collectiveParticipants,
        ∃ endpoint,
          snapshot.endpointMap[participant]? = some endpoint ∧
            endpointFresh endpoint snapshot = true) :
    Planned request snapshot weights bounds
      ((bare.bindGenerations snapshot).bindSnapshot snapshot) := by
  have samePaths := gathers.samePaths
  subst samePaths
  exact
    { requestId := gathers.requestId
      paths := sound
      primary := primary
      stages := gathers.stages
      costed := ⟨comps, gathers.cost⟩
      endpoints := rfl
      links := rfl
      participants := participants }

/-- A multicast binds the plan that its destinations gathered. -/
theorem ensures_multicast_gathered
    {progress : MulticastState → Prop}
    {post : CommunicationPlan → Prop}
    (folds :
      Ensures
        (request.destinations.foldlM
          (multicastStep request snapshot weights bounds) {})
        progress)
    (binds :
      ∀ final bare,
        progress final →
        Gathers request final.comps final.candidatePaths bare →
        bare.primaryPath = final.primaryPath →
        bare.collectiveParticipants = [] →
        post ((bare.bindGenerations snapshot).bindSnapshot snapshot)) :
    Ensures (buildMulticastPlan request snapshot weights bounds)
      fun outcome => ∀ plan, outcome.plan = some plan → post plan := by
  unfold buildMulticastPlan
  refine Ensures.bind Ensures.trivial ?_
  intro id _
  refine Ensures.bind Ensures.trivial ?_
  intro generation _
  refine Ensures.bind folds ?_
  intro final progressed
  apply Ensures.pure
  intro plan same
  rw [Option.some.injEq] at same
  subst same
  exact binds final _ progressed ⟨rfl, nofun, rfl, rfl, rfl⟩ rfl rfl

theorem ensures_buildMulticastPlan :
    Ensures (buildMulticastPlan request snapshot weights bounds)
      fun outcome =>
        outcome.success = true →
        ∀ plan, outcome.plan = some plan →
          Planned request snapshot weights bounds plan := by
  have initially :
      MulticastInvariant request snapshot weights bounds {} :=
    ⟨PathsFrom.nil, rfl⟩
  have folds :=
    Ensures.foldlM request.destinations (fun state holds destination _ =>
      ensures_multicastStep holds destination) initially
  refine (ensures_multicast_gathered folds ?_).weaken
    fun outcome planned _ => planned
  intro final bare holds gathers primary participants
  refine planned_of_gathers gathers holds.paths
    (primary.trans holds.primary) ?_
  simp [participants]

private theorem ensures_collectiveLoop
    (root : EndpointId)
    (members : List EndpointId)
    {state : CollectiveState}
    (sound :
      PathsFrom request snapshot weights bounds state.candidatePaths) :
    Ensures
      (collectiveLoop request snapshot weights bounds root members state)
      fun result =>
        PathsFrom request snapshot weights bounds
          result.1.candidatePaths := by
  induction members generalizing state with
  | nil =>
      exact Ensures.pure sound
  | cons member rest inductionHypothesis =>
      unfold collectiveLoop
      split
      · exact inductionHypothesis sound
      simp only
      split
      · exact Ensures.pure sound
      · rename_i candidate cost selected
        simp only [Option.bind_eq_bind, Option.bind_eq_some_iff,
          Option.pure_def, Option.some.injEq, Prod.mk.injEq] at selected
        obtain ⟨position, first, original, located, _, found, other,
          otherFound, rfl, rfl⟩ := selected
        obtain ⟨rankable, ranked, samePath, chosen⟩ :=
          chosen_of_rankOrder _ rfl first located found
        have sameRankable : other = rankable := by
          rw [otherFound] at ranked
          exact Option.some.inj ranked
        subst sameRankable
        refine Ensures.bind (ensures_makePath _ _ _ _ _) ?_
        rintro path ⟨sameId, built⟩
        exact inductionHypothesis (sound.append chosen built sameId)

/-- The participants of an admitted collective are current. -/
private theorem fresh_of_participantRejection_eq_none
    (admitted : participantRejection request snapshot bounds = none) :
    ∀ participant ∈ request.participants,
      ∃ endpoint,
        snapshot.endpointMap[participant]? = some endpoint ∧
          endpointFresh endpoint snapshot = true := by
  unfold participantRejection at admitted
  split_ifs at admitted
  rw [List.findSome?_eq_none_iff] at admitted
  intro participant member
  have accepted := admitted participant member
  cases found : snapshot.endpointMap[participant]? with
  | none =>
      simp [found] at accepted
  | some endpoint =>
      refine ⟨endpoint, rfl, ?_⟩
      by_contra stale
      simp [found, stale] at accepted

/-- A collective that succeeds binds the plan that its members gathered. -/
theorem ensures_collective_gathered
    {progress : CollectiveState × Option EndpointId → Prop}
    {post : CommunicationPlan → Prop}
    (loops :
      ∀ root,
        Ensures
          (collectiveLoop request snapshot weights bounds root
            request.participants {})
          progress)
    (binds :
      ∀ final bare,
        participantRejection request snapshot bounds = none →
        progress (final, none) →
        Gathers request final.comps final.candidatePaths bare →
        bare.primaryPath =
          (final.candidatePaths.head?.map fun path => path.id).getD ⟨0⟩ →
        bare.collectiveParticipants = request.participants →
        post ((bare.bindGenerations snapshot).bindSnapshot snapshot)) :
    Ensures (buildCollectivePlan request snapshot weights bounds)
      fun outcome =>
        outcome.success = true →
        ∀ plan, outcome.plan = some plan → post plan := by
  unfold buildCollectivePlan
  refine Ensures.bind Ensures.trivial ?_
  intro id _
  refine Ensures.bind Ensures.trivial ?_
  intro generation _
  simp only
  split
  · exact Ensures.pure (by simp)
  · exact Ensures.throw
  · rename_i root others admitted participants
    refine Ensures.bind (loops root) ?_
    rintro ⟨final, unreached⟩ progressed
    cases unreached with
    | some member =>
        exact Ensures.pure (by simp)
    | none =>
        apply Ensures.pure
        rintro - plan same
        rw [Option.some.injEq] at same
        subst same
        exact binds final _ admitted progressed ⟨rfl, nofun, rfl, rfl, rfl⟩ rfl rfl

theorem ensures_buildCollectivePlan :
    Ensures (buildCollectivePlan request snapshot weights bounds)
      fun outcome =>
        outcome.success = true →
        ∀ plan, outcome.plan = some plan →
          Planned request snapshot weights bounds plan := by
  refine ensures_collective_gathered
    (fun root => ensures_collectiveLoop root _ PathsFrom.nil) ?_
  intro final bare admitted sound gathers primary participants
  refine planned_of_gathers gathers sound primary ?_
  rw [participants]
  exact fresh_of_participantRejection_eq_none admitted

/-- What each of the three builders ensures of the requests it gets. -/
theorem ensures_planCommunication_by_shape
    {post : PlanOutcome → Prop}
    (multicast :
      request.rejection = none →
      request.effectiveShape = .multicast →
        Ensures (buildMulticastPlan request snapshot weights bounds) post)
    (collective :
      request.rejection = none →
      request.effectiveShape = .collective →
        Ensures (buildCollectivePlan request snapshot weights bounds) post)
    (pointToPoint :
      request.effectiveShape ≠ .multicast →
      request.effectiveShape ≠ .collective →
        Ensures (planPointToPoint request snapshot weights bounds) post) :
    Ensures (planCommunication request snapshot weights bounds) post := by
  unfold planCommunication
  cases valid : request.rejection with
  | some why =>
      exact Ensures.throw
  | none =>
      simp only
      split
      · rename_i isMulticast
        exact multicast valid isMulticast
      · rename_i isCollective
        exact collective valid isCollective
      · rename_i notMulticast notCollective
        exact pointToPoint notMulticast notCollective

/-- Every plan the planner succeeds with is a planned one, for all shapes. -/
theorem ensures_planCommunication :
    Ensures (planCommunication request snapshot weights bounds)
      fun outcome =>
        outcome.success = true →
        ∀ plan, outcome.plan = some plan →
          Planned request snapshot weights bounds plan :=
  ensures_planCommunication_by_shape
    (fun _ _ => ensures_buildMulticastPlan)
    (fun _ _ => ensures_buildCollectivePlan)
    (fun _ _ => ensures_planPointToPoint)

/-! ## What holds of every path that is made -/

section

variable
  {good : Path → Prop}
  (makes :
    ∀ id candidate cost,
      Ensures (makePath id candidate snapshot request cost) good)

include makes

theorem ensures_makePaths_of_makePath
    (built : Nat)
    (retained : List (CandidatePath × CostSummary)) :
    Ensures (makePaths snapshot request built retained) fun paths =>
      ∀ path ∈ paths, good path := by
  induction retained generalizing built with
  | nil =>
      exact Ensures.pure (by simp)
  | cons chosen rest inductionHypothesis =>
      refine Ensures.bind (makes _ _ _) ?_
      intro path isGood
      refine Ensures.bind (inductionHypothesis (built + 1)) ?_
      intro later laterGood
      apply Ensures.pure
      intro visited member
      rcases List.mem_cons.mp member with rfl | member
      · exact isGood
      · exact laterGood visited member

theorem ensures_multicastStep_of_makePath
    {state : MulticastState}
    (sound : ∀ path ∈ state.candidatePaths, good path)
    (destination : EndpointId) :
    Ensures (multicastStep request snapshot weights bounds state destination)
      fun next => ∀ path ∈ next.candidatePaths, good path := by
  unfold multicastStep
  simp only
  split
  · exact Ensures.pure sound
  · refine Ensures.bind (makes _ _ _) ?_
    intro path isGood
    apply Ensures.pure
    intro visited member
    rcases List.mem_append.mp member with earlier | last
    · exact sound visited earlier
    · rw [List.mem_singleton.mp last]
      exact isGood

theorem ensures_collectiveLoop_of_makePath
    (root : EndpointId)
    (members : List EndpointId)
    {state : CollectiveState}
    (sound : ∀ path ∈ state.candidatePaths, good path) :
    Ensures
      (collectiveLoop request snapshot weights bounds root members state)
      fun result => ∀ path ∈ result.1.candidatePaths, good path := by
  induction members generalizing state with
  | nil =>
      exact Ensures.pure sound
  | cons member rest inductionHypothesis =>
      unfold collectiveLoop
      split
      · exact inductionHypothesis sound
      simp only
      split
      · exact Ensures.pure sound
      · refine Ensures.bind (makes _ _ _) ?_
        intro path isGood
        refine inductionHypothesis ?_
        intro visited member
        rcases List.mem_append.mp member with earlier | last
        · exact sound visited earlier
        · rw [List.mem_singleton.mp last]
          exact isGood

/-- What `makePath` ensures holds of every candidate path of a plan. -/
theorem ensures_planCommunication_of_makePath :
    Ensures (planCommunication request snapshot weights bounds)
      fun outcome =>
        outcome.success = true →
        ∀ plan, outcome.plan = some plan →
          ∀ path ∈ plan.candidatePaths, good path := by
  refine ensures_planCommunication_by_shape ?_ ?_ ?_
  · intro _ _
    refine (ensures_multicast_gathered
      (Ensures.foldlM _ (fun state sound destination _ =>
        ensures_multicastStep_of_makePath makes sound destination)
        (by simp)) ?_).weaken fun _ sound _ => sound
    intro final bare sound gathers _ _
    rw [← gathers.samePaths] at sound
    exact sound
  · intro _ _
    refine ensures_collective_gathered
      (fun root => ensures_collectiveLoop_of_makePath makes root _
        (by simp)) ?_
    intro final bare _ sound gathers _ _
    rw [← gathers.samePaths] at sound
    exact sound
  · intro _ _
    refine (ensures_pointToPoint_assembled
      (ensures_makePaths_of_makePath makes 0) ?_).weaken
        fun _ sound _ => sound
    intro destination id generation total rejected paths _ sound
    exact sound

end

/-- A run that can be evaluated yields the plan that it returned. -/
theorem exists_plan_of_run
    {counters : Counters}
    {test : CommunicationPlan → Bool}
    (checked :
      ((planCommunication request snapshot weights bounds).run
        counters).toOption.any (fun result =>
          result.1.success && result.1.plan.any test) = true) :
    ∃ outcome after plan,
      (planCommunication request snapshot weights bounds).run counters =
        .ok (outcome, after) ∧
      outcome.success = true ∧
      outcome.plan = some plan ∧
      test plan = true := by
  cases ran :
      (planCommunication request snapshot weights bounds).run counters with
  | error exception =>
      rw [ran] at checked
      cases checked
  | ok result =>
      simp only [ran, Except.toOption, Option.any_some, Bool.and_eq_true,
        Option.any_eq_true] at checked
      obtain ⟨success, plan, returned, passes⟩ := checked
      exact ⟨result.1, result.2, plan, rfl, success, returned, passes⟩

/-! ## The stages of a planned plan -/

section

variable {plan : CommunicationPlan}

/-- Every stage runs over a hop that passed the hard filter. -/
theorem Planned.hop_admissible
    (planned : Planned request snapshot weights bounds plan)
    {path : Path}
    (inPlan : path ∈ plan.candidatePaths)
    {stage : Stage}
    (inPath : stage ∈ path.stages) :
    ∃ link source target,
      HopAdmissible request snapshot stage.hop link source target := by
  obtain ⟨source, destination, candidate, cost, chosen, built⟩ :=
    planned.paths.chosen path inPlan
  have inCandidate : stage.hop ∈ candidate.hops := by
    rw [← built.hops]
    exact List.mem_map_of_mem inPath
  exact (evaluateCandidateFeasibility_feasible_iff.mp chosen.feasible).hops _
    inCandidate

/-- Every endpoint of a stage is bound. -/
theorem Planned.endpoint_bound
    (planned : Planned request snapshot weights bounds plan)
    {path : Path}
    (inPlan : path ∈ plan.candidatePaths)
    {stage : Stage}
    (inPath : stage ∈ path.stages)
    {id : EndpointId}
    (visited : stage.source = id ∨ stage.destination = id)
    {endpoint : Endpoint}
    (found : snapshot.endpointMap[id]? = some endpoint) :
    (endpoint.id, endpoint.generation) ∈ plan.endpointGenerations := by
  rw [planned.endpoints, boundEndpoints, mem_orderedPairs, List.mem_filterMap]
  refine ⟨id, ?_, by rw [found]; rfl⟩
  refine List.mem_flatMap.mpr ⟨stage, ?_, ?_⟩
  · exact List.mem_flatMap.mpr ⟨path, inPlan, inPath⟩
  · rcases visited with rfl | rfl <;> simp

/-- The link of every stage is bound. -/
theorem Planned.link_bound
    (planned : Planned request snapshot weights bounds plan)
    {path : Path}
    (inPlan : path ∈ plan.candidatePaths)
    {stage : Stage}
    (inPath : stage ∈ path.stages)
    {link : Link}
    (found : snapshot.linkMap[stage.link]? = some link) :
    (link.id, link.generation) ∈ plan.linkGenerations := by
  rw [planned.links, boundLinks, mem_orderedPairs, List.mem_filterMap]
  refine ⟨stage.link, ?_, by rw [found]; rfl⟩
  exact List.mem_map_of_mem (List.mem_flatMap.mpr ⟨path, inPlan, inPath⟩)

end

/-! ## The identity of a plan -/

/-- A success has a plan, and the plan of an outcome carries the identity. -/
structure Identified
    (id : CommunicationPlanId)
    (outcome : PlanOutcome) : Prop where
  id : ∀ plan, outcome.plan = some plan → plan.id = id
  present : outcome.success = true → outcome.plan.isSome = true

/-- The plan of an outcome also carries the generation. -/
structure Numbered
    (id : CommunicationPlanId)
    (generation : CommunicationPlanGeneration)
    (outcome : PlanOutcome) : Prop extends Identified id outcome where
  generation : ∀ plan, outcome.plan = some plan → plan.generation = generation

private theorem numbered_of_eq_some
    {id : CommunicationPlanId}
    {generation : CommunicationPlanGeneration}
    {outcome : PlanOutcome}
    {plan : CommunicationPlan}
    (returned : outcome.plan = some plan)
    (sameId : plan.id = id)
    (sameGeneration : plan.generation = generation) :
    Numbered id generation outcome := by
  refine ⟨⟨?_, fun _ => by rw [returned]; rfl⟩, ?_⟩
  all_goals
    intro other alsoReturned
    rw [returned] at alsoReturned
    cases alsoReturned
    assumption

/-- Every builder first draws the identity and then the generation. -/
private theorem numbered_of_run_draws
    {rest :
      CommunicationPlanId → CommunicationPlanGeneration → Planner PlanOutcome}
    (numbers :
      ∀ id generation, Ensures (rest id generation) (Numbered id generation))
    {before after : Counters}
    {outcome : PlanOutcome}
    (ran :
      (do
        let id ← nextPlanId
        let generation ← nextPlanGeneration
        rest id generation).run before = .ok (outcome, after)) :
    Numbered ⟨before.plan⟩ ⟨before.planGeneration⟩ outcome :=
  numbers ⟨before.plan⟩ ⟨before.planGeneration⟩ _ _ _ ran

private theorem numbers_buildMulticastPlan
    {before after : Counters}
    {outcome : PlanOutcome}
    (ran :
      (buildMulticastPlan request snapshot weights bounds).run before =
        .ok (outcome, after)) :
    Numbered ⟨before.plan⟩ ⟨before.planGeneration⟩ outcome := by
  refine numbered_of_run_draws ?_ ran
  intro id generation
  refine Ensures.bind Ensures.trivial ?_
  intro final _
  exact Ensures.pure (numbered_of_eq_some rfl rfl rfl)

private theorem numbers_buildCollectivePlan
    {before after : Counters}
    {outcome : PlanOutcome}
    (ran :
      (buildCollectivePlan request snapshot weights bounds).run before =
        .ok (outcome, after)) :
    Numbered ⟨before.plan⟩ ⟨before.planGeneration⟩ outcome := by
  refine numbered_of_run_draws ?_ ran
  intro id generation
  simp only
  split
  · exact Ensures.pure (numbered_of_eq_some rfl rfl rfl)
  · exact Ensures.throw
  · refine Ensures.bind Ensures.trivial ?_
    rintro ⟨final, unreached⟩ _
    cases unreached with
    | some member =>
        exact Ensures.pure (numbered_of_eq_some rfl rfl rfl)
    | none =>
        exact Ensures.pure (numbered_of_eq_some rfl rfl rfl)

private theorem numbers_planPointToPoint
    {before after : Counters}
    {outcome : PlanOutcome}
    (ran :
      (planPointToPoint request snapshot weights bounds).run before =
        .ok (outcome, after)) :
    Numbered ⟨before.plan⟩ ⟨before.planGeneration⟩ outcome := by
  unfold planPointToPoint at ran
  split at ran
  · cases ran
  · simp only at ran
    split_ifs at ran with nothing
    · cases ran
      exact ⟨⟨by simp, by simp⟩, by simp⟩
    · refine numbered_of_run_draws ?_ ran
      intro id generation
      refine Ensures.bind Ensures.trivial ?_
      intro paths _
      exact Ensures.pure (numbered_of_eq_some rfl rfl rfl)

/-- Whatever plan is returned has the next values of both counters. -/
theorem numbered_of_planCommunication
    {before after : Counters}
    {outcome : PlanOutcome}
    (ran :
      (planCommunication request snapshot weights bounds).run before =
        .ok (outcome, after)) :
    Numbered ⟨before.plan⟩ ⟨before.planGeneration⟩ outcome := by
  unfold planCommunication at ran
  split at ran
  · cases ran
  · split at ran
    · exact numbers_buildMulticastPlan ran
    · exact numbers_buildCollectivePlan ran
    · exact numbers_planPointToPoint ran

end

end CommunicationPlanner
