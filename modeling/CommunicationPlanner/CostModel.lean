import CommunicationPlanner.Feasibility

namespace CommunicationPlanner

/-!
# The cost of a feasible candidate

`evaluateCandidateCost` accumulates named cost factors in `double`s, in one
pass over the hops, and sums the weighted factors into a checked total.  The
arithmetic is that of `Binary64`, in the order of the source, since the result
of a floating-point sum depends on it.

Every factor is clamped, so no factor of a candidate's cost is ever NaN;
ranking relies on this.
-/

/-- The upper end of the clamp. -/
def kMaxCost : Double :=
  1e18

/-- `clampCost`: into the range of costs. -/
def clampCost (value : Double) : Double :=
  if value.isNaN then
    kMaxCost
  else if value.less 0.0 then
    0.0
  else if value.isInf || kMaxCost.less value then
    kMaxCost
  else
    value

/-- A clamped value is a number. -/
theorem isNaN_clampCost
    (value : Double) :
    (clampCost value).isNaN = false := by
  unfold clampCost
  split_ifs with notNumber negative large
  · decide +kernel
  · decide +kernel
  · decide +kernel
  · simpa using notNumber

/-- `toTransferNs`: how long a payload takes, as far as that is a cost. -/
def toTransferNs (payload bandwidth : UInt64) : Double :=
  if payload = 0 then
    0.0
  else if bandwidth = 0 then
    kMaxCost
  else
    clampCost ((Binary64.ofUInt64 payload * 1e9) / Binary64.ofUInt64 bandwidth)

/-! ## Weights and summaries -/

/-- Explicit weights by factor; a factor without one has a default weight. -/
structure RankingWeights where
  weights : CostFactor → Option Double := fun _ => none

/-- `RankingWeights::weightOf`, with the weights that it falls back to. -/
def RankingWeights.weightOf
    (weights : RankingWeights)
    (factor : CostFactor) : Double :=
  match weights.weights factor with
  | some weight => weight
  | none =>
      match factor with
      | .hopCount => 0.5
      | .unknown => 0.0
      | _ => 1.0

namespace CostSummary

/-- `CostSummary::totalValid`. -/
def totalValid (cost : CostSummary) : Bool :=
  !cost.total.isNaN && !cost.total.isInf

/-- The weighted sum, which an invalid component or an overflow makes infinite. -/
def totalOf : List CostComponent → Double → Double
  | [], total => total
  | component :: rest, total =>
      if !component.isValid then
        .posInf
      else
        let next := total + component.weight * component.value
        if next.isInf || next.isNaN then .posInf else totalOf rest next

/-- `CostSummary::of`. -/
def ofComponents (components : List CostComponent) : CostSummary :=
  { components := components
    total := totalOf components 0.0 }

/-- `uncertaintyCount`: how many components are unknown. -/
def uncertaintyCount (cost : CostSummary) : Double :=
  cost.components.foldl (fun uncertainty component =>
    if component.provenance = .unknown then
      uncertainty + 1.0
    else
      uncertainty) 0.0

/-- Counting unknown factors never leaves the numbers. -/
theorem isNaN_uncertaintyCount
    (cost : CostSummary) :
    cost.uncertaintyCount.isNaN = false := by
  have counted :
      ∀ (components : List CostComponent) (start : Double),
        start.isNaN = false →
        (components.foldl (fun uncertainty component =>
          if component.provenance = .unknown then
            uncertainty + 1.0
          else
            uncertainty) start).isNaN = false := by
    intro components
    induction components with
    | nil =>
        intro start number
        exact number
    | cons component rest inductionHypothesis =>
        intro start number
        simp only [List.foldl_cons]
        apply inductionHypothesis
        split
        · exact Binary64.isNaN_add number (by decide +kernel)
            (by decide +kernel)
        · exact number
  exact counted cost.components 0.0 (by decide +kernel)

/-- A finite total means that every component passed its check. -/
theorem isValid_of_totalValid
    {components : List CostComponent}
    (finite : (ofComponents components).totalValid = true) :
    ∀ component ∈ components, component.isValid = true := by
  have infinite : (({ total := Binary64.posInf } : CostSummary)).totalValid =
      false := by
    decide +kernel
  have valid :
      ∀ (components : List CostComponent) (start : Double),
        ({ total := totalOf components start } : CostSummary).totalValid =
          true →
        ∀ component ∈ components, component.isValid = true := by
    intro components
    induction components with
    | nil =>
        simp
    | cons component rest inductionHypothesis =>
        intro start finite
        simp only [totalOf] at finite
        split_ifs at finite with invalid overflow
        · rw [infinite] at finite
          cases finite
        · rw [infinite] at finite
          cases finite
        · intro wanted member
          rcases List.mem_cons.mp member with same | later
          · subst same
            simpa using invalid
          · exact inductionHypothesis _ finite wanted later
  exact valid components 0.0 finite

end CostSummary

/-! ## Provenance -/

/-- `provenanceRank`: a greater rank is trusted less. -/
def provenanceRank : Provenance → Nat
  | .measured => 0
  | .reported => 1
  | .derived => 2
  | .estimated => 3
  | .forecast => 4
  | .synthetic => 5
  | .unknown => 6

/-- The least trustworthy provenance in a summary. -/
def worstProvenance (cost : CostSummary) : Provenance :=
  cost.components.foldl (fun worst component =>
    if provenanceRank worst < provenanceRank component.provenance then
      component.provenance
    else
      worst) .measured

/-! ## Candidates -/

/-- The accumulators of the loop over the hops. -/
structure HopCosts where
  latency : Double := 0.0
  transfer : Double := 0.0
  queue : Double := 0.0
  congestionPenalty : Double := 0.0
  headroom : Double := 0.0
  numa : Double := 0.0
  pcie : Double := 0.0
  nic : Double := 0.0
  storage : Double := 0.0
  healthRisk : Double := 0.0
  worst : Provenance := .measured

/-- The bandwidth a transfer is costed with: the effective one if it is known. -/
def Link.costBandwidth (link : Link) : UInt64 :=
  if link.effectiveBandwidth.count = 0 then
    link.capacity.count
  else
    link.effectiveBandwidth.count

/-- Less headroom means more contention. -/
def headroomCost (link : Link) (transfer : Double) : Double :=
  let headroom := link.capacityEvidence.headroom.count
  if 0 < headroom then
    let ratio :=
      Binary64.ofUInt64 link.costBandwidth / Binary64.ofUInt64 (headroom + 1)
    clampCost (transfer * ratio.minimum 100.0)
  else if link.capacityEvidence.provenance ≠ .unknown then
    clampCost (transfer * 2.0)
  else
    0.0

/-- The distance penalties of a hop whose two ends are known. -/
def HopCosts.addLocality
    (costs : HopCosts)
    (payload : UInt64)
    (source target : Endpoint) : HopCosts :=
  let bytes := Binary64.ofUInt64 payload
  let distance :=
    (target.location.numaDistance - source.location.numaDistance).abs
  { costs with
    numa := costs.numa + clampCost (Binary64.ofInt32 distance * 200.0)
    pcie :=
      if source.location.pcieRoot ≠ target.location.pcieRoot then
        costs.pcie + clampCost (bytes * 1e-6)
      else
        costs.pcie
    nic :=
      if source.location.nic ≠ target.location.nic then
        costs.nic + clampCost (bytes * 2e-6)
      else
        costs.nic
    storage :=
      if source.kind = .storage ∨ target.kind = .storage then
        costs.storage + clampCost (bytes * 1e-6)
      else
        costs.storage }

/-- The provenances that make a link's health uncertain. -/
def uncertainProvenance : Provenance → Bool
  | .unknown | .estimated | .forecast | .synthetic => true
  | .measured | .reported | .derived => false

/--
One iteration of the loop over the hops; an unknown link is skipped.  The health
risk is charged on the transfer accumulated so far, not on that of this hop.
-/
def HopCosts.addHop
    (payload : UInt64)
    (endpoints : Map EndpointId Endpoint)
    (links : Map LinkId Link)
    (costs : HopCosts)
    (hop : Hop) : HopCosts :=
  match links[hop.link]? with
  | none => costs
  | some link =>
      let transfer := toTransferNs payload link.costBandwidth
      let costs : HopCosts :=
        { costs with
          transfer := costs.transfer + clampCost transfer
          latency :=
            costs.latency + clampCost (Binary64.ofUInt64 link.latency.count)
          queue := costs.queue + clampCost link.congestion.penalty
          congestionPenalty :=
            costs.congestionPenalty + clampCost link.congestion.penalty
          headroom :=
            if 0 < link.capacityEvidence.headroom.count ∨
                link.capacityEvidence.provenance ≠ .unknown then
              costs.headroom + headroomCost link transfer
            else
              costs.headroom }
      let costs :=
        match endpoints[hop.source]?, endpoints[hop.target]? with
        | some source, some target => costs.addLocality payload source target
        | _, _ => costs
      { costs with
        healthRisk :=
          if uncertainProvenance link.provenance then
            costs.healthRisk + clampCost (costs.transfer * 0.1)
          else
            costs.healthRisk
        worst :=
          if link.provenance = .unknown then
            .unknown
          else if link.provenance = .synthetic then
            .synthetic
          else
            costs.worst }

/-- The interior endpoints whose kinds decide the staging factors. -/
def interiorKinds
    (endpoints : Map EndpointId Endpoint)
    (hops : List Hop) : List EndpointKind :=
  hops.dropLast.filterMap fun hop =>
    endpoints[hop.target]?.map fun endpoint => endpoint.kind

/-- `evaluateCandidateCost`: one component for each factor. -/
def evaluateCandidateCost
    (request : CommunicationRequest)
    (snapshot : EvidenceSnapshot)
    (candidate : CandidatePath)
    (weights : RankingWeights) : CostSummary :=
  let endpoints := snapshot.endpointMap
  let links := snapshot.linkMap
  let payload := request.payloadSize.count
  let bytes := Binary64.ofUInt64 payload
  let hopCount := Binary64.ofUInt64 (UInt64.ofNat candidate.hops.length)
  let kinds := interiorKinds endpoints candidate.hops
  let hasStaging := 1 < candidate.hops.length
  let hasStorageStaging := EndpointKind.storage ∈ kinds
  let hasHostStaging :=
    ∃ kind ∈ kinds, stagingRelay kind = true ∧ kind ≠ .storage
  let costs := candidate.hops.foldl (HopCosts.addHop payload endpoints links) {}
  let stage := if hasStaging then 0.0 + clampCost (bytes * 4e-6) else 0.0
  let hostStage :=
    if hasHostStaging then 0.0 + clampCost (bytes * 3e-6) else 0.0
  let storage :=
    if hasStorageStaging then
      costs.storage + clampCost (bytes * 6e-6)
    else
      costs.storage
  let reliability := clampCost (hopCount * 1e-3)
  let movement := clampCost (costs.transfer + stage + hostStage)
  let component
      (factor : CostFactor)
      (value : Double)
      (provenance : Provenance) : CostComponent :=
    ⟨factor, weights.weightOf factor, clampCost value, provenance⟩
  .ofComponents
    [ component .pathLatency costs.latency costs.worst,
      component .effectiveBandwidth costs.transfer costs.worst,
      component .residualBandwidth costs.headroom costs.worst,
      component .congestionPenalty costs.congestionPenalty costs.worst,
      component .queueingEstimate costs.queue costs.worst,
      component .hopCount hopCount .derived,
      component .stageCount hopCount .derived,
      component .stagingOverhead stage
        (if hasStaging then costs.worst else .derived),
      component .hostStagingCost hostStage
        (if hasHostStaging then costs.worst else .derived),
      component .numaDistance costs.numa .derived,
      component .pcieLocality costs.pcie .derived,
      component .nicLocality costs.nic .derived,
      component .storageLocality storage .derived,
      component .endpointHealth costs.healthRisk costs.worst,
      component .reservationFit 0.0 .derived,
      component .capacityHeadroom costs.headroom costs.worst,
      component .failureDomainRisk 0.0 .derived,
      component .reliability reliability .derived,
      component .movementCost movement costs.worst ]

/-- The total of a candidate's cost is the checked sum of its components. -/
theorem evaluateCandidateCost_eq_ofComponents
    (request : CommunicationRequest)
    (snapshot : EvidenceSnapshot)
    (candidate : CandidatePath)
    (weights : RankingWeights) :
    ∃ components,
      evaluateCandidateCost request snapshot candidate weights =
        .ofComponents components :=
  ⟨_, rfl⟩

/-- No factor of a candidate's cost is NaN. -/
theorem isNaN_of_mem_evaluateCandidateCost
    {request : CommunicationRequest}
    {snapshot : EvidenceSnapshot}
    {candidate : CandidatePath}
    {weights : RankingWeights}
    {component : CostComponent}
    (member :
      component ∈
        (evaluateCandidateCost request snapshot candidate
          weights).components) :
    component.value.isNaN = false := by
  simp only [evaluateCandidateCost, CostSummary.ofComponents, List.mem_cons,
    List.not_mem_nil, or_false] at member
  rcases member with
    rfl | rfl | rfl | rfl | rfl | rfl | rfl | rfl | rfl | rfl | rfl | rfl |
    rfl | rfl | rfl | rfl | rfl | rfl | rfl
  all_goals exact isNaN_clampCost _

end CommunicationPlanner
