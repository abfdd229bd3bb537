import CommunicationPlanner.CheckedArithmetic
import CommunicationPlanner.CostModel
import CommunicationPlanner.WireProtocol

namespace CommunicationPlanner

open ByteCodec CheckedArithmetic

/-!
# The integer arithmetic of the cost of a candidate

Beside its `double`s the loop over the hops subtracts two NUMA distances in 32
bits, takes the absolute value of the result, and divides by the headroom and
one in 64 bits.  `evaluateCandidateCost?` is the evaluation with these three
operations checked.

All three operands come off the wire.  The decoder keeps the low 32 bits of a
distance and every headroom, while the encoder writes no negative distance.
-/

/-- `headroomCost` with its divisor checked. -/
def headroomCost? (link : Link) (transfer : Double) : Option Double :=
  let headroom := link.capacityEvidence.headroom.count
  if 0 < headroom then do
    let divisor ← successor? headroom
    let ratio :=
      Binary64.ofUInt64 link.costBandwidth / Binary64.ofUInt64 divisor
    pure (clampCost (transfer * ratio.minimum 100.0))
  else if link.capacityEvidence.provenance ≠ .unknown then
    pure (clampCost (transfer * 2.0))
  else
    pure 0.0

namespace HopCosts

/-- `addLocality` with its distance checked. -/
def addLocality?
    (costs : HopCosts)
    (payload : UInt64)
    (source target : Endpoint) : Option HopCosts := do
  let distance ←
    distance? target.location.numaDistance source.location.numaDistance
  pure
    { costs.addLocality payload source target with
      numa := costs.numa + clampCost (Binary64.ofInt32 distance * 200.0) }

/-- `addHop` with its integer operations checked. -/
def addHop?
    (payload : UInt64)
    (endpoints : Map EndpointId Endpoint)
    (links : Map LinkId Link)
    (costs : HopCosts)
    (hop : Hop) : Option HopCosts :=
  match links[hop.link]? with
  | none => some costs
  | some link => do
      let transfer := toTransferNs payload link.costBandwidth
      let headroom ←
        if 0 < link.capacityEvidence.headroom.count ∨
            link.capacityEvidence.provenance ≠ .unknown then do
          let cost ← headroomCost? link transfer
          pure (costs.headroom + cost)
        else
          pure costs.headroom
      let costs : HopCosts :=
        { costs with
          transfer := costs.transfer + clampCost transfer
          latency :=
            costs.latency + clampCost (Binary64.ofUInt64 link.latency.count)
          queue := costs.queue + clampCost link.congestion.penalty
          congestionPenalty :=
            costs.congestionPenalty + clampCost link.congestion.penalty
          headroom := headroom }
      let costs ←
        match endpoints[hop.source]?, endpoints[hop.target]? with
        | some source, some target => costs.addLocality? payload source target
        | _, _ => pure costs
      pure
        { costs with
          healthRisk :=
            if uncertainProvenance link.provenance then
              costs.healthRisk + clampCost (costs.transfer * 0.1)
            else
              costs.healthRisk
          worst :=
            if link.provenance = .unknown then
              .unknown
            else if link.provenance = .synthetic then
              .synthetic
            else
              costs.worst }

end HopCosts

/-- The loop of `evaluateCandidateCost`, and the one with the checks. -/
def hopCosts
    (payload : UInt64)
    (snapshot : EvidenceSnapshot)
    (hops : List Hop) : HopCosts :=
  hops.foldl
    (HopCosts.addHop payload snapshot.endpointMap snapshot.linkMap) {}

/-- The loop over the hops, defined while nothing overflows. -/
def hopCosts?
    (payload : UInt64)
    (snapshot : EvidenceSnapshot)
    (hops : List Hop) : Option HopCosts :=
  hops.foldlM
    (HopCosts.addHop? payload snapshot.endpointMap snapshot.linkMap) {}

/-- What follows the loop computes in `double`s. -/
def evaluateCandidateCost?
    (request : CommunicationRequest)
    (snapshot : EvidenceSnapshot)
    (candidate : CandidatePath)
    (weights : RankingWeights) : Option CostSummary := do
  let _ ← hopCosts? request.payloadSize.count snapshot candidate.hops
  pure (evaluateCandidateCost request snapshot candidate weights)

/-! ## When the checks succeed -/

/-- The operands of a hop are such that its integer operations fit. -/
structure Hop.StaysInRange
    (snapshot : EvidenceSnapshot)
    (hop : Hop) : Prop where
  headroom :
    ∀ link : Link, snapshot.linkMap[hop.link]? = some link →
      link.capacityEvidence.headroom.count.toNat + 1 < 2 ^ 64
  distance :
    ∀ (link : Link) (source target : Endpoint),
      snapshot.linkMap[hop.link]? = some link →
      snapshot.endpointMap[hop.source]? = some source →
      snapshot.endpointMap[hop.target]? = some target →
      (target.location.numaDistance.toInt -
        source.location.numaDistance.toInt).natAbs < 2 ^ 31

variable
  {payload : UInt64}
  {snapshot : EvidenceSnapshot}
  {hop : Hop}
  {link : Link}

theorem headroomCost?_eq_some
    (notLast : link.capacityEvidence.headroom.count.toNat + 1 < 2 ^ 64)
    (transfer : Double) :
    headroomCost? link transfer = some (headroomCost link transfer) := by
  unfold headroomCost? headroomCost
  simp only [successor?_eq_some notLast]
  split_ifs <;> rfl

theorem headroomCost?_eq_none
    (last : link.capacityEvidence.headroom.count.toNat + 1 = 2 ^ 64)
    (transfer : Double) :
    headroomCost? link transfer = none := by
  have positive : 0 < link.capacityEvidence.headroom.count := by
    rw [UInt64.lt_iff_toNat_lt, UInt64.toNat_zero]
    omega
  unfold headroomCost?
  simp only [if_pos positive, successor?_eq_none last]
  rfl

theorem staysInRange_of_absent
    (absent : snapshot.linkMap[hop.link]? = none) :
    hop.StaysInRange snapshot := by
  constructor
  · intro link found
    rw [absent] at found
    cases found
  · intro link source target found
    rw [absent] at found
    cases found

namespace HopCosts

theorem addLocality?_eq_some
    {source target : Endpoint}
    (near :
      (target.location.numaDistance.toInt -
        source.location.numaDistance.toInt).natAbs < 2 ^ 31)
    (costs : HopCosts)
    (payload : UInt64) :
    costs.addLocality? payload source target =
      some (costs.addLocality payload source target) := by
  unfold addLocality?
  rw [distance?_eq_some near]
  rfl

theorem addHop?_eq_some
    (inRange : hop.StaysInRange snapshot)
    (costs : HopCosts) :
    addHop? payload snapshot.endpointMap snapshot.linkMap costs hop =
      some (addHop payload snapshot.endpointMap snapshot.linkMap costs
        hop) := by
  unfold addHop? addHop
  cases found : snapshot.linkMap[hop.link]? with
  | none =>
      rfl
  | some link =>
      simp only [headroomCost?_eq_some (inRange.headroom link found)]
      cases sourceFound : snapshot.endpointMap[hop.source]? with
      | none =>
          split_ifs <;> rfl
      | some source =>
          cases targetFound : snapshot.endpointMap[hop.target]? with
          | none =>
              split_ifs <;> rfl
          | some target =>
              have near :=
                inRange.distance link source target found sourceFound
                  targetFound
              simp only [addLocality?_eq_some near]
              split_ifs <;> rfl

/-- One operand out of range stops the iteration, whatever it started from. -/
theorem addHop?_eq_none
    (outOfRange : ¬ hop.StaysInRange snapshot)
    (costs : HopCosts) :
    addHop? payload snapshot.endpointMap snapshot.linkMap costs hop =
      none := by
  unfold addHop?
  cases found : snapshot.linkMap[hop.link]? with
  | none =>
      exact (outOfRange (staysInRange_of_absent found)).elim
  | some link =>
      have bounded := link.capacityEvidence.headroom.count.toNat_lt
      by_cases last :
          link.capacityEvidence.headroom.count.toNat + 1 = 2 ^ 64
      · have positive : 0 < link.capacityEvidence.headroom.count := by
          rw [UInt64.lt_iff_toNat_lt, UInt64.toNat_zero]
          omega
        simp only [positive, true_or, if_true, headroomCost?_eq_none last]
        rfl
      · have notLast :
            link.capacityEvidence.headroom.count.toNat + 1 < 2 ^ 64 := by
          omega
        obtain ⟨source, target, sourceFound, targetFound, far⟩ :
            ∃ source target,
              snapshot.endpointMap[hop.source]? = some source ∧
              snapshot.endpointMap[hop.target]? = some target ∧
              2 ^ 31 ≤
                (target.location.numaDistance.toInt -
                  source.location.numaDistance.toInt).natAbs := by
          by_contra near
          push Not at near
          refine outOfRange ⟨?_, ?_⟩
          · intro other alsoFound
            rw [found] at alsoFound
            cases alsoFound
            exact notLast
          · intro _ source target _
            exact near source target
        simp only [headroomCost?_eq_some notLast, sourceFound, targetFound,
          addLocality?, distance?_eq_none far]
        split_ifs <;> rfl

end HopCosts

/-! ## Whole candidates -/

theorem hopCosts?_eq_some
    {hops : List Hop}
    (inRange : ∀ hop ∈ hops, hop.StaysInRange snapshot) :
    hopCosts? payload snapshot hops =
      some (hopCosts payload snapshot hops) :=
  foldlM_eq_some
    (fun hop member => HopCosts.addHop?_eq_some (inRange hop member)) {}

theorem hopCosts?_eq_none
    {hops : List Hop}
    (member : hop ∈ hops)
    (outOfRange : ¬ hop.StaysInRange snapshot) :
    hopCosts? payload snapshot hops = none :=
  foldlM_eq_none member (HopCosts.addHop?_eq_none outOfRange) {}

/-- Over any evidence the operands decide whether the evaluation is defined. -/
theorem evaluateCandidateCost?_eq_some_iff
    (request : CommunicationRequest)
    (snapshot : EvidenceSnapshot)
    (candidate : CandidatePath)
    (weights : RankingWeights) :
    evaluateCandidateCost? request snapshot candidate weights =
        some (evaluateCandidateCost request snapshot candidate weights) ↔
      ∀ hop ∈ candidate.hops, hop.StaysInRange snapshot := by
  unfold evaluateCandidateCost?
  constructor
  · intro defined hop member
    by_contra outOfRange
    rw [hopCosts?_eq_none member outOfRange] at defined
    cases defined
  · intro inRange
    rw [hopCosts?_eq_some inRange]
    rfl

/-! ## Evidence off the wire -/

/-- The messages in the frames that `decodeMessage` accepts. -/
def decodedMessages (frames : List Frame) : List Message :=
  frames.filterMap fun frame =>
    (decodeMessage frame.type frame.payload).toOption

/-- The endpoints and the links among the messages. -/
def decodedEvidence (frames : List Frame) : EvidenceSnapshot :=
  let messages := decodedMessages frames
  { endpoints :=
      (messages.filter fun message =>
        message.type = .publishEndpoint).map fun message => message.endpoint
    links :=
      (messages.filter fun message =>
        message.type = .publishLink).map fun message => message.link }

/--
Whatever is received, the integer operations over a candidate stay in range
exactly when no link of it has the last headroom and no hop spans `2 ^ 31` or
more of NUMA distance.
-/
theorem decoded_cost_stays_in_range_iff
    (frames : List Frame)
    (request : CommunicationRequest)
    (candidate : CandidatePath)
    (weights : RankingWeights) :
    evaluateCandidateCost? request (decodedEvidence frames) candidate
        weights =
      some (evaluateCandidateCost request (decodedEvidence frames) candidate
        weights) ↔
      ∀ hop ∈ candidate.hops,
        hop.StaysInRange (decodedEvidence frames) :=
  evaluateCandidateCost?_eq_some_iff request (decodedEvidence frames)
    candidate weights

/-- An endpoint whose distance is spelled with the number. -/
def endpointFrame (id : EndpointId) (distance : UInt64) : Frame :=
  let endpoint := encEndpoint (mkEndpoint id ⟨1⟩ .gpuDevice .tcp)
  { type := .publishEndpoint
    payload :=
      [ writeU64 1,
        writeU64 1,
        endpoint.take (endpoint.length - 8),
        writeU64 distance ].flatten }

/-- The frame that publishes a link with a given headroom. -/
def linkFrame
    (id : LinkId)
    (source destination : EndpointId)
    (headroom : UInt64) : Frame :=
  { type := .publishLink
    payload :=
      encodeMessage (CoordinatorClient.publishLink ⟨1⟩ ⟨1⟩
        (mkLink id ⟨1⟩ source destination .tcp headroom)) }

/-- Publications with the least NUMA distance and the greatest headroom. -/
def extremeFrames : List Frame :=
  [ endpointFrame ⟨1⟩ 0,
    endpointFrame ⟨2⟩ 0x80000000,
    endpointFrame ⟨3⟩ 0,
    linkFrame ⟨1⟩ ⟨1⟩ ⟨2⟩ 1000,
    linkFrame ⟨2⟩ ⟨2⟩ ⟨1⟩ 1000,
    linkFrame ⟨3⟩ ⟨1⟩ ⟨3⟩ 0xFFFFFFFFFFFFFFFF ]

/-- A candidate of one hop. -/
def overLink
    (link : LinkId)
    (source target : EndpointId) : CandidatePath :=
  ⟨source, target, [⟨link, source, target⟩]⟩

/--
Every frame is accepted.  To the second endpoint the absolute value overflows,
from it the difference does, and over the third link the divisor is zero.
-/
theorem extreme_evidence_leaves_the_range :
    (∀ frame ∈ extremeFrames,
      (decodeMessage frame.type frame.payload).toOption.isSome = true) ∧
    ∀ candidate ∈
        [overLink ⟨1⟩ ⟨1⟩ ⟨2⟩, overLink ⟨2⟩ ⟨2⟩ ⟨1⟩, overLink ⟨3⟩ ⟨1⟩ ⟨3⟩],
      (evaluateCandidateCost?
        (mkRequest ⟨1⟩ candidate.source candidate.destination 4096)
        (decodedEvidence extremeFrames) candidate {}).isNone = true := by
  decide +kernel

end CommunicationPlanner
