import CommunicationPlanner.CostModel

namespace CommunicationPlanner

/-!
# The provenance of a candidate's cost

The factors that come from the links are meant to carry the least trustworthy
provenance among them.  The loop over the hops keeps the provenance in one
variable, which an `UNKNOWN` and a `SYNTHETIC` link overwrite and no other link
touches, so that the last of these decides.
-/

/-! ## The least trusted provenance -/

/-- The provenances of the links that the hops run over, in the order of the hops. -/
def linkProvenances
    (snapshot : EvidenceSnapshot)
    (hops : List Hop) : List Provenance :=
  hops.filterMap fun hop =>
    snapshot.linkMap[hop.link]?.map fun link => link.provenance

/-- One of the provenances, and none of them is less trustworthy. -/
def LeastTrusted
    (provenances : List Provenance)
    (provenance : Provenance) : Prop :=
  (provenances = [] ∧ provenance = .measured) ∨
    (provenance ∈ provenances ∧
      ∀ other ∈ provenances,
        provenanceRank other ≤ provenanceRank provenance)

/-- What one link does to the variable of the loop. -/
def overwriteWorst (worst provenance : Provenance) : Provenance :=
  if provenance = .unknown then
    .unknown
  else if provenance = .synthetic then
    .synthetic
  else
    worst

variable {provenances : List Provenance}

/-- After some `UNKNOWN` link there is no `SYNTHETIC` one. -/
def UnknownLast (provenances : List Provenance) : Prop :=
  ∃ earlier later,
    provenances = earlier ++ .unknown :: later ∧ .synthetic ∉ later

/--
One more link comes last if it is unknown, and else keeps the last unless it is
synthetic.
-/
theorem unknownLast_append_singleton_iff
    {provenance : Provenance} :
    UnknownLast (provenances ++ [provenance]) ↔
      provenance = .unknown ∨
        (provenance ≠ .synthetic ∧ UnknownLast provenances) := by
  constructor
  · rintro ⟨earlier, later, split, absent⟩
    rcases List.eq_nil_or_concat' later with rfl | ⟨rest, last, rfl⟩
    · have same := (List.append_inj' split rfl).2
      rw [List.cons.injEq] at same
      exact .inl same.1
    · rw [← List.cons_append, ← List.append_assoc] at split
      obtain ⟨sameRest, same⟩ := List.append_inj' split rfl
      rw [List.cons.injEq] at same
      refine .inr ⟨?_, earlier, rest, sameRest, ?_⟩
      · intro synthetic
        apply absent
        simp [← same.1, synthetic]
      · exact fun member => absent (List.mem_append_left _ member)
  · rintro (rfl | ⟨notSynthetic, earlier, later, rfl, absent⟩)
    · exact ⟨provenances, [], rfl, List.not_mem_nil⟩
    · refine ⟨earlier, later ++ [provenance], by simp, ?_⟩
      simp [absent, Ne.symm notSynthetic]

/-- Only the last `UNKNOWN` or `SYNTHETIC` link matters. -/
theorem foldl_overwriteWorst_eq_unknown_iff :
    provenances.foldl overwriteWorst .measured = .unknown ↔
      UnknownLast provenances := by
  induction provenances using List.reverseRecOn with
  | nil =>
      simp [UnknownLast]
  | append_singleton done provenance inductionHypothesis =>
      rw [List.foldl_append, List.foldl_cons, List.foldl_nil, overwriteWorst,
        unknownLast_append_singleton_iff, ← inductionHypothesis]
      split_ifs with unknown synthetic
      · simp [unknown]
      · simp [synthetic]
      · simp [unknown, synthetic]

/-- The variable holds `UNKNOWN`, `SYNTHETIC` or what it started with. -/
theorem foldl_overwriteWorst_cases
    (provenances : List Provenance) :
    (provenances.foldl overwriteWorst .measured = .unknown ∧
      .unknown ∈ provenances) ∨
    (provenances.foldl overwriteWorst .measured = .synthetic ∧
      .synthetic ∈ provenances) ∨
    (provenances.foldl overwriteWorst .measured = .measured ∧
      .unknown ∉ provenances ∧ .synthetic ∉ provenances) := by
  induction provenances using List.reverseRecOn with
  | nil =>
      simp
  | append_singleton done provenance inductionHypothesis =>
      rw [List.foldl_append, List.foldl_cons, List.foldl_nil, overwriteWorst]
      split_ifs with unknown synthetic
      · simp [unknown]
      · simp [synthetic]
      · simpa [Ne.symm unknown, Ne.symm synthetic] using inductionHypothesis

/-- Nothing is trusted less than the least trusted. -/
theorem LeastTrusted.rank_le
    {provenance other : Provenance}
    (least : LeastTrusted provenances provenance)
    (member : other ∈ provenances) :
    provenanceRank other ≤ provenanceRank provenance := by
  rcases least with ⟨empty, _⟩ | ⟨_, greatest⟩
  · simp [empty] at member
  · exact greatest other member

/-! ## When the last one is the least trusted one -/

/-- The orders and kinds of links for which overwriting keeps the maximum. -/
def KeepsLeastTrusted (provenances : List Provenance) : Prop :=
  UnknownLast provenances ∨
    (.unknown ∉ provenances ∧ .synthetic ∈ provenances) ∨
    ∀ provenance ∈ provenances, provenance = .measured

/-- Nothing is trusted less than the unknown. -/
theorem rank_le_unknown
    (provenance : Provenance) :
    provenanceRank provenance ≤ provenanceRank .unknown := by
  cases provenance <;> decide

/-- Where something is unknown, it is trusted least. -/
theorem leastTrusted_unknown
    (member : .unknown ∈ provenances) :
    LeastTrusted provenances .unknown :=
  .inr ⟨member, fun other _ => rank_le_unknown other⟩

/-- The synthetic is trusted least exactly where nothing is unknown. -/
theorem leastTrusted_synthetic_iff
    (member : .synthetic ∈ provenances) :
    LeastTrusted provenances .synthetic ↔ .unknown ∉ provenances := by
  constructor
  · intro least unknown
    exact absurd (least.rank_le unknown) (by decide)
  · intro noUnknown
    refine .inr ⟨member, ?_⟩
    intro other inLinks
    have known : other ≠ .unknown := by
      rintro rfl
      exact noUnknown inLinks
    cases other <;> first | decide | exact absurd rfl known

/-- The measured is trusted least exactly where all is measured. -/
theorem leastTrusted_measured_iff :
    LeastTrusted provenances .measured ↔
      ∀ provenance ∈ provenances, provenance = .measured := by
  constructor
  · intro least provenance inLinks
    have atMost := least.rank_le inLinks
    cases provenance <;> first | rfl | exact absurd atMost (by decide)
  · intro allMeasured
    cases provenances with
    | nil =>
        exact .inl ⟨rfl, rfl⟩
    | cons first rest =>
        have firstMeasured := allMeasured first List.mem_cons_self
        refine .inr ⟨firstMeasured ▸ List.mem_cons_self, ?_⟩
        intro other inLinks
        rw [allMeasured other inLinks]

/-- What comes last is there. -/
theorem unknown_mem_of_unknownLast
    (unknownLast : UnknownLast provenances) :
    .unknown ∈ provenances := by
  obtain ⟨earlier, later, rfl, _⟩ := unknownLast
  exact List.mem_append_right _ List.mem_cons_self

/-- In each of the three cases one of the alternatives is left. -/
theorem leastTrusted_foldl_overwriteWorst_iff :
    LeastTrusted provenances
        (provenances.foldl overwriteWorst .measured) ↔
      KeepsLeastTrusted provenances := by
  rcases foldl_overwriteWorst_cases provenances with
    ⟨isUnknown, member⟩ | ⟨isSynthetic, member⟩ | ⟨isMeasured, none⟩
  · have unknownLast := foldl_overwriteWorst_eq_unknown_iff.mp isUnknown
    rw [isUnknown]
    exact iff_of_true (leastTrusted_unknown member) (.inl unknownLast)
  · have notLast : ¬UnknownLast provenances := by
      rw [← foldl_overwriteWorst_eq_unknown_iff, isSynthetic]
      simp
    have notMeasured :
        ¬∀ provenance ∈ provenances, provenance = .measured := by
      intro allMeasured
      cases allMeasured _ member
    rw [isSynthetic, leastTrusted_synthetic_iff member]
    simp only [KeepsLeastTrusted, notLast, notMeasured, member, and_true,
      false_or, or_false]
  · have notLast : ¬UnknownLast provenances := by
      intro unknownLast
      exact none.1 (unknown_mem_of_unknownLast unknownLast)
    rw [isMeasured, leastTrusted_measured_iff]
    simp only [KeepsLeastTrusted, notLast, none.2, and_false, false_or]

/-! ## The cost of a candidate -/

variable
  {request : CommunicationRequest}
  {snapshot : EvidenceSnapshot}
  {candidate : CandidatePath}
  {weights : RankingWeights}

theorem worst_addHop
    (payload : UInt64)
    (endpoints : Map EndpointId Endpoint)
    (links : Map LinkId Link)
    (costs : HopCosts)
    (hop : Hop) :
    (costs.addHop payload endpoints links hop).worst =
      (links[hop.link]?.map fun link => link.provenance).elim costs.worst
        (overwriteWorst costs.worst) := by
  unfold HopCosts.addHop
  cases links[hop.link]? with
  | none => rfl
  | some link =>
      simp only [Option.map_some, Option.elim_some, overwriteWorst]
      by_cases unknown : link.provenance = .unknown
      · simp only [if_pos unknown]
      by_cases synthetic : link.provenance = .synthetic
      · simp only [if_neg unknown, if_pos synthetic]
      · simp only [if_neg unknown, if_neg synthetic]
        split <;> rfl

/-- The loop leaves what the links have written, in the order of the hops. -/
theorem worst_foldl_addHop
    (snapshot : EvidenceSnapshot)
    (payload : UInt64)
    (endpoints : Map EndpointId Endpoint)
    (hops : List Hop)
    (costs : HopCosts) :
    (hops.foldl (HopCosts.addHop payload endpoints snapshot.linkMap)
        costs).worst =
      (linkProvenances snapshot hops).foldl overwriteWorst costs.worst := by
  induction hops generalizing costs with
  | nil =>
      rfl
  | cons hop rest inductionHypothesis =>
      rw [List.foldl_cons, inductionHypothesis, worst_addHop]
      unfold linkProvenances
      cases found : snapshot.linkMap[hop.link]? with
      | none =>
          simp [found]
      | some link =>
          simp [found]

/-- The factors that the links alone decide. -/
def linkDerived : CostFactor → Bool
  | .pathLatency | .effectiveBandwidth | .residualBandwidth
  | .congestionPenalty | .queueingEstimate | .endpointHealth
  | .movementCost => true
  | _ => false

/-- The provenance that the links of a candidate leave behind. -/
def tracked
    (snapshot : EvidenceSnapshot)
    (candidate : CandidatePath) : Provenance :=
  (linkProvenances snapshot candidate.hops).foldl overwriteWorst .measured

/-- Every factor that the links decide carries the tracked provenance. -/
theorem provenance_of_linkDerived
    {component : CostComponent}
    (member :
      component ∈
        (evaluateCandidateCost request snapshot candidate weights).components)
    (derived : linkDerived component.factor = true) :
    component.provenance = tracked snapshot candidate := by
  simp only [evaluateCandidateCost, CostSummary.ofComponents, List.mem_cons,
    List.not_mem_nil, or_false] at member
  rcases member with
    rfl | rfl | rfl | rfl | rfl | rfl | rfl | rfl | rfl | rfl | rfl | rfl |
    rfl | rfl | rfl | rfl | rfl | rfl | rfl
  all_goals first
    | exact worst_foldl_addHop _ _ _ _ _
    | cases derived

/-- The candidate has a factor that the links decide: its latency. -/
theorem exists_linkDerived
    (request : CommunicationRequest)
    (snapshot : EvidenceSnapshot)
    (candidate : CandidatePath)
    (weights : RankingWeights) :
    ∃ component ∈
        (evaluateCandidateCost request snapshot candidate weights).components,
      linkDerived component.factor = true := by
  simp only [evaluateCandidateCost, CostSummary.ofComponents]
  exact ⟨_, List.mem_cons_self, rfl⟩

/-- The factors that the links decide carry the least trusted provenance. -/
def AttachesLeastTrusted
    (request : CommunicationRequest)
    (snapshot : EvidenceSnapshot)
    (candidate : CandidatePath)
    (weights : RankingWeights) : Prop :=
  ∀ component ∈
      (evaluateCandidateCost request snapshot candidate weights).components,
    linkDerived component.factor = true →
      LeastTrusted (linkProvenances snapshot candidate.hops)
        component.provenance

theorem attachesLeastTrusted_iff :
    AttachesLeastTrusted request snapshot candidate weights ↔
      KeepsLeastTrusted (linkProvenances snapshot candidate.hops) := by
  rw [← leastTrusted_foldl_overwriteWorst_iff]
  constructor
  · intro attaches
    obtain ⟨component, member, derived⟩ :=
      exists_linkDerived request snapshot candidate weights
    have least := attaches component member derived
    rwa [provenance_of_linkDerived member derived] at least
  · intro least component member derived
    rw [provenance_of_linkDerived member derived]
    exact least

/-! ## Unknown factors -/

/-- The provenances of a cost's components depend on the links and the staging. -/
theorem map_provenance_evaluateCandidateCost
    (request : CommunicationRequest)
    (snapshot : EvidenceSnapshot)
    (candidate : CandidatePath)
    (weights : RankingWeights) :
    ∃ staging hostStaging : Bool,
      (evaluateCandidateCost request snapshot candidate
          weights).components.map (fun component => component.provenance) =
        let worst := tracked snapshot candidate
        [worst, worst, worst, worst, worst, .derived, .derived,
          if staging then worst else .derived,
          if hostStaging then worst else .derived,
          .derived, .derived, .derived, .derived, worst, .derived, worst,
          .derived, .derived, worst] := by
  have isTracked := worst_foldl_addHop snapshot
    request.payloadSize.count snapshot.endpointMap candidate.hops {}
  refine
    ⟨decide (1 < candidate.hops.length),
      decide (∃ kind ∈ interiorKinds snapshot.endpointMap candidate.hops,
        stagingRelay kind = true ∧ kind ≠ .storage), ?_⟩
  simp only [evaluateCandidateCost, CostSummary.ofComponents, List.map_cons,
    List.map_nil, isTracked, decide_eq_true_eq]
  rfl

/-- The factors of unknown provenance are counted unless there are none. -/
theorem uncertaintyCount_eq_zero_iff
    (request : CommunicationRequest)
    (snapshot : EvidenceSnapshot)
    (candidate : CandidatePath)
    (weights : RankingWeights) :
    (evaluateCandidateCost request snapshot candidate
        weights).uncertaintyCount.same 0.0 = true ↔
      tracked snapshot candidate ≠ .unknown := by
  obtain ⟨staging, hostStaging, provenances⟩ :=
    map_provenance_evaluateCandidateCost request snapshot candidate weights
  have counted :
      (evaluateCandidateCost request snapshot candidate
          weights).uncertaintyCount =
        ((evaluateCandidateCost request snapshot candidate
          weights).components.map fun component =>
            component.provenance).foldl (fun uncertainty provenance =>
              if provenance = .unknown then
                uncertainty + 1.0
              else
                uncertainty) (0.0 : Double) := by
    rw [List.foldl_map]
    rfl
  rw [counted, provenances]
  by_cases unknown : tracked snapshot candidate = .unknown
  · rw [unknown]
    cases staging <;> cases hostStaging <;> decide +kernel
  · have noneCounted : (0.0 : Double).same 0.0 = true := by
      decide +kernel
    cases staging <;> cases hostStaging <;> simp [unknown, noneCounted]

/-! ## When the cost carries the least trusted provenance -/

/-- The kinds of links for which overwriting keeps the maximum in every order. -/
structure KeepsInEveryOrder (provenances : List Provenance) : Prop where
  notBoth : ¬(.unknown ∈ provenances ∧ .synthetic ∈ provenances)
  tracked :
    .unknown ∈ provenances ∨ .synthetic ∈ provenances ∨
      ∀ provenance ∈ provenances, provenance = .measured

theorem KeepsInEveryOrder.keeps
    (keeps : KeepsInEveryOrder provenances) :
    KeepsLeastTrusted provenances := by
  by_cases unknown : .unknown ∈ provenances
  · obtain ⟨earlier, later, rfl⟩ := List.append_of_mem unknown
    refine .inl ⟨earlier, later, rfl, ?_⟩
    intro synthetic
    exact keeps.notBoth ⟨unknown, by simp [synthetic]⟩
  · rcases keeps.tracked with isUnknown | synthetic | measured
    · exact absurd isUnknown unknown
    · exact .inr (.inl ⟨unknown, synthetic⟩)
    · exact .inr (.inr measured)

/-- What is kept in every order is kept in every other order. -/
theorem KeepsInEveryOrder.of_perm
    {other : List Provenance}
    (keeps : KeepsInEveryOrder provenances)
    (reordered : provenances.Perm other) :
    KeepsInEveryOrder other := by
  constructor
  · simpa only [reordered.mem_iff] using keeps.notBoth
  · simpa only [reordered.mem_iff] using keeps.tracked

/-- A list that ends in a `SYNTHETIC` link is kept only without `UNKNOWN` ones. -/
theorem not_unknown_of_keeps_append_synthetic
    (keeps : KeepsLeastTrusted (provenances ++ [.synthetic])) :
    .unknown ∉ provenances := by
  rcases keeps with unknownLast | ⟨noUnknown, _⟩ | measured
  · rw [unknownLast_append_singleton_iff] at unknownLast
    simp at unknownLast
  · exact fun unknown => noUnknown (List.mem_append_left _ unknown)
  · cases measured .synthetic (by simp)

/--
In every order of the hops the least trusted provenance is attached, unless an
unknown and a synthetic link meet: the order that puts the synthetic one last
loses the unknown one.
-/
theorem attaches_in_every_order_iff :
    (∀ reordered : CandidatePath,
      reordered.hops.Perm candidate.hops →
        AttachesLeastTrusted request snapshot reordered weights) ↔
      KeepsInEveryOrder (linkProvenances snapshot candidate.hops) := by
  simp only [attachesLeastTrusted_iff]
  constructor
  · intro everyOrder
    have keeps := everyOrder candidate (List.Perm.refl _)
    constructor
    · rintro ⟨unknown, synthetic⟩
      obtain ⟨hop, member, same⟩ := List.mem_filterMap.mp synthetic
      obtain ⟨earlier, later, split⟩ := List.append_of_mem member
      let reordered : CandidatePath :=
        { candidate with hops := (earlier ++ later) ++ [hop] }
      have isReordered : reordered.hops.Perm candidate.hops := by
        rw [split]
        exact (List.perm_append_singleton hop _).trans
          List.perm_middle.symm
      have provenances :
          linkProvenances snapshot reordered.hops =
            linkProvenances snapshot (earlier ++ later) ++ [.synthetic] := by
        simp [linkProvenances, reordered, same]
      have keepsReordered := everyOrder reordered isReordered
      have unknownStays :
          .unknown ∈ linkProvenances snapshot reordered.hops :=
        (isReordered.filterMap _).mem_iff.mpr unknown
      rw [provenances] at keepsReordered unknownStays
      refine not_unknown_of_keeps_append_synthetic keepsReordered ?_
      simpa using unknownStays
    · rcases keeps with ⟨earlier, later, split, _⟩ | ⟨_, synthetic⟩ | measured
      · exact .inl (by simp [split])
      · exact .inr (.inl synthetic)
      · exact .inr (.inr measured)
  · intro keeps reordered isReordered
    exact (keeps.of_perm (isReordered.filterMap _).symm).keeps

/--
The factors that the links decide carry the least trusted provenance exactly
when the last of the `UNKNOWN` and `SYNTHETIC` links is of the least trusted
kind there is.  They do so in every order of the hops exactly when there are
links of one of these kinds only, or when all links are `MEASURED`.  A path with
an `UNKNOWN` link counts as uncertain exactly when no `SYNTHETIC` link comes
after one of them.
-/
theorem link_factors_carry_least_trusted_iff
    (request : CommunicationRequest)
    (snapshot : EvidenceSnapshot)
    (candidate : CandidatePath)
    (weights : RankingWeights) :
    (AttachesLeastTrusted request snapshot candidate weights ↔
      KeepsLeastTrusted (linkProvenances snapshot candidate.hops)) ∧
    ((∀ reordered : CandidatePath,
      reordered.hops.Perm candidate.hops →
        AttachesLeastTrusted request snapshot reordered weights) ↔
      KeepsInEveryOrder (linkProvenances snapshot candidate.hops)) ∧
    ((.unknown ∈ linkProvenances snapshot candidate.hops →
        (evaluateCandidateCost request snapshot candidate
          weights).uncertaintyCount.same 0.0 = false) ↔
      (.unknown ∈ linkProvenances snapshot candidate.hops →
        UnknownLast (linkProvenances snapshot candidate.hops))) := by
  refine ⟨attachesLeastTrusted_iff, attaches_in_every_order_iff, ?_⟩
  rw [← Bool.not_eq_true, uncertaintyCount_eq_zero_iff, not_not, tracked,
    foldl_overwriteWorst_eq_unknown_iff]

/-- A row of two links, the first of unknown and the second of synthetic origin. -/
def unknownThenSynthetic : EvidenceSnapshot :=
  { endpoints :=
      [ mkEndpoint ⟨1⟩ ⟨1⟩ .gpuDevice .tcp,
        mkEndpoint ⟨2⟩ ⟨1⟩ .gpuDevice .tcp,
        mkEndpoint ⟨3⟩ ⟨1⟩ .gpuDevice .tcp ]
    links :=
      [ { mkLink ⟨7⟩ ⟨1⟩ ⟨1⟩ ⟨2⟩ .tcp 1000 with provenance := .unknown },
        { mkLink ⟨8⟩ ⟨1⟩ ⟨2⟩ ⟨3⟩ .tcp 1000 with provenance := .synthetic } ] }

/-- The synthetic link hides the unknown one: nothing is counted as unknown. -/
theorem synthetic_link_hides_unknown_link :
    let path : CandidatePath :=
      ⟨⟨1⟩, ⟨3⟩, [⟨⟨7⟩, ⟨1⟩, ⟨2⟩⟩, ⟨⟨8⟩, ⟨2⟩, ⟨3⟩⟩]⟩
    let request := mkRequest ⟨5⟩ ⟨1⟩ ⟨3⟩ 4096
    linkProvenances unknownThenSynthetic path.hops = [.unknown, .synthetic] ∧
    (evaluateCandidateCost request unknownThenSynthetic path
      {}).components.all (fun component =>
        component.provenance ≠ .unknown) = true ∧
    (evaluateCandidateCost request unknownThenSynthetic path
      {}).uncertaintyCount.same 0.0 = true ∧
    ¬AttachesLeastTrusted request unknownThenSynthetic path {} := by
  refine ⟨by decide +kernel, by decide +kernel, by decide +kernel, ?_⟩
  rw [attachesLeastTrusted_iff]
  have links :
      linkProvenances unknownThenSynthetic
          [⟨⟨7⟩, ⟨1⟩, ⟨2⟩⟩, ⟨⟨8⟩, ⟨2⟩, ⟨3⟩⟩] =
        [.unknown] ++ [.synthetic] := by
    decide +kernel
  rw [links]
  intro keeps
  exact not_unknown_of_keeps_append_synthetic keeps (by simp)

end CommunicationPlanner
