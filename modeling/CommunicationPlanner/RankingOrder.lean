import CommunicationPlanner.Ranking

namespace CommunicationPlanner

open OrderedCollections

/-!
# The order that the ranking produces

`rankFeasible` returns positions of its input.  Here they are shown to be the
positions of the feasible items, once each and in the order of `keyLess`, and
the items behind them not to depend on the order of the input.  The last tie
break before the identities of the links compares the `RESIDUAL_BANDWIDTH`
costs, and it prefers the greater one.
-/

/-! ## Positions -/

variable {input permuted : List Rankable}

/-- The positions that the items carry are those of the feasible inputs. -/
theorem map_idx_rankItems
    (input : List Rankable) :
    (rankItems input).map (fun item => item.idx) =
      (input.zipIdx.filter fun indexed =>
        indexed.1.feasibility.feasible).map Prod.snd := by
  unfold rankItems
  rw [← List.filterMap_eq_filter, List.map_filterMap, List.map_filterMap]
  apply List.filterMap_congr
  rintro ⟨rankable, idx⟩ _
  by_cases feasible : rankable.feasibility.feasible <;>
    simp [feasible, Option.guard]

theorem perm_rankFeasible
    (input : List Rankable) :
    (rankFeasible input).Perm
      ((rankItems input).map fun item => item.idx) :=
  (perm_sortBy _ (rankItems input)).map _

theorem nodup_rankFeasible
    (input : List Rankable) :
    (rankFeasible input).Nodup := by
  have distinct : (input.zipIdx.map Prod.snd).Nodup := by
    rw [List.zipIdx_map_snd]
    exact List.nodup_range'
  rw [(perm_rankFeasible input).nodup_iff, map_idx_rankItems]
  exact distinct.sublist (List.filter_sublist.map Prod.snd)

theorem mem_rankFeasible_iff
    {index : Nat} :
    index ∈ rankFeasible input ↔
      ∃ rankable,
        input[index]? = some rankable ∧
          rankable.feasibility.feasible = true := by
  rw [(perm_rankFeasible input).mem_iff, map_idx_rankItems, List.mem_map]
  constructor
  · rintro ⟨⟨rankable, position⟩, member, rfl⟩
    obtain ⟨indexed, feasible⟩ := List.mem_filter.mp member
    exact ⟨rankable, List.mk_mem_zipIdx_iff_getElem?.mp indexed, feasible⟩
  · rintro ⟨rankable, found, feasible⟩
    exact ⟨(rankable, index),
      List.mem_filter.mpr
        ⟨List.mk_mem_zipIdx_iff_getElem?.mpr found, feasible⟩, rfl⟩

/-! ## Order -/

/-- No component of the costs is NaN. -/
def NumericCosts (input : List Rankable) : Prop :=
  ∀ rankable ∈ input, ∀ component ∈ rankable.cost.components,
    component.value.isNaN = false

theorem rankedBy_keyLess
    (numbers : NumericCosts input) :
    RankedBy
      (fun first second =>
        keyLess (rankingKey first) (rankingKey second))
      (fun rankable => (rankingKey rankable).rank) input :=
  fun first firstMember second secondMember =>
    keyLess_iff_rank
      (numeric_rankingKey (numbers first firstMember))
      (numeric_rankingKey (numbers second secondMember))

theorem rankedBy_rankItems
    (numbers : NumericCosts input) :
    RankedBy
      (fun first second : RankItem => keyLess first.key second.key)
      (fun item => item.key.rank) (rankItems input) := by
  intro first firstMember second secondMember
  obtain ⟨firstValue, firstFound, firstKey⟩ :=
    exists_of_mem_rankItems firstMember
  obtain ⟨secondValue, secondFound, secondKey⟩ :=
    exists_of_mem_rankItems secondMember
  simp only [firstKey, secondKey]
  exact rankedBy_keyLess numbers
    firstValue (List.mem_of_getElem? firstFound)
    secondValue (List.mem_of_getElem? secondFound)

/-- The ranks of the inputs at the ranked positions ascend. -/
theorem pairwise_rankFeasible
    (numbers : NumericCosts input) :
    (rankFeasible input).Pairwise fun earlier later =>
      ∀ first second,
        input[earlier]? = some first →
        input[later]? = some second →
          (rankingKey first).rank ≤ (rankingKey second).rank := by
  have ascending := pairwise_sortBy (rankedBy_rankItems numbers)
  change ((sortBy _ (rankItems input)).map fun item => item.idx).Pairwise _
  rw [List.pairwise_map]
  refine ascending.imp_of_mem ?_
  intro earlier later earlierMember laterMember atMost
    first second firstFound secondFound
  obtain ⟨_, found, firstKey⟩ :=
    exists_of_mem_rankItems (mem_sortBy.mp earlierMember)
  obtain ⟨_, otherFound, secondKey⟩ :=
    exists_of_mem_rankItems (mem_sortBy.mp laterMember)
  rw [firstFound, Option.some.injEq] at found
  rw [secondFound, Option.some.injEq] at otherFound
  subst found otherFound
  rwa [firstKey, secondKey] at atMost

/-- A candidate of a request, with its verdict and its cost. -/
def rankableOf
    (request : CommunicationRequest)
    (snapshot : EvidenceSnapshot)
    (weights : RankingWeights)
    (bounds : Bounds)
    (candidate : CandidatePath) : Rankable :=
  { path := candidate
    feasibility :=
      evaluateCandidateFeasibility request snapshot candidate bounds
    cost := evaluateCandidateCost request snapshot candidate weights }

theorem numericCosts_map_rankableOf
    (request : CommunicationRequest)
    (snapshot : EvidenceSnapshot)
    (weights : RankingWeights)
    (bounds : Bounds)
    (candidates : List CandidatePath) :
    NumericCosts
      (candidates.map (rankableOf request snapshot weights bounds)) := by
  intro rankable member component inCost
  obtain ⟨candidate, _, rfl⟩ := List.mem_map.mp member
  exact isNaN_of_mem_evaluateCandidateCost inCost

/-- The links that a candidate runs over. -/
def Rankable.links (rankable : Rankable) : List LinkId :=
  rankable.path.hops.map fun hop => hop.link

/-- The inputs at the ranked positions do not depend on the order of the input. -/
theorem rankedRankables_eq_of_perm
    (numbers : NumericCosts input)
    (distinct :
      ((input.filter fun rankable =>
        rankable.feasibility.feasible).map Rankable.links).Nodup)
    (reordered : input.Perm permuted) :
    rankedRankables input = rankedRankables permuted := by
  apply sortBy_eq_of_perm
    (rankedBy_keyLess fun rankable member =>
      numbers rankable (List.mem_of_mem_filter member))
  · intro one oneMember other otherMember sameRank
    exact List.inj_on_of_nodup_map distinct oneMember otherMember
      (Key.idseq_eq_of_rank_eq sameRank)
  · exact reordered.filter _

/--
The ranking returns the position of every feasible input once and no other, in
an order in which no later one is less than an earlier one; and when the
feasible inputs run over different links, permuting the input leaves the ranked
sequence of inputs as it is.
-/
theorem rankFeasible_orders_feasible
    (input : List Rankable)
    (numbers :
      ∀ rankable ∈ input, ∀ component ∈ rankable.cost.components,
        component.value.isNaN = false) :
    (rankFeasible input).Nodup ∧
    (∀ index, index ∈ rankFeasible input ↔
      ∃ rankable,
        input[index]? = some rankable ∧
          rankable.feasibility.feasible = true) ∧
    ((rankFeasible input).Pairwise fun earlier later =>
      ∀ first second,
        input[earlier]? = some first →
        input[later]? = some second →
          keyLess (rankingKey second) (rankingKey first) = false) ∧
    (((input.filter fun rankable =>
        rankable.feasibility.feasible).map Rankable.links).Nodup →
      ∀ permuted, input.Perm permuted →
        (rankFeasible permuted).map (permuted[·]?) =
          (rankFeasible input).map (input[·]?)) := by
  refine ⟨nodup_rankFeasible input, fun index => mem_rankFeasible_iff, ?_, ?_⟩
  · refine (pairwise_rankFeasible numbers).imp ?_
    intro earlier later atMost first second firstFound secondFound
    have lessIff := rankedBy_keyLess numbers
      second (List.mem_of_getElem? secondFound)
      first (List.mem_of_getElem? firstFound)
    rw [← Bool.not_eq_true, lessIff]
    exact not_lt.mpr (atMost first second firstFound secondFound)
  · intro distinct permuted reordered
    rw [map_getElem?_rankFeasible, map_getElem?_rankFeasible,
      rankedRankables_eq_of_perm numbers distinct reordered]

/-- Two parallel links of one bandwidth, the first with the greater headroom. -/
def parallelLinks : EvidenceSnapshot :=
  { endpoints :=
      [ mkEndpoint ⟨1⟩ ⟨1⟩ .gpuDevice .tcp,
        mkEndpoint ⟨2⟩ ⟨1⟩ .gpuDevice .tcp ]
    links :=
      [ mkLink ⟨7⟩ ⟨1⟩ ⟨1⟩ ⟨2⟩ .tcp 1000,
        { mkLink ⟨8⟩ ⟨1⟩ ⟨1⟩ ⟨2⟩ .tcp 1000 with
          capacityEvidence :=
            { generation := ⟨1⟩
              usable := ⟨1000⟩
              headroom := ⟨100⟩
              provenance := .reported } } ] }

/-- The two routes over the parallel links, under weights that leave them tied. -/
def parallelRoutes : List Rankable :=
  [ ⟨⟨1⟩, ⟨2⟩, [⟨⟨7⟩, ⟨1⟩, ⟨2⟩⟩]⟩,
    ⟨⟨1⟩, ⟨2⟩, [⟨⟨8⟩, ⟨1⟩, ⟨2⟩⟩]⟩ ].map
      (rankableOf (mkRequest ⟨5⟩ ⟨1⟩ ⟨2⟩ 4096) parallelLinks
        { weights := fun factor =>
            if factor = .residualBandwidth ∨ factor = .capacityHeadroom then
              some 0.0
            else
              none }
        {})

/-- Turning the two routes around leaves the ranked sequence as it is. -/
theorem parallel_routes_are_ranked_alike :
    (rankFeasible parallelRoutes.reverse).map (parallelRoutes.reverse[·]?) =
      (rankFeasible parallelRoutes).map (parallelRoutes[·]?) :=
  (rankFeasible_orders_feasible parallelRoutes
    (numericCosts_map_rankableOf _ _ _ _ _)).2.2.2 (by decide +kernel)
      parallelRoutes.reverse (List.reverse_perm parallelRoutes).symm

/-! ## The tie break on the residual bandwidth -/

/-- The keys agree in all that is compared before the residual bandwidth. -/
structure Key.TiedToResidual (first second : Key) : Prop where
  total : first.total.same second.total = true
  uncertainty : first.uncertainty.same second.uncertainty = true
  prov : first.prov = second.prov
  hops : first.hops.same second.hops = true
  congestion : first.congestion.same second.congestion = true

/-- Two feasible inputs that tie, the first of them with less residual cost. -/
structure ResidualTie
    (input : List Rankable)
    (lower higher : Nat) : Prop where
  lowerFeasible : lower ∈ rankFeasible input
  higherFeasible : higher ∈ rankFeasible input
  compared :
    ∀ first second,
      input[lower]? = some first →
      input[higher]? = some second →
        (rankingKey first).TiedToResidual (rankingKey second) ∧
          (rankingKey first).residual.less (rankingKey second).residual = true

/-- Among tied keys the one with the greater residual cost is less. -/
theorem keyLess_of_tiedToResidual
    {first second : Key}
    (firstNumeric : first.Numeric)
    (secondNumeric : second.Numeric)
    (tied : first.TiedToResidual second)
    (lower : first.residual.less second.residual = true) :
    keyLess second first = true := by
  have residuals :=
    (Binary64.less_iff_rank firstNumeric.residual
      secondNumeric.residual).mp lower
  have total :=
    (Binary64.same_iff_rank firstNumeric.total
      secondNumeric.total).mp tied.total
  have uncertainty :=
    (Binary64.same_iff_rank firstNumeric.uncertainty
      secondNumeric.uncertainty).mp tied.uncertainty
  have hops :=
    (Binary64.same_iff_rank firstNumeric.hops
      secondNumeric.hops).mp tied.hops
  have congestion :=
    (Binary64.same_iff_rank firstNumeric.congestion
      secondNumeric.congestion).mp tied.congestion
  rw [keyLess_iff_rank secondNumeric firstNumeric]
  simp only [Key.rank, Prod.Lex.toLex_lt_toLex, total, uncertainty, tied.prov,
    hops, congestion, lt_self_iff_false, true_and, false_or]
  exact .inl (OrderDual.toDual_lt_toDual.mpr residuals)

/-- Of two members of a list one comes before the other. -/
private theorem pair_sublist_or
    {first second : Nat}
    {items : List Nat}
    (firstMember : first ∈ items)
    (secondMember : second ∈ items)
    (distinct : first ≠ second) :
    [first, second].Sublist items ∨ [second, first].Sublist items := by
  induction items with
  | nil =>
      cases firstMember
  | cons head rest inductionHypothesis =>
      rcases List.mem_cons.mp firstMember with rfl | firstLater
      · have secondLater : second ∈ rest :=
          List.mem_of_ne_of_mem distinct.symm secondMember
        exact .inl ((List.singleton_sublist.mpr secondLater).cons_cons _)
      · rcases List.mem_cons.mp secondMember with rfl | secondLater
        · exact .inr ((List.singleton_sublist.mpr firstLater).cons_cons _)
        · exact (inductionHypothesis firstLater secondLater).imp
            (List.Sublist.cons _) (List.Sublist.cons _)

/-- Of two inputs that tie, the one with the greater residual cost is first. -/
theorem ResidualTie.higher_first
    {lower higher : Nat}
    (numbers : NumericCosts input)
    (tie : ResidualTie input lower higher) :
    [higher, lower].Sublist (rankFeasible input) ∧
      ¬[lower, higher].Sublist (rankFeasible input) := by
  obtain ⟨first, firstFound, _⟩ := mem_rankFeasible_iff.mp tie.lowerFeasible
  obtain ⟨second, secondFound, _⟩ := mem_rankFeasible_iff.mp tie.higherFeasible
  obtain ⟨tied, less⟩ := tie.compared first second firstFound secondFound
  have firstNumeric :=
    numeric_rankingKey (numbers first (List.mem_of_getElem? firstFound))
  have secondNumeric :=
    numeric_rankingKey (numbers second (List.mem_of_getElem? secondFound))
  have below :=
    (keyLess_iff_rank secondNumeric firstNumeric).mp
      (keyLess_of_tiedToResidual firstNumeric secondNumeric tied less)
  have notFirst : ¬[lower, higher].Sublist (rankFeasible input) := by
    intro inOrder
    have ordered := (pairwise_rankFeasible numbers).sublist inOrder
    rw [List.pairwise_pair] at ordered
    exact not_lt.mpr (ordered first second firstFound secondFound) below
  have distinct : lower ≠ higher := by
    rintro rfl
    rw [firstFound, Option.some.injEq] at secondFound
    subst secondFound
    exact lt_irrefl _ below
  exact
    ⟨(pair_sublist_or tie.lowerFeasible tie.higherFeasible
      distinct).resolve_left notFirst, notFirst⟩

/--
Of any two feasible candidates that tie before the residual bandwidth, the one
with the lower `RESIDUAL_BANDWIDTH` cost is ranked first exactly when there are
no two such candidates: where there are, the other one is first.
-/
theorem lower_residual_cost_is_first_iff
    (request : CommunicationRequest)
    (snapshot : EvidenceSnapshot)
    (weights : RankingWeights)
    (bounds : Bounds)
    (candidates : List CandidatePath) :
    let input := candidates.map (rankableOf request snapshot weights bounds)
    ((∀ lower higher, ResidualTie input lower higher →
        [lower, higher].Sublist (rankFeasible input)) ↔
      ∀ lower higher, ¬ResidualTie input lower higher) ∧
    ∀ lower higher, ResidualTie input lower higher →
      [higher, lower].Sublist (rankFeasible input) := by
  intro input
  have numbers : NumericCosts input :=
    numericCosts_map_rankableOf request snapshot weights bounds candidates
  refine ⟨⟨?_, ?_⟩, fun lower higher tie => (tie.higher_first numbers).1⟩
  · intro lowerFirst lower higher tie
    exact (tie.higher_first numbers).2 (lowerFirst lower higher tie)
  · intro none lower higher tie
    exact (none lower higher tie).elim

/-- The link with less headroom, and so the greater cost, is ranked first. -/
theorem greater_residual_cost_is_first :
    ResidualTie parallelRoutes 0 1 ∧ rankFeasible parallelRoutes = [1, 0] := by
  refine ⟨⟨by decide +kernel, by decide +kernel, ?_⟩, by decide +kernel⟩
  intro first second firstFound secondFound
  cases firstFound
  cases secondFound
  exact
    ⟨⟨by decide +kernel, by decide +kernel, by decide +kernel,
      by decide +kernel, by decide +kernel⟩, by decide +kernel⟩

end CommunicationPlanner
