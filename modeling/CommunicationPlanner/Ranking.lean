import CommunicationPlanner.CostModel
import Mathlib.Data.List.Lex

namespace CommunicationPlanner

open OrderedCollections

/-!
# Ranking the feasible candidates

Candidates are ordered by a key of seven fields, five of them `double`s, and
ties are broken by the sequence of link identities.  `keyLess` compares field
by field with the C operators, which are not an order in the presence of NaN.
The keys of costed candidates have no NaN, and on them `keyLess` is the strict
order of `Key.rank`, a lexicographic product of linear orders; in particular
two candidates of the same source with different links never tie.
-/

/-- `componentValue`: of the first component with the factor. -/
def componentValue
    (cost : CostSummary)
    (factor : CostFactor)
    (default : Double) : Double :=
  match cost.components.find? fun component => component.factor = factor with
  | some component => component.value
  | none => default

/-- `Key`: what candidates are compared by, in this order. -/
structure Key where
  total : Double
  uncertainty : Double
  prov : Nat
  hops : Double
  congestion : Double
  residual : Double
  idseq : List LinkId

/-- `keyLess`: the first part that differs decides. -/
def keyLess (first second : Key) : Bool :=
  if !first.total.same second.total then
    first.total.less second.total
  else if !first.uncertainty.same second.uncertainty then
    first.uncertainty.less second.uncertainty
  else if first.prov ≠ second.prov then
    first.prov < second.prov
  else if !first.hops.same second.hops then
    first.hops.less second.hops
  else if !first.congestion.same second.congestion then
    first.congestion.less second.congestion
  else if !first.residual.same second.residual then
    second.residual.less first.residual
  else if first.idseq.length ≠ second.idseq.length then
    first.idseq.length < second.idseq.length
  else
    first.idseq < second.idseq

/-- The order that `double`s other than NaN are ranked in. -/
abbrev DoubleRank := ℤ ×ₗ ℤ ×ₗ ℤ

/-- The position of a key in the lexicographic product of its fields' orders. -/
def Key.rank (key : Key) :
    DoubleRank ×ₗ DoubleRank ×ₗ ℕ ×ₗ DoubleRank ×ₗ DoubleRank ×ₗ
      DoubleRankᵒᵈ ×ₗ ℕ ×ₗ List LinkId :=
  toLex (key.total.rank, toLex (key.uncertainty.rank, toLex (key.prov,
    toLex (key.hops.rank, toLex (key.congestion.rank,
      toLex (OrderDual.toDual key.residual.rank,
        toLex (key.idseq.length, key.idseq)))))))

/-- No field of the key is NaN. -/
structure Key.Numeric (key : Key) : Prop where
  total : key.total.isNaN = false
  uncertainty : key.uncertainty.isNaN = false
  hops : key.hops.isNaN = false
  congestion : key.congestion.isNaN = false
  residual : key.residual.isNaN = false

/--
One level of the comparison: a `double` first, the remaining fields after it.
-/
private theorem less_then_iff
    [LinearOrder κ]
    {first second : Double}
    (firstNumber : first.isNaN = false)
    (secondNumber : second.isNaN = false)
    {rest : Bool}
    {firstRest secondRest : κ}
    (restIff : rest = true ↔ firstRest < secondRest) :
    (if !first.same second then first.less second else rest) = true ↔
      toLex (first.rank, firstRest) < toLex (second.rank, secondRest) := by
  have sameIff := Binary64.same_iff_rank firstNumber secondNumber
  have lessIff := Binary64.less_iff_rank firstNumber secondNumber
  rw [Prod.Lex.toLex_lt_toLex]
  by_cases equal : first.rank = second.rank
  · simp [sameIff.mpr equal, equal, restIff]
  · have different : first.same second = false := by
      simpa [equal] using sameIff.not
    simp [different, equal, lessIff]

/-- One level of the comparison in a linear order. -/
private theorem lt_then_iff
    [LinearOrder κ]
    {first second : ℕ}
    {rest : Bool}
    {firstRest secondRest : κ}
    (restIff : rest = true ↔ firstRest < secondRest) :
    (if first ≠ second then decide (first < second) else rest) = true ↔
      toLex (first, firstRest) < toLex (second, secondRest) := by
  rw [Prod.Lex.toLex_lt_toLex]
  by_cases equal : first = second
  · simp [equal, restIff]
  · simp [equal]

/-- One level of the comparison, greater values first. -/
private theorem greater_then_iff
    [LinearOrder κ]
    {first second : Double}
    (firstNumber : first.isNaN = false)
    (secondNumber : second.isNaN = false)
    {rest : Bool}
    {firstRest secondRest : κ}
    (restIff : rest = true ↔ firstRest < secondRest) :
    (if !first.same second then second.less first else rest) = true ↔
      toLex (OrderDual.toDual first.rank, firstRest) <
        toLex (OrderDual.toDual second.rank, secondRest) := by
  have sameIff := Binary64.same_iff_rank firstNumber secondNumber
  have lessIff := Binary64.less_iff_rank secondNumber firstNumber
  rw [Prod.Lex.toLex_lt_toLex]
  by_cases equal : first.rank = second.rank
  · simp [sameIff.mpr equal, equal, restIff]
  · have different : first.same second = false := by
      simpa [equal] using sameIff.not
    simp [different, equal, lessIff]

/-- Away from NaN, `keyLess` is the strict order of the ranks. -/
theorem keyLess_iff_rank
    {first second : Key}
    (firstNumeric : first.Numeric)
    (secondNumeric : second.Numeric) :
    keyLess first second = true ↔ first.rank < second.rank := by
  apply less_then_iff firstNumeric.total secondNumeric.total
  apply less_then_iff firstNumeric.uncertainty secondNumeric.uncertainty
  apply lt_then_iff
  apply less_then_iff firstNumeric.hops secondNumeric.hops
  apply less_then_iff firstNumeric.congestion secondNumeric.congestion
  apply greater_then_iff firstNumeric.residual secondNumeric.residual
  apply lt_then_iff
  simp

/-- The rank of a key determines its link identities. -/
theorem Key.idseq_eq_of_rank_eq
    {first second : Key}
    (sameRank : first.rank = second.rank) :
    first.idseq = second.idseq := by
  simp only [Key.rank, EmbeddingLike.apply_eq_iff_eq, Prod.mk.injEq] at sameRank
  exact sameRank.2.2.2.2.2.2.2

/-- `Rankable`: a candidate with its verdict and its cost. -/
structure Rankable where
  path : CandidatePath
  feasibility : FeasibilityResult
  cost : CostSummary

/-- The key `rankFeasible` sorts a candidate by. -/
def rankingKey (rankable : Rankable) : Key :=
  let cost := rankable.cost
  let hops := rankable.path.hops
  { total := if cost.totalValid then cost.total else kMaxCost
    uncertainty := cost.uncertaintyCount
    prov := provenanceRank (worstProvenance cost)
    hops :=
      componentValue cost .hopCount
        (Binary64.ofUInt64 (UInt64.ofNat hops.length))
    congestion := componentValue cost .congestionPenalty 0.0
    residual := componentValue cost .residualBandwidth 0.0
    idseq := hops.map fun hop => hop.link }

/-- An index into the input and the key of what is there. -/
structure RankItem where
  idx : Nat
  key : Key

/-- The indices of the feasible candidates, best first. -/
def rankFeasible (input : List Rankable) : List Nat :=
  let items := input.zipIdx.filterMap fun (rankable, idx) =>
    if rankable.feasibility.feasible then
      some (RankItem.mk idx (rankingKey rankable))
    else
      none
  (sortBy (fun first second => keyLess first.key second.key) items).map
    fun item => item.idx

/-! ## What the ranking computes -/

/-- The feasible inputs themselves, best first. -/
def rankedRankables (input : List Rankable) : List Rankable :=
  sortBy (fun first second => keyLess (rankingKey first) (rankingKey second))
    (input.filter fun rankable => rankable.feasibility.feasible)

/-- The items `rankFeasible` sorts, one for each feasible input. -/
def rankItems (input : List Rankable) : List RankItem :=
  input.zipIdx.filterMap fun (rankable, idx) =>
    if rankable.feasibility.feasible then
      some (RankItem.mk idx (rankingKey rankable))
    else
      none

/-- The comparison of two inputs, read after they have been looked up. -/
def foundLess : Option Rankable → Option Rankable → Bool
  | some first, some second =>
      keyLess (rankingKey first) (rankingKey second)
  | _, _ => false

/-- The items point at the feasible inputs, in the order of the input. -/
theorem map_getElem?_rankItems
    (input : List Rankable) :
    (rankItems input).map (fun item => input[item.idx]?) =
      (input.filter fun rankable =>
        rankable.feasibility.feasible).map some := by
  unfold rankItems
  rw [← map_getElem?_filterMap_zipIdx, List.map_filterMap,
    List.map_filterMap]
  apply List.filterMap_congr
  rintro ⟨rankable, idx⟩ _
  by_cases feasible : rankable.feasibility.feasible <;> simp [feasible]

/-- An item carries the key of the input it points at. -/
theorem exists_of_mem_rankItems
    {input : List Rankable}
    {item : RankItem}
    (member : item ∈ rankItems input) :
    ∃ rankable,
      input[item.idx]? = some rankable ∧
        item.key = rankingKey rankable := by
  obtain ⟨⟨rankable, idx⟩, indexed, made⟩ := List.mem_filterMap.mp member
  by_cases feasible : rankable.feasibility.feasible
  · simp only [feasible, if_true, Option.some.injEq] at made
    subst made
    exact ⟨rankable, List.mk_mem_zipIdx_iff_getElem?.mp indexed, rfl⟩
  · simp [feasible] at made

/--
The ranked indices point at the ranked inputs, which the items are looked up in.
-/
theorem map_getElem?_rankFeasible
    (input : List Rankable) :
    (rankFeasible input).map (input[·]?) =
      (rankedRankables input).map some := by
  have sortedItems :
      (sortBy (fun first second : RankItem => keyLess first.key second.key)
          (rankItems input)).map (fun item => input[item.idx]?) =
        sortBy foundLess
          ((rankItems input).map fun item => input[item.idx]?) := by
    apply map_sortBy
    intro first firstMember second secondMember
    obtain ⟨firstValue, firstFound, firstKey⟩ :=
      exists_of_mem_rankItems firstMember
    obtain ⟨secondValue, secondFound, secondKey⟩ :=
      exists_of_mem_rankItems secondMember
    rw [firstFound, secondFound, firstKey, secondKey]
    rfl
  have sortedInputs :
      (rankedRankables input).map some =
        sortBy foundLess ((input.filter fun rankable =>
          rankable.feasibility.feasible).map some) := by
    apply map_sortBy
    intro first _ second _
    rfl
  calc
    (rankFeasible input).map (input[·]?)
        = (sortBy (fun first second : RankItem =>
            keyLess first.key second.key) (rankItems input)).map
              (fun item => input[item.idx]?) := by
          simp only [rankFeasible, List.map_map]
          rfl
    _ = (rankedRankables input).map some := by
          rw [sortedItems, sortedInputs, map_getElem?_rankItems]

/-- The keys of costed candidates have no NaN. -/
theorem numeric_rankingKey
    {rankable : Rankable}
    (numbers :
      ∀ component ∈ rankable.cost.components,
        component.value.isNaN = false) :
    (rankingKey rankable).Numeric := by
  have componentNumber :
      ∀ (factor : CostFactor) (default : Double),
        default.isNaN = false →
        (componentValue rankable.cost factor default).isNaN = false := by
    intro factor default number
    unfold componentValue
    split
    · rename_i component found
      exact numbers component (List.mem_of_find?_eq_some found)
    · exact number
  constructor
  · simp only [rankingKey]
    split_ifs with finite
    · simp only [CostSummary.totalValid, Bool.and_eq_true,
        Bool.not_eq_true'] at finite
      exact finite.1
    · decide +kernel
  · exact CostSummary.isNaN_uncertaintyCount rankable.cost
  · apply componentNumber
    exact Binary64.isNaN_ofUInt64 _
  · exact componentNumber _ _ (by decide +kernel)
  · exact componentNumber _ _ (by decide +kernel)

end CommunicationPlanner
