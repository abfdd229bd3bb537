import CommunicationPlanner.Feasibility
import CommunicationPlanner.SimplePathSearch
import Mathlib.Data.List.Lex
import Mathlib.Data.Set.Card

namespace CommunicationPlanner

open OrderedCollections SimplePathSearch

/-!
# Enumeration of candidate paths

`enumerateCandidatePaths` builds sorted adjacency lists from the links of a
snapshot, runs the bounded search of `SimplePathSearch` over them and sorts
what it found by number of hops and then by link identities.

`LinkPath` is the declarative reading: a contiguous, vertex-simple chain of
directed links within the limits.  Every candidate is one; when there are no
more of them than the cap allows, the candidates are all of them.
-/

/-- `Adj`: an edge of the graph. -/
structure Adj where
  target : EndpointId
  link : LinkId
  deriving DecidableEq

/-- The order of the edges: by target, then by link. -/
def adjLess (first second : Adj) : Bool :=
  if first.target ≠ second.target then
    first.target < second.target
  else
    first.link < second.link

/-- The sorted neighbours of an endpoint; empty when no link starts there. -/
def adjacency
    (links : List Link)
    (source : EndpointId) : List Adj :=
  sortBy adjLess
    ((links.filter fun link => link.source = source).map fun link =>
      ⟨link.destination, link.id⟩)

/-- The graph the search runs over: the hops out of each endpoint. -/
def hopGraph (links : List Link) : SearchGraph EndpointId Hop where
  edges source := (adjacency links source).map fun adj =>
    ⟨adj.link, source, adj.target⟩
  target hop := hop.target

/-- A trail may be reported if it has few enough relays. -/
def relaysAllowed (bounds : Bounds) (hops : List Hop) : Bool :=
  hops.length - 1 ≤ bounds.maxRelayCount.toNat

/-- Fewer hops first, then the smaller link at the first difference. -/
def candidateLess (first second : CandidatePath) : Bool :=
  if first.hops.length ≠ second.hops.length then
    first.hops.length < second.hops.length
  else
    first.hops.map (fun hop => hop.link) <
      second.hops.map (fun hop => hop.link)

/-- `enumerateCandidatePaths`: what the search finds, sorted and capped. -/
def enumerateCandidatePaths
    (snapshot : EvidenceSnapshot)
    (source destination : EndpointId)
    (bounds : Bounds) : List CandidatePath :=
  let trails :=
    search (hopGraph snapshot.links) destination (relaysAllowed bounds)
      bounds.maxCandidates.toNat bounds.maxPathDepth.toNat
      source [source] [] []
  sortBy candidateLess (trails.map fun hops => ⟨source, destination, hops⟩)

/-! ## What is enumerated -/

/-- Each hop starts where the one before it ended. -/
def Contiguous : EndpointId → List Hop → EndpointId → Prop
  | source, [], destination => source = destination
  | source, hop :: rest, destination =>
      hop.source = source ∧ Contiguous hop.target rest destination

/-- Some link of the list is the one that the hop names, in its direction. -/
def HopLinked (links : List Link) (hop : Hop) : Prop :=
  ∃ link ∈ links,
    link.id = hop.link ∧ link.source = hop.source ∧
      link.destination = hop.target

/-- A vertex-simple chain of directed links within the limits. -/
structure LinkPath
    (snapshot : EvidenceSnapshot)
    (source destination : EndpointId)
    (bounds : Bounds)
    (candidate : CandidatePath) : Prop where
  fromSource : candidate.source = source
  toDestination : candidate.destination = destination
  nonempty : candidate.hops ≠ []
  linked : ∀ hop ∈ candidate.hops, HopLinked snapshot.links hop
  contiguous : Contiguous source candidate.hops destination
  simple : (source :: candidate.hops.map fun hop => hop.target).Nodup
  depth : candidate.hops.length ≤ bounds.maxPathDepth.toNat
  relays : candidate.hops.length - 1 ≤ bounds.maxRelayCount.toNat

theorem mem_hopGraph_edges
    {links : List Link}
    {source : EndpointId}
    {hop : Hop} :
    hop ∈ (hopGraph links).edges source ↔
      hop.source = source ∧ HopLinked links hop := by
  simp only [hopGraph, adjacency, List.mem_map, mem_sortBy, List.mem_filter,
    decide_eq_true_eq, HopLinked]
  constructor
  · rintro ⟨adj, ⟨link, ⟨member, fromHere⟩, rfl⟩, rfl⟩
    exact ⟨rfl, link, member, rfl, fromHere, rfl⟩
  · rintro ⟨fromHere, link, member, sameLink, sameSource, sameTarget⟩
    refine ⟨⟨hop.target, hop.link⟩,
      ⟨link, ⟨member, sameSource.trans fromHere⟩, ?_⟩, ?_⟩
    · simp [sameLink, sameTarget]
    · simp [← fromHere]

/-- Leading in the hop graph is being linked and contiguous. -/
theorem leads_hopGraph_iff
    {links : List Link}
    {source destination : EndpointId}
    {hops : List Hop} :
    (hopGraph links).Leads source hops destination ↔
      Contiguous source hops destination ∧
        ∀ hop ∈ hops, HopLinked links hop := by
  induction hops generalizing source with
  | nil =>
      simp [SearchGraph.Leads, Contiguous]
  | cons hop rest inductionHypothesis =>
      have onward :
          (hopGraph links).Leads ((hopGraph links).target hop) rest
              destination ↔
            Contiguous hop.target rest destination ∧
              ∀ later ∈ rest, HopLinked links later :=
        inductionHypothesis
      simp only [SearchGraph.Leads, Contiguous, mem_hopGraph_edges, onward,
        List.forall_mem_cons]
      tauto

/-- The uncapped search finds exactly the hops of the link paths. -/
private theorem mem_allPaths_hopGraph_iff
    {snapshot : EvidenceSnapshot}
    {source destination : EndpointId}
    {bounds : Bounds}
    {hops : List Hop} :
    hops ∈ allPaths (hopGraph snapshot.links) destination
        (relaysAllowed bounds) bounds.maxPathDepth.toNat source [source] [] ↔
      LinkPath snapshot source destination bounds
        ⟨source, destination, hops⟩ := by
  rw [mem_allPaths_iff]
  constructor
  · rintro ⟨⟨nonempty, leads, simple⟩, depth, relays⟩
    rw [leads_hopGraph_iff] at leads
    exact
      { fromSource := rfl
        toDestination := rfl
        nonempty := nonempty
        linked := leads.2
        contiguous := leads.1
        simple := simple
        depth := depth
        relays := by simpa [relaysAllowed] using relays }
  · intro path
    refine ⟨⟨path.nonempty, ?_, path.simple⟩, path.depth, ?_⟩
    · exact leads_hopGraph_iff.mpr ⟨path.contiguous, path.linked⟩
    · simpa [relaysAllowed] using path.relays

/-- What the enumeration returns, before it is sorted. -/
private theorem perm_enumerateCandidatePaths
    (snapshot : EvidenceSnapshot)
    (source destination : EndpointId)
    (bounds : Bounds) :
    (enumerateCandidatePaths snapshot source destination bounds).Perm
      (((allPaths (hopGraph snapshot.links) destination (relaysAllowed bounds)
        bounds.maxPathDepth.toNat source [source] []).take
          bounds.maxCandidates.toNat).map fun hops =>
            ⟨source, destination, hops⟩) := by
  simp only [enumerateCandidatePaths]
  rw [search_eq_take _ _ _ _ _ _ (by simp), List.nil_append]
  exact perm_sortBy _ _

/-- Every candidate is a link path within the limits. -/
theorem linkPath_of_mem_enumerateCandidatePaths
    {snapshot : EvidenceSnapshot}
    {source destination : EndpointId}
    {bounds : Bounds}
    {candidate : CandidatePath}
    (member :
      candidate ∈
        enumerateCandidatePaths snapshot source destination bounds) :
    LinkPath snapshot source destination bounds candidate := by
  rw [(perm_enumerateCandidatePaths _ _ _ _).mem_iff, List.mem_map] at member
  obtain ⟨hops, taken, rfl⟩ := member
  exact mem_allPaths_hopGraph_iff.mp (List.mem_of_mem_take taken)

/-- With distinct link identities no hop is tried twice. -/
private theorem nodup_hopGraph_edges
    {links : List Link}
    (distinct : (links.map fun link => link.id).Nodup)
    (source : EndpointId) :
    ((hopGraph links).edges source).Nodup := by
  have filtered :
      ((links.filter fun link => link.source = source).map fun link =>
        link.id).Nodup :=
    distinct.sublist (List.filter_sublist.map _)
  have unsorted :
      (((links.filter fun link => link.source = source).map fun link =>
        Adj.mk link.destination link.id).map fun adj => adj.link).Nodup := by
    rw [List.map_map]
    exact filtered
  have sorted : ((adjacency links source).map fun adj => adj.link).Nodup :=
    ((perm_sortBy _ _).map _).nodup_iff.mpr unsorted
  apply List.Nodup.of_map fun hop : Hop => hop.link
  simp only [hopGraph, List.map_map]
  exact sorted

/-- The uncapped search enumerates each link path once. -/
private theorem nodup_allPaths_hopGraph
    {snapshot : EvidenceSnapshot}
    (distinct : (snapshot.links.map fun link => link.id).Nodup)
    (source destination : EndpointId)
    (bounds : Bounds) :
    (allPaths (hopGraph snapshot.links) destination (relaysAllowed bounds)
      bounds.maxPathDepth.toNat source [source] []).Nodup :=
  nodup_allPaths (nodup_hopGraph_edges distinct) _ _ _ _

/-- The hops identify the candidate of given ends. -/
private theorem candidate_injective
    (source destination : EndpointId) :
    Function.Injective fun hops : List Hop =>
      CandidatePath.mk source destination hops := by
  intro first second same
  exact congrArg CandidatePath.hops same

/-- No candidate is enumerated twice. -/
theorem nodup_enumerateCandidatePaths
    {snapshot : EvidenceSnapshot}
    (distinct : (snapshot.links.map fun link => link.id).Nodup)
    (source destination : EndpointId)
    (bounds : Bounds) :
    (enumerateCandidatePaths snapshot source destination bounds).Nodup := by
  rw [(perm_enumerateCandidatePaths _ _ _ _).nodup_iff]
  apply List.Nodup.map (candidate_injective source destination)
  exact (nodup_allPaths_hopGraph distinct source destination bounds).sublist
    (List.take_sublist _ _)

/-- If the cap admits every link path, every link path is a candidate. -/
theorem mem_enumerateCandidatePaths_iff
    {snapshot : EvidenceSnapshot}
    {source destination : EndpointId}
    {bounds : Bounds}
    (distinct : (snapshot.links.map fun link => link.id).Nodup)
    (fits :
      Set.encard {candidate |
          LinkPath snapshot source destination bounds candidate} ≤
        (bounds.maxCandidates.toNat : ℕ∞))
    {candidate : CandidatePath} :
    candidate ∈ enumerateCandidatePaths snapshot source destination bounds ↔
      LinkPath snapshot source destination bounds candidate := by
  refine ⟨linkPath_of_mem_enumerateCandidatePaths, ?_⟩
  intro path
  let paths :=
    allPaths (hopGraph snapshot.links) destination (relaysAllowed bounds)
      bounds.maxPathDepth.toNat source [source] []
  have everyPath :
      {candidate | LinkPath snapshot source destination bounds candidate} =
        ((paths.map fun hops =>
          CandidatePath.mk source destination hops).toFinset :
            Set CandidatePath) := by
    ext wanted
    simp only [Set.mem_ofPred_eq, List.coe_toFinset, List.mem_map]
    constructor
    · intro found
      have shape :
          CandidatePath.mk source destination wanted.hops = wanted := by
        rw [← found.fromSource, ← found.toDestination]
      rw [← shape] at found
      exact ⟨wanted.hops, mem_allPaths_hopGraph_iff.mpr found, shape⟩
    · rintro ⟨hops, found, rfl⟩
      exact mem_allPaths_hopGraph_iff.mp found
  have counted : paths.length ≤ bounds.maxCandidates.toNat := by
    have distinctPaths :
        (paths.map fun hops =>
          CandidatePath.mk source destination hops).Nodup :=
      (nodup_allPaths_hopGraph distinct source destination bounds).map
        (candidate_injective source destination)
    rw [everyPath, Set.encard_coe_eq_coe_finsetCard,
      List.toFinset_card_of_nodup distinctPaths, List.length_map] at fits
    exact_mod_cast fits
  have onList : candidate ∈ {candidate |
      LinkPath snapshot source destination bounds candidate} := path
  rw [everyPath, List.coe_toFinset] at onList
  rw [(perm_enumerateCandidatePaths _ _ _ _).mem_iff,
    List.take_of_length_le counted]
  exact onList

/-! ## The order of the candidates -/

/-- With distinct link identities, the links determine the hops. -/
theorem hops_eq_of_map_link_eq
    {links : List Link}
    (distinct : (links.map fun link => link.id).Nodup)
    {first second : List Hop}
    (firstLinked : ∀ hop ∈ first, HopLinked links hop)
    (secondLinked : ∀ hop ∈ second, HopLinked links hop)
    (sameLinks :
      first.map (fun hop => hop.link) = second.map fun hop => hop.link) :
    first = second := by
  induction first generalizing second with
  | nil =>
      cases second with
      | nil =>
          rfl
      | cons other others =>
          simp at sameLinks
  | cons hop rest inductionHypothesis =>
      cases second with
      | nil =>
          simp at sameLinks
      | cons other others =>
          simp only [List.map_cons, List.cons.injEq] at sameLinks
          obtain ⟨link, member, linkId, linkSource, linkTarget⟩ :=
            firstLinked hop (by simp)
          obtain ⟨otherLink, otherMember, otherId, otherSource, otherTarget⟩ :=
            secondLinked other (by simp)
          have sameLink : link = otherLink :=
            List.inj_on_of_nodup_map distinct member otherMember
              (by rw [linkId, otherId, sameLinks.1])
          have sameHop : hop = other := by
            rcases hop with ⟨hopLink, hopSource, hopTarget⟩
            rcases other with ⟨otherHopLink, otherHopSource, otherHopTarget⟩
            simp_all
          rw [sameHop, inductionHypothesis
            (fun later member => firstLinked later (by simp [member]))
            (fun later member => secondLinked later (by simp [member]))
            sameLinks.2]

/-- What the candidates are sorted by: the number of hops, then the links. -/
def candidateRank (candidate : CandidatePath) : ℕ ×ₗ List LinkId :=
  toLex (candidate.hops.length, candidate.hops.map fun hop => hop.link)

theorem rankedBy_candidateLess
    (candidates : List CandidatePath) :
    RankedBy candidateLess candidateRank candidates := by
  intro first _ second _
  unfold candidateLess candidateRank
  rw [Prod.Lex.toLex_lt_toLex]
  by_cases sameLength : first.hops.length = second.hops.length
  · simp [sameLength]
  · simp [sameLength]

/-- The hops of no two candidates coincide. -/
theorem nodup_map_hops_enumerateCandidatePaths
    {snapshot : EvidenceSnapshot}
    (distinct : (snapshot.links.map fun link => link.id).Nodup)
    (source destination : EndpointId)
    (bounds : Bounds) :
    ((enumerateCandidatePaths snapshot source destination bounds).map
      fun candidate => candidate.hops).Nodup := by
  rw [List.nodup_map_iff_inj_on
    (nodup_enumerateCandidatePaths distinct source destination bounds)]
  intro first firstMember second secondMember sameHops
  have firstPath := linkPath_of_mem_enumerateCandidatePaths firstMember
  have secondPath := linkPath_of_mem_enumerateCandidatePaths secondMember
  rcases first with ⟨firstSource, firstDestination, firstHops⟩
  rcases second with ⟨secondSource, secondDestination, secondHops⟩
  obtain rfl : firstSource = source := firstPath.fromSource
  obtain rfl : firstDestination = destination := firstPath.toDestination
  obtain rfl : secondSource = firstSource := secondPath.fromSource
  obtain rfl : secondDestination = firstDestination :=
    secondPath.toDestination
  exact congrArg (CandidatePath.mk _ _) sameHops

/-- The candidates ascend strictly by the number of hops and then the links. -/
theorem pairwise_enumerateCandidatePaths
    {snapshot : EvidenceSnapshot}
    (distinct : (snapshot.links.map fun link => link.id).Nodup)
    (source destination : EndpointId)
    (bounds : Bounds) :
    (enumerateCandidatePaths snapshot source destination bounds).Pairwise
      fun first second => candidateRank first < candidateRank second := by
  let candidates :=
    enumerateCandidatePaths snapshot source destination bounds
  have ascending :
      candidates.Pairwise fun first second =>
        candidateRank first ≤ candidateRank second :=
    pairwise_sortBy (rankedBy_candidateLess _)
  have different :
      candidates.Pairwise fun first second => first.hops ≠ second.hops :=
    List.pairwise_map.mp
      (nodup_map_hops_enumerateCandidatePaths distinct source destination
        bounds)
  apply (ascending.and different).imp_of_mem
  intro first second firstMember secondMember ordered
  apply lt_of_le_of_ne ordered.1
  intro tied
  have sameLinks :
      first.hops.map (fun hop => hop.link) =
        second.hops.map fun hop => hop.link :=
    (Prod.mk.inj (toLex.injective tied)).2
  exact ordered.2 (hops_eq_of_map_link_eq distinct
    (linkPath_of_mem_enumerateCandidatePaths firstMember).linked
    (linkPath_of_mem_enumerateCandidatePaths secondMember).linked sameLinks)

theorem length_enumerateCandidatePaths_le
    (snapshot : EvidenceSnapshot)
    (source destination : EndpointId)
    (bounds : Bounds) :
    (enumerateCandidatePaths snapshot source destination bounds).length ≤
      bounds.maxCandidates.toNat := by
  rw [(perm_enumerateCandidatePaths _ _ _ _).length_eq, List.length_map,
    List.length_take]
  exact Nat.min_le_left _ _

/-- If the enumeration stops below the cap, the cap admits every link path. -/
theorem encard_linkPaths_le_of_length_lt
    {snapshot : EvidenceSnapshot}
    {source destination : EndpointId}
    {bounds : Bounds}
    (short :
      (enumerateCandidatePaths snapshot source destination bounds).length <
        bounds.maxCandidates.toNat) :
    Set.encard {candidate |
        LinkPath snapshot source destination bounds candidate} ≤
      (bounds.maxCandidates.toNat : ℕ∞) := by
  let paths :=
    allPaths (hopGraph snapshot.links) destination (relaysAllowed bounds)
      bounds.maxPathDepth.toNat source [source] []
  have counted : paths.length ≤ bounds.maxCandidates.toNat := by
    rw [(perm_enumerateCandidatePaths _ _ _ _).length_eq, List.length_map,
      List.length_take] at short
    exact Nat.le_of_lt ((min_lt_iff.mp short).resolve_left (lt_irrefl _))
  have listed :
      {candidate | LinkPath snapshot source destination bounds candidate} ⊆
        ((paths.map fun hops =>
          CandidatePath.mk source destination hops).toFinset :
            Set CandidatePath) := by
    intro wanted found
    have shape :
        CandidatePath.mk source destination wanted.hops = wanted := by
      rw [← found.fromSource, ← found.toDestination]
    rw [List.coe_toFinset, Set.mem_ofPred_eq, List.mem_map]
    refine ⟨wanted.hops, mem_allPaths_hopGraph_iff.mpr ?_, shape⟩
    rw [shape]
    exact found
  refine (Set.encard_le_encard listed).trans ?_
  rw [Set.encard_coe_eq_coe_finsetCard]
  refine (Nat.cast_le.mpr (List.toFinset_card_le _)).trans ?_
  rw [List.length_map]
  exact Nat.cast_le.mpr counted

/-- The end of a nonempty chain is the target of one of its hops. -/
theorem Contiguous.end_mem
    {source destination : EndpointId}
    {hops : List Hop}
    (contiguous : Contiguous source hops destination)
    (nonempty : hops ≠ []) :
    destination ∈ hops.map fun hop => hop.target := by
  induction hops generalizing source with
  | nil =>
      exact (nonempty rfl).elim
  | cons hop rest inductionHypothesis =>
      cases rest with
      | nil =>
          have arrived : hop.target = destination := contiguous.2
          simp [arrived]
      | cons next later =>
          exact List.mem_cons_of_mem _
            (inductionHypothesis contiguous.2 (by simp))

/-- No vertex-simple chain leads back to its own start. -/
theorem LinkPath.source_ne_destination
    {snapshot : EvidenceSnapshot}
    {source destination : EndpointId}
    {bounds : Bounds}
    {candidate : CandidatePath}
    (path : LinkPath snapshot source destination bounds candidate) :
    source ≠ destination := by
  intro same
  have returned := path.contiguous.end_mem path.nonempty
  rw [← same] at returned
  exact (List.nodup_cons.mp path.simple).1 returned

/--
Over distinct links the enumeration lists link paths with pairwise different
hops, at most as many as the cap, in ascending order of the number of hops and
then of the links.  If the cap admits every link path, every one is listed.
Between an endpoint and itself there is none.
-/
theorem enumerateCandidatePaths_lists_link_paths
    (snapshot : EvidenceSnapshot)
    (source destination : EndpointId)
    (bounds : Bounds)
    (distinct : (snapshot.links.map fun link => link.id).Nodup) :
    let candidates :=
      enumerateCandidatePaths snapshot source destination bounds
    (candidates.map fun candidate => candidate.hops).Nodup ∧
    (∀ candidate ∈ candidates,
      LinkPath snapshot source destination bounds candidate) ∧
    candidates.length ≤ bounds.maxCandidates.toNat ∧
    candidates.Pairwise (fun first second =>
      first.hops.length < second.hops.length ∨
        (first.hops.length = second.hops.length ∧
          first.hops.map (fun hop => hop.link) <
            second.hops.map fun hop => hop.link)) ∧
    (Set.encard {candidate |
          LinkPath snapshot source destination bounds candidate} ≤
        (bounds.maxCandidates.toNat : ℕ∞) →
      ∀ candidate,
        LinkPath snapshot source destination bounds candidate →
          candidate ∈ candidates) ∧
    (source = destination →
      candidates = [] ∧
        ∀ candidate,
          ¬ LinkPath snapshot source destination bounds candidate) := by
  intro candidates
  refine ⟨nodup_map_hops_enumerateCandidatePaths distinct _ _ _,
    fun candidate => linkPath_of_mem_enumerateCandidatePaths,
    length_enumerateCandidatePaths_le _ _ _ _, ?_, ?_, ?_⟩
  · apply (pairwise_enumerateCandidatePaths distinct source destination
      bounds).imp
    intro first second ascending
    exact Prod.Lex.toLex_lt_toLex.mp ascending
  · intro fits candidate path
    exact (mem_enumerateCandidatePaths_iff distinct fits).mpr path
  · intro same
    have noPath :
        ∀ candidate,
          ¬ LinkPath snapshot source destination bounds candidate := by
      intro candidate path
      exact path.source_ne_destination same
    refine ⟨?_, noPath⟩
    apply List.eq_nil_iff_forall_not_mem.mpr
    intro candidate member
    exact noPath candidate (linkPath_of_mem_enumerateCandidatePaths member)

/-- A direct link and a route over a relay between two endpoints. -/
def twoRoutes : EvidenceSnapshot :=
  { links :=
      [ mkLink ⟨9⟩ ⟨1⟩ ⟨3⟩ ⟨2⟩ .tcp 1000,
        mkLink ⟨7⟩ ⟨1⟩ ⟨1⟩ ⟨2⟩ .tcp 1000,
        mkLink ⟨8⟩ ⟨1⟩ ⟨1⟩ ⟨3⟩ .tcp 1000 ] }

/-- Both routes are listed, and their hops differ. -/
theorem enumerateCandidatePaths_lists_two_routes :
    (enumerateCandidatePaths twoRoutes ⟨1⟩ ⟨2⟩ {}).length = 2 ∧
      ((enumerateCandidatePaths twoRoutes ⟨1⟩ ⟨2⟩ {}).map
        fun candidate => candidate.hops).Nodup := by
  refine ⟨by decide +kernel, ?_⟩
  exact (enumerateCandidatePaths_lists_link_paths twoRoutes ⟨1⟩ ⟨2⟩ {}
    (by decide)).1

/-! ## Independence of the order of the links -/

theorem adjacency_eq_of_perm
    {first second : List Link}
    (permuted : first.Perm second) :
    adjacency first = adjacency second := by
  have ranked :
      ∀ neighbours,
        RankedBy adjLess (fun adj => toLex (adj.target, adj.link))
          neighbours := by
    intro neighbours one _ other _
    rw [Prod.Lex.toLex_lt_toLex]
    unfold adjLess
    by_cases sameTarget : one.target = other.target <;> simp [sameTarget]
  funext source
  apply sortBy_eq_of_perm (ranked _)
  · rintro ⟨oneTarget, oneLink⟩ _ ⟨otherTarget, otherLink⟩ _ sameRank
    simpa using sameRank
  · exact (permuted.filter _).map _

/-- Reordering the links of a snapshot does not change the candidates. -/
theorem enumerateCandidatePaths_eq_of_perm
    {first second : EvidenceSnapshot}
    (permuted : first.links.Perm second.links) :
    enumerateCandidatePaths first = enumerateCandidatePaths second := by
  funext source destination bounds
  simp only [enumerateCandidatePaths, hopGraph,
    adjacency_eq_of_perm permuted]

end CommunicationPlanner
