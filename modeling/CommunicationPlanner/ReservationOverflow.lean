import CommunicationPlanner.Feasibility
import Mathlib.Algebra.BigOperators.Group.List.Basic

namespace CommunicationPlanner

open OrderedCollections

/-!
# Reservations beyond 64 bits

The hard filter adds the reservations on the resource of a link in 64 bits and
compares the sum with the capacity of the link.  As long as the sum fits, this is
the comparison with the exact sum.  Beyond that the sum starts again from zero:
a link that is reserved many times over looks free, and one reservation more can
bring a rejected path back.
-/

/-- The reservations on a resource, added without a bound. -/
def exactReserved
    (snapshot : EvidenceSnapshot)
    (resource : ResourceId) : Nat :=
  ((snapshot.reservations.filter fun reservation =>
    reservation.resource = resource).map fun reservation =>
      reservation.reserved.count.toNat).sum

/-- The snapshot with one reservation more. -/
def EvidenceSnapshot.reserve
    (snapshot : EvidenceSnapshot)
    (reservation : Reservation) : EvidenceSnapshot :=
  { snapshot with
    reservations := snapshot.reservations ++ [reservation] }

/-- A link that the filter has nothing against, reservations apart. -/
structure LinkUsable
    (snapshot : EvidenceSnapshot)
    (link : Link)
    (source target : Endpoint) : Prop where
  linkFound : snapshot.linkMap[link.id]? = some link
  sourceFound : snapshot.endpointMap[link.source]? = some source
  targetFound : snapshot.endpointMap[link.destination]? = some target
  directed : link.directed = true
  transportKnown : link.transport ≠ .unknown
  capacityPositive : link.capacity.count ≠ 0
  healthy : link.health.healthy = true
  belowHardLimit : link.congestion.hardLimitExceeded = false
  sourceAdmissible : EndpointAdmissible snapshot link.transport source
  targetAdmissible : EndpointAdmissible snapshot link.transport target

/-- The hop over the whole link. -/
def Link.hop (link : Link) : Hop :=
  ⟨link.id, link.source, link.destination⟩

/-- The candidate of one hop over the link. -/
def Link.candidate (link : Link) : CandidatePath :=
  ⟨link.source, link.destination, [link.hop]⟩

/-- A request over the link without any constraint. -/
def Link.request (link : Link) : CommunicationRequest :=
  mkRequest ⟨1⟩ link.source link.destination 1

variable
  {snapshot : EvidenceSnapshot}
  {request : CommunicationRequest}
  {bounds : Bounds}
  {hop : Hop}
  {link : Link}
  {source target : Endpoint}

/-! ## The sum in 64 bits -/

private theorem toNat_foldl_reserved
    (reservations : List Reservation)
    (resource : ResourceId)
    (start : UInt64) :
    (reservations.foldl (fun reserved reservation =>
      if reservation.resource = resource then
        reserved + reservation.reserved.count
      else
        reserved) start).toNat =
      (start.toNat +
        ((reservations.filter fun reservation =>
          reservation.resource = resource).map fun reservation =>
            reservation.reserved.count.toNat).sum) % 2 ^ 64 := by
  induction reservations generalizing start with
  | nil =>
      have fits := start.toNat_lt
      simp [Nat.mod_eq_of_lt fits]
  | cons reservation rest inductionHypothesis =>
      rw [List.foldl_cons, inductionHypothesis]
      by_cases onResource : reservation.resource = resource
      · simp only [onResource, if_true, UInt64.toNat_add, decide_true,
          List.filter_cons_of_pos, List.map_cons, List.sum_cons]
        rw [Nat.mod_add_mod, Nat.add_assoc]
      · simp [onResource]

/-- The filter compares with the exact sum modulo `2 ^ 64`. -/
theorem toNat_reservedOn
    (snapshot : EvidenceSnapshot)
    (resource : ResourceId) :
    (reservedOn snapshot resource).toNat =
      exactReserved snapshot resource % 2 ^ 64 := by
  have summed := toNat_foldl_reserved snapshot.reservations resource 0
  rw [UInt64.toNat_zero, Nat.zero_add] at summed
  exact summed

theorem exactReserved_reserve
    (snapshot : EvidenceSnapshot)
    (reservation : Reservation)
    (resource : ResourceId) :
    exactReserved (snapshot.reserve reservation) resource =
      exactReserved snapshot resource +
        if reservation.resource = resource then
          reservation.reserved.count.toNat
        else
          0 := by
  unfold exactReserved EvidenceSnapshot.reserve
  by_cases onResource : reservation.resource = resource <;>
    simp [List.filter_append, onResource]

/-! ## Usable links and feasible candidates -/

theorem HopAdmissible.usable
    (admissible : HopAdmissible request snapshot hop link source target) :
    LinkUsable snapshot link source target := by
  have sameLink : link.id = hop.link :=
    (mem_of_getElem?_indexBy admissible.linkFound).2
  exact
    { linkFound := by rw [sameLink]; exact admissible.linkFound
      sourceFound := by
        rw [← admissible.fromSource]
        exact admissible.sourceFound
      targetFound := by
        rw [← admissible.toDestination]
        exact admissible.targetFound
      directed := admissible.directed
      transportKnown := admissible.transportKnown
      capacityPositive := admissible.capacityPositive
      healthy := admissible.healthy
      belowHardLimit := admissible.belowHardLimit
      sourceAdmissible := admissible.sourceAdmissible
      targetAdmissible := admissible.targetAdmissible }

/-- Over a usable link that looks free, the candidate of one hop is feasible. -/
theorem LinkUsable.feasible
    (usable : LinkUsable snapshot link source target)
    (free :
      exactReserved snapshot (linkResource link.id) % 2 ^ 64 <
        link.capacity.count.toNat) :
    (evaluateCandidateFeasibility link.request snapshot link.candidate
      {}).feasible = true := by
  rw [evaluateCandidateFeasibility_feasible_iff]
  have admissible :
      HopAdmissible link.request snapshot link.hop link source target :=
    { linkFound := usable.linkFound
      sourceFound := usable.sourceFound
      targetFound := usable.targetFound
      fromSource := rfl
      toDestination := rfl
      directed := usable.directed
      transportAllowed := rfl
      transportKnown := usable.transportKnown
      capacityPositive := usable.capacityPositive
      healthy := usable.healthy
      belowHardLimit := usable.belowHardLimit
      failureDomain := .inl rfl
      reservationFits := by
        rw [UInt64.lt_iff_toNat_lt, toNat_reservedOn]
        exact free
      sourceAdmissible := usable.sourceAdmissible
      targetAdmissible := usable.targetAdmissible }
  refine ⟨rfl, ?_, .inl rfl⟩
  intro hop member
  obtain rfl := List.mem_singleton.mp member
  exact ⟨link, source, target, admissible⟩

/-- No link of a feasible candidate looks used up. -/
theorem free_of_feasible
    {candidate : CandidatePath}
    (feasible :
      (evaluateCandidateFeasibility request snapshot candidate
        bounds).feasible = true)
    (member : hop ∈ candidate.hops)
    (found : snapshot.linkMap[hop.link]? = some link) :
    ∃ source target,
      LinkUsable snapshot link source target ∧
        exactReserved snapshot (linkResource link.id) % 2 ^ 64 <
          link.capacity.count.toNat := by
  rw [evaluateCandidateFeasibility_feasible_iff] at feasible
  obtain ⟨other, source, target, admissible⟩ := feasible.hops hop member
  obtain rfl : other = link := by
    have alsoFound := admissible.linkFound
    rw [found] at alsoFound
    exact (Option.some.inj alsoFound).symm
  refine ⟨source, target, admissible.usable, ?_⟩
  rw [← toNat_reservedOn, ← UInt64.lt_iff_toNat_lt]
  exact admissible.reservationFits

/-- A usable link on which the sum in 64 bits hides that it is used up. -/
def OverflowsOn
    (snapshot : EvidenceSnapshot)
    (link : Link) : Prop :=
  (∃ source target, LinkUsable snapshot link source target) ∧
    2 ^ 64 ≤ exactReserved snapshot (linkResource link.id) ∧
    exactReserved snapshot (linkResource link.id) % 2 ^ 64 <
      link.capacity.count.toNat

/-- A usable link that is used up until the sum, with one more, starts again. -/
def FreedBy
    (reservation : Reservation)
    (snapshot : EvidenceSnapshot)
    (link : Link) : Prop :=
  (∃ source target, LinkUsable snapshot link source target) ∧
    reservation.resource = linkResource link.id ∧
    link.capacity.count.toNat ≤
      exactReserved snapshot (linkResource link.id) % 2 ^ 64 ∧
    (exactReserved snapshot (linkResource link.id) +
        reservation.reserved.count.toNat) % 2 ^ 64 <
      link.capacity.count.toNat

theorem withinCapacity_iff
    (snapshot : EvidenceSnapshot) :
    (∀ request candidate bounds,
      (evaluateCandidateFeasibility request snapshot candidate
          bounds).feasible = true →
        ∀ hop ∈ candidate.hops, ∀ link,
          snapshot.linkMap[hop.link]? = some link →
            exactReserved snapshot (linkResource link.id) <
              link.capacity.count.toNat) ↔
      ∀ link, ¬OverflowsOn snapshot link := by
  constructor
  · rintro within link ⟨⟨source, target, usable⟩, overflow, free⟩
    have below :=
      within link.request link.candidate {} (usable.feasible free) link.hop
        (List.mem_singleton.mpr rfl) link usable.linkFound
    have bounded := link.capacity.count.toNat_lt
    omega
  · intro never request candidate bounds feasible hop member link found
    obtain ⟨source, target, usable, free⟩ :=
      free_of_feasible feasible member found
    have fits : exactReserved snapshot (linkResource link.id) < 2 ^ 64 := by
      by_contra overflow
      exact never link
        ⟨⟨source, target, usable⟩, not_lt.mp overflow, free⟩
    rw [Nat.mod_eq_of_lt fits] at free
    exact free

/-- Reservations are no matter of the endpoints. -/
theorem endpointAdmissible_reserve_iff
    {reservation : Reservation}
    {transport : Transport}
    {endpoint : Endpoint} :
    EndpointAdmissible (snapshot.reserve reservation) transport endpoint ↔
      EndpointAdmissible snapshot transport endpoint := by
  constructor
  · rintro ⟨fresh, reachable, ready, kindKnown, supported⟩
    exact ⟨fresh, reachable, ready, kindKnown, supported⟩
  · rintro ⟨fresh, reachable, ready, kindKnown, supported⟩
    exact ⟨fresh, reachable, ready, kindKnown, supported⟩

theorem linkUsable_reserve_iff
    {reservation : Reservation} :
    LinkUsable (snapshot.reserve reservation) link source target ↔
      LinkUsable snapshot link source target := by
  constructor
  · intro usable
    exact
      { usable with
        sourceAdmissible :=
          endpointAdmissible_reserve_iff.mp usable.sourceAdmissible
        targetAdmissible :=
          endpointAdmissible_reserve_iff.mp usable.targetAdmissible }
  · intro usable
    exact
      { usable with
        sourceAdmissible :=
          endpointAdmissible_reserve_iff.mpr usable.sourceAdmissible
        targetAdmissible :=
          endpointAdmissible_reserve_iff.mpr usable.targetAdmissible }

/-- A reservation matters to the filter through the sum alone. -/
theorem HopAdmissible.of_reserve
    {reservation : Reservation}
    (admissible :
      HopAdmissible request (snapshot.reserve reservation) hop link source
        target)
    (fits :
      reservedOn snapshot (linkResource link.id) < link.capacity.count) :
    HopAdmissible request snapshot hop link source target :=
  { admissible with
    reservationFits := fits
    sourceAdmissible :=
      endpointAdmissible_reserve_iff.mp admissible.sourceAdmissible
    targetAdmissible :=
      endpointAdmissible_reserve_iff.mp admissible.targetAdmissible }

theorem neverFrees_iff
    (snapshot : EvidenceSnapshot)
    (reservation : Reservation) :
    (∀ request candidate bounds,
      (evaluateCandidateFeasibility request (snapshot.reserve reservation)
          candidate bounds).feasible = true →
        (evaluateCandidateFeasibility request snapshot candidate
          bounds).feasible = true) ↔
      ∀ link, ¬FreedBy reservation snapshot link := by
  constructor
  · rintro never link ⟨⟨source, target, usable⟩, onLink, usedUp, free⟩
    have freeAfter :
        exactReserved (snapshot.reserve reservation)
            (linkResource link.id) % 2 ^ 64 <
          link.capacity.count.toNat := by
      rw [exactReserved_reserve, if_pos onLink]
      exact free
    have feasibleBefore :=
      never link.request link.candidate {}
        ((linkUsable_reserve_iff.mpr usable).feasible freeAfter)
    obtain ⟨_, _, _, freeBefore⟩ :=
      free_of_feasible feasibleBefore (List.mem_singleton.mpr rfl)
        usable.linkFound
    omega
  · intro never request candidate bounds feasible
    rw [evaluateCandidateFeasibility_feasible_iff] at feasible ⊢
    refine ⟨feasible.shape, ?_, feasible.policy⟩
    intro hop member
    obtain ⟨link, source, target, admissible⟩ := feasible.hops hop member
    refine ⟨link, source, target, admissible.of_reserve ?_⟩
    have usable : LinkUsable snapshot link source target :=
      linkUsable_reserve_iff.mp admissible.usable
    have freeAfter := admissible.reservationFits
    rw [UInt64.lt_iff_toNat_lt, toNat_reservedOn, exactReserved_reserve]
      at freeAfter
    rw [UInt64.lt_iff_toNat_lt, toNat_reservedOn]
    by_contra usedUp
    by_cases onLink : reservation.resource = linkResource link.id
    · rw [if_pos onLink] at freeAfter
      exact never link
        ⟨⟨source, target, usable⟩, onLink, not_lt.mp usedUp, freeAfter⟩
    · rw [if_neg onLink, Nat.add_zero] at freeAfter
      exact usedUp freeAfter

/--
Over the links of every feasible candidate the exact reservations stay below the
capacity unless, on some usable link, they reach `2 ^ 64` and their remainder is
below the capacity.  One reservation more makes no candidate feasible unless, on
some usable link, the remainder falls below the capacity with it.
-/
theorem reservations_are_respected_iff
    (snapshot : EvidenceSnapshot)
    (reservation : Reservation) :
    ((∀ request candidate bounds,
        (evaluateCandidateFeasibility request snapshot candidate
            bounds).feasible = true →
          ∀ hop ∈ candidate.hops, ∀ link,
            snapshot.linkMap[hop.link]? = some link →
              exactReserved snapshot (linkResource link.id) <
                link.capacity.count.toNat) ↔
      ∀ link, ¬OverflowsOn snapshot link) ∧
    ((∀ request candidate bounds,
        (evaluateCandidateFeasibility request (snapshot.reserve reservation)
            candidate bounds).feasible = true →
          (evaluateCandidateFeasibility request snapshot candidate
            bounds).feasible = true) ↔
      ∀ link, ¬FreedBy reservation snapshot link) :=
  ⟨withinCapacity_iff snapshot, neverFrees_iff snapshot reservation⟩

/-- A reservation of half of the range of 64 bits on the resource of a link. -/
def hugeReservation : Reservation :=
  { resource := linkResource ⟨7⟩
    reserved := ⟨9223372036854775808⟩ }

/-- Two endpoints and a link with one huge reservation between them. -/
def reservedLink : EvidenceSnapshot :=
  { endpoints :=
      [ mkEndpoint ⟨1⟩ ⟨1⟩ .cpuMemory .tcp,
        mkEndpoint ⟨2⟩ ⟨1⟩ .cpuMemory .tcp ]
    links := [mkLink ⟨7⟩ ⟨1⟩ ⟨1⟩ ⟨2⟩ .tcp 1000]
    reservations := [hugeReservation] }

/--
The second huge reservation makes the path over the link feasible, although
twice as much as before is reserved.
-/
theorem second_reservation_frees_the_link :
    let path : CandidatePath := ⟨⟨1⟩, ⟨2⟩, [⟨⟨7⟩, ⟨1⟩, ⟨2⟩⟩]⟩
    let request := mkRequest ⟨1⟩ ⟨1⟩ ⟨2⟩ 4096
    (evaluateCandidateFeasibility request reservedLink path
      {}).feasible = false ∧
    (evaluateCandidateFeasibility request
      (reservedLink.reserve hugeReservation) path {}).feasible = true ∧
    ∀ hop ∈ path.hops, ∃ link,
      (reservedLink.reserve hugeReservation).linkMap[hop.link]? = some link ∧
        link.capacity.count.toNat <
          exactReserved (reservedLink.reserve hugeReservation)
            (linkResource link.id) := by
  refine ⟨by decide +kernel, by decide +kernel, ?_⟩
  intro hop member
  obtain rfl := List.mem_singleton.mp member
  exact ⟨mkLink ⟨7⟩ ⟨1⟩ ⟨1⟩ ⟨2⟩ .tcp 1000, rfl, by decide +kernel⟩

end CommunicationPlanner
