import CommunicationPlanner.PlanConstruction
import CommunicationPlanner.ReservationOverflow

namespace CommunicationPlanner

open OrderedCollections

/-!
# The numbers of resources

A link's bandwidth is the resource with the number of the link, and the staging
memory of an endpoint the one with twice its number and one, in 64 bits.  Both
are looked up among the same reservations and claims, so they have to be apart:
the staging resources of different endpoints from each other, and all of them
from the bandwidths of the links.
-/

variable {snapshot : EvidenceSnapshot}

/-! ## When two numbers are the same -/

theorem toNat_stagingResourceFor
    (relay : EndpointId) :
    (stagingResourceFor relay).value.toNat =
      2 * (relay.value.toNat % 2 ^ 63) + 1 := by
  simp only [stagingResourceFor, UInt64.toNat_add, UInt64.toNat_mul,
    UInt64.toNat_ofNat]
  omega

/-- Doubling loses the highest bit of the number of an endpoint. -/
theorem stagingResourceFor_eq_iff
    {first second : EndpointId} :
    stagingResourceFor first = stagingResourceFor second ↔
      first.value.toNat % 2 ^ 63 = second.value.toNat % 2 ^ 63 := by
  have sameNumber :
      stagingResourceFor first = stagingResourceFor second ↔
        (stagingResourceFor first).value.toNat =
          (stagingResourceFor second).value.toNat := by
    rw [UInt64.toNat_inj]
    exact ⟨congrArg Id.value, congrArg Id.mk⟩
  rw [sameNumber, toNat_stagingResourceFor, toNat_stagingResourceFor]
  omega

/-- The number of the link is odd, and its half that of the endpoint. -/
def Clash (endpoint : EndpointId) (link : LinkId) : Prop :=
  link.value.toNat % 2 = 1 ∧
    link.value.toNat / 2 = endpoint.value.toNat % 2 ^ 63

theorem stagingResourceFor_eq_linkResource_iff
    {endpoint : EndpointId}
    {link : LinkId} :
    stagingResourceFor endpoint = linkResource link ↔ Clash endpoint link := by
  have sameNumber :
      stagingResourceFor endpoint = linkResource link ↔
        (stagingResourceFor endpoint).value.toNat = link.value.toNat := by
    rw [UInt64.toNat_inj]
    exact ⟨congrArg Id.value, congrArg Id.mk⟩
  rw [sameNumber, toNat_stagingResourceFor, Clash]
  omega

/-! ## Reservations on other resources -/

theorem reservedOn_reserve_of_ne
    {reservation : Reservation}
    {resource : ResourceId}
    (other : reservation.resource ≠ resource) :
    reservedOn (snapshot.reserve reservation) resource =
      reservedOn snapshot resource := by
  rw [← UInt64.toNat_inj, toNat_reservedOn, toNat_reservedOn,
    exactReserved_reserve, if_neg other, Nat.add_zero]

/-- One reservation more is no matter of a hop over another resource. -/
theorem HopAdmissible.to_reserve
    {request : CommunicationRequest}
    {reservation : Reservation}
    {hop : Hop}
    {link : Link}
    {source target : Endpoint}
    (admissible : HopAdmissible request snapshot hop link source target)
    (other : reservation.resource ≠ linkResource link.id) :
    HopAdmissible request (snapshot.reserve reservation) hop link source
      target :=
  { admissible with
    reservationFits := by
      rw [reservedOn_reserve_of_ne other]
      exact admissible.reservationFits
    sourceAdmissible :=
      endpointAdmissible_reserve_iff.mpr admissible.sourceAdmissible
    targetAdmissible :=
      endpointAdmissible_reserve_iff.mpr admissible.targetAdmissible }

/-- A reservation that no usable link is on changes no verdict. -/
theorem feasible_reserve_of_unused
    {reservation : Reservation}
    (unused :
      ∀ link source target,
        LinkUsable snapshot link source target →
          reservation.resource ≠ linkResource link.id)
    (request : CommunicationRequest)
    (candidate : CandidatePath)
    (bounds : Bounds) :
    (evaluateCandidateFeasibility request (snapshot.reserve reservation)
        candidate bounds).feasible =
      (evaluateCandidateFeasibility request snapshot candidate
        bounds).feasible := by
  rw [Bool.eq_iff_iff, evaluateCandidateFeasibility_feasible_iff,
    evaluateCandidateFeasibility_feasible_iff]
  constructor
  · rintro ⟨shape, hops, policy⟩
    refine ⟨shape, ?_, policy⟩
    intro hop member
    obtain ⟨link, source, target, admissible⟩ := hops hop member
    have other :=
      unused link source target
        (linkUsable_reserve_iff.mp admissible.usable)
    refine ⟨link, source, target, admissible.of_reserve ?_⟩
    rw [← reservedOn_reserve_of_ne other]
    exact admissible.reservationFits
  · rintro ⟨shape, hops, policy⟩
    refine ⟨shape, ?_, policy⟩
    intro hop member
    obtain ⟨link, source, target, admissible⟩ := hops hop member
    exact ⟨link, source, target,
      admissible.to_reserve (unused link source target admissible.usable)⟩

/-- A usable link looks free exactly when the candidate over it is feasible. -/
theorem LinkUsable.feasible_iff
    {link : Link}
    {source target : Endpoint}
    (usable : LinkUsable snapshot link source target) :
    (evaluateCandidateFeasibility link.request snapshot link.candidate
        {}).feasible = true ↔
      exactReserved snapshot (linkResource link.id) % 2 ^ 64 <
        link.capacity.count.toNat := by
  refine ⟨fun feasible => ?_, usable.feasible⟩
  obtain ⟨_, _, _, free⟩ :=
    free_of_feasible feasible (List.mem_singleton.mpr rfl) usable.linkFound
  exact free

/-- The reservation of an amount on the bandwidth of a link. -/
def Link.reservation (link : Link) (amount : Nat) : Reservation :=
  { resource := linkResource link.id
    reserved := ⟨UInt64.ofNat amount⟩ }

theorem LinkUsable.feasible_reserve_iff
    {link : Link}
    {source target : Endpoint}
    (usable : LinkUsable snapshot link source target)
    {amount : Nat}
    (fits : amount < 2 ^ 64) :
    (evaluateCandidateFeasibility link.request
        (snapshot.reserve (link.reservation amount)) link.candidate
        {}).feasible = true ↔
      (exactReserved snapshot (linkResource link.id) + amount) % 2 ^ 64 <
        link.capacity.count.toNat := by
  have sameResource :
      (link.reservation amount).resource = linkResource link.id :=
    rfl
  have sameAmount :
      (link.reservation amount).reserved.count.toNat = amount :=
    UInt64.toNat_ofNat_of_lt' fits
  rw [(linkUsable_reserve_iff.mpr usable).feasible_iff, exactReserved_reserve,
    if_pos sameResource, sameAmount]

/--
On a usable link some amount turns the verdict over: what is missing to the
capacity uses it up, and what is missing to `2 ^ 64` frees it.
-/
theorem LinkUsable.exists_changing
    {link : Link}
    {source target : Endpoint}
    (usable : LinkUsable snapshot link source target) :
    ∃ amount,
      (evaluateCandidateFeasibility link.request
          (snapshot.reserve (link.reservation amount)) link.candidate
          {}).feasible ≠
        (evaluateCandidateFeasibility link.request snapshot link.candidate
          {}).feasible := by
  have bounded := link.capacity.count.toNat_lt
  have positive : 0 < link.capacity.count.toNat := by
    have nonzero := usable.capacityPositive
    rw [ne_eq, ← UInt64.toNat_inj] at nonzero
    exact Nat.pos_of_ne_zero nonzero
  by_cases free :
      exactReserved snapshot (linkResource link.id) % 2 ^ 64 <
        link.capacity.count.toNat
  · refine
      ⟨link.capacity.count.toNat -
        exactReserved snapshot (linkResource link.id) % 2 ^ 64, ?_⟩
    rw [ne_eq, Bool.eq_iff_iff, usable.feasible_reserve_iff (by omega),
      usable.feasible_iff]
    omega
  · refine
      ⟨2 ^ 64 - exactReserved snapshot (linkResource link.id) % 2 ^ 64, ?_⟩
    rw [ne_eq, Bool.eq_iff_iff, usable.feasible_reserve_iff (by omega),
      usable.feasible_iff]
    omega

/-! ## Resources apart -/

/-- A reservation on a staging resource changes the verdict on no candidate. -/
def StagingUnfelt (snapshot : EvidenceSnapshot) : Prop :=
  ∀ endpoint ∈ snapshot.endpoints, ∀ reservation : Reservation,
    reservation.resource = stagingResourceFor endpoint.id →
      ∀ request candidate bounds,
        (evaluateCandidateFeasibility request (snapshot.reserve reservation)
            candidate bounds).feasible =
          (evaluateCandidateFeasibility request snapshot candidate
            bounds).feasible

/-- What the numbering of the resources is meant to give. -/
structure ResourcesApart (snapshot : EvidenceSnapshot) : Prop where
  relays :
    ∀ first ∈ snapshot.endpoints, ∀ second ∈ snapshot.endpoints,
      first.id ≠ second.id →
        stagingResourceFor first.id ≠ stagingResourceFor second.id
  links :
    ∀ endpoint ∈ snapshot.endpoints, ∀ link ∈ snapshot.links,
      stagingResourceFor endpoint.id ≠ linkResource link.id
  unfelt : StagingUnfelt snapshot

/-- What the numbers of the endpoints and links have to satisfy for it. -/
structure NumbersApart (snapshot : EvidenceSnapshot) : Prop where
  relays :
    ∀ first ∈ snapshot.endpoints, ∀ second ∈ snapshot.endpoints,
      first.id ≠ second.id →
        first.id.value.toNat % 2 ^ 63 ≠ second.id.value.toNat % 2 ^ 63
  links :
    ∀ endpoint ∈ snapshot.endpoints, ∀ link ∈ snapshot.links,
      ¬Clash endpoint.id link.id

theorem stagingUnfelt_iff :
    StagingUnfelt snapshot ↔
      ∀ endpoint ∈ snapshot.endpoints, ∀ link source target,
        LinkUsable snapshot link source target →
          ¬Clash endpoint.id link.id := by
  constructor
  · intro unfelt endpoint member link source target usable clash
    obtain ⟨amount, changed⟩ := usable.exists_changing
    refine changed (unfelt endpoint member (link.reservation amount) ?_ _ _ _)
    exact (stagingResourceFor_eq_linkResource_iff.mpr clash).symm
  · intro apart endpoint member reservation onStaging request candidate bounds
    apply feasible_reserve_of_unused
    intro link source target usable onLink
    refine apart endpoint member link source target usable ?_
    exact stagingResourceFor_eq_linkResource_iff.mp
      (onStaging.symm.trans onLink)

/--
The resources of a snapshot are apart exactly when the numbers of its endpoints
differ below their highest bit and no link has an odd number whose half is that
of an endpoint.  For reservations on staging resources to change no verdict, it
is exactly the usable links that must not have such numbers.
-/
theorem resources_are_apart_iff
    (snapshot : EvidenceSnapshot) :
    (ResourcesApart snapshot ↔ NumbersApart snapshot) ∧
    (StagingUnfelt snapshot ↔
      ∀ endpoint ∈ snapshot.endpoints, ∀ link source target,
        LinkUsable snapshot link source target →
          ¬Clash endpoint.id link.id) := by
  refine ⟨⟨?_, ?_⟩, stagingUnfelt_iff⟩
  · rintro ⟨relays, links, _⟩
    constructor
    · intro first firstMember second secondMember different
      rw [ne_eq, ← stagingResourceFor_eq_iff]
      exact relays first firstMember second secondMember different
    · intro endpoint member link linkMember
      rw [← stagingResourceFor_eq_linkResource_iff]
      exact links endpoint member link linkMember
  · rintro ⟨relays, links⟩
    constructor
    · intro first firstMember second secondMember different
      rw [ne_eq, stagingResourceFor_eq_iff]
      exact relays first firstMember second secondMember different
    · intro endpoint member link linkMember
      rw [ne_eq, stagingResourceFor_eq_linkResource_iff]
      exact links endpoint member link linkMember
    · rw [stagingUnfelt_iff]
      intro endpoint member link source target usable
      exact links endpoint member link
        (mem_of_getElem?_indexBy usable.linkFound).1

/-- A link with the number of the staging resource of the third endpoint. -/
def clashingRow : EvidenceSnapshot :=
  { endpoints :=
      [ mkEndpoint ⟨1⟩ ⟨1⟩ .cpuMemory .tcp,
        mkEndpoint ⟨2⟩ ⟨1⟩ .cpuMemory .tcp,
        mkEndpoint ⟨3⟩ ⟨1⟩ .cpuMemory .tcp,
        mkEndpoint ⟨9223372036854775811⟩ ⟨1⟩ .cpuMemory .tcp ]
    links := [mkLink ⟨7⟩ ⟨1⟩ ⟨1⟩ ⟨2⟩ .tcp 1000] }

/--
Staging memory reserved at the third endpoint blocks the link between the first
two, and the fourth endpoint stages in the same resource as the third.
-/
theorem staging_reservation_blocks_a_link :
    let path : CandidatePath := ⟨⟨1⟩, ⟨2⟩, [⟨⟨7⟩, ⟨1⟩, ⟨2⟩⟩]⟩
    let request := mkRequest ⟨5⟩ ⟨1⟩ ⟨2⟩ 4096
    let reservation : Reservation :=
      { resource := stagingResourceFor ⟨3⟩, reserved := ⟨1000⟩ }
    (evaluateCandidateFeasibility request clashingRow path
        {}).feasible = true ∧
    (evaluateCandidateFeasibility request (clashingRow.reserve reservation)
        path {}).feasible = false ∧
    stagingResourceFor ⟨3⟩ = stagingResourceFor ⟨9223372036854775811⟩ := by
  decide +kernel

end CommunicationPlanner
