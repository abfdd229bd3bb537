import CommunicationPlanner.PlannerTotality
import CommunicationPlanner.StoreIntegrity
import Mathlib.Tactic.MkIffOfInductiveProp

namespace CommunicationPlanner

open OrderedCollections

/-!
# Requests after a restart

The store keeps nine fields of a request; the others come back with their
defaults.  The feasibility filter reads a different choice of fields, and so
does `validate`.

The recovered request carries no constraint besides the default ones, so a
request keeps its verdicts when and only when it carries none either.  One
direction follows the filter check by check; for the other there is, for every
field that is lost, a snapshot and a candidate that bring it out.
-/

variable {request : CommunicationRequest}

/-- The feasibility filter tells no difference between the two requests. -/
def SameVerdicts (first second : CommunicationRequest) : Prop :=
  ∀ snapshot candidate bounds,
    (evaluateCandidateFeasibility first snapshot candidate
        bounds).outcome =
      (evaluateCandidateFeasibility second snapshot candidate
        bounds).outcome

namespace CommunicationRequest

/-- The number of hops that the request admits. -/
def limit (request : CommunicationRequest) : Nat :=
  min request.maxStages.toNat request.maxHops.toNat

/-- The constraints of the request are the ones that every request has. -/
structure Unconstrained (request : CommunicationRequest) : Prop where
  limit : request.limit = 16
  relay : request.allowRelay = true
  hostStaging : request.allowHostStaging = true
  storageStaging : request.allowStorageStaging = false
  allowed :
    request.allowed = ∅ ∨ ∀ transport, transport ∈ request.allowed
  forbidden : request.forbidden = ∅
  failureDomain : request.requiredFailureDomain = []
  policy : request.policyGeneration.isNull = true

/-- The destinations and the participants suffice for what the store keeps. -/
structure StaysValid (request : CommunicationRequest) : Prop where
  notCollective : request.shape ≠ .collective
  multicast :
    request.allowMulticast = true →
      request.shape ≠ .pointToPoint ∧ request.shape ≠ .staged

/-- The request asks for nothing that the store does not keep. -/
structure Survives (request : CommunicationRequest) : Prop
    extends request.StaysValid, request.Unconstrained

/-- A request is recovered without its constraints. -/
theorem unconstrained_persisted :
    request.persisted.Unconstrained where
  limit := rfl
  relay := rfl
  hostStaging := rfl
  storageStaging := rfl
  allowed := .inl rfl
  forbidden := rfl
  failureDomain := rfl
  policy := rfl

/-- A request of defaults has no constraints. -/
theorem unconstrained_default :
    ({} : CommunicationRequest).Unconstrained :=
  @unconstrained_persisted {}

end CommunicationRequest

/-! ## Requests without constraints have the same verdicts -/

namespace CommunicationRequest.Unconstrained

/-- Without constraints every transport is allowed. -/
theorem transportAllowed_eq
    (unconstrained : request.Unconstrained)
    (transport : Transport) :
    transportAllowed request transport = .ok := by
  unfold transportAllowed
  rw [if_neg (by simp [unconstrained.forbidden])]
  apply if_neg
  rintro ⟨nonempty, missing⟩
  rcases unconstrained.allowed with empty | everything
  · exact nonempty empty
  · exact missing (everything transport)

/-- A limit that is too small is found under one of its two names. -/
theorem shapeRejection_eq
    (unconstrained : request.Unconstrained)
    (endpoints : Map EndpointId Endpoint)
    (candidate : CandidatePath)
    (bounds : Bounds) :
    (shapeRejection request endpoints candidate
        bounds).map FeasibilityResult.outcome =
      (shapeRejection {} endpoints candidate
        bounds).map FeasibilityResult.outcome := by
  have limit := unconstrained.limit
  have relays :
      relayRejection request endpoints = relayRejection {} endpoints := by
    funext relay
    simp [relayRejection, unconstrained.hostStaging,
      unconstrained.storageStaging]
  have defaultStages : ({} : CommunicationRequest).maxStages.toNat = 16 := rfl
  unfold shapeRejection
  simp only [relays, unconstrained.relay, unconstrained.hostStaging,
    defaultStages]
  unfold CommunicationRequest.limit at limit
  by_cases empty : candidate.hops = []
  · rw [if_pos empty, if_pos empty]
  by_cases deep : bounds.maxPathDepth.toNat < candidate.hops.length
  · rw [if_neg empty, if_neg empty, if_pos deep, if_pos deep]
  rw [if_neg empty, if_neg empty, if_neg deep, if_neg deep]
  by_cases long : 16 < candidate.hops.length
  · rw [if_pos long]
    by_cases stages : request.maxStages.toNat < candidate.hops.length
    · rw [if_pos stages]
    · rw [if_neg stages, if_pos (by omega), Option.map_some, Option.map_some]
      simp only [FeasibilityResult.reject]
  · have stages : ¬ request.maxStages.toNat < candidate.hops.length := by
      omega
    have hops : ¬ request.maxHops.toNat < candidate.hops.length := by
      omega
    rw [if_neg long, if_neg stages, if_neg hops]
    simp [long]

/-- Without constraints a hop is refused as for the defaults. -/
theorem hopRejection_eq
    (unconstrained : request.Unconstrained)
    (snapshot : EvidenceSnapshot)
    (endpoints : Map EndpointId Endpoint)
    (links : Map LinkId Link)
    (hop : Hop) :
    hopRejection request snapshot endpoints links hop =
      hopRejection {} snapshot endpoints links hop := by
  have transports :=
    CommunicationRequest.unconstrained_default.transportAllowed_eq
  unfold hopRejection
  cases links[hop.link]? with
  | none =>
      rfl
  | some link =>
      simp only [linkRejection, unconstrained.transportAllowed_eq,
        transports, unconstrained.failureDomain]

/-- Without constraints all verdicts are those for the defaults. -/
theorem sameVerdicts_default
    (unconstrained : request.Unconstrained) :
    SameVerdicts request {} := by
  intro snapshot candidate bounds
  have shapes :=
    unconstrained.shapeRejection_eq snapshot.endpointMap candidate bounds
  have hops :
      hopRejection request snapshot snapshot.endpointMap snapshot.linkMap =
        hopRejection {} snapshot snapshot.endpointMap snapshot.linkMap :=
    funext (unconstrained.hopRejection_eq snapshot _ _)
  have policy := unconstrained.policy
  unfold evaluateCandidateFeasibility
  simp only [hops, policy]
  cases first :
      shapeRejection request snapshot.endpointMap candidate bounds with
  | some rejection =>
      rw [first] at shapes
      obtain ⟨other, second, sameOutcome⟩ :=
        Option.map_eq_some_iff.mp shapes.symm
      rw [second]
      exact sameOutcome.symm
  | none =>
      rw [first] at shapes
      rw [Option.map_eq_none_iff.mp shapes.symm]
      rfl

end CommunicationRequest.Unconstrained

/-! ## Snapshots that bring a constraint out -/

/-- A candidate of `length` hops that all have the same numbers. -/
def repeatedHop (length : Nat) : CandidatePath :=
  ⟨⟨0⟩, ⟨0⟩, List.replicate length ⟨⟨0⟩, ⟨0⟩, ⟨0⟩⟩⟩

/-- The verdict on the candidate of `length` hops. -/
def verdictOn
    (request : CommunicationRequest)
    (snapshot : EvidenceSnapshot)
    (length : Nat) : Feasibility :=
  (evaluateCandidateFeasibility request snapshot (repeatedHop length)
    { maxPathDepth := 255 }).outcome

/-- Without any evidence a candidate of several hops lacks its relays. -/
theorem verdictOn_nothing
    {length : Nat}
    (several : 1 < length)
    (bounded : length ≤ 255) :
    verdictOn request {} length = .rejectStageLimit ↔
      request.limit < length := by
  obtain ⟨rest, rfl⟩ : ∃ rest, length = rest + 2 :=
    ⟨length - 2, by omega⟩
  have depth :
      ¬ ({ maxPathDepth := 255 } : Bounds).maxPathDepth.toNat <
        rest + 2 := by
    change ¬ 255 < rest + 2
    omega
  have absent :
      (({} : EvidenceSnapshot).endpointMap)[(⟨0⟩ : EndpointId)]? = none :=
    rfl
  unfold verdictOn evaluateCandidateFeasibility shapeRejection
    CommunicationRequest.limit
  simp only [repeatedHop, List.length_replicate, if_neg depth,
    if_pos several]
  by_cases stages : request.maxStages.toNat < rest + 2
  · simp [stages, FeasibilityResult.reject, List.replicate_succ]
  by_cases hops : request.maxHops.toNat < rest + 2
  · simp [stages, hops, FeasibilityResult.reject, List.replicate_succ]
  simp [stages, hops, List.replicate_succ, relayRejection, absent]
  split_ifs <;> simp [FeasibilityResult.reject]

/-- A snapshot whose only endpoint is a relay of the kind. -/
def relaySnapshot (kind : EndpointKind) : EvidenceSnapshot :=
  { endpoints := [{ kind := kind }] }

/-- The request permits relays of the kind. -/
@[mk_iff permitsRelay_iff]
structure CommunicationRequest.PermitsRelay
    (request : CommunicationRequest)
    (kind : EndpointKind) : Prop where
  staging :
    request.allowStaging = false → request.allowHostStaging = true
  relay : request.allowRelay = true
  storageStaging :
    stagingRelay kind = true → kind = .storage →
      request.allowStorageStaging = true
  hostStaging :
    stagingRelay kind = true → kind ≠ .storage →
      request.allowHostStaging = true

/-- The link is missing, so a permitted relay fails on the topology. -/
theorem verdictOn_relay
    (admits : 2 ≤ request.limit)
    (kind : EndpointKind) :
    verdictOn request (relaySnapshot kind) 2 = .rejectTopology ↔
      request.PermitsRelay kind := by
  unfold CommunicationRequest.limit at admits
  have stages : ¬ request.maxStages.toNat < 2 := by
    omega
  have hops : ¬ request.maxHops.toNat < 2 := by
    omega
  have present :
      (relaySnapshot kind).endpointMap[(⟨0⟩ : EndpointId)]? =
        some { kind := kind } := by
    simp [EvidenceSnapshot.endpointMap, getElem?_indexBy, relaySnapshot]
  have absent :
      (relaySnapshot kind).linkMap[(⟨0⟩ : LinkId)]? = none := by
    simp [EvidenceSnapshot.linkMap, getElem?_indexBy, relaySnapshot]
  have candidate :
      (repeatedHop 2).hops =
        [⟨⟨0⟩, ⟨0⟩, ⟨0⟩⟩, ⟨⟨0⟩, ⟨0⟩, ⟨0⟩⟩] :=
    rfl
  rw [CommunicationRequest.permitsRelay_iff]
  unfold verdictOn evaluateCandidateFeasibility shapeRejection
  simp [candidate, stages, hops, present, relayRejection, hopRejection,
    absent]
  split_ifs <;> simp_all [FeasibilityResult.reject]

/-- The verdict on one hop is that on its link, or on the policy. -/
theorem verdictOn_link
    {snapshot : EvidenceSnapshot}
    {link : Link}
    (admits : 1 ≤ request.limit)
    (found : snapshot.linkMap[(⟨0⟩ : LinkId)]? = some link) :
    verdictOn request snapshot 1 =
      ((linkRejection request snapshot snapshot.endpointMap
        ⟨⟨0⟩, ⟨0⟩, ⟨0⟩⟩ link).map FeasibilityResult.outcome).getD
        (if !request.policyGeneration.isNull ∧
            snapshot.policyGeneration < request.policyGeneration then
          .rejectPolicy
        else
          .feasible) := by
  unfold CommunicationRequest.limit at admits
  have stages : request.maxStages.toNat ≠ 0 := by
    omega
  have hops : request.maxHops.toNat ≠ 0 := by
    omega
  have candidate : (repeatedHop 1).hops = [⟨⟨0⟩, ⟨0⟩, ⟨0⟩⟩] := rfl
  have shape :
      shapeRejection request snapshot.endpointMap (repeatedHop 1)
        { maxPathDepth := 255 } = none := by
    simp [shapeRejection, candidate, stages, hops]
  unfold verdictOn evaluateCandidateFeasibility
  simp only [shape, candidate, List.findSome?_cons, List.findSome?_nil,
    hopRejection, found]
  cases linkRejection request snapshot snapshot.endpointMap
      ⟨⟨0⟩, ⟨0⟩, ⟨0⟩⟩ link with
  | some rejection =>
      rfl
  | none =>
      simp only [Option.map_none, Option.getD_none]
      split_ifs <;> rfl

/-! ## What a request with the default verdicts is like -/

/-- A valid request limits its paths to a byte. -/
theorem limit_of_valid
    (valid : request.rejection = none) :
    1 ≤ request.limit ∧ request.limit ≤ 255 := by
  unfold CommunicationRequest.rejection at valid
  obtain ⟨_, valid⟩ := passed_of_eq_none valid
  obtain ⟨_, valid⟩ := passed_of_eq_none valid
  obtain ⟨_, valid⟩ := passed_of_eq_none valid
  obtain ⟨hops, valid⟩ := passed_of_eq_none valid
  obtain ⟨stages, valid⟩ := passed_of_eq_none valid
  rw [not_or, UInt32.lt_iff_toNat_lt, ← UInt32.toNat_inj] at hops stages
  have hopsPositive : request.maxHops.toNat ≠ 0 := hops.1
  have hopsBounded : ¬ 255 < request.maxHops.toNat := hops.2
  have stagesPositive : request.maxStages.toNat ≠ 0 := stages.1
  unfold CommunicationRequest.limit
  omega

/-- The same verdicts are the same on one repeated hop. -/
theorem SameVerdicts.on
    {first second : CommunicationRequest}
    (same : SameVerdicts first second)
    (snapshot : EvidenceSnapshot)
    (length : Nat) :
    verdictOn first snapshot length = verdictOn second snapshot length :=
  same snapshot (repeatedHop length) { maxPathDepth := 255 }

/--
The limit on the hops is the default one, or the shortest candidate that one of
the two does not admit would tell them apart.
-/
theorem limit_of_sameVerdicts
    (valid : request.rejection = none)
    (same : SameVerdicts request {}) :
    request.limit = 16 := by
  obtain ⟨positive, _⟩ := limit_of_valid valid
  have several : 1 < min request.limit 16 + 1 := by
    omega
  have bounded : min request.limit 16 + 1 ≤ 255 := by
    omega
  have admitted :
      request.limit < min request.limit 16 + 1 ↔
        ({} : CommunicationRequest).limit < min request.limit 16 + 1 := by
    rw [← verdictOn_nothing several bounded,
      ← verdictOn_nothing several bounded, same.on]
  have defaultLimit : ({} : CommunicationRequest).limit = 16 := rfl
  omega

/-- The same verdicts show the same relays. -/
theorem permitsRelay_iff_of_sameVerdicts
    (same : SameVerdicts request {})
    (limit : request.limit = 16)
    (kind : EndpointKind) :
    request.PermitsRelay kind ↔
      ({} : CommunicationRequest).PermitsRelay kind := by
  have defaultLimit : ({} : CommunicationRequest).limit = 16 := rfl
  rw [← verdictOn_relay (by omega), ← verdictOn_relay (by omega), same.on]

/-- A snapshot of one link, from an endpoint to itself. -/
def linkSnapshot
    (transport : Transport)
    (capacity : UInt64)
    (endpoints : List Endpoint) : EvidenceSnapshot :=
  { links := [mkLink ⟨0⟩ ⟨1⟩ ⟨0⟩ ⟨0⟩ transport capacity]
    endpoints := endpoints }

/-- An endpoint that is ready for transfers over TCP. -/
def tcpEndpoint : Endpoint :=
  mkEndpoint ⟨0⟩ ⟨1⟩ .gpuDevice .tcp

/-- The verdict on the link of such a snapshot, or on the policy. -/
def linkVerdict
    (request : CommunicationRequest)
    (transport : Transport)
    (capacity : UInt64)
    (endpoints : List Endpoint) : Feasibility :=
  let snapshot := linkSnapshot transport capacity endpoints
  ((linkRejection request snapshot snapshot.endpointMap ⟨⟨0⟩, ⟨0⟩, ⟨0⟩⟩
    (mkLink ⟨0⟩ ⟨1⟩ ⟨0⟩ ⟨0⟩ transport capacity)).map
      FeasibilityResult.outcome).getD
    (if request.policyGeneration.isNull then
      .feasible
    else
      .rejectPolicy)

/-- The verdict on one hop is the verdict on its link. -/
theorem verdictOn_linkSnapshot
    (admits : 1 ≤ request.limit)
    (transport : Transport)
    (capacity : UInt64)
    (endpoints : List Endpoint) :
    verdictOn request (linkSnapshot transport capacity endpoints) 1 =
      linkVerdict request transport capacity endpoints := by
  have found :
      (linkSnapshot transport capacity endpoints).linkMap[(⟨0⟩ : LinkId)]? =
        some (mkLink ⟨0⟩ ⟨1⟩ ⟨0⟩ ⟨0⟩ transport capacity) := by
    simp [EvidenceSnapshot.linkMap, getElem?_indexBy, linkSnapshot, mkLink]
  have older :
      request.policyGeneration.isNull = false →
        (linkSnapshot transport capacity endpoints).policyGeneration <
          request.policyGeneration := by
    intro nonNull
    refine lt_of_le_of_ne (Nat.zero_le _) ?_
    rintro same
    rw [← same] at nonNull
    cases nonNull
  rw [verdictOn_link admits found, linkVerdict]
  cases null : request.policyGeneration.isNull with
  | true =>
      simp
  | false =>
      simp [older null]

/-- The same verdicts are the same on one link. -/
theorem linkVerdict_of_sameVerdicts
    (same : SameVerdicts request {})
    (limit : request.limit = 16)
    (transport : Transport)
    (capacity : UInt64)
    (endpoints : List Endpoint) :
    linkVerdict request transport capacity endpoints =
      linkVerdict {} transport capacity endpoints := by
  have defaultLimit : ({} : CommunicationRequest).limit = 16 := rfl
  rw [← verdictOn_linkSnapshot (by omega), ← verdictOn_linkSnapshot (by omega),
    same.on]

/-- A transport is refused with one outcome. -/
theorem outcome_of_refused
    {transport : Transport}
    (refused : (transportAllowed request transport).feasible = false) :
    (transportAllowed request transport).outcome = .rejectTransport := by
  unfold transportAllowed at refused ⊢
  split_ifs at refused ⊢
  · rfl
  · rfl
  · cases refused

/-- The same verdicts show that every transport is allowed. -/
theorem transportAllowed_of_sameVerdicts
    (same : SameVerdicts request {})
    (limit : request.limit = 16)
    (transport : Transport) :
    (transportAllowed request transport).feasible = true := by
  have verdict := linkVerdict_of_sameVerdicts same limit transport 0 []
  by_contra refused
  rw [Bool.not_eq_true] at refused
  have defaultAllowed : (transportAllowed {} transport).feasible = true := by
    rw [CommunicationRequest.unconstrained_default.transportAllowed_eq]
    rfl
  simp [linkVerdict, linkRejection, mkLink, refused, outcome_of_refused refused,
    defaultAllowed, FeasibilityResult.reject] at verdict

/-- The same verdicts show that no failure domain is required. -/
theorem failureDomain_of_sameVerdicts
    (same : SameVerdicts request {})
    (limit : request.limit = 16) :
    request.requiredFailureDomain = [] := by
  have allowed := transportAllowed_of_sameVerdicts same limit .tcp
  have defaultAllowed : (transportAllowed {} .tcp).feasible = true := by
    decide
  have verdict := linkVerdict_of_sameVerdicts same limit .tcp 1 []
  have free : reservedOn (linkSnapshot .tcp 1 []) (linkResource ⟨0⟩) = 0 :=
    rfl
  have absent :
      (linkSnapshot .tcp 1 []).endpointMap[(⟨0⟩ : EndpointId)]? = none :=
    rfl
  by_contra required
  simp [linkVerdict, linkRejection, mkLink, allowed, defaultAllowed,
    required, Ne.symm required, free, absent, FeasibilityResult.reject] at verdict

/-- The same verdicts show that no policy is named. -/
theorem policy_of_sameVerdicts
    (same : SameVerdicts request {})
    (limit : request.limit = 16) :
    request.policyGeneration.isNull = true := by
  have allowed := transportAllowed_of_sameVerdicts same limit .tcp
  have defaultAllowed : (transportAllowed {} .tcp).feasible = true := by
    decide
  have domain := failureDomain_of_sameVerdicts same limit
  have verdict := linkVerdict_of_sameVerdicts same limit .tcp 1 [tcpEndpoint]
  have free :
      reservedOn (linkSnapshot .tcp 1 [tcpEndpoint]) (linkResource ⟨0⟩) = 0 :=
    rfl
  have present :
      (linkSnapshot .tcp 1 [tcpEndpoint]).endpointMap[(⟨0⟩ : EndpointId)]? =
        some tcpEndpoint := by
    simp [EvidenceSnapshot.endpointMap, getElem?_indexBy, linkSnapshot,
      tcpEndpoint, mkEndpoint]
  have accepted : endpointRejection (linkSnapshot .tcp 1 [tcpEndpoint]) .tcp
      tcpEndpoint = none := by
    rfl
  simpa [linkVerdict, linkRejection, mkLink, allowed, defaultAllowed, domain,
    present, free, accepted] using verdict

/-- A request with the verdicts of the default one has no constraint. -/
theorem sameVerdicts_default_iff
    (valid : request.rejection = none) :
    SameVerdicts request {} ↔ request.Unconstrained := by
  refine ⟨fun same => ?_, fun unconstrained =>
    unconstrained.sameVerdicts_default⟩
  have limit := limit_of_sameVerdicts valid same
  have permits := permitsRelay_iff_of_sameVerdicts same limit
  have transports := transportAllowed_of_sameVerdicts same limit
  have nic : request.PermitsRelay .nic := by
    rw [permits, CommunicationRequest.permitsRelay_iff]
    decide
  have host : request.PermitsRelay .cpuMemory := by
    rw [permits, CommunicationRequest.permitsRelay_iff]
    decide
  have storage : ¬ request.PermitsRelay .storage := by
    rw [permits, CommunicationRequest.permitsRelay_iff]
    decide
  have hostStaging := host.hostStaging rfl (by decide)
  constructor
  case limit => exact limit
  case relay => exact nic.relay
  case hostStaging => exact hostStaging
  case storageStaging =>
    by_contra permitted
    rw [Bool.not_eq_false] at permitted
    exact storage
      { staging := fun _ => hostStaging
        relay := nic.relay
        storageStaging := fun _ _ => permitted
        hostStaging := fun _ _ => hostStaging }
  case allowed =>
    by_contra restricted
    rw [not_or, not_forall] at restricted
    obtain ⟨nonempty, transport, missing⟩ := restricted
    have refused := transports transport
    unfold transportAllowed at refused
    split_ifs at refused with forbidden excluded
    · cases refused
    · cases refused
    · exact excluded ⟨nonempty, missing⟩
  case forbidden =>
    refine Finset.eq_empty_of_forall_notMem fun transport member => ?_
    have refused := transports transport
    rw [transportAllowed, if_pos member] at refused
    cases refused
  case failureDomain => exact failureDomain_of_sameVerdicts same limit
  case policy => exact policy_of_sameVerdicts same limit

/--
A recovered request has the same verdicts exactly when it had no constraints.
-/
theorem sameVerdicts_persisted_iff
    (valid : request.rejection = none) :
    SameVerdicts request.persisted request ↔ request.Unconstrained := by
  have persisted : request.persisted.Unconstrained :=
    CommunicationRequest.unconstrained_persisted
  rw [← sameVerdicts_default_iff valid]
  constructor
  · intro same snapshot candidate bounds
    exact (same snapshot candidate bounds).symm.trans
      (persisted.sameVerdicts_default snapshot candidate bounds)
  · intro same snapshot candidate bounds
    exact (persisted.sameVerdicts_default snapshot candidate bounds).trans
      (same snapshot candidate bounds).symm

/-! ## What a valid request with the stored fields is like -/

/-- The destinations that two requests need for the same shape. -/
theorem shapeRejection_persisted_iff
    (shaped :
      CommunicationRequest.rejection.shapeRejection request = none) :
    CommunicationRequest.rejection.shapeRejection request.persisted = none ↔
      (request.allowMulticast = true →
        request.shape ≠ .pointToPoint ∧ request.shape ≠ .staged) := by
  have shape : request.persisted.shape = request.shape := rfl
  have destinations :
      request.persisted.destinations = request.destinations :=
    rfl
  have source : request.persisted.source = request.source := rfl
  have unicast : request.persisted.allowMulticast = false := rfl
  unfold CommunicationRequest.rejection.shapeRejection at shaped ⊢
  rw [shape, destinations, source, unicast]
  cases multicast : request.allowMulticast with
  | false =>
      rw [multicast] at shaped
      exact iff_of_true shaped (by simp)
  | true =>
      rw [if_pos (.inr multicast)] at shaped
      obtain ⟨several, shaped⟩ := passed_of_eq_none shaped
      obtain ⟨notMore, _⟩ := passed_of_eq_none shaped
      by_cases named : request.shape = .multicast
      · rw [if_pos (.inl named), if_neg several, if_neg notMore]
        simp [named]
      rw [if_neg (by simp [named])]
      by_cases single :
          request.shape = .pointToPoint ∨ request.shape = .staged
      · rw [if_pos single, if_pos (show request.destinations.length ≠ 1 by
          omega)]
        split_ifs <;> simp [← not_or, single]
      · rw [if_neg single]
        simp [← not_or, single]

/--
A recovered request is valid exactly when its lists stay what its shape asks
for.
-/
theorem validate_persisted_iff
    (valid : request.rejection = none) :
    request.persisted.validate = true ↔ request.StaysValid := by
  obtain ⟨unpopulated, shaped⟩ := lists_of_valid valid
  rw [CommunicationRequest.validate, Option.isNone_iff_eq_none]
  constructor
  · intro stays
    obtain ⟨notCollective, shapedAgain⟩ := lists_of_valid stays
    exact
      { notCollective := fun collective => notCollective ⟨collective, rfl⟩
        multicast := (shapeRejection_persisted_iff shaped).mp shapedAgain }
  · rintro ⟨notCollective, multicast⟩
    have shapedAgain := (shapeRejection_persisted_iff shaped).mpr multicast
    have collective (wrong : Prop) :
        ¬(request.persisted.shape = .collective ∧ wrong) := by
      rintro ⟨isCollective, _⟩
      exact notCollective isCollective
    have limits : ¬((16 : UInt32) = 0 ∨ 255 < (16 : UInt32)) := by
      decide
    unfold CommunicationRequest.rejection at valid
    obtain ⟨hasId, valid⟩ := passed_of_eq_none valid
    obtain ⟨hasGeneration, valid⟩ := passed_of_eq_none valid
    obtain ⟨hasPayload, _⟩ := passed_of_eq_none valid
    unfold CommunicationRequest.rejection
    rw [shapedAgain]
    refine eq_none_of_passed hasId ?_
    refine eq_none_of_passed hasGeneration ?_
    refine eq_none_of_passed hasPayload ?_
    refine eq_none_of_passed limits ?_
    refine eq_none_of_passed limits ?_
    refine eq_none_of_passed (collective _) ?_
    refine eq_none_of_passed (collective _) ?_
    refine eq_none_of_passed (collective _) ?_
    refine eq_none_of_passed (collective _) ?_
    rfl

/-! ## Saving and restarting -/

/--
A valid request comes back from a restart valid and with its verdicts exactly
when it is no collective, no fan-out by permission, and without constraints.
-/
theorem saved_request_is_kept_iff
    {state : StoreState}
    {index : Nat}
    (fits : state.Fits)
    (identified :
      ∀ record ∈ state.plans, record.plan.id.isNull = false)
    (accepted : validateStore state = none)
    (saved : state.requests[index]? = some request)
    (valid : request.validate = true) :
    ∃ recovered back,
      parseStore (serializeStore state) = .ok recovered ∧
        recovered.requests[index]? = some back ∧
        ((back.validate = true ∧ SameVerdicts back request) ↔
          request.Survives) := by
  have passed : request.rejection = none := by
    simpa [CommunicationRequest.validate] using valid
  have restarted :
      parseStore (serializeStore state) = .ok state.persisted := by
    rw [parseStore_serializeStore fits identified
      (nodup_of_validateStore accepted), validateStore_persisted, accepted]
  refine ⟨state.persisted, request.persisted, restarted, ?_, ?_⟩
  · simp [StoreState.persisted, saved]
  · rw [validate_persisted_iff passed, sameVerdicts_persisted_iff passed]
    constructor
    · rintro ⟨staysValid, unconstrained⟩
      exact { staysValid, unconstrained with }
    · intro survives
      exact ⟨survives.toStaysValid, survives.toUnconstrained⟩

/-- A transfer that must not go over TCP. -/
def guardedTransfer : CommunicationRequest :=
  { mkRequest ⟨11⟩ ⟨10⟩ ⟨11⟩ 4096 with forbidden := {.tcp} }

/-- A reduction by two endpoints. -/
def savedReduction : CommunicationRequest :=
  { mkRequest ⟨12⟩ ⟨10⟩ ⟨11⟩ 4096 with
    shape := .collective
    collectiveShape := .allReduce
    participants := [⟨10⟩, ⟨11⟩]
    collectiveCount := 2 }

/-- The link between the two endpoints runs over TCP. -/
def tcpSnapshot : EvidenceSnapshot :=
  { endpoints :=
      [ mkEndpoint ⟨10⟩ ⟨1⟩ .gpuDevice .tcp,
        mkEndpoint ⟨11⟩ ⟨1⟩ .gpuDevice .tcp ]
    links := [mkLink ⟨1⟩ ⟨1⟩ ⟨10⟩ ⟨11⟩ .tcp 1000] }

/-- The verdict on the transfer over the link. -/
def verdictOnTransfer (request : CommunicationRequest) : Feasibility :=
  (evaluateCandidateFeasibility request tcpSnapshot
    ⟨⟨10⟩, ⟨11⟩, [⟨⟨1⟩, ⟨10⟩, ⟨11⟩⟩]⟩ {}).outcome

/-- A store with one request of each kind. -/
def savedStore : StoreState :=
  { requests := [guardedTransfer, savedReduction] }

private theorem savedStore_fits :
    savedStore.Fits ∧ validateStore savedStore = none := by
  decide +kernel

/-- The transfer is valid, and it has a constraint to lose. -/
theorem guarded_transfer_is_kept_iff :
    ∃ recovered back,
      parseStore (serializeStore savedStore) = .ok recovered ∧
        recovered.requests[0]? = some back ∧
        ((back.validate = true ∧ SameVerdicts back guardedTransfer) ↔
          guardedTransfer.Survives) :=
  saved_request_is_kept_iff savedStore_fits.1 (by decide) savedStore_fits.2
    rfl (by decide)

/--
The transfer comes back admitting TCP, and the reduction comes back without
its participants.
-/
theorem saved_requests_lose_constraints :
    ∃ recovered transfer reduction,
      parseStore (serializeStore savedStore) = .ok recovered ∧
        recovered.requests = [transfer, reduction] ∧
        guardedTransfer.validate = true ∧
        verdictOnTransfer guardedTransfer = .rejectTransport ∧
        verdictOnTransfer transfer = .feasible ∧
        savedReduction.validate = true ∧
        reduction.validate = false := by
  refine ⟨savedStore.persisted, _, _, ?_, rfl, ?_⟩
  · rw [parseStore_serializeStore savedStore_fits.1 (by decide) (by decide),
      validateStore_persisted, savedStore_fits.2]
  · decide +kernel

end CommunicationPlanner
