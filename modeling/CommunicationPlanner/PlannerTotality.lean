import CommunicationPlanner.PlannerCorrectness

namespace CommunicationPlanner

open OrderedCollections Allocation

/-!
# When planning throws

The planner throws on a request that is not valid, and on a valid one of a shape
that `validate` does not know, if it names no destination.  Nothing else throws:
every lookup of a link is for a hop that was enumerated over the links.
-/

/-- The planner throws on the request. -/
def CommunicationRequest.Unplannable (request : CommunicationRequest) : Prop :=
  request.validate = false ∨
    (request.effectiveShape ≠ .multicast ∧
      request.effectiveShape ≠ .collective ∧
      request.destinations = [])

instance (request : CommunicationRequest) : Decidable request.Unplannable :=
  inferInstanceAs (Decidable (_ ∨ _))

section

variable
  {request : CommunicationRequest}
  {snapshot : EvidenceSnapshot}
  {weights : RankingWeights}
  {bounds : Bounds}

/-- The hops of a candidate that was assessed run over known links. -/
theorem linked_of_getElem?_candidates
    {source destination : EndpointId}
    {position : Nat}
    {candidate : CandidatePath}
    (found :
      (assess request snapshot weights bounds source
        destination).candidates[position]? = some candidate) :
    ∀ hop ∈ candidate.hops, HopLinked snapshot.links hop :=
  (linkPath_of_mem_enumerateCandidatePaths
    (List.mem_of_getElem? found)).linked

theorem succeeds_multicastStep
    (state : MulticastState)
    (destination : EndpointId) :
    Succeeds
      (multicastStep request snapshot weights bounds state destination) := by
  unfold multicastStep
  simp only
  split
  · exact Succeeds.pure
  · rename_i bestLocal candidate cost selected
    simp only [Option.bind_eq_bind, Option.bind_eq_some_iff, Option.pure_def,
      Option.some.injEq, Prod.mk.injEq] at selected
    obtain ⟨original, _, _, found, _, _, _, rfl, _⟩ := selected
    refine Succeeds.bind ?_ fun path => Succeeds.pure
    exact succeeds_makePath (linked_of_getElem?_candidates found) _ _

theorem succeeds_buildMulticastPlan :
    Succeeds (buildMulticastPlan request snapshot weights bounds) := by
  unfold buildMulticastPlan
  refine Succeeds.bind Succeeds.modifyGet fun id => ?_
  refine Succeeds.bind Succeeds.modifyGet fun generation => ?_
  refine Succeeds.bind ?_ fun final => Succeeds.pure
  refine Succeeds.foldlM _ ?_ _
  intro state destination _
  exact succeeds_multicastStep state destination

theorem succeeds_collectiveLoop
    (root : EndpointId)
    (members : List EndpointId)
    (state : CollectiveState) :
    Succeeds
      (collectiveLoop request snapshot weights bounds root members state) := by
  induction members generalizing state with
  | nil =>
      exact Succeeds.pure
  | cons member rest inductionHypothesis =>
      unfold collectiveLoop
      split
      · exact inductionHypothesis state
      simp only
      split
      · exact Succeeds.pure
      · rename_i candidate cost selected
        simp only [Option.bind_eq_bind, Option.bind_eq_some_iff,
          Option.pure_def, Option.some.injEq, Prod.mk.injEq] at selected
        obtain ⟨_, _, original, _, _, found, _, _, rfl, _⟩ := selected
        refine Succeeds.bind ?_ fun path => inductionHypothesis _
        exact succeeds_makePath (linked_of_getElem?_candidates found) _ _

theorem succeeds_buildCollectivePlan
    (participants : request.participants ≠ []) :
    Succeeds (buildCollectivePlan request snapshot weights bounds) := by
  unfold buildCollectivePlan
  refine Succeeds.bind Succeeds.modifyGet fun id => ?_
  refine Succeeds.bind Succeeds.modifyGet fun generation => ?_
  simp only
  split
  · exact Succeeds.pure
  · rename_i empty
    exact (participants empty).elim
  · rename_i root others _ _
    refine Succeeds.bind (succeeds_collectiveLoop root _ _) ?_
    rintro ⟨final, unreached⟩
    cases unreached with
    | some member => exact Succeeds.pure
    | none => exact Succeeds.pure

/--
A check that finds nothing wrong was passed, and the next one finds nothing.
-/
theorem passed_of_eq_none
    {wrong : Prop}
    [Decidable wrong]
    {why : Text}
    {next : Option Text}
    (found : (if wrong then some why else next) = none) :
    ¬wrong ∧ next = none := by
  split_ifs at found with isWrong
  exact ⟨isWrong, found⟩

/-- A check that is passed leaves the verdict to the next one. -/
theorem eq_none_of_passed
    {wrong : Prop}
    [Decidable wrong]
    {why : Text}
    {next : Option Text}
    (right : ¬wrong)
    (found : next = none) :
    (if wrong then some why else next) = none := by
  rw [if_neg right]
  exact found

/-- What a valid request passed of the ninth check and of the tenth. -/
theorem lists_of_valid
    (valid : request.rejection = none) :
    ¬(request.shape = .collective ∧ request.participants = []) ∧
      CommunicationRequest.rejection.shapeRejection request = none := by
  unfold CommunicationRequest.rejection at valid
  obtain ⟨_, valid⟩ := passed_of_eq_none valid
  obtain ⟨_, valid⟩ := passed_of_eq_none valid
  obtain ⟨_, valid⟩ := passed_of_eq_none valid
  obtain ⟨_, valid⟩ := passed_of_eq_none valid
  obtain ⟨_, valid⟩ := passed_of_eq_none valid
  obtain ⟨_, valid⟩ := passed_of_eq_none valid
  obtain ⟨_, valid⟩ := passed_of_eq_none valid
  obtain ⟨_, valid⟩ := passed_of_eq_none valid
  obtain ⟨unpopulated, valid⟩ := passed_of_eq_none valid
  refine ⟨unpopulated, ?_⟩
  cases shaped : CommunicationRequest.rejection.shapeRejection request with
  | some why =>
      rw [shaped] at valid
      cases valid
  | none =>
      rfl

/-- A valid collective has participants. -/
theorem participants_of_collective
    (valid : request.rejection = none)
    (collective : request.effectiveShape = .collective) :
    request.participants ≠ [] := by
  have isCollective : request.shape = .collective := by
    unfold CommunicationRequest.effectiveShape at collective
    split_ifs at collective
    exact collective
  intro empty
  exact (lists_of_valid valid).1 ⟨isCollective, empty⟩

/-- The fan-out of a valid multicast is limited. -/
theorem destinations_of_multicast
    (valid : request.rejection = none)
    (multicast : request.effectiveShape = .multicast) :
    request.destinations.length ≤ 2 ^ 16 := by
  have isMulticast :
      request.shape = .multicast ∨ request.allowMulticast = true := by
    unfold CommunicationRequest.effectiveShape at multicast
    split_ifs at multicast with named
    · exact named
    · exact .inl multicast
  have shaped := (lists_of_valid valid).2
  unfold CommunicationRequest.rejection.shapeRejection at shaped
  rw [if_pos isMulticast] at shaped
  obtain ⟨_, shaped⟩ := passed_of_eq_none shaped
  obtain ⟨notMore, _⟩ := passed_of_eq_none shaped
  exact Nat.le_of_not_lt notMore

theorem succeeds_planCommunication
    (plannable : ¬request.Unplannable) :
    Succeeds (planCommunication request snapshot weights bounds) := by
  unfold CommunicationRequest.Unplannable CommunicationRequest.validate
    at plannable
  rw [not_or, Option.isNone_eq_false_iff, Bool.not_eq_true,
    Option.isSome_eq_false_iff, Option.isNone_iff_eq_none] at plannable
  obtain ⟨valid, populated⟩ := plannable
  unfold planCommunication
  rw [valid]
  simp only
  split
  · exact succeeds_buildMulticastPlan
  · rename_i collective
    exact succeeds_buildCollectivePlan
      (participants_of_collective valid collective)
  · rename_i unicast uncollected
    cases named : request.destinations with
    | nil => exact (populated ⟨unicast, uncollected, named⟩).elim
    | cons destination others => exact succeeds_planPointToPoint named

theorem planCommunication_of_unplannable
    (unplannable : request.Unplannable) :
    ∃ exception,
      planCommunication request snapshot weights bounds = throw exception := by
  unfold planCommunication
  rcases unplannable with invalid | ⟨unicast, uncollected, unnamed⟩
  · obtain ⟨why, rejected⟩ : ∃ why, request.rejection = some why := by
      rw [CommunicationRequest.validate, Option.isNone_eq_false_iff] at invalid
      exact Option.isSome_iff_exists.mp invalid
    rw [rejected]
    exact ⟨_, rfl⟩
  · cases request.rejection with
    | some why => exact ⟨_, rfl⟩
    | none =>
        refine ⟨.outOfRange, ?_⟩
        simp only
        unfold planPointToPoint
        rw [unnamed]

/-- Planning returns, whatever the counters are, or throws, whatever they are. -/
theorem planCommunication_throws_iff
    (counters : Counters) :
    (∃ exception,
      (planCommunication request snapshot weights bounds).run counters =
        .error exception) ↔
      request.Unplannable := by
  constructor
  · rintro ⟨exception, threw⟩
    by_contra plannable
    have succeeds :
        Succeeds (planCommunication request snapshot weights bounds) :=
      succeeds_planCommunication plannable
    obtain ⟨outcome, after, ran⟩ := succeeds counters
    rw [threw] at ran
    cases ran
  · intro unplannable
    have throws :
        ∃ exception,
          planCommunication request snapshot weights bounds =
            throw exception :=
      planCommunication_of_unplannable unplannable
    obtain ⟨exception, threw⟩ := throws
    exact ⟨exception, by rw [threw]; rfl⟩

/--
What `validate` lets through and the planner cannot serve: a request of no known
shape that names no destination.
-/
def CommunicationRequest.Shapeless (request : CommunicationRequest) : Prop :=
  request.shape = .unknown ∧
    request.allowMulticast = false ∧
    request.destinations = []

theorem effectiveShape_of_shapeless
    (shapeless : request.Shapeless) :
    request.effectiveShape = .unknown := by
  obtain ⟨unknown, unicast, _⟩ := shapeless
  simp [CommunicationRequest.effectiveShape, unknown, unicast]

/-- Every other valid request without destinations is one of a fan-out. -/
theorem shapeless_of_valid
    (valid : request.validate = true)
    (unicast : request.effectiveShape ≠ .multicast)
    (uncollected : request.effectiveShape ≠ .collective)
    (unnamed : request.destinations = []) :
    request.Shapeless := by
  have notMulticast :
      ¬(request.shape = .multicast ∨ request.allowMulticast = true) := by
    intro multicast
    exact unicast (if_pos multicast)
  have effective : request.effectiveShape = request.shape :=
    if_neg notMulticast
  rw [not_or, Bool.not_eq_true] at notMulticast
  rw [effective] at uncollected
  refine ⟨?_, notMulticast.2, unnamed⟩
  have named :
      ¬(request.shape = .pointToPoint ∨ request.shape = .staged) := by
    intro single
    obtain ⟨destination, destinations⟩ :=
      destinations_eq_singleton valid single notMulticast.2
    rw [unnamed] at destinations
    cases destinations
  cases shape : request.shape with
  | unknown => rfl
  | pointToPoint => exact (named (.inl shape)).elim
  | staged => exact (named (.inr shape)).elim
  | multicast => exact (notMulticast.1 shape).elim
  | collective => exact (uncollected shape).elim

/-- A valid request is unplannable when it is shapeless. -/
theorem unplannable_iff_of_valid
    (valid : request.validate = true) :
    request.Unplannable ↔ request.Shapeless := by
  constructor
  · rintro (invalid | ⟨unicast, uncollected, unnamed⟩)
    · rw [valid] at invalid
      cases invalid
    · exact shapeless_of_valid valid unicast uncollected unnamed
  · intro shapeless
    have unknown := effectiveShape_of_shapeless shapeless
    exact .inr ⟨by simp [unknown], by simp [unknown], shapeless.2.2⟩

theorem run_of_shapeless
    (valid : request.validate = true)
    (shapeless : request.Shapeless)
    (counters : Counters) :
    (planCommunication request snapshot weights bounds).run counters =
      .error .outOfRange := by
  have accepted : request.rejection = none := by
    simpa [CommunicationRequest.validate] using valid
  unfold planCommunication
  rw [accepted, effectiveShape_of_shapeless shapeless]
  simp only
  unfold planPointToPoint
  rw [shapeless.2.2]
  rfl

end

/--
Planning throws exactly on the requests that `validate` rejects, and no access
is out of range for one that it accepts, unless an accepted request is of no
known shape and names no destination.
-/
theorem planCommunication_throws_as_validated_iff
    (request : CommunicationRequest)
    (snapshot : EvidenceSnapshot)
    (weights : RankingWeights)
    (bounds : Bounds)
    (counters : Counters) :
    (((∃ exception,
          (planCommunication request snapshot weights bounds).run counters =
            .error exception) ↔
        request.validate = false) ∧
      (request.validate = true →
        (planCommunication request snapshot weights bounds).run counters ≠
          .error .outOfRange)) ↔
      ¬(request.validate = true ∧
        request.shape = .unknown ∧
        request.allowMulticast = false ∧
        request.destinations = []) := by
  constructor
  · rintro ⟨_, inRange⟩ ⟨valid, shapeless⟩
    exact inRange valid (run_of_shapeless valid shapeless counters)
  · intro shaped
    rw [planCommunication_throws_iff]
    cases verdict : request.validate with
    | false =>
        refine ⟨⟨fun _ => rfl, fun _ => .inl verdict⟩, ?_⟩
        intro valid
        cases valid
    | true =>
        have plannable : ¬request.Unplannable := by
          rw [unplannable_iff_of_valid verdict]
          intro shapeless
          exact shaped ⟨verdict, shapeless⟩
        refine ⟨⟨fun unplannable => (plannable unplannable).elim, ?_⟩, ?_⟩
        · intro invalid
          cases invalid
        · intro _ threw
          exact plannable
            ((planCommunication_throws_iff counters).mp ⟨_, threw⟩)

/-- A request of no known shape that names no destination. -/
def shapelessRequest : CommunicationRequest :=
  { mkRequest ⟨1⟩ ⟨1⟩ ⟨2⟩ 4096 with
    shape := .unknown
    destinations := [] }

/-- It is accepted, and the access to its first destination is out of range. -/
theorem shapeless_request_is_out_of_range :
    shapelessRequest.validate = true ∧
      (planCommunication shapelessRequest {} {} {}).run {} =
        .error .outOfRange := by
  have valid : shapelessRequest.validate = true := by
    decide +kernel
  exact ⟨valid, run_of_shapeless valid ⟨rfl, rfl, rfl⟩ {}⟩

end CommunicationPlanner
