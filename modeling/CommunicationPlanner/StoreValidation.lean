import CommunicationPlanner.StoreRecovery
import CommunicationPlanner.Binary64Fields

namespace CommunicationPlanner

open OrderedCollections

/-!
# What the validator of the store establishes

The stages of a candidate path that `validateStore` accepts are a chain of bound
endpoints that carries the payload of the path.  The walk along the chain
remembers the targets of the stages but not the source of the path, so a chain
may return to where it started; anything else it visits, it visits once.

Of the costs in a store the validator looks at those of the plans.  The reader
takes any bit pattern, so the costs of the candidate paths are what the bytes
say they are.
-/

/-! ## The checks of one path -/

/-- A walk that ends is a chain through targets that were not seen before. -/
theorem chain_of_walkStages
    {source reached : EndpointId}
    {seen : List EndpointId}
    {stages : List Stage}
    (walked : walkStages source seen stages = .ok reached) :
    Contiguous source (stages.map Stage.hop) reached ∧
      (stages.map fun stage => stage.destination).Nodup ∧
      ∀ stage ∈ stages, stage.destination ∉ seen := by
  induction stages generalizing source seen with
  | nil =>
      cases walked
      exact ⟨rfl, List.nodup_nil, by simp⟩
  | cons stage rest inductionHypothesis =>
      unfold walkStages at walked
      split_ifs at walked with broken selfLoop again
      obtain ⟨contiguous, distinct, unseen⟩ := inductionHypothesis walked
      have fromSource : stage.source = source := not_not.mp broken
      refine ⟨⟨fromSource, contiguous⟩, ?_, ?_⟩
      · rw [List.map_cons, List.nodup_cons]
        refine ⟨?_, distinct⟩
        intro repeated
        obtain ⟨later, member, same⟩ := List.mem_map.mp repeated
        exact unseen later member (by simp [same])
      · intro visited member
        rcases List.mem_cons.mp member with rfl | later
        · exact again
        · intro inSeen
          exact unseen visited later (List.mem_cons_of_mem _ inSeen)

/-- What a path that is accepted guarantees about its stages. -/
structure Path.Chained (plan : CommunicationPlan) (path : Path) : Prop where
  contiguous :
    Contiguous path.source (path.stages.map Stage.hop) path.destination
  payloads : ∀ stage ∈ path.stages, stage.payload = path.totalPayload
  bound :
    ∀ stage ∈ path.stages,
      stage.source ∈ plan.endpointGenerations.map Prod.fst ∧
        stage.destination ∈ plan.endpointGenerations.map Prod.fst

theorem chained_of_pathRejection
    {plan : CommunicationPlan}
    {path : Path}
    (accepted : pathRejection plan path = none)
    (staged : path.stages ≠ []) :
    path.Chained plan ∧
      (path.stages.map fun stage => stage.destination).Nodup := by
  unfold pathRejection at accepted
  split_ifs at accepted with mismatch
  cases walked : walkStages path.source [] path.stages with
  | error error =>
      rw [walked] at accepted
      cases accepted
  | ok reached =>
      rw [walked] at accepted
      simp only at accepted
      split_ifs at accepted with missed unbound
      obtain ⟨contiguous, distinct, _⟩ := chain_of_walkStages walked
      have arrived : reached = path.destination := by
        by_contra elsewhere
        exact missed ⟨staged, elsewhere⟩
      refine ⟨⟨arrived ▸ contiguous, ?_, ?_⟩, distinct⟩
      · intro stage member
        by_contra differs
        refine mismatch (List.any_eq_true.mpr ⟨stage, member, ?_⟩)
        have differentCounts :
            stage.payload.count ≠ path.totalPayload.count := by
          intro same
          exact differs (congrArg Bytes.mk same)
        simpa using differentCounts
      · intro stage member
        by_contra loose
        refine unbound (List.any_eq_true.mpr ⟨stage, member, ?_⟩)
        rw [not_and_or] at loose
        simpa using loose

theorem pathRejection_of_mem
    {plan : CommunicationPlan}
    {paths : List Path}
    {seen : List PathId}
    (passed : pathsRejection plan seen paths = none)
    {path : Path}
    (member : path ∈ paths) :
    pathRejection plan path = none := by
  induction paths generalizing seen with
  | nil => cases member
  | cons first rest inductionHypothesis =>
      unfold pathsRejection at passed
      split_ifs at passed
      split at passed
      · cases passed
      · rename_i accepted
        rcases List.mem_cons.mp member with rfl | later
        · exact accepted
        · exact inductionHypothesis passed later

/-- The checks of a record cover its cost and each of its paths. -/
theorem checks_of_recordRejection
    {record : StoreRecord}
    (accepted : recordRejection record = none) :
    record.plan.cost.totalValid = true ∧
      (∀ component ∈ record.plan.cost.components,
        component.isValid = true) ∧
      ∀ path ∈ record.plan.candidatePaths,
        pathRejection record.plan path = none := by
  unfold recordRejection at accepted
  simp only at accepted
  cases paths : pathsRejection record.plan [] record.plan.candidatePaths with
  | some error =>
      rw [paths] at accepted
      split_ifs at accepted
  | none =>
      rw [paths] at accepted
      simp only at accepted
      split_ifs at accepted with infinite invalid
      refine ⟨by simpa using infinite, ?_, ?_⟩
      · intro component member
        by_contra isInvalid
        refine invalid (List.any_eq_true.mpr ⟨component, member, ?_⟩)
        simpa using isInvalid
      · intro path member
        exact pathRejection_of_mem paths member

theorem recordRejection_of_validateStore
    {state : StoreState}
    (accepted : validateStore state = none)
    {record : StoreRecord}
    (member : record ∈ state.plans) :
    recordRejection record = none := by
  unfold validateStore at accepted
  cases records : recordsRejection [] state.plans with
  | some error =>
      rw [records] at accepted
      cases accepted
  | none =>
      exact recordRejection_of_mem records member

/-! ## The way back to the source -/

/-- The chain visits no endpoint twice, and its source is visited at the start. -/
def Path.VisitsOnce (path : Path) : Prop :=
  (path.source :: path.stages.map fun stage => stage.destination).Nodup

instance (path : Path) : Decidable path.VisitsOnce :=
  inferInstanceAs (Decidable (List.Nodup _))

/--
The stages of an accepted path are a chain over bound endpoints with the payload
of the path.  The chain visits no endpoint twice exactly when no stage leads
back to the source of the path.
-/
theorem accepted_path_visits_once_iff
    {state : StoreState}
    {record : StoreRecord}
    {path : Path}
    (accepted : validateStore state = none)
    (inStore : record ∈ state.plans)
    (inPlan : path ∈ record.plan.candidatePaths)
    (staged : path.stages ≠ []) :
    (path.Chained record.plan ∧ path.VisitsOnce) ↔
      ∀ stage ∈ path.stages, stage.destination ≠ path.source := by
  obtain ⟨_, _, paths⟩ :=
    checks_of_recordRejection
      (recordRejection_of_validateStore accepted inStore)
  obtain ⟨chained, distinct⟩ :=
    chained_of_pathRejection (paths path inPlan) staged
  unfold Path.VisitsOnce
  rw [List.nodup_cons]
  constructor
  · rintro ⟨_, notSource, _⟩ stage member same
    exact notSource (List.mem_map.mpr ⟨stage, member, same⟩)
  · intro away
    refine ⟨chained, ?_, distinct⟩
    intro returned
    obtain ⟨stage, member, same⟩ := List.mem_map.mp returned
    exact away stage member same

/-- A path from an endpoint over a relay to another one. -/
def relayedPath : Path :=
  { id := ⟨1⟩
    source := ⟨1⟩
    destination := ⟨2⟩
    totalPayload := ⟨1000⟩
    stages :=
      [ { id := ⟨1⟩, source := ⟨1⟩, destination := ⟨3⟩, link := ⟨1⟩,
          payload := ⟨1000⟩ },
        { id := ⟨2⟩, source := ⟨3⟩, destination := ⟨2⟩, link := ⟨2⟩,
          payload := ⟨1000⟩ } ] }

/-- A ready plan with the path over the relay as its primary one. -/
def relayedRecord : StoreRecord :=
  { plan :=
      { id := ⟨3⟩
        requestId := ⟨3⟩
        primaryPath := ⟨1⟩
        candidatePaths := [relayedPath]
        endpointGenerations := [(⟨1⟩, ⟨1⟩), (⟨2⟩, ⟨1⟩), (⟨3⟩, ⟨1⟩)] }
    state := .planReady }

/-- The path over the relay is accepted, and visits three endpoints once. -/
theorem relayed_path_visits_once :
    relayedPath.Chained relayedRecord.plan ∧ relayedPath.VisitsOnce := by
  have accepted :
      validateStore { epoch := ⟨1⟩, plans := [relayedRecord] } = none := by
    decide +kernel
  exact
    (accepted_path_visits_once_iff accepted (List.mem_singleton.mpr rfl)
      (List.mem_singleton.mpr rfl) (List.cons_ne_nil _ _)).mpr (by decide)

/-- A path from an endpoint to another one and back again. -/
def returningPath : Path :=
  { id := ⟨1⟩
    source := ⟨1⟩
    destination := ⟨1⟩
    totalPayload := ⟨1000⟩
    stages :=
      [ { id := ⟨1⟩, source := ⟨1⟩, destination := ⟨2⟩, link := ⟨1⟩,
          payload := ⟨1000⟩ },
        { id := ⟨2⟩, source := ⟨2⟩, destination := ⟨1⟩, link := ⟨2⟩,
          payload := ⟨1000⟩ } ] }

/-- A store with the returning path as the primary one. -/
def returningStore : StoreState :=
  { epoch := ⟨1⟩
    plans :=
      [ { plan :=
            { id := ⟨3⟩
              requestId := ⟨3⟩
              primaryPath := ⟨1⟩
              candidatePaths := [returningPath]
              endpointGenerations := [(⟨1⟩, ⟨1⟩), (⟨2⟩, ⟨1⟩)] }
          state := .planReady } ] }

/-- The store is accepted although its path visits the source again. -/
theorem returning_path_is_accepted :
    validateStore returningStore = none ∧
      ∃ record ∈ returningStore.plans,
        ∃ path ∈ record.plan.candidatePaths,
          path.stages ≠ [] ∧ ¬path.VisitsOnce := by
  decide +kernel

/-! ## Costs -/

/-- A component is finite and not negative, weight and value. -/
structure CostComponent.Sound (component : CostComponent) : Prop where
  weightFinite : component.weight.IsFinite
  weightNonnegative : component.weight.IsNonnegative
  valueFinite : component.value.IsFinite
  valueNonnegative : component.value.IsNonnegative

/-- A cost of which no number is NaN, infinite or, but for the total, negative. -/
structure CostSummary.Sound (cost : CostSummary) : Prop where
  totalFinite : cost.total.IsFinite
  everyComponent : ∀ component ∈ cost.components, component.Sound

/-- What the program checks of a number, on its bits. -/
theorem isFinite_of_isValidCost
    {value : Double}
    (valid : value.isValidCost = true) :
    value.IsFinite ∧ value.IsNonnegative := by
  simp only [Double.isValidCost, Bool.and_eq_true, Bool.not_eq_true']
    at valid
  have finite := (Binary64.isFinite_iff value).mpr ⟨valid.1.2, valid.2⟩
  exact ⟨finite, (Binary64.less_zero_iff finite).mp valid.1.1⟩

/-- The checks of the validator are those of a sound cost. -/
theorem sound_of_checks
    {cost : CostSummary}
    (finite : cost.totalValid = true)
    (valid : ∀ component ∈ cost.components, component.isValid = true) :
    cost.Sound := by
  simp only [CostSummary.totalValid, Bool.and_eq_true, Bool.not_eq_true']
    at finite
  refine ⟨(Binary64.isFinite_iff cost.total).mpr finite, ?_⟩
  intro component member
  obtain ⟨weight, value⟩ := Bool.and_eq_true_iff.mp (valid component member)
  obtain ⟨weightFinite, weightNonnegative⟩ := isFinite_of_isValidCost weight
  obtain ⟨valueFinite, valueNonnegative⟩ := isFinite_of_isValidCost value
  exact ⟨weightFinite, weightNonnegative, valueFinite, valueNonnegative⟩

/-- Every candidate path of every plan has a sound cost. -/
def StoreState.PathCostsSound (state : StoreState) : Prop :=
  ∀ record ∈ state.plans, ∀ path ∈ record.plan.candidatePaths,
    path.cost.Sound

/--
The costs of an accepted store are sound, those of its plans and those of its
paths, exactly when the bytes hold paths with sound costs.
-/
theorem accepted_costs_are_sound_iff
    {data : List UInt8}
    {state : StoreState}
    (parsed : parseStore data = .ok state) :
    (∀ record ∈ state.plans,
        record.plan.cost.Sound ∧
          ∀ path ∈ record.plan.candidatePaths, path.cost.Sound) ↔
      ∃ held : StoreState, held.HeldBy data ∧ held.PathCostsSound := by
  constructor
  · intro sound
    refine ⟨state, heldBy_of_parseStore parsed, ?_⟩
    intro record inStore
    exact (sound record inStore).2
  · rintro ⟨held, isHeld, sound⟩ record inStore
    have accepted := validateStore_of_parseStore parsed
    obtain ⟨finite, valid, _⟩ :=
      checks_of_recordRejection
        (recordRejection_of_validateStore accepted inStore)
    have sameState : state = held := isHeld.eq_parsed parsed
    refine ⟨sound_of_checks finite valid, ?_⟩
    exact sound record (sameState ▸ inStore)

/-- The cost of one hop, with the given total. -/
def hopCost (total : Double) : CostSummary :=
  { components :=
      [ { factor := .hopCount
          weight := .ofUInt64 1
          value := .ofUInt64 1
          provenance := .derived } ]
    total := total }

/-- A store with one plan, of which the one path has the given total cost. -/
def costedStore (total : Double) : StoreState :=
  { epoch := ⟨1⟩
    plans :=
      [ { plan :=
            { id := ⟨3⟩
              requestId := ⟨3⟩
              primaryPath := ⟨1⟩
              candidatePaths := [{ id := ⟨1⟩, cost := hopCost total }]
              cost := hopCost (.ofUInt64 1) }
          state := .planReady } ] }

private theorem parseStore_costedStore
    {total : Double}
    (fits : (costedStore total).Fits)
    (valid : validateStore (costedStore total) = none) :
    parseStore (serializeStore (costedStore total)) =
      .ok (costedStore total) := by
  refine parseStore_eq_ok_iff.mpr ⟨⟨fits, ?_, ?_, rfl, ?_⟩, valid⟩
  · simp [costedStore, Id.isNull]
  · simp [costedStore]
  · exact ⟨writeBody (costedStore total), spells_writeBody _, rfl⟩

/--
A plan and its path, each with a cost that has a component, are read back, and
both costs are sound.
-/
theorem finite_path_cost_is_sound :
    parseStore (serializeStore (costedStore (.ofUInt64 1))) =
        .ok (costedStore (.ofUInt64 1)) ∧
      ∀ record ∈ (costedStore (.ofUInt64 1)).plans,
        record.plan.cost.Sound ∧ record.plan.cost.components ≠ [] ∧
          ∀ path ∈ record.plan.candidatePaths,
            path.cost.Sound ∧ path.cost.components ≠ [] := by
  have parsed :=
    @parseStore_costedStore (.ofUInt64 1) (by decide +kernel) (by decide +kernel)
  have sound : (hopCost (.ofUInt64 1)).Sound :=
    sound_of_checks (by decide +kernel) (by decide +kernel)
  have costs : (costedStore (.ofUInt64 1)).PathCostsSound := by
    simp [StoreState.PathCostsSound, costedStore, sound]
  have accepted :=
    (accepted_costs_are_sound_iff parsed).mpr
      ⟨_, heldBy_of_parseStore parsed, costs⟩
  refine ⟨parsed, ?_⟩
  intro record member
  obtain ⟨planSound, pathsSound⟩ := accepted record member
  rw [costedStore, List.mem_singleton] at member
  subst member
  refine ⟨planSound, List.cons_ne_nil _ _, ?_⟩
  intro path isPath
  refine ⟨pathsSound path isPath, ?_⟩
  rw [List.mem_singleton] at isPath
  subst isPath
  exact List.cons_ne_nil _ _

/-- A path with an infinite cost is accepted. -/
theorem infinite_path_cost_is_accepted :
    parseStore (serializeStore (costedStore .posInf)) =
        .ok (costedStore .posInf) ∧
      ∃ record ∈ (costedStore .posInf).plans,
        ∃ path ∈ record.plan.candidatePaths, ¬path.cost.Sound := by
  refine ⟨parseStore_costedStore (by decide +kernel) (by decide +kernel), ?_⟩
  refine ⟨_, List.mem_singleton.mpr rfl, _, List.mem_singleton.mpr rfl, ?_⟩
  intro sound
  exact sound.totalFinite (by decide)

end CommunicationPlanner
