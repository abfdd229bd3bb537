import CommunicationPlanner.StoreSpelling

namespace CommunicationPlanner

open ByteCodec

/-!
# Reading back what was written

Every reader of the store consumes exactly a spelling of what it returns, as
long as counts and string lengths stay within the limit that the reader
enforces.  The proofs follow the field lists of the writers.

`parseStore_framed` puts the pieces together: within the limits, the parser's
verdict on a spelled state is the verdict of `validateStore`.  A written state
is the case `parseStore_serializeStore`.
-/

/-! ## The limits -/

/-- The list of components is within the limit. -/
def CostSummary.Fits (cost : CostSummary) : Prop :=
  cost.components.length ≤ kMaxCount

/-- The description is within the limit. -/
def Stage.Fits (stage : Stage) : Prop :=
  stage.description.length ≤ kMaxCount

/-- The lists and the strings of a path are within the limit. -/
structure Path.Fits (path : Path) : Prop where
  stages : path.stages.length ≤ kMaxCount
  everyStage : ∀ stage ∈ path.stages, stage.Fits
  cost : path.cost.Fits
  failureDomain : path.failureDomain.length ≤ kMaxCount
  reason : path.reason.length ≤ kMaxCount

/-- The lists and the strings of a plan are within the limit. -/
structure CommunicationPlan.Fits (plan : CommunicationPlan) : Prop where
  candidatePaths : plan.candidatePaths.length ≤ kMaxCount
  everyPath : ∀ path ∈ plan.candidatePaths, path.Fits
  fallbackPaths : plan.fallbackPaths.length ≤ kMaxCount
  orderedStages : plan.orderedStages.length ≤ kMaxCount
  everyStage : ∀ stage ∈ plan.orderedStages, stage.Fits
  endpointGenerations : plan.endpointGenerations.length ≤ kMaxCount
  linkGenerations : plan.linkGenerations.length ≤ kMaxCount
  requiredStagingResources :
    plan.requiredStagingResources.length ≤ kMaxCount
  requiredResourceClaims : plan.requiredResourceClaims.length ≤ kMaxCount
  cost : plan.cost.Fits
  explanations : plan.explanations.length ≤ kMaxCount
  everyExplanation :
    ∀ explanation ∈ plan.explanations, explanation.length ≤ kMaxCount
  provenance : plan.provenance.length ≤ kMaxCount
  handoffRequirement : plan.handoffRequirement.length ≤ kMaxCount
  multicastDestinations : plan.multicastDestinations.length ≤ kMaxCount
  collectiveParticipants : plan.collectiveParticipants.length ≤ kMaxCount
  description : plan.description.length ≤ kMaxCount
  createdProvenance : plan.createdProvenance.length ≤ kMaxCount

/-- No count or string length of the state exceeds the limit. -/
structure StoreState.Fits (state : StoreState) : Prop where
  plans : state.plans.length ≤ kMaxCount
  everyPlan : ∀ record ∈ state.plans, record.plan.Fits
  supersessions : state.supersessions.length ≤ kMaxCount
  requests : state.requests.length ≤ kMaxCount
  everyRequest :
    ∀ request ∈ state.requests, request.destinations.length ≤ kMaxCount
  /-- The encoding is a buffer in memory, whose size is a 64-bit number. -/
  bytes : (writeBody state).length < 2 ^ 64

section

instance (cost : CostSummary) : Decidable cost.Fits :=
  inferInstanceAs (Decidable (_ ≤ _))

instance (stage : Stage) : Decidable stage.Fits :=
  inferInstanceAs (Decidable (_ ≤ _))

instance (path : Path) : Decidable path.Fits :=
  decidable_of_iff
    (path.stages.length ≤ kMaxCount ∧
      (∀ stage ∈ path.stages, stage.Fits) ∧ path.cost.Fits ∧
      path.failureDomain.length ≤ kMaxCount ∧
      path.reason.length ≤ kMaxCount)
    ⟨fun ⟨stages, everyStage, cost, failureDomain, reason⟩ =>
        ⟨stages, everyStage, cost, failureDomain, reason⟩,
      fun fits => ⟨fits.stages, fits.everyStage, fits.cost,
        fits.failureDomain, fits.reason⟩⟩

/-- The counts of a plan that have nothing below them to check. -/
def CommunicationPlan.counts (plan : CommunicationPlan) : List Nat :=
  [ plan.candidatePaths.length, plan.fallbackPaths.length,
    plan.orderedStages.length, plan.endpointGenerations.length,
    plan.linkGenerations.length, plan.requiredStagingResources.length,
    plan.requiredResourceClaims.length, plan.explanations.length,
    plan.provenance.length, plan.handoffRequirement.length,
    plan.multicastDestinations.length, plan.collectiveParticipants.length,
    plan.description.length, plan.createdProvenance.length ]

instance (plan : CommunicationPlan) : Decidable plan.Fits :=
  decidable_of_iff
    ((∀ count ∈ plan.counts, count ≤ kMaxCount) ∧
      (∀ path ∈ plan.candidatePaths, path.Fits) ∧
      (∀ stage ∈ plan.orderedStages, stage.Fits) ∧ plan.cost.Fits ∧
      ∀ explanation ∈ plan.explanations, explanation.length ≤ kMaxCount)
    (by
      simp only [CommunicationPlan.counts, List.forall_mem_cons,
        List.not_mem_nil, false_implies, implies_true, and_true]
      constructor
      · rintro ⟨⟨candidatePaths, fallbackPaths, orderedStages,
          endpointGenerations, linkGenerations, staging, claims,
          explanations, provenance, handoffRequirement,
          multicastDestinations, collectiveParticipants, description,
          createdProvenance⟩, everyPath, everyStage, cost,
          everyExplanation⟩
        exact ⟨candidatePaths, everyPath, fallbackPaths, orderedStages,
          everyStage, endpointGenerations, linkGenerations, staging, claims,
          cost, explanations, everyExplanation, provenance,
          handoffRequirement, multicastDestinations,
          collectiveParticipants, description, createdProvenance⟩
      · intro fits
        exact ⟨⟨fits.candidatePaths, fits.fallbackPaths,
          fits.orderedStages, fits.endpointGenerations,
          fits.linkGenerations, fits.requiredStagingResources,
          fits.requiredResourceClaims, fits.explanations,
          fits.provenance, fits.handoffRequirement,
          fits.multicastDestinations, fits.collectiveParticipants,
          fits.description, fits.createdProvenance⟩, fits.everyPath,
          fits.everyStage, fits.cost, fits.everyExplanation⟩)

instance (state : StoreState) : Decidable state.Fits :=
  decidable_of_iff
    (state.plans.length ≤ kMaxCount ∧
      (∀ record ∈ state.plans, record.plan.Fits) ∧
      state.supersessions.length ≤ kMaxCount ∧
      state.requests.length ≤ kMaxCount ∧
      (∀ request ∈ state.requests,
        request.destinations.length ≤ kMaxCount) ∧
      (writeBody state).length < 2 ^ 64)
    ⟨fun ⟨plans, everyPlan, supersessions, requests, everyRequest, bytes⟩ =>
        ⟨plans, everyPlan, supersessions, requests, everyRequest, bytes⟩,
      fun fits => ⟨fits.plans, fits.everyPlan, fits.supersessions,
        fits.requests, fits.everyRequest, fits.bytes⟩⟩

end

/-! ## Values -/

theorem reads_id
    (id : Id Tag) :
    Reads readId (writeU64 id.value) id :=
  (reads_u64 id.value).map Id.mk

theorem reads_generation
    (generation : Generation Tag) :
    Reads readGeneration (writeU64 generation.value) generation :=
  (reads_u64 generation.value).map Generation.mk

theorem reads_double
    (value : Double) :
    Reads readDouble (writeDouble value) value :=
  (reads_u64 value.bits).map Binary64.mk

/-- A string within the limit is read back. -/
theorem reads_text
    {text : Text}
    (short : text.length ≤ kMaxCount) :
    Reads readText (writeString text) text :=
  reads_string (by decide) short

/-- A count within the limit is written without loss. -/
theorem toNat_ofNat_count
    {count : Nat}
    (short : count ≤ kMaxCount) :
    (UInt32.ofNat count).toNat = count := by
  rw [UInt32.toNat_ofNat']
  unfold kMaxCount at short
  exact Nat.mod_eq_of_lt (by omega)

/-- A counted loop reads the items that the pieces spell. -/
theorem reads_pieces
    {m : Type → Type}
    [Monad m]
    [LawfulMonad m]
    {item : Reader m α}
    {spells : α → Stream → Prop}
    {items : List α}
    {pieces : List Stream}
    (spelled : List.Forall₂ spells items pieces)
    (everyItem :
      ∀ value ∈ items, ∀ bytes, spells value bytes →
        Reads item bytes value) :
    Reads (readCount item items.length) pieces.flatten items := by
  apply Reads.pieces
  induction spelled with
  | nil => exact .nil
  | cons spelledFirst _ inductionHypothesis =>
      refine .cons (everyItem _ (by simp) _ spelledFirst) ?_
      apply inductionHypothesis
      intro value member
      exact everyItem value (by simp [member])

/-- A list within the limit is read from every spelling. -/
theorem reads_spelledCounted
    {item : Reader Option α}
    {spells : α → Stream → Prop}
    {items : List α}
    {bytes : Stream}
    (short : items.length ≤ kMaxCount)
    (spelled : SpellsItems spells items bytes)
    (everyItem :
      ∀ value ∈ items, ∀ bytes, spells value bytes →
        Reads item bytes value) :
    Reads (readCounted item) bytes items := by
  obtain ⟨pieces, spelledPieces, rfl⟩ := spelled
  have count := toNat_ofNat_count short
  have accepted :
      decide ((UInt32.ofNat items.length).toNat ≤ kMaxCount) = true := by
    simpa [count] using short
  refine ((reads_u32 _).checked accepted).bind ?_
  rw [count]
  exact reads_pieces spelledPieces everyItem

/-- A list that is written item by item. -/
theorem spells_written
    (write : α → Stream)
    (items : List α) :
    SpellsItems (fun value bytes => bytes = write value) items
      (writeItems write items) := by
  apply spells_writeItems
  intro item
  rfl

/-- A list within the limit is read back. -/
theorem reads_counted
    {item : Reader Option α}
    {write : α → Stream}
    {items : List α}
    (short : items.length ≤ kMaxCount)
    (everyItem : ∀ value ∈ items, Reads item (write value) value) :
    Reads (readCounted item) (writeItems write items) items := by
  refine reads_spelledCounted short (spells_written write items) ?_
  rintro value member bytes rfl
  exact everyItem value member

/-- Every cost component is read back. -/
theorem reads_component
    (component : CostComponent) :
    Reads readComponent (writeComponent component) component := by
  refine (reads_enum component.factor).bind ?_
  refine (reads_double component.weight).bind ?_
  refine (reads_double component.value).bind ?_
  refine (reads_enum component.provenance).bind ?_
  exact Reads.pure component

/-- A cost within the limit is read back. -/
theorem reads_cost
    {cost : CostSummary}
    (fits : cost.Fits) :
    Reads readCost (writeCost cost) cost := by
  refine (reads_counted fits fun component _ =>
    reads_component component).bind ?_
  refine (reads_double cost.total).bind ?_
  exact Reads.pure cost

/-- A stage within the limit is read from every spelling. -/
theorem reads_stage
    {stage : Stage}
    {bytes : Stream}
    (fits : stage.Fits)
    (spelled : stage.SpelledBy bytes) :
    Reads readStage bytes stage := by
  obtain ⟨requiresAuthority, spelledAuthority, rfl⟩ := spelled
  refine (reads_id stage.id).bind ?_
  refine (reads_generation stage.generation).bind ?_
  refine (reads_id stage.source).bind ?_
  refine (reads_id stage.destination).bind ?_
  refine (reads_id stage.link).bind ?_
  refine (reads_enum stage.transport).bind ?_
  refine (reads_u64 stage.payload.count).bind ?_
  refine (reads_u64 stage.expectedBandwidth.count).bind ?_
  refine (reads_u64 stage.expectedLatency.count).bind ?_
  refine (reads_id stage.stagingResource).bind ?_
  refine (reads_spelledBool spelledAuthority).bind ?_
  refine (reads_enum stage.provenance).bind ?_
  refine (reads_text fits).bind ?_
  exact Reads.pure stage

/-- A path within the limit is read from every spelling. -/
theorem reads_path
    {path : Path}
    {bytes : Stream}
    (fits : path.Fits)
    (spelled : path.SpelledBy bytes) :
    Reads readPath bytes path := by
  obtain ⟨stages, spelledStages, rfl⟩ := spelled
  refine (reads_id path.id).bind ?_
  refine (reads_generation path.generation).bind ?_
  refine (reads_id path.source).bind ?_
  refine (reads_id path.destination).bind ?_
  refine (reads_u64 path.totalPayload.count).bind ?_
  refine (reads_enum path.provenance).bind ?_
  refine (reads_spelledCounted fits.stages spelledStages
    fun stage member _ spelledStage =>
      reads_stage (fits.everyStage stage member) spelledStage).bind ?_
  refine (reads_cost fits.cost).bind ?_
  refine (reads_text fits.failureDomain).bind ?_
  refine (reads_text fits.reason).bind ?_
  exact Reads.pure path

/-! ## Fields with error codes -/

/-- Every constructor is read back. -/
theorem reads_parseEnum
    [Enumerated α]
    (missing invalid : PersistError)
    (value : α) :
    Reads (parseEnum missing invalid) (writeEnum value) value := by
  have combined :
      Reads (parseEnum missing invalid)
        (writeU8 (code value) ++ []) value := by
    refine ((reads_u8 (code value)).orFail missing).bind ?_
    rw [ofCode_code]
    exact Reads.pure value
  simpa [writeEnum] using combined

/-- A list within the limit is parsed from every spelling. -/
theorem reads_spelledItems
    {missing tooMany : PersistError}
    {item : Parser α}
    {spells : α → Stream → Prop}
    {items : List α}
    {bytes : Stream}
    (short : items.length ≤ kMaxCount)
    (spelled : SpellsItems spells items bytes)
    (everyItem :
      ∀ value ∈ items, ∀ bytes, spells value bytes →
        Reads item bytes value) :
    Reads (parseItems missing tooMany item) bytes items := by
  obtain ⟨pieces, spelledPieces, rfl⟩ := spelled
  have count := toNat_ofNat_count short
  refine ((reads_u32 _).orFail missing).bind ?_
  rw [if_neg (by omega), count]
  exact reads_pieces spelledPieces everyItem

/-- A list within the limit is parsed as it was written. -/
theorem reads_parseItems
    {missing tooMany : PersistError}
    {item : Parser α}
    {write : α → Stream}
    {items : List α}
    (short : items.length ≤ kMaxCount)
    (everyItem : ∀ value ∈ items, Reads item (write value) value) :
    Reads (parseItems missing tooMany item) (writeItems write items)
      items := by
  refine reads_spelledItems short (spells_written write items) ?_
  rintro value member bytes rfl
  exact everyItem value member

/-- A list of identities within the limit. -/
private theorem reads_parseIds
    {missing tooMany each : PersistError}
    {ids : List (Id Tag)}
    (short : ids.length ≤ kMaxCount) :
    Reads (parseItems missing tooMany (orFail each readId))
      (writeItems writeId ids) ids :=
  reads_parseItems short fun id _ => (reads_id id).orFail each

private theorem reads_binding
    {Tag GenerationTag : Type}
    (missingId missingGeneration : PersistError)
    (bound : Id Tag × Generation GenerationTag) :
    Reads
      (do
        let id ← orFail missingId readId
        let generation ← orFail missingGeneration readGeneration
        pure (id, generation) : Parser (Id Tag × Generation GenerationTag))
      [writeU64 bound.1.value, writeU64 bound.2.value].flatten bound := by
  refine ((reads_id bound.1).orFail _).bind ?_
  refine ((reads_generation bound.2).orFail _).bind ?_
  exact Reads.pure bound

/-! ## Records, supersessions and requests -/

/-- A record with a fresh identity is parsed from every spelling. -/
theorem reads_parseRecord
    {record : StoreRecord}
    {bytes : Stream}
    {seen : List CommunicationPlanId}
    (fits : record.plan.Fits)
    (identified : record.plan.id.isNull = false)
    (fresh : record.plan.id ∉ seen)
    (spelled : record.SpelledBy bytes) :
    Reads (parseRecord seen) bytes record := by
  obtain ⟨candidatePaths, orderedStages, revalidate, spelledPaths,
    spelledStages, spelledRevalidate, rfl⟩ := spelled
  refine ((reads_id record.plan.id).orFail _).bind ?_
  rw [if_neg (by simp [identified]), if_neg fresh]
  refine ((reads_generation record.plan.generation).orFail _).bind ?_
  refine ((reads_id record.plan.requestId).orFail _).bind ?_
  refine ((reads_generation record.plan.requestGeneration).orFail _).bind ?_
  refine (reads_parseEnum _ _ record.plan.shape).bind ?_
  refine ((reads_id record.plan.primaryPath).orFail _).bind ?_
  refine (reads_parseEnum _ _ record.plan.feasibility).bind ?_
  refine (reads_parseEnum _ _ record.state).bind ?_
  refine (reads_spelledItems fits.candidatePaths spelledPaths
    fun path member _ spelledPath =>
      (reads_path (fits.everyPath path member) spelledPath).orFail _).bind ?_
  refine (reads_parseIds fits.fallbackPaths).bind ?_
  refine (reads_spelledItems fits.orderedStages spelledStages
    fun stage member _ spelledStage =>
      (reads_stage (fits.everyStage stage member) spelledStage).orFail
        _).bind ?_
  refine ((reads_generation record.plan.topologyGeneration).orFail _).bind ?_
  refine ((reads_generation record.plan.capacityGeneration).orFail _).bind ?_
  refine
    ((reads_generation record.plan.reservationGeneration).orFail _).bind ?_
  refine
    ((reads_generation record.plan.congestionGeneration).orFail _).bind ?_
  refine
    ((reads_generation record.plan.capabilityGeneration).orFail _).bind ?_
  refine ((reads_generation record.plan.healthGeneration).orFail _).bind ?_
  refine ((reads_generation record.plan.placementGeneration).orFail _).bind ?_
  refine ((reads_generation record.plan.authorityGeneration).orFail _).bind ?_
  refine (reads_parseItems fits.endpointGenerations fun bound _ =>
    reads_binding _ _ bound).bind ?_
  refine (reads_parseItems fits.linkGenerations fun bound _ =>
    reads_binding _ _ bound).bind ?_
  refine (reads_parseIds fits.requiredStagingResources).bind ?_
  refine (reads_parseIds fits.requiredResourceClaims).bind ?_
  refine ((reads_cost fits.cost).orFail _).bind ?_
  refine (reads_parseItems fits.explanations fun explanation member =>
    (reads_text (fits.everyExplanation explanation member)).orFail _).bind ?_
  refine ((reads_text fits.provenance).orFail _).bind ?_
  refine
    ((reads_generation record.plan.revalidationGeneration).orFail _).bind ?_
  refine ((reads_spelledBool spelledRevalidate).orFail _).bind ?_
  refine ((reads_text fits.handoffRequirement).orFail _).bind ?_
  refine (reads_parseIds fits.multicastDestinations).bind ?_
  refine (reads_parseEnum _ _ record.plan.collectiveShape).bind ?_
  refine (reads_parseIds fits.collectiveParticipants).bind ?_
  refine ((reads_text fits.description).orFail _).bind ?_
  refine ((reads_text fits.createdProvenance).orFail _).bind ?_
  exact Reads.pure record

/-- Records with distinct identities are parsed from every spelling. -/
theorem reads_parseRecords
    {records : List StoreRecord}
    {pieces : List Stream}
    {seen : List CommunicationPlanId}
    (fits : ∀ record ∈ records, record.plan.Fits)
    (identified : ∀ record ∈ records, record.plan.id.isNull = false)
    (distinct : (records.map fun record => record.plan.id).Nodup)
    (fresh : ∀ record ∈ records, record.plan.id ∉ seen)
    (spelled : List.Forall₂ StoreRecord.SpelledBy records pieces) :
    Reads (parseRecords seen records.length) pieces.flatten records := by
  induction spelled generalizing seen with
  | nil =>
      exact Reads.pure []
  | @cons record piece rest pieces spelledFirst _ inductionHypothesis =>
      rw [List.map_cons, List.nodup_cons] at distinct
      have readsFirst : Reads (parseRecord seen) piece record :=
        reads_parseRecord (fits record (by simp))
          (identified record (by simp)) (fresh record (by simp))
          spelledFirst
      have readsRest :
          Reads (parseRecords (record.plan.id :: seen) rest.length)
            pieces.flatten rest := by
        apply inductionHypothesis
        · intro later member
          exact fits later (by simp [member])
        · intro later member
          exact identified later (by simp [member])
        · exact distinct.2
        · intro later member
          rw [List.mem_cons, not_or]
          constructor
          · intro same
            apply distinct.1
            rw [← same]
            exact List.mem_map_of_mem member
          · exact fresh later (by simp [member])
      have combined :
          Reads (parseRecords seen (rest.length + 1))
            (piece ++ (pieces.flatten ++ [])) (record :: rest) := by
        refine readsFirst.bind ?_
        refine readsRest.bind ?_
        exact Reads.pure (record :: rest)
      simpa using combined

theorem reads_parseSupersession
    (supersession : SupersessionRecord) :
    Reads parseSupersession (writeSupersession supersession)
      supersession := by
  refine ((reads_id supersession.superseded).orFail _).bind ?_
  refine ((reads_id supersession.newer).orFail _).bind ?_
  exact Reads.pure supersession

/-- The request as it comes back: what is not stored has its default. -/
def CommunicationRequest.persisted
    (request : CommunicationRequest) : CommunicationRequest :=
  { id := request.id
    generation := request.generation
    shape := request.shape
    source := request.source
    payloadSize := request.payloadSize
    direction := request.direction
    collectiveShape := request.collectiveShape
    collectiveCount := request.collectiveCount
    destinations := request.destinations }

/-- A request is parsed as far as it is written. -/
theorem reads_parseRequest
    {request : CommunicationRequest}
    (short : request.destinations.length ≤ kMaxCount) :
    Reads parseRequest (writeRequest request) request.persisted := by
  have bounded : ¬ 4294967295 < request.collectiveCount.toUInt64 := by
    rw [UInt64.lt_iff_toNat_lt]
    have small := request.collectiveCount.toNat_lt
    simp only [UInt32.toNat_toUInt64]
    change ¬ 4294967295 < _
    omega
  refine ((reads_id request.id).orFail _).bind ?_
  refine ((reads_generation request.generation).orFail _).bind ?_
  refine (reads_parseEnum _ _ request.shape).bind ?_
  refine ((reads_id request.source).orFail _).bind ?_
  refine ((reads_u64 request.payloadSize.count).orFail _).bind ?_
  refine (reads_parseEnum _ _ request.direction).bind ?_
  refine (reads_parseEnum _ _ request.collectiveShape).bind ?_
  refine ((reads_u64 request.collectiveCount.toUInt64).orFail _).bind ?_
  rw [if_neg bounded]
  refine (reads_parseIds short).bind ?_
  have same :
      request.collectiveCount.toUInt64.toUInt32 = request.collectiveCount := by
    simp
  rw [same]
  exact Reads.pure request.persisted

/-! ## The whole store -/

/-- The state as it comes back. -/
def StoreState.persisted (state : StoreState) : StoreState :=
  { state with
    requests := state.requests.map CommunicationRequest.persisted }

/-- A list of items that come back changed. -/
private theorem reads_parseItems_map
    {missing tooMany : PersistError}
    {item : Parser α}
    {write : α → Stream}
    {image : α → α}
    {items : List α}
    (short : items.length ≤ kMaxCount)
    (everyItem : ∀ value ∈ items, Reads item (write value) (image value)) :
    Reads (parseItems missing tooMany item) (writeItems write items)
      (items.map image) := by
  have count := toNat_ofNat_count short
  refine ((reads_u32 _).orFail missing).bind ?_
  rw [if_neg (by omega), count]
  exact Reads.count_map everyItem

/-- A state is parsed from every spelling, its requests as far as written. -/
theorem reads_parseBody
    {state : StoreState}
    {body : Stream}
    (fits : state.Fits)
    (identified :
      ∀ record ∈ state.plans, record.plan.id.isNull = false)
    (distinct : (state.plans.map fun record => record.plan.id).Nodup)
    (spelled : state.SpelledBy body) :
    Reads parseBody body state.persisted := by
  obtain ⟨plans, ⟨pieces, spelledPieces, rfl⟩, rfl⟩ := spelled
  have count := toNat_ofNat_count fits.plans
  have records :
      Reads (parseRecords [] (UInt32.ofNat state.plans.length).toNat)
        pieces.flatten state.plans := by
    rw [count]
    exact reads_parseRecords fits.everyPlan identified distinct (by simp)
      spelledPieces
  simp only [List.flatten_cons, List.append_assoc]
  refine ((reads_generation state.epoch).orFail _).bind ?_
  refine ((reads_u32 _).orFail _).bind ?_
  rw [if_neg (by rw [count]; exact Nat.not_lt.mpr fits.plans)]
  refine records.bind ?_
  refine (reads_parseItems fits.supersessions fun supersession _ =>
    reads_parseSupersession supersession).bind ?_
  refine (reads_parseItems_map fits.requests fun request member =>
    reads_parseRequest (fits.everyRequest request member)).bind ?_
  exact Reads.pure state.persisted

/-- The header of a store is parsed as it was written. -/
theorem reads_parseFrame
    (sum length : UInt64) :
    Reads parseFrame
      ([ writeU32 kMagic, writeU32 kFormatVersion, writeU64 sum,
         writeU64 length ].flatten)
      (sum, length) := by
  refine ((reads_u32 kMagic).orFail _).bind ?_
  rw [if_neg (by simp)]
  refine ((reads_u32 kFormatVersion).orFail _).bind ?_
  rw [if_neg (by simp)]
  refine ((reads_u64 sum).orFail _).bind ?_
  refine ((reads_u64 length).orFail _).bind ?_
  exact Reads.pure (sum, length)

/--
Within the limits the parser's verdict on a spelled state is the verdict of
`validateStore` on what comes back.
-/
theorem parseStore_framed
    {state : StoreState}
    {body : Stream}
    (fits : state.Fits)
    (identified :
      ∀ record ∈ state.plans, record.plan.id.isNull = false)
    (distinct : (state.plans.map fun record => record.plan.id).Nodup)
    (spelled : state.SpelledBy body) :
    parseStore (framed body) =
      (validateStore state.persisted).elim (.ok state.persisted)
        .error := by
  have lengthValue : (UInt64.ofNat body.length).toNat = body.length := by
    rw [UInt64.toNat_ofNat', length_of_spelledBody spelled]
    exact Nat.mod_eq_of_lt fits.bytes
  have frame :
      parseFrame.run (framed body) =
        .ok ((fnv1a body, UInt64.ofNat body.length), body) := by
    have read :=
      reads_parseFrame (fnv1a body) (UInt64.ofNat body.length) body
    simpa [framed, pure, Except.pure] using read
  have readBody : parseBody.run body = .ok (state.persisted, []) :=
    (reads_parseBody fits identified distinct spelled).run_all
  unfold parseStore
  rw [frame]
  simp only [bind, Except.bind, lengthValue, lt_irrefl, if_false,
    List.take_length, ne_eq, not_true_eq_false, readBody]
  cases validateStore state.persisted <;> rfl

/--
Within the limits the parser's verdict on a written state is the verdict of
`validateStore` on what comes back.
-/
theorem parseStore_serializeStore
    {state : StoreState}
    (fits : state.Fits)
    (identified :
      ∀ record ∈ state.plans, record.plan.id.isNull = false)
    (distinct : (state.plans.map fun record => record.plan.id).Nodup) :
    parseStore (serializeStore state) =
      match validateStore state.persisted with
      | some error => .error error
      | none => .ok state.persisted := by
  have verdict :=
    parseStore_framed fits identified distinct (spells_writeBody state)
  change parseStore (serializeStore state) = _ at verdict
  rw [verdict]
  cases validateStore state.persisted <;> rfl

end CommunicationPlanner
