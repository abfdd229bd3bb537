import CommunicationPlanner.Persistence

namespace CommunicationPlanner

open ByteCodec

/-!
# Spellings of a store

The parser accepts more than `serializeStore` writes: any byte but zero counts
as `true`.  The relations of this module say which bytes spell a stage, a path,
a record and a body.  They follow the writers and do not mention the readers,
so that the reader can be compared with them in both directions.

What is written is one of the spellings, and all spellings have its length.
-/

/-- A four-byte count and then a spelling of each item. -/
def SpellsItems
    (spells : α → Stream → Prop)
    (items : List α)
    (bytes : Stream) : Prop :=
  ∃ pieces,
    List.Forall₂ spells items pieces ∧
    bytes = writeU32 (UInt32.ofNat items.length) ++ pieces.flatten

/-- The fields of a stage, with its flag as any byte that reads so. -/
def Stage.SpelledBy (stage : Stage) (bytes : Stream) : Prop :=
  ∃ requiresAuthority,
    SpellsBool stage.requiresAuthority requiresAuthority ∧
    bytes =
      [ writeU64 stage.id.value,
        writeU64 stage.generation.value,
        writeU64 stage.source.value,
        writeU64 stage.destination.value,
        writeU64 stage.link.value,
        writeEnum stage.transport,
        writeU64 stage.payload.count,
        writeU64 stage.expectedBandwidth.count,
        writeU64 stage.expectedLatency.count,
        writeU64 stage.stagingResource.value,
        requiresAuthority,
        writeEnum stage.provenance,
        writeString stage.description ].flatten

/-- The fields of a path, with its stages spelled in any way. -/
def Path.SpelledBy (path : Path) (bytes : Stream) : Prop :=
  ∃ stages,
    SpellsItems Stage.SpelledBy path.stages stages ∧
    bytes =
      [ writeU64 path.id.value,
        writeU64 path.generation.value,
        writeU64 path.source.value,
        writeU64 path.destination.value,
        writeU64 path.totalPayload.count,
        writeEnum path.provenance,
        stages,
        writeCost path.cost,
        writeString path.failureDomain,
        writeString path.reason ].flatten

/-- The fields of a record, with its paths, stages and flag in any spelling. -/
def StoreRecord.SpelledBy (record : StoreRecord) (bytes : Stream) : Prop :=
  let plan := record.plan
  ∃ candidatePaths orderedStages revalidateBeforeExecute,
    SpellsItems Path.SpelledBy plan.candidatePaths candidatePaths ∧
    SpellsItems Stage.SpelledBy plan.orderedStages orderedStages ∧
    SpellsBool plan.revalidateBeforeExecute revalidateBeforeExecute ∧
    bytes =
      [ writeU64 plan.id.value,
        writeU64 plan.generation.value,
        writeU64 plan.requestId.value,
        writeU64 plan.requestGeneration.value,
        writeEnum plan.shape,
        writeU64 plan.primaryPath.value,
        writeEnum plan.feasibility,
        writeEnum record.state,
        candidatePaths,
        writeItems writeId plan.fallbackPaths,
        orderedStages,
        writeU64 plan.topologyGeneration.value,
        writeU64 plan.capacityGeneration.value,
        writeU64 plan.reservationGeneration.value,
        writeU64 plan.congestionGeneration.value,
        writeU64 plan.capabilityGeneration.value,
        writeU64 plan.healthGeneration.value,
        writeU64 plan.placementGeneration.value,
        writeU64 plan.authorityGeneration.value,
        writeItems writeEndpointBinding plan.endpointGenerations,
        writeItems writeLinkBinding plan.linkGenerations,
        writeItems writeId plan.requiredStagingResources,
        writeItems writeId plan.requiredResourceClaims,
        writeCost plan.cost,
        writeItems writeString plan.explanations,
        writeString plan.provenance,
        writeU64 plan.revalidationGeneration.value,
        revalidateBeforeExecute,
        writeString plan.handoffRequirement,
        writeItems writeId plan.multicastDestinations,
        writeEnum plan.collectiveShape,
        writeItems writeId plan.collectiveParticipants,
        writeString plan.description,
        writeString plan.createdProvenance ].flatten

/-- The bytes are a body that holds the state. -/
def StoreState.SpelledBy (state : StoreState) (bytes : Stream) : Prop :=
  ∃ plans,
    SpellsItems StoreRecord.SpelledBy state.plans plans ∧
    bytes =
      [ writeU64 state.epoch.value,
        plans,
        writeItems writeSupersession state.supersessions,
        writeItems writeRequest state.requests ].flatten

/-- The frame that `serializeStore` puts around a payload. -/
def framed (payload : List UInt8) : List UInt8 :=
  [ writeU32 kMagic,
    writeU32 kFormatVersion,
    writeU64 (fnv1a payload),
    writeU64 (UInt64.ofNat payload.length),
    payload ].flatten

/-! ## What is written is a spelling -/

/-- The writer spells a flag. -/
theorem spells_writeBool
    (value : Bool) :
    SpellsBool value (writeBool value) :=
  ⟨if value then 1 else 0, by cases value <;> rfl, rfl⟩

/-- The writer spells a list, if it spells its items. -/
theorem spells_writeItems
    {spells : α → Stream → Prop}
    {write : α → Stream}
    (spelled : ∀ item, spells item (write item))
    (items : List α) :
    SpellsItems spells items (writeItems write items) := by
  refine ⟨items.map write, ?_, rfl⟩
  rw [List.forall₂_map_right_iff, List.forall₂_same]
  exact fun item _ => spelled item

/-- The writer spells a stage. -/
theorem spells_writeStage
    (stage : Stage) :
    stage.SpelledBy (writeStage stage) :=
  ⟨_, spells_writeBool _, rfl⟩

/-- The writer spells a path. -/
theorem spells_writePath
    (path : Path) :
    path.SpelledBy (writePath path) :=
  ⟨_, spells_writeItems spells_writeStage _, rfl⟩

/-- The writer spells a record. -/
theorem spells_writeRecord
    (record : StoreRecord) :
    record.SpelledBy (writeRecord record) :=
  ⟨_, _, _, spells_writeItems spells_writePath _,
    spells_writeItems spells_writeStage _, spells_writeBool _, rfl⟩

/-- What the writer writes is one of the spellings of a state. -/
theorem spells_writeBody
    (state : StoreState) :
    state.SpelledBy (writeBody state) :=
  ⟨_, spells_writeItems spells_writeRecord _, rfl⟩

/-! ## All spellings are equally long -/

/-- Every spelling of a flag is one byte long. -/
theorem length_of_spellsBool
    {value : Bool}
    {bytes : Stream}
    (spelled : SpellsBool value bytes) :
    bytes.length = (writeBool value).length := by
  obtain ⟨byte, _, rfl⟩ := spelled
  rfl

/--
The spellings of a list are as long as it is written, if those of its items are.
-/
theorem length_of_spellsItems
    {spells : α → Stream → Prop}
    {write : α → Stream}
    {items : List α}
    {bytes : Stream}
    (sameLength :
      ∀ item bytes, spells item bytes → bytes.length = (write item).length)
    (spelled : SpellsItems spells items bytes) :
    bytes.length = (writeItems write items).length := by
  obtain ⟨pieces, spelledPieces, rfl⟩ := spelled
  have sum : pieces.flatten.length = (items.flatMap write).length := by
    induction spelledPieces with
    | nil => rfl
    | cons spelledFirst _ inductionHypothesis =>
        rw [List.flatten_cons, List.flatMap_cons, List.length_append,
          List.length_append, sameLength _ _ spelledFirst,
          inductionHypothesis]
  rw [writeItems, List.length_append, List.length_append, sum]

theorem length_of_spelledStage
    (stage : Stage)
    (bytes : Stream)
    (spelled : stage.SpelledBy bytes) :
    bytes.length = (writeStage stage).length := by
  obtain ⟨requiresAuthority, spelledBool, rfl⟩ := spelled
  simp only [writeStage, List.flatten_cons, List.length_append,
    length_of_spellsBool spelledBool]

theorem length_of_spelledPath
    (path : Path)
    (bytes : Stream)
    (spelled : path.SpelledBy bytes) :
    bytes.length = (writePath path).length := by
  obtain ⟨stages, spelledStages, rfl⟩ := spelled
  simp only [writePath, List.flatten_cons, List.length_append,
    length_of_spellsItems length_of_spelledStage spelledStages]

/-- Every spelling of a record is as long as it is written. -/
theorem length_of_spelledRecord
    (record : StoreRecord)
    (bytes : Stream)
    (spelled : record.SpelledBy bytes) :
    bytes.length = (writeRecord record).length := by
  obtain ⟨paths, stages, revalidate, spelledPaths, spelledStages,
    spelledBool, rfl⟩ := spelled
  simp only [writeRecord, List.flatten_cons, List.length_append,
    length_of_spellsItems length_of_spelledPath spelledPaths,
    length_of_spellsItems length_of_spelledStage spelledStages,
    length_of_spellsBool spelledBool]

/-- Every spelling of a state is as long as it is written. -/
theorem length_of_spelledBody
    {state : StoreState}
    {bytes : Stream}
    (spelled : state.SpelledBy bytes) :
    bytes.length = (writeBody state).length := by
  obtain ⟨plans, spelledPlans, rfl⟩ := spelled
  simp only [writeBody, List.flatten_cons, List.length_append,
    length_of_spellsItems length_of_spelledRecord spelledPlans]

end CommunicationPlanner
