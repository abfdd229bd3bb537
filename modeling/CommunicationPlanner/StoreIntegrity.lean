import CommunicationPlanner.Checksum
import CommunicationPlanner.StoreRoundTrip

namespace CommunicationPlanner

open ByteCodec

/-!
# The integrity of the store

`StoreRoundTrip` follows a state that was written.  Here the input is any byte
string.  A state that the parser returns stays within the limits of the writer
and is spelled by what was read, so it is read back unchanged; and a written
state in which one byte was changed, or which was cut or extended, is refused.
-/

/-! ## Values -/

/-- An identity is read from its own spelling only. -/
theorem inverts_id :
    Inverts (readId : Reader Option (Id Tag)) (fun id => writeU64 id.value)
      fun _ => True :=
  Exact.inverts (exact_u64.map fun _ => rfl)

/-- A generation is read from its own spelling only. -/
theorem inverts_generation :
    Inverts (readGeneration : Reader Option (Generation Tag))
      (fun generation => writeU64 generation.value) fun _ => True :=
  Exact.inverts (exact_u64.map fun _ => rfl)

/-- A `double` is read from its own spelling only. -/
theorem inverts_double :
    Inverts readDouble writeDouble fun _ => True :=
  Exact.inverts (exact_u64.map fun _ => rfl)

/-- A string is read from its own spelling only, and within the limit. -/
theorem inverts_text :
    Inverts readText writeString fun text => text.length ≤ kMaxCount :=
  inverts_string kMaxCount

/-- Pieces that were taken one by one, after their count. -/
theorem spells_of_pieces
    {spells : α → Stream → Prop}
    {good : α → Prop}
    {count : UInt32}
    {items : List α}
    {pieces : List Stream}
    (isCount : items.length = count.toNat)
    (spelled :
      List.Forall₂ (fun value bytes => spells value bytes ∧ good value)
        items pieces) :
    SpellsItems spells items (writeU32 count ++ pieces.flatten) ∧
      ∀ value ∈ items, good value := by
  refine ⟨⟨pieces, spelled.imp fun _ _ holds => holds.1, ?_⟩, ?_⟩
  · rw [isCount, UInt32.ofNat_toNat]
  · clear isCount
    induction spelled with
    | nil => simp
    | cons first _ inductionHypothesis =>
        intro value member
        rcases List.mem_cons.mp member with rfl | later
        · exact first.2
        · exact inductionHypothesis value later

/-- Items of which only one spelling is read. -/
theorem eq_writeItems_of_spells
    {write : α → Stream}
    {items : List α}
    {bytes : Stream}
    (spelled :
      SpellsItems (fun value bytes => bytes = write value) items bytes) :
    bytes = writeItems write items := by
  obtain ⟨pieces, spelledPieces, rfl⟩ := spelled
  have written : pieces = items.map write := by
    induction spelledPieces with
    | nil => rfl
    | cons first _ inductionHypothesis =>
        rw [List.map_cons, first, inductionHypothesis]
  rw [written, writeItems, List.flatMap_def]

/-- A list is read from spellings of its items, and within the limit. -/
theorem takes_readCounted
    {item : Reader Option α}
    {spells : α → Stream → Prop}
    {good : α → Prop}
    (takes : Takes item fun value bytes => spells value bytes ∧ good value) :
    Takes (readCounted item) fun items bytes =>
      SpellsItems spells items bytes ∧
        items.length ≤ kMaxCount ∧ ∀ value ∈ items, good value := by
  refine exact_u32.inverts.checked.bind fun count accepted => ?_
  refine (takes.readCount count.toNat).imp ?_
  rintro items bytes ⟨isCount, pieces, spelled, rfl⟩
  have short : count.toNat ≤ kMaxCount := by simpa using accepted.2
  obtain ⟨spelledItems, everyItem⟩ := spells_of_pieces isCount spelled
  exact ⟨spelledItems, by omega, everyItem⟩

/-- A cost component is read from its own spelling only. -/
theorem inverts_component :
    Inverts readComponent writeComponent fun _ => True := by
  refine exact_enum.inverts.bind fun factor _ => ?_
  refine inverts_double.bind fun weight _ => ?_
  refine inverts_double.bind fun value _ => ?_
  refine exact_enum.inverts.bind fun provenance _ => ?_
  exact Takes.pure ⟨rfl, trivial⟩

/-- A cost is read from its own spelling only. -/
theorem inverts_cost :
    Inverts readCost writeCost CostSummary.Fits := by
  refine (takes_readCounted inverts_component).bind
    fun components bytes spelled => ?_
  rw [eq_writeItems_of_spells spelled.1]
  refine inverts_double.bind fun total _ => ?_
  exact Takes.pure ⟨rfl, spelled.2.1⟩

/-- A stage is read from one of its spellings. -/
theorem takes_stage :
    Takes readStage fun stage bytes =>
      stage.SpelledBy bytes ∧ stage.Fits := by
  refine inverts_id.bind fun id _ => ?_
  refine inverts_generation.bind fun generation _ => ?_
  refine inverts_id.bind fun source _ => ?_
  refine inverts_id.bind fun destination _ => ?_
  refine inverts_id.bind fun link _ => ?_
  refine exact_enum.inverts.bind fun transport _ => ?_
  refine exact_u64.inverts.bind fun payload _ => ?_
  refine exact_u64.inverts.bind fun expectedBandwidth _ => ?_
  refine exact_u64.inverts.bind fun expectedLatency _ => ?_
  refine inverts_id.bind fun stagingResource _ => ?_
  refine takes_bool.bind fun requiresAuthority bytes spelled => ?_
  refine exact_enum.inverts.bind fun provenance _ => ?_
  refine inverts_text.bind fun description isShort => ?_
  exact Takes.pure ⟨⟨bytes, spelled, rfl⟩, isShort⟩

/-- A path is read from one of its spellings. -/
theorem takes_path :
    Takes readPath fun path bytes =>
      path.SpelledBy bytes ∧ path.Fits := by
  refine inverts_id.bind fun id _ => ?_
  refine inverts_generation.bind fun generation _ => ?_
  refine inverts_id.bind fun source _ => ?_
  refine inverts_id.bind fun destination _ => ?_
  refine exact_u64.inverts.bind fun totalPayload _ => ?_
  refine exact_enum.inverts.bind fun provenance _ => ?_
  refine (takes_readCounted takes_stage).bind
    fun stages bytes spelled => ?_
  refine inverts_cost.bind fun cost costFits => ?_
  refine inverts_text.bind fun failureDomain domainFits => ?_
  refine inverts_text.bind fun reason reasonFits => ?_
  exact Takes.pure ⟨⟨bytes, spelled.1, rfl⟩, spelled.2.1, spelled.2.2,
    costFits, domainFits, reasonFits⟩

/-! ## Fields with error codes -/

theorem inverts_parseEnum
    [Enumerated α]
    [Enumerated.Distinct α]
    {missing invalid : PersistError} :
    Inverts (parseEnum missing invalid : Parser α) writeEnum
      fun _ => True :=
  exact_enumOrFail.inverts

theorem takes_itemsOrFail
    {ε : Type}
    {limit : Nat}
    {missing tooMany : ε}
    {item : Reader (Except ε) α}
    {spells : α → Stream → Prop}
    {good : α → Prop}
    (takes : Takes item fun value bytes => spells value bytes ∧ good value) :
    Takes (itemsOrFail limit missing tooMany item) fun items bytes =>
      SpellsItems spells items bytes ∧
        items.length ≤ limit ∧ ∀ value ∈ items, good value := by
  refine exact_u32.inverts.orFail.bind fun count _ => ?_
  refine takes_unless fun accepted => ?_
  refine (takes.readCount count.toNat).imp ?_
  rintro items bytes ⟨isCount, pieces, spelled, rfl⟩
  obtain ⟨spelledItems, everyItem⟩ := spells_of_pieces isCount spelled
  exact ⟨spelledItems, by omega, everyItem⟩

theorem takes_parseItems
    {missing tooMany : PersistError}
    {item : Parser α}
    {spells : α → Stream → Prop}
    {good : α → Prop}
    (takes : Takes item fun value bytes => spells value bytes ∧ good value) :
    Takes (parseItems missing tooMany item) fun items bytes =>
      SpellsItems spells items bytes ∧
        items.length ≤ kMaxCount ∧ ∀ value ∈ items, good value :=
  takes_itemsOrFail takes

theorem inverts_parseItems
    {missing tooMany : PersistError}
    {item : Parser α}
    {write : α → Stream}
    {good : α → Prop}
    (inverts : Inverts item write good) :
    Inverts (parseItems missing tooMany item) (writeItems write)
      fun items =>
        items.length ≤ kMaxCount ∧ ∀ value ∈ items, good value :=
  (takes_parseItems inverts).imp fun _ _ spelled =>
    ⟨eq_writeItems_of_spells spelled.1, spelled.2⟩

private theorem inverts_parseIds
    {missing tooMany each : PersistError} :
    Inverts
      (parseItems missing tooMany (orFail each readId) :
        Parser (List (Id Tag)))
      (writeItems writeId)
      fun ids => ids.length ≤ kMaxCount ∧ ∀ id ∈ ids, True :=
  inverts_parseItems inverts_id.orFail

private theorem inverts_binding
    {Tag GenerationTag : Type}
    {missingId missingGeneration : PersistError} :
    Inverts
      (do
        let id ← orFail missingId readId
        let generation ← orFail missingGeneration readGeneration
        pure (id, generation) : Parser (Id Tag × Generation GenerationTag))
      (fun bound => [writeU64 bound.1.value, writeU64 bound.2.value].flatten)
      fun _ => True := by
  refine inverts_id.orFail.bind fun id _ => ?_
  refine inverts_generation.orFail.bind fun generation _ => ?_
  exact Takes.pure ⟨rfl, trivial⟩

/-! ## Records, supersessions and requests -/

/-- A record is parsed from one of its spellings, and has an identity. -/
theorem takes_parseRecord
    (seen : List CommunicationPlanId) :
    Takes (parseRecord seen) fun record bytes =>
      record.SpelledBy bytes ∧
        record.plan.Fits ∧ record.plan.id.isNull = false := by
  refine inverts_id.orFail.bind fun id _ => ?_
  refine takes_unless fun identified => ?_
  refine takes_unless fun _ => ?_
  refine inverts_generation.orFail.bind fun generation _ => ?_
  refine inverts_id.orFail.bind fun requestId _ => ?_
  refine inverts_generation.orFail.bind fun requestGeneration _ => ?_
  refine inverts_parseEnum.bind fun shape _ => ?_
  refine inverts_id.orFail.bind fun primaryPath _ => ?_
  refine inverts_parseEnum.bind fun feasibility _ => ?_
  refine inverts_parseEnum.bind fun state _ => ?_
  refine (takes_parseItems takes_path.orFail).bind
    fun candidatePaths pathBytes paths => ?_
  refine inverts_parseIds.bind fun fallbackPaths fallbacksFit => ?_
  refine (takes_parseItems takes_stage.orFail).bind
    fun orderedStages stageBytes stages => ?_
  refine inverts_generation.orFail.bind fun topologyGeneration _ => ?_
  refine inverts_generation.orFail.bind fun capacityGeneration _ => ?_
  refine inverts_generation.orFail.bind fun reservationGeneration _ => ?_
  refine inverts_generation.orFail.bind fun congestionGeneration _ => ?_
  refine inverts_generation.orFail.bind fun capabilityGeneration _ => ?_
  refine inverts_generation.orFail.bind fun healthGeneration _ => ?_
  refine inverts_generation.orFail.bind fun placementGeneration _ => ?_
  refine inverts_generation.orFail.bind fun authorityGeneration _ => ?_
  refine (inverts_parseItems inverts_binding).bind
    fun endpointGenerations endpointsFit => ?_
  refine (inverts_parseItems inverts_binding).bind
    fun linkGenerations linksFit => ?_
  refine inverts_parseIds.bind fun staging stagingFits => ?_
  refine inverts_parseIds.bind fun claims claimsFit => ?_
  refine inverts_cost.orFail.bind fun cost costFits => ?_
  refine (inverts_parseItems inverts_text.orFail).bind
    fun explanations explanationsFit => ?_
  refine inverts_text.orFail.bind fun provenance provenanceFits => ?_
  refine inverts_generation.orFail.bind fun revalidationGeneration _ => ?_
  refine takes_bool.orFail.bind
    fun revalidateBeforeExecute revalidateBytes revalidate => ?_
  refine inverts_text.orFail.bind fun handoffRequirement handoffFits => ?_
  refine inverts_parseIds.bind fun destinations destinationsFit => ?_
  refine inverts_parseEnum.bind fun collectiveShape _ => ?_
  refine inverts_parseIds.bind fun participants participantsFit => ?_
  refine inverts_text.orFail.bind fun description descriptionFits => ?_
  refine inverts_text.orFail.bind fun createdProvenance createdFits => ?_
  refine Takes.pure ⟨?_, ?_, Bool.eq_false_iff.mpr identified⟩
  · exact ⟨pathBytes, stageBytes, revalidateBytes, paths.1, stages.1,
      revalidate, rfl⟩
  · exact ⟨paths.2.1, paths.2.2, fallbacksFit.1, stages.2.1,
      stages.2.2, endpointsFit.1, linksFit.1, stagingFits.1,
      claimsFit.1, costFits, explanationsFit.1, explanationsFit.2,
      provenanceFits, handoffFits, destinationsFit.1, participantsFit.1,
      descriptionFits, createdFits⟩

/-- Records are parsed from their spellings, in their order. -/
theorem takes_parseRecords
    (seen : List CommunicationPlanId)
    (count : Nat) :
    Takes (parseRecords seen count) fun records bytes =>
      records.length = count ∧
        ∃ pieces,
          List.Forall₂
            (fun record bytes =>
              StoreRecord.SpelledBy record bytes ∧
                record.plan.Fits ∧ record.plan.id.isNull = false)
            records pieces ∧
          bytes = pieces.flatten := by
  induction count generalizing seen with
  | zero => exact Takes.pure ⟨rfl, [], .nil, rfl⟩
  | succ count inductionHypothesis =>
      refine (takes_parseRecord seen).bind fun record bytes spelled => ?_
      refine (inductionHypothesis _).bind
        fun rest restBytes restSpelled => ?_
      obtain ⟨isCount, pieces, spelledRest, isPieces⟩ := restSpelled
      refine Takes.pure ⟨by simp [isCount], bytes :: pieces, ?_, ?_⟩
      · exact .cons spelled spelledRest
      · simp [isPieces]

/-- A supersession is parsed from its own spelling only. -/
theorem inverts_parseSupersession :
    Inverts parseSupersession writeSupersession fun _ => True := by
  refine inverts_id.orFail.bind fun superseded _ => ?_
  refine inverts_id.orFail.bind fun newer _ => ?_
  exact Takes.pure ⟨rfl, trivial⟩

/-- A request that was read has nothing to lose in being stored. -/
theorem inverts_parseRequest :
    Inverts parseRequest writeRequest fun request =>
      request.destinations.length ≤ kMaxCount ∧
        request.persisted = request := by
  refine inverts_id.orFail.bind fun id _ => ?_
  refine inverts_generation.orFail.bind fun generation _ => ?_
  refine inverts_parseEnum.bind fun shape _ => ?_
  refine inverts_id.orFail.bind fun source _ => ?_
  refine exact_u64.inverts.orFail.bind fun payloadSize _ => ?_
  refine inverts_parseEnum.bind fun direction _ => ?_
  refine inverts_parseEnum.bind fun collectiveShape _ => ?_
  refine exact_u64.inverts.orFail.bind fun collectiveCount _ => ?_
  refine takes_unless fun small => ?_
  refine inverts_parseIds.bind fun destinations isShort => ?_
  refine Takes.pure ⟨?_, isShort.1, rfl⟩
  have sameCount :
      collectiveCount.toUInt32.toUInt64 = collectiveCount := by
    rw [UInt64.lt_iff_toNat_lt] at small
    change ¬ 4294967295 < collectiveCount.toNat at small
    apply UInt64.toNat_inj.mp
    rw [UInt32.toNat_toUInt64, UInt64.toNat_toUInt32]
    omega
  rw [writeRequest, sameCount]
  rfl

/-- A body that was read spells what is returned. -/
theorem takes_parseBody :
    Takes parseBody fun state body =>
      state.SpelledBy body ∧
        state.plans.length ≤ kMaxCount ∧
        (∀ record ∈ state.plans,
          record.plan.Fits ∧ record.plan.id.isNull = false) ∧
        state.supersessions.length ≤ kMaxCount ∧
        state.requests.length ≤ kMaxCount ∧
        ∀ request ∈ state.requests,
          request.destinations.length ≤ kMaxCount ∧
            request.persisted = request := by
  refine inverts_generation.orFail.bind fun epoch _ => ?_
  refine exact_u32.inverts.orFail.bind fun count _ => ?_
  refine takes_unless fun accepted => ?_
  refine (takes_parseRecords [] count.toNat).bind
    fun plans bytes taken => ?_
  obtain ⟨isCount, pieces, spelledPieces, rfl⟩ := taken
  obtain ⟨spelledPlans, everyPlan⟩ :=
    spells_of_pieces isCount spelledPieces
  refine (inverts_parseItems inverts_parseSupersession).bind
    fun supersessions supersessionsFit => ?_
  refine (inverts_parseItems inverts_parseRequest).bind
    fun requests requestsFit => ?_
  refine Takes.pure ⟨⟨_, spelledPlans, ?_⟩, ?_, everyPlan,
    supersessionsFit.1, requestsFit.1, requestsFit.2⟩
  · simp
  · exact isCount.trans_le (Nat.not_lt.mp accepted)

/-- A body that was read takes as many bytes when it is written again. -/
theorem yields_parseBody :
    Yields parseBody (fun state => (writeBody state).length)
      fun state =>
        state.plans.length ≤ kMaxCount ∧
        (∀ record ∈ state.plans,
          record.plan.Fits ∧ record.plan.id.isNull = false) ∧
        state.supersessions.length ≤ kMaxCount ∧
        state.requests.length ≤ kMaxCount ∧
        ∀ request ∈ state.requests,
          request.destinations.length ≤ kMaxCount ∧
            request.persisted = request :=
  takes_parseBody.yields fun _ _ taken =>
    ⟨length_of_spelledBody taken.1, taken.2⟩

/-! ## What the parser accepts -/

/-- A frame that was read starts with the magic number and the version. -/
theorem exact_parseFrame
    {bytes rest : List UInt8}
    {sum length : UInt64}
    (ran : parseFrame.run bytes = .ok ((sum, length), rest)) :
    bytes =
      [ writeU32 kMagic, writeU32 kFormatVersion, writeU64 sum,
        writeU64 length, rest ].flatten := by
  obtain ⟨magic, afterMagic, readMagic, ran⟩ := returned_of_bind ran
  obtain ⟨isMagic, ran⟩ := returned_of_unless ran
  obtain ⟨version, afterVersion, readVersion, ran⟩ := returned_of_bind ran
  obtain ⟨isVersion, ran⟩ := returned_of_unless ran
  obtain ⟨readSum, afterSum, gotSum, ran⟩ := returned_of_bind ran
  obtain ⟨readLength, afterLength, gotLength, ran⟩ := returned_of_bind ran
  cases ran
  rw [exact_u32.orFail _ _ _ readMagic, exact_u32.orFail _ _ _ readVersion,
    exact_u64.orFail _ _ _ gotSum, exact_u64.orFail _ _ _ gotLength,
    not_not.mp isMagic, not_not.mp isVersion]
  simp

/--
A byte string that is accepted is the frame of a payload, and the payload is
the body of a valid state.
-/
theorem framed_of_parseStore
    {bytes : List UInt8}
    {state : StoreState}
    (parsed : parseStore bytes = .ok state) :
    ∃ payload,
      bytes = framed payload ∧
      payload.length < 2 ^ 64 ∧
      parseBody.run payload = .ok (state, []) ∧
      validateStore state = none := by
  unfold parseStore at parsed
  obtain ⟨⟨⟨sum, length⟩, rest⟩, ranFrame, parsed⟩ :=
    Invertible.bind_eq_pure (m := Except PersistError) parsed
  have whole := exact_parseFrame ranFrame
  obtain ⟨_, parsed⟩ := ok_of_unless parsed
  obtain ⟨corrupt, parsed⟩ := ok_of_unless parsed
  obtain ⟨⟨read, unread⟩, ranBody, parsed⟩ :=
    Invertible.bind_eq_pure (m := Except PersistError) parsed
  obtain ⟨garbage, parsed⟩ := ok_of_unless parsed
  obtain ⟨trailing, parsed⟩ := ok_of_unless parsed
  have isLength : rest.length = length.toNat := not_not.mp trailing
  have isSum : fnv1a (rest.take length.toNat) = sum := not_not.mp corrupt
  rw [← isLength, List.take_length] at isSum ranBody
  split at parsed
  · cases parsed
  · rename_i valid
    cases parsed
    refine ⟨rest, ?_, ?_, ?_, valid⟩
    · rw [whole, framed, isSum, isLength, UInt64.ofNat_toNat]
    · rw [isLength]
      exact length.toNat_lt
    · rw [ranBody, not_not.mp garbage]
      rfl

/-- A store that is parsed passes its checks. -/
theorem validateStore_of_parseStore
    {bytes : List UInt8}
    {state : StoreState}
    (parsed : parseStore bytes = .ok state) :
    validateStore state = none := by
  obtain ⟨_, _, _, _, valid⟩ := framed_of_parseStore parsed
  exact valid

/-! ## Error codes -/

/-- The error has a code other than `OK`. -/
def PersistError.IsFailure (error : PersistError) : Prop :=
  error.code ≠ .ok

theorem failsWith_parseEnum
    [Enumerated α]
    {missing invalid : PersistError}
    (missingFails : missing.IsFailure)
    (invalidFails : invalid.IsFailure) :
    FailsWith (parseEnum missing invalid : Parser α)
      PersistError.IsFailure := by
  refine (FailsWith.orFail missingFails).bind fun byte => ?_
  cases known : (ofCode byte : Option α) with
  | none => exact FailsWith.throw invalidFails
  | some value => exact FailsWith.pure

theorem failsWith_parseItems
    {missing tooMany : PersistError}
    {item : Parser α}
    (missingFails : missing.IsFailure)
    (tooManyFails : tooMany.IsFailure)
    (itemFails : FailsWith item PersistError.IsFailure) :
    FailsWith (parseItems missing tooMany item) PersistError.IsFailure := by
  refine (FailsWith.orFail missingFails).bind fun count => ?_
  exact (FailsWith.throw tooManyFails).ite (itemFails.readCount _)

theorem truncated_isFailure
    (detail : String) :
    (truncated detail).IsFailure := by
  simp [PersistError.IsFailure, truncated]

theorem corrupted_isFailure
    (detail : String) :
    (corrupted detail).IsFailure := by
  simp [PersistError.IsFailure, corrupted]

theorem oversized_isFailure
    (detail : String) :
    (oversized detail).IsFailure := by
  simp [PersistError.IsFailure, oversized]

theorem invalidEnum_isFailure
    (detail : String) :
    (invalidEnum detail).IsFailure := by
  simp [PersistError.IsFailure, invalidEnum]

/-- A field that is cut short. -/
private theorem failsWith_truncated
    {reader : Reader Option α}
    (detail : String) :
    FailsWith (orFail (truncated detail) reader) PersistError.IsFailure :=
  FailsWith.orFail (truncated_isFailure detail)

/-- A field that cannot be read. -/
private theorem failsWith_corrupted
    {reader : Reader Option α}
    (detail : String) :
    FailsWith (orFail (corrupted detail) reader) PersistError.IsFailure :=
  FailsWith.orFail (corrupted_isFailure detail)

/-- A list of the store, with the failures of its count. -/
private theorem failsWith_items
    {item : Parser α}
    (missing tooMany : String)
    (itemFails : FailsWith item PersistError.IsFailure) :
    FailsWith (parseItems (truncated missing) (oversized tooMany) item)
      PersistError.IsFailure :=
  failsWith_parseItems (truncated_isFailure missing)
    (oversized_isFailure tooMany) itemFails

/-- An enumeration of the store. -/
private theorem failsWith_enum
    [Enumerated α]
    (missing invalid : String) :
    FailsWith
      (parseEnum (truncated missing) (invalidEnum invalid) : Parser α)
      PersistError.IsFailure :=
  failsWith_parseEnum (truncated_isFailure missing)
    (invalidEnum_isFailure invalid)

/-- A binding of an identity to a generation. -/
private theorem failsWith_binding
    {Tag GenerationTag : Type}
    (missingId missingGeneration : String) :
    FailsWith
      (do
        let id ← orFail (truncated missingId) readId
        let generation ← orFail (truncated missingGeneration) readGeneration
        pure (id, generation) : Parser (Id Tag × Generation GenerationTag))
      PersistError.IsFailure := by
  refine (failsWith_truncated _).bind fun id => ?_
  exact (failsWith_truncated _).bind fun generation => FailsWith.pure

/-- Whatever is wrong with a record is reported as a failure. -/
theorem failsWith_parseRecord
    (seen : List CommunicationPlanId) :
    FailsWith (parseRecord seen) PersistError.IsFailure := by
  refine (failsWith_truncated _).bind fun id => ?_
  refine (FailsWith.throw (corrupted_isFailure _)).ite ?_
  refine (FailsWith.throw (by simp [PersistError.IsFailure])).ite ?_
  refine (failsWith_truncated _).bind fun generation => ?_
  refine (failsWith_truncated _).bind fun requestId => ?_
  refine (failsWith_truncated _).bind fun requestGeneration => ?_
  refine (failsWith_enum _ _).bind fun shape => ?_
  refine (failsWith_truncated _).bind fun primaryPath => ?_
  refine (failsWith_enum _ _).bind fun feasibility => ?_
  refine (failsWith_enum _ _).bind fun state => ?_
  refine (failsWith_items _ _ (failsWith_corrupted _)).bind fun paths => ?_
  refine (failsWith_items _ _ (failsWith_truncated _)).bind
    fun fallbacks => ?_
  refine (failsWith_items _ _ (failsWith_corrupted _)).bind fun stages => ?_
  refine (failsWith_truncated _).bind fun topologyGeneration => ?_
  refine (failsWith_truncated _).bind fun capacityGeneration => ?_
  refine (failsWith_truncated _).bind fun reservationGeneration => ?_
  refine (failsWith_truncated _).bind fun congestionGeneration => ?_
  refine (failsWith_truncated _).bind fun capabilityGeneration => ?_
  refine (failsWith_truncated _).bind fun healthGeneration => ?_
  refine (failsWith_truncated _).bind fun placementGeneration => ?_
  refine (failsWith_truncated _).bind fun authorityGeneration => ?_
  refine (failsWith_items _ _ (failsWith_binding _ _)).bind
    fun endpointGenerations => ?_
  refine (failsWith_items _ _ (failsWith_binding _ _)).bind
    fun linkGenerations => ?_
  refine (failsWith_items _ _ (failsWith_truncated _)).bind fun staging => ?_
  refine (failsWith_items _ _ (failsWith_truncated _)).bind fun claims => ?_
  refine (failsWith_corrupted _).bind fun cost => ?_
  refine (failsWith_items _ _ (failsWith_corrupted _)).bind
    fun explanations => ?_
  refine (failsWith_corrupted _).bind fun provenance => ?_
  refine (failsWith_truncated _).bind fun revalidationGeneration => ?_
  refine (failsWith_truncated _).bind fun revalidateBeforeExecute => ?_
  refine (failsWith_corrupted _).bind fun handoffRequirement => ?_
  refine (failsWith_items _ _ (failsWith_truncated _)).bind
    fun destinations => ?_
  refine (failsWith_enum _ _).bind fun collectiveShape => ?_
  refine (failsWith_items _ _ (failsWith_truncated _)).bind
    fun participants => ?_
  refine (failsWith_corrupted _).bind fun description => ?_
  refine (failsWith_corrupted _).bind fun createdProvenance => ?_
  exact FailsWith.pure

/-- Whatever is wrong with the records is reported as a failure. -/
theorem failsWith_parseRecords
    (seen : List CommunicationPlanId)
    (count : Nat) :
    FailsWith (parseRecords seen count) PersistError.IsFailure := by
  induction count generalizing seen with
  | zero => exact FailsWith.pure
  | succ count inductionHypothesis =>
      refine (failsWith_parseRecord seen).bind fun record => ?_
      exact (inductionHypothesis _).bind fun rest => FailsWith.pure

/-- Whatever is wrong with a request is reported as a failure. -/
theorem failsWith_parseRequest :
    FailsWith parseRequest PersistError.IsFailure := by
  refine (failsWith_truncated _).bind fun id => ?_
  refine (failsWith_truncated _).bind fun generation => ?_
  refine (failsWith_enum _ _).bind fun shape => ?_
  refine (failsWith_truncated _).bind fun source => ?_
  refine (failsWith_truncated _).bind fun payloadSize => ?_
  refine (failsWith_enum _ _).bind fun direction => ?_
  refine (failsWith_enum _ _).bind fun collectiveShape => ?_
  refine (failsWith_truncated _).bind fun collectiveCount => ?_
  refine (FailsWith.throw (by simp [PersistError.IsFailure])).ite ?_
  refine (failsWith_items _ _ (failsWith_truncated _)).bind
    fun destinations => ?_
  exact FailsWith.pure

/-- Whatever is wrong with a supersession is reported as a failure. -/
theorem failsWith_parseSupersession :
    FailsWith parseSupersession PersistError.IsFailure := by
  refine (failsWith_truncated _).bind fun superseded => ?_
  exact (failsWith_truncated _).bind fun newer => FailsWith.pure

/-- Whatever is wrong with the body is reported as a failure. -/
theorem failsWith_parseBody :
    FailsWith parseBody PersistError.IsFailure := by
  refine (failsWith_truncated _).bind fun epoch => ?_
  refine (failsWith_truncated _).bind fun count => ?_
  refine (FailsWith.throw (oversized_isFailure _)).ite ?_
  refine (failsWith_parseRecords _ _).bind fun plans => ?_
  refine (failsWith_items _ _ failsWith_parseSupersession).bind
    fun supersessions => ?_
  refine (failsWith_items _ _ failsWith_parseRequest).bind fun requests => ?_
  exact FailsWith.pure

/-- Whatever is wrong with the header is reported as a failure. -/
theorem failsWith_parseFrame :
    FailsWith parseFrame PersistError.IsFailure := by
  refine (failsWith_truncated _).bind fun magic => ?_
  refine (FailsWith.throw (by simp [PersistError.IsFailure])).ite ?_
  refine (failsWith_truncated _).bind fun version => ?_
  refine (FailsWith.throw (by simp [PersistError.IsFailure])).ite ?_
  refine (failsWith_truncated _).bind fun sum => ?_
  exact (failsWith_truncated _).bind fun length => FailsWith.pure

/-- Whatever is wrong with a chain of stages is a failure. -/
theorem isFailure_of_walkStages
    {stages : List Stage}
    {prev : EndpointId}
    {seen : List EndpointId}
    {error : PersistError}
    (refused : walkStages prev seen stages = .error error) :
    error.IsFailure := by
  induction stages generalizing prev seen with
  | nil => cases refused
  | cons stage rest inductionHypothesis =>
      unfold walkStages at refused
      split_ifs at refused
      · cases refused
        simp [PersistError.IsFailure]
      · cases refused
        simp [PersistError.IsFailure]
      · cases refused
        simp [PersistError.IsFailure]
      · exact inductionHypothesis refused

/-- A check of the validation: its own error has a failing code. -/
private theorem isFailure_of_check
    {condition : Prop}
    [Decidable condition]
    {code : PersistErrorCode}
    {detail : Text}
    {others : Option PersistError}
    {error : PersistError}
    (failing : code ≠ .ok)
    (refused :
      (if condition then some ⟨code, detail⟩ else others) = some error)
    (otherwise : others = some error → error.IsFailure) :
    error.IsFailure := by
  by_cases checked : condition
  · rw [if_pos checked] at refused
    cases refused
    exact failing
  · rw [if_neg checked] at refused
    exact otherwise refused

/-- Whatever a path is rejected for is a failure. -/
theorem isFailure_of_pathRejection
    {plan : CommunicationPlan}
    {path : Path}
    {error : PersistError}
    (refused : pathRejection plan path = some error) :
    error.IsFailure := by
  unfold pathRejection at refused
  refine isFailure_of_check (by decide) refused fun refused => ?_
  cases chained : walkStages path.source [] path.stages with
  | error broken =>
      rw [chained] at refused
      cases refused
      exact isFailure_of_walkStages chained
  | ok reached =>
      rw [chained] at refused
      refine isFailure_of_check (by decide) refused fun refused => ?_
      refine isFailure_of_check (by decide) refused fun refused => ?_
      cases refused

/-- Whatever the paths are rejected for is a failure. -/
theorem isFailure_of_pathsRejection
    {plan : CommunicationPlan}
    {paths : List Path}
    {seen : List PathId}
    {error : PersistError}
    (refused : pathsRejection plan seen paths = some error) :
    error.IsFailure := by
  induction paths generalizing seen with
  | nil => cases refused
  | cons path rest inductionHypothesis =>
      unfold pathsRejection at refused
      refine isFailure_of_check (by decide) refused fun refused => ?_
      cases rejected : pathRejection plan path with
      | some early =>
          rw [rejected] at refused
          cases refused
          exact isFailure_of_pathRejection rejected
      | none =>
          rw [rejected] at refused
          exact inductionHypothesis refused

/-- Whatever a record is rejected for is a failure. -/
theorem isFailure_of_recordRejection
    {record : StoreRecord}
    {error : PersistError}
    (refused : recordRejection record = some error) :
    error.IsFailure := by
  unfold recordRejection at refused
  refine isFailure_of_check (by decide) refused fun refused => ?_
  refine isFailure_of_check (by decide) refused fun refused => ?_
  cases rejected :
      pathsRejection record.plan [] record.plan.candidatePaths with
  | some early =>
      rw [rejected] at refused
      cases refused
      exact isFailure_of_pathsRejection rejected
  | none =>
      rw [rejected] at refused
      refine isFailure_of_check (by decide) refused fun refused => ?_
      refine isFailure_of_check (by decide) refused fun refused => ?_
      cases refused

/-- Whatever the records are rejected for is a failure. -/
theorem isFailure_of_recordsRejection
    {records : List StoreRecord}
    {seen : List CommunicationPlanId}
    {error : PersistError}
    (refused : recordsRejection seen records = some error) :
    error.IsFailure := by
  induction records generalizing seen with
  | nil => cases refused
  | cons record rest inductionHypothesis =>
      unfold recordsRejection at refused
      refine isFailure_of_check (by decide) refused fun refused => ?_
      cases rejected : recordRejection record with
      | some early =>
          rw [rejected] at refused
          cases refused
          exact isFailure_of_recordRejection rejected
      | none =>
          rw [rejected] at refused
          exact inductionHypothesis refused

/-- Whatever a store is rejected for is a failure. -/
theorem isFailure_of_validateStore
    {state : StoreState}
    {error : PersistError}
    (refused : validateStore state = some error) :
    error.IsFailure := by
  unfold validateStore at refused
  cases rejected : recordsRejection [] state.plans with
  | some early =>
      rw [rejected] at refused
      cases refused
      exact isFailure_of_recordsRejection rejected
  | none =>
      rw [rejected] at refused
      simp only at refused
      split_ifs at refused
      cases refused
      simp [PersistError.IsFailure]

/-- A guard of the parser: its own error is a failure. -/
private theorem isFailure_of_guard
    {condition : Prop}
    [Decidable condition]
    {thrown error : PersistError}
    {others : Except PersistError α}
    (failing : thrown.IsFailure)
    (refused :
      (if condition then throw thrown else others) = .error error)
    (otherwise : others = .error error → error.IsFailure) :
    error.IsFailure := by
  by_cases guarded : condition
  · rw [if_pos guarded] at refused
    cases refused
    exact failing
  · rw [if_neg guarded] at refused
    exact otherwise refused

/-- Whatever the parser refuses, it refuses with a code other than `OK`. -/
theorem isFailure_of_parseStore
    {bytes : List UInt8}
    {error : PersistError}
    (refused : parseStore bytes = .error error) :
    error.IsFailure := by
  unfold parseStore at refused
  cases ranFrame : parseFrame.run bytes with
  | error early =>
      rw [ranFrame] at refused
      cases refused
      exact failsWith_parseFrame bytes error ranFrame
  | ok frame =>
      obtain ⟨⟨sum, length⟩, rest⟩ := frame
      rw [ranFrame] at refused
      refine isFailure_of_guard (truncated_isFailure _) refused
        fun refused => ?_
      refine isFailure_of_guard (by simp [PersistError.IsFailure]) refused
        fun refused => ?_
      cases ranBody : parseBody.run (rest.take length.toNat) with
      | error early =>
          rw [ranBody] at refused
          cases refused
          exact failsWith_parseBody _ error ranBody
      | ok body =>
          rw [ranBody] at refused
          refine isFailure_of_guard (by simp [PersistError.IsFailure]) refused
            fun refused => ?_
          refine isFailure_of_guard (by simp [PersistError.IsFailure]) refused
            fun refused => ?_
          cases rejected : validateStore body.1 with
          | some early =>
              rw [rejected] at refused
              cases refused
              exact isFailure_of_validateStore rejected
          | none =>
              rw [rejected] at refused
              cases refused

/-! ## Alterations of a written store -/

/-- The part of the frame before the payload. -/
def header (payload : List UInt8) : List UInt8 :=
  [ writeU32 kMagic,
    writeU32 kFormatVersion,
    writeU64 (fnv1a payload),
    writeU64 (UInt64.ofNat payload.length) ].flatten

/-- A store is a header and its payload. -/
theorem framed_eq_header_append
    (payload : List UInt8) :
    framed payload = header payload ++ payload := by
  simp [framed, header]

/-- The header has 24 bytes. -/
@[simp] theorem length_header
    (payload : List UInt8) :
    (header payload).length = 24 := by
  simp [header, writeU32, writeU64]

/-- A store is 24 bytes longer than its payload. -/
theorem length_framed
    (payload : List UInt8) :
    (framed payload).length = 24 + payload.length := by
  rw [framed_eq_header_append, List.length_append, length_header]

/-- The header fixes the checksum and the length of the payload. -/
theorem of_header_eq
    {first second : List UInt8}
    (same : header first = header second) :
    fnv1a first = fnv1a second ∧
      UInt64.ofNat first.length = UInt64.ofNat second.length := by
  simp only [header, List.flatten_cons, List.flatten_nil,
    List.append_nil, List.append_cancel_left_eq] at same
  obtain ⟨sums, lengths⟩ := List.append_inj same (by simp [writeU64])
  exact ⟨writeU64_injective sums, writeU64_injective lengths⟩

/-- No two bytes take the checksum to the same value. -/
theorem injects_fnv1a :
    Checksum.Injects (Checksum.xorMultiply 1099511628211) :=
  Checksum.injects_xorMultiply
    (show 1099511628211 * 14886173955864302971 = (1 : UInt64) by decide)

/-- Changing one byte changes the checksum. -/
theorem fnv1a_set_ne
    {payload : List UInt8}
    {index : Nat}
    {byte replaced : UInt8}
    (found : payload[index]? = some replaced)
    (changed : byte ≠ replaced) :
    fnv1a (payload.set index byte) ≠ fnv1a payload :=
  injects_fnv1a.foldl_set_ne found changed _

/-- A byte string that differs from another by one alteration. -/
inductive Altered (bytes : List UInt8) : List UInt8 → Prop where
  | changed
      (index : Nat)
      (byte replaced : UInt8)
      (found : bytes[index]? = some replaced)
      (different : byte ≠ replaced) :
      Altered bytes (bytes.set index byte)
  | cut
      (count : Nat)
      (short : count < bytes.length) :
      Altered bytes (bytes.take count)
  | extended
      (suffix : List UInt8)
      (nonempty : suffix ≠ []) :
      Altered bytes (bytes ++ suffix)

/-- A byte of the header cannot change alone: the payload fixes the header. -/
private theorem not_framed_of_header_changed
    {payload other : List UInt8}
    {index : Nat}
    {byte replaced : UInt8}
    (inHeader : index < 24)
    (found : (framed payload)[index]? = some replaced)
    (different : byte ≠ replaced) :
    (framed payload).set index byte ≠ framed other := by
  have inside : index < (header payload).length := by
    simpa using inHeader
  intro isFrame
  rw [framed_eq_header_append, List.getElem?_append_left inside] at found
  rw [framed_eq_header_append, framed_eq_header_append,
    List.set_append_left _ _ inside] at isFrame
  obtain ⟨headers, rfl⟩ := List.append_inj isFrame (by simp)
  have written :
      ((header payload).set index byte)[index]? = some replaced := by
    rw [headers, found]
  rw [List.getElem?_set_self inside] at written
  exact different (Option.some.inj written)

/-- A byte of the payload cannot change alone: the header has its checksum. -/
private theorem not_framed_of_payload_changed
    {payload other : List UInt8}
    {index : Nat}
    {byte replaced : UInt8}
    (inPayload : 24 ≤ index)
    (found : (framed payload)[index]? = some replaced)
    (different : byte ≠ replaced) :
    (framed payload).set index byte ≠ framed other := by
  have outside : (header payload).length ≤ index := by
    simpa using inPayload
  intro isFrame
  rw [framed_eq_header_append, List.getElem?_append_right outside] at found
  rw [framed_eq_header_append, framed_eq_header_append,
    List.set_append_right _ _ outside] at isFrame
  obtain ⟨headers, rfl⟩ := List.append_inj isFrame (by simp)
  exact fnv1a_set_ne found different (of_header_eq headers).1.symm

/-- Payloads of which the header says the same have the same length. -/
private theorem length_eq_of_header_eq
    {first second : List UInt8}
    (firstBounded : first.length < 2 ^ 64)
    (secondBounded : second.length < 2 ^ 64)
    (same : header first = header second) :
    first.length = second.length := by
  have sameLength := congrArg UInt64.toNat (of_header_eq same).2
  rw [UInt64.toNat_ofNat', UInt64.toNat_ofNat',
    Nat.mod_eq_of_lt firstBounded, Nat.mod_eq_of_lt secondBounded]
    at sameLength
  exact sameLength

/-- No alteration of a frame is a frame. -/
theorem not_framed_of_altered
    {payload altered other : List UInt8}
    (buffered : (framed payload).length < 2 ^ 64)
    (alteration : Altered (framed payload) altered)
    (bounded : other.length < 2 ^ 64) :
    altered ≠ framed other := by
  have small : payload.length < 2 ^ 64 := by
    rw [length_framed] at buffered
    omega
  cases alteration with
  | changed index byte replaced found different =>
      by_cases inHeader : index < 24
      · exact not_framed_of_header_changed inHeader found different
      · exact not_framed_of_payload_changed (Nat.not_lt.mp inHeader) found
          different
  | cut count short =>
      intro isFrame
      have lengths := congrArg List.length isFrame
      rw [length_framed] at short
      rw [List.length_take, length_framed, length_framed] at lengths
      have headers := congrArg (List.take 24) isFrame
      rw [List.take_take, framed_eq_header_append, framed_eq_header_append,
        Nat.min_eq_left (by omega), List.take_left' (length_header _),
        List.take_left' (length_header _)] at headers
      have sameLength := length_eq_of_header_eq small bounded headers
      omega
  | extended suffix nonempty =>
      intro isFrame
      have lengths := congrArg List.length isFrame
      rw [List.length_append, length_framed, length_framed] at lengths
      rw [framed_eq_header_append, framed_eq_header_append,
        List.append_assoc] at isFrame
      have headers := (List.append_inj isFrame (by simp)).1
      have sameLength := length_eq_of_header_eq small bounded headers
      have isEmpty : suffix.length = 0 := by omega
      exact nonempty (List.length_eq_zero_iff.mp isEmpty)

/-! ## Validity -/

/-- The checks of a state do not read what is not stored of a request. -/
theorem validateStore_persisted
    (state : StoreState) :
    validateStore state.persisted = validateStore state := by
  have sameIds :
      (state.persisted.requests.map fun request => request.id) =
        state.requests.map fun request => request.id := by
    simp only [StoreState.persisted, List.map_map]
    rfl
  unfold validateStore
  rw [sameIds]
  rfl

/-- Records that pass the checks are distinct, and none of them was seen. -/
theorem distinct_of_recordsRejection
    {records : List StoreRecord}
    {seen : List CommunicationPlanId}
    (passed : recordsRejection seen records = none) :
    (records.map fun record => record.plan.id).Nodup ∧
      ∀ record ∈ records, record.plan.id ∉ seen := by
  induction records generalizing seen with
  | nil => simp
  | cons record rest inductionHypothesis =>
      unfold recordsRejection at passed
      split_ifs at passed with known
      cases rejected : recordRejection record with
      | some error =>
          rw [rejected] at passed
          cases passed
      | none =>
          rw [rejected] at passed
          obtain ⟨distinct, unseen⟩ := inductionHypothesis passed
          constructor
          · rw [List.map_cons, List.nodup_cons]
            refine ⟨?_, distinct⟩
            intro repeated
            obtain ⟨later, member, same⟩ := List.mem_map.mp repeated
            exact unseen later member (by simp [same])
          · intro later member
            rcases List.mem_cons.mp member with rfl | inRest
            · exact known
            · intro inSeen
              exact unseen later inRest (List.mem_cons_of_mem _ inSeen)

/-- A valid store has no plan twice. -/
theorem nodup_of_validateStore
    {state : StoreState}
    (valid : validateStore state = none) :
    (state.plans.map fun record => record.plan.id).Nodup := by
  unfold validateStore at valid
  cases rejected : recordsRejection [] state.plans with
  | some error =>
      rw [rejected] at valid
      cases valid
  | none => exact (distinct_of_recordsRejection rejected).1

/-! ## The stores that are accepted -/

/-- The bytes are a store that holds the state, within the limits. -/
structure StoreState.HeldBy
    (state : StoreState)
    (data : List UInt8) : Prop where
  fits : state.Fits
  identified : ∀ record ∈ state.plans, record.plan.id.isNull = false
  distinct : (state.plans.map fun record => record.plan.id).Nodup
  persisted : state.persisted = state
  spelled : ∃ body, state.SpelledBy body ∧ data = framed body

/-- The verdict on a store is that on the state it holds. -/
theorem StoreState.HeldBy.parseStore_eq
    {state : StoreState}
    {data : List UInt8}
    (held : state.HeldBy data) :
    parseStore data = (validateStore state).elim (.ok state) .error := by
  obtain ⟨body, spelled, rfl⟩ := held.spelled
  have verdict :=
    parseStore_framed held.fits held.identified held.distinct spelled
  rw [held.persisted] at verdict
  exact verdict

/-- A state that was read is held by what was read. -/
theorem heldBy_of_parseStore
    {data : List UInt8}
    {state : StoreState}
    (parsed : parseStore data = .ok state) :
    state.HeldBy data := by
  obtain ⟨payload, isFrame, bounded, ranBody, valid⟩ :=
    framed_of_parseStore parsed
  obtain ⟨body, isBody, spelled, plansFit, everyPlan, supersessionsFit,
    requestsFit, everyRequest⟩ := takes_parseBody payload state [] ranBody
  obtain ⟨_, taken, rfl, _⟩ := yields_parseBody payload state [] ranBody
  rw [List.append_nil] at isBody
  have sameRequests :
      state.requests.map CommunicationRequest.persisted = state.requests := by
    rw [List.map_congr_left fun request member =>
      (everyRequest request member).2, List.map_id']
  exact
    { fits :=
        { plans := plansFit
          everyPlan := fun record member => (everyPlan record member).1
          supersessions := supersessionsFit
          requests := requestsFit
          everyRequest := fun request member =>
            (everyRequest request member).1
          bytes := by
            rw [List.length_nil, Nat.add_zero] at taken
            exact taken.symm.trans_lt bounded }
      identified := fun record member => (everyPlan record member).2
      distinct := nodup_of_validateStore valid
      persisted := by simp only [StoreState.persisted, sameRequests]
      spelled := ⟨body, spelled, isBody ▸ isFrame⟩ }

/-- The parser accepts the stores that hold a valid state, and no others. -/
theorem parseStore_eq_ok_iff
    {data : List UInt8}
    {state : StoreState} :
    parseStore data = .ok state ↔
      state.HeldBy data ∧ validateStore state = none := by
  constructor
  · intro parsed
    exact ⟨heldBy_of_parseStore parsed, validateStore_of_parseStore parsed⟩
  · rintro ⟨held, valid⟩
    rw [held.parseStore_eq, valid]
    rfl

/-- A store holds only the state that is read from it. -/
theorem StoreState.HeldBy.eq_parsed
    {first second : StoreState}
    {data : List UInt8}
    (parsed : parseStore data = .ok first)
    (held : second.HeldBy data) :
    first = second := by
  rw [held.parseStore_eq] at parsed
  cases verdict : validateStore second with
  | some error =>
      rw [verdict] at parsed
      cases parsed
  | none =>
      rw [verdict] at parsed
      cases parsed
      rfl

/-! ## Round trips and alterations -/

/-- A committed plan of one staged path, and a plan that it superseded. -/
def storedState : StoreState :=
  let stage : Stage :=
    { id := ⟨1⟩, source := ⟨1⟩, destination := ⟨2⟩, link := ⟨1⟩,
      transport := .rdma, payload := ⟨64⟩, stagingResource := ⟨7⟩,
      requiresAuthority := true, description := ascii "stage" }
  let path : Path :=
    { id := ⟨3⟩, source := ⟨1⟩, destination := ⟨2⟩, stages := [stage],
      totalPayload := ⟨64⟩,
      cost := { components := [{ factor := .pathLatency, weight := ⟨1⟩ }] } }
  let plan : CommunicationPlan :=
    { id := ⟨1⟩, requestId := ⟨5⟩, primaryPath := ⟨3⟩,
      candidatePaths := [path], orderedStages := [stage],
      endpointGenerations := [(⟨1⟩, ⟨4⟩), (⟨2⟩, ⟨4⟩)],
      linkGenerations := [(⟨1⟩, ⟨9⟩)], requiredResourceClaims := [⟨7⟩],
      cost := path.cost, explanations := [ascii "direct"] }
  { epoch := ⟨2⟩
    plans := [⟨plan, .committed⟩, ⟨{ id := ⟨2⟩ }, .superseded⟩]
    supersessions := [⟨⟨2⟩, ⟨1⟩⟩]
    requests :=
      [{ id := ⟨5⟩, source := ⟨1⟩, destinations := [⟨2⟩],
         payloadSize := ⟨64⟩ }] }

/-- The state above is within the limits, and it is valid. -/
private theorem storedState_fits :
    storedState.Fits ∧
    (∀ record ∈ storedState.plans, record.plan.id.isNull = false) ∧
    validateStore storedState = none := by
  decide +kernel

/--
Within the limits of the store, a valid state whose plans are identified comes
back from its own bytes: everything but the part of the requests that is not
stored.
-/
theorem written_store_is_read_back
    {state : StoreState}
    (fits : state.Fits)
    (identified :
      ∀ record ∈ state.plans, record.plan.id.isNull = false)
    (valid : validateStore state = none) :
    ∃ result,
      parseStore (serializeStore state) = .ok result ∧
      result.epoch = state.epoch ∧
      result.plans = state.plans ∧
      result.supersessions = state.supersessions ∧
      result.requests =
        state.requests.map CommunicationRequest.persisted := by
  have verdict :=
    parseStore_serializeStore fits identified (nodup_of_validateStore valid)
  rw [validateStore_persisted, valid] at verdict
  exact ⟨state.persisted, verdict, rfl, rfl, rfl, rfl⟩

/-- The stored state is read back. -/
theorem stored_state_is_read_back :
    ∃ result,
      parseStore (serializeStore storedState) = .ok result ∧
      result.epoch = storedState.epoch ∧
      result.plans = storedState.plans ∧
      result.supersessions = storedState.supersessions ∧
      result.requests =
        storedState.requests.map CommunicationRequest.persisted :=
  written_store_is_read_back storedState_fits.1 storedState_fits.2.1
    storedState_fits.2.2

/--
A written store in which one byte was changed, or which was cut or extended, is
refused.  The written store is a buffer, whose size is a 64-bit number.
-/
theorem altered_store_is_refused
    {state : StoreState}
    (buffered : (serializeStore state).length < 2 ^ 64)
    {altered : List UInt8}
    (alteration : Altered (serializeStore state) altered) :
    ∃ error, parseStore altered = .error error ∧ error.code ≠ .ok := by
  cases verdict : parseStore altered with
  | error error =>
      exact ⟨error, rfl, isFailure_of_parseStore verdict⟩
  | ok accepted =>
      obtain ⟨payload, isFrame, bounded, _⟩ := framed_of_parseStore verdict
      exact (not_framed_of_altered buffered alteration bounded
        isFrame).elim

/-- The stored state is refused without its last byte. -/
theorem shortened_state_is_refused :
    ∃ error,
      parseStore
        ((serializeStore storedState).take
          ((serializeStore storedState).length - 1)) = .error error ∧
      error.code ≠ .ok := by
  have buffered : (serializeStore storedState).length < 2 ^ 64 := by
    decide +kernel
  have nonempty : 0 < (serializeStore storedState).length := by
    decide +kernel
  exact altered_store_is_refused buffered (.cut _ (by omega))

/-- Whatever is accepted is written and accepted again, unchanged. -/
theorem accepted_store_is_read_back
    {bytes : List UInt8}
    {state : StoreState}
    (accepted : parseStore bytes = .ok state) :
    parseStore (serializeStore state) = .ok state := by
  obtain ⟨held, valid⟩ := parseStore_eq_ok_iff.mp accepted
  have written : state.HeldBy (serializeStore state) :=
    { held with spelled := ⟨writeBody state, spells_writeBody state, rfl⟩ }
  exact parseStore_eq_ok_iff.mpr ⟨written, valid⟩

/-- What is read of the stored state is written and accepted again. -/
theorem stored_state_is_accepted_again :
    parseStore (serializeStore storedState) = .ok storedState.persisted ∧
    parseStore (serializeStore storedState.persisted) =
      .ok storedState.persisted := by
  have verdict :=
    parseStore_serializeStore storedState_fits.1 storedState_fits.2.1
      (nodup_of_validateStore storedState_fits.2.2)
  rw [validateStore_persisted, storedState_fits.2.2] at verdict
  exact ⟨verdict, accepted_store_is_read_back verdict⟩

end CommunicationPlanner
