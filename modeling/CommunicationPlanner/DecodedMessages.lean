import CommunicationPlanner.StoreIntegrity
import CommunicationPlanner.WireRoundTrip

namespace CommunicationPlanner

open ByteCodec

/-!
# What the decoder accepts

Whatever bytes a message was decoded from, it is within the limits of the
encoder and carries nothing that does not travel.  So it can be sent on, and
comes out of its own payload as it was.  The one exception is the distance of a
published endpoint, which the decoder also makes negative and the encoder then
writes as zero.
-/

/-! ## Lists -/

/-- Nothing is asked of the spelling. -/
theorem takes_anyhow
    {m : Type → Type}
    [Monad m]
    {α : Type}
    {item : Reader m α}
    {good : α → Prop}
    (takes : Takes item fun value _ => good value) :
    Takes item fun value _ => True ∧ good value :=
  takes.imp fun _ _ isGood => ⟨trivial, isGood⟩

/-- A counted list is within the limit, and good if its items are. -/
theorem takes_counted
    {α : Type}
    {item : Reader Option α}
    {good : α → Prop}
    (takes : Takes item fun value _ => good value) :
    Takes (readCounted item) fun items _ =>
      items.length ≤ kMaxCount ∧ ∀ value ∈ items, good value :=
  (takes_readCounted (takes_anyhow takes)).imp fun _ _ counted => counted.2

/-- A list with details for its failures, likewise. -/
theorem takes_items
    {α ε : Type}
    {missing tooMany : ε}
    {item : Reader (Except ε) α}
    {good : α → Prop}
    (takes : Takes item fun value _ => good value) :
    Takes (itemsOrFail kMaxCount missing tooMany item) fun items _ =>
      items.length ≤ kMaxCount ∧ ∀ value ∈ items, good value :=
  (takes_itemsOrFail (takes_anyhow takes)).imp fun _ _ counted => counted.2

/-- Any set of transports may be read. -/
theorem takes_transports :
    Takes decTransports fun _ _ => True := by
  refine exact_u32.inverts.checked.bind fun count _ => ?_
  refine (exact_enum.inverts.readCount count.toNat).bind fun _ _ _ => ?_
  exact Takes.pure trivial

/-! ## Endpoints, links and requests -/

/-- Only a negative distance is changed. -/
theorem Endpoint.settled_eq_self
    (endpoint : Endpoint) :
    endpoint.settled = endpoint ↔ 0 ≤ endpoint.location.numaDistance := by
  constructor
  · intro same
    rw [← same]
    exact endpoint.numaDistance_settled
  · intro nonnegative
    have same :
        (if 0 < endpoint.location.numaDistance then
            endpoint.location.numaDistance else 0) =
          endpoint.location.numaDistance := by
      split_ifs with positive
      · rfl
      · exact Int32.le_antisymm nonnegative (Int32.not_lt.mp positive)
    unfold Endpoint.settled
    rw [same]

/-- It does not matter when the distance is settled. -/
theorem Endpoint.received_settled
    (endpoint : Endpoint) :
    endpoint.settled.received = endpoint.received.settled := by
  unfold Endpoint.received
  rw [Endpoint.setArch_eq_terminated _ Vector.length_toList,
    Endpoint.setArch_eq_terminated _ Vector.length_toList]
  rfl

/-- An endpoint that was read fits once settled, and then travels as it is. -/
theorem takes_endpoint :
    Takes decEndpoint fun endpoint _ =>
      endpoint.settled.received = endpoint.settled ∧
        endpoint.settled.Fits := by
  refine inverts_id.bind fun id _ => ?_
  refine inverts_generation.bind fun generation _ => ?_
  refine exact_enum.inverts.bind fun kind _ => ?_
  refine inverts_id.bind fun node _ => ?_
  refine inverts_id.bind fun device _ => ?_
  refine inverts_generation.bind fun capabilityGeneration _ => ?_
  refine takes_transports.bind fun transports _ _ => ?_
  refine exact_enum.inverts.bind fun capabilityProvenance _ => ?_
  refine (inverts_bytes 8).bind fun arch eight => ?_
  refine inverts_text.bind fun address addressFits => ?_
  refine inverts_text.bind fun protocol protocolFits => ?_
  refine inverts_text.bind fun version versionFits => ?_
  refine inverts_text.bind fun name nameFits => ?_
  refine takes_bool.bind fun healthy _ _ => ?_
  refine takes_bool.bind fun reachable _ _ => ?_
  refine takes_bool.bind fun ready _ _ => ?_
  refine inverts_id.bind fun worker _ => ?_
  refine inverts_generation.bind fun workerBoot _ => ?_
  refine inverts_id.bind fun source _ => ?_
  refine inverts_generation.bind fun sourceBoot _ => ?_
  refine inverts_text.bind fun failureDomain domainFits => ?_
  refine exact_enum.inverts.bind fun provenance _ => ?_
  refine inverts_text.bind fun pcieRoot rootFits => ?_
  refine exact_u64.inverts.bind fun numaDistance _ => ?_
  refine Takes.pure ⟨?_, ?_⟩
  · have again : terminated (terminated arch).toList = terminated arch :=
      terminated_of_last (by simp [terminated])
    rw [Endpoint.received_settled, Endpoint.setArch_eq_terminated _ eight,
      Endpoint.received, Endpoint.setArch_eq_terminated _ (by simp)]
    simp only [Endpoint.transmitted, again]
  · rw [Endpoint.setArch_eq_terminated _ eight]
    exact
      { address := addressFits
        protocol := protocolFits
        version := versionFits
        name := nameFits
        failureDomain := domainFits
        pcieRoot := rootFits
        numaDistance := Endpoint.numaDistance_settled _ }

/-- A link that was read fits and travels as it is. -/
theorem takes_link :
    Takes decLink fun link _ =>
      link.transmitted = link ∧ link.failureDomain.length ≤ kMaxCount := by
  refine inverts_id.bind fun id _ => ?_
  refine inverts_generation.bind fun generation _ => ?_
  refine inverts_id.bind fun source _ => ?_
  refine inverts_id.bind fun destination _ => ?_
  refine exact_enum.inverts.bind fun kind _ => ?_
  refine exact_enum.inverts.bind fun transport _ => ?_
  refine takes_bool.bind fun directed _ _ => ?_
  refine exact_u64.inverts.bind fun capacity _ => ?_
  refine exact_u64.inverts.bind fun effectiveBandwidth _ => ?_
  refine exact_u64.inverts.bind fun latency _ => ?_
  refine takes_bool.bind fun healthy _ _ => ?_
  refine inverts_generation.bind fun congestionGeneration _ => ?_
  refine inverts_double.bind fun load _ => ?_
  refine inverts_double.bind fun penalty _ => ?_
  refine takes_bool.bind fun hardLimitExceeded _ _ => ?_
  refine exact_enum.inverts.bind fun congestionProvenance _ => ?_
  refine inverts_generation.bind fun capacityGeneration _ => ?_
  refine exact_u64.inverts.bind fun usable _ => ?_
  refine exact_u64.inverts.bind fun headroom _ => ?_
  refine exact_enum.inverts.bind fun capacityProvenance _ => ?_
  refine inverts_generation.bind fun topologyGeneration _ => ?_
  refine inverts_generation.bind fun capabilityGeneration _ => ?_
  refine inverts_text.bind fun failureDomain domainFits => ?_
  refine inverts_generation.bind fun workerBoot _ => ?_
  refine exact_enum.inverts.bind fun provenance _ => ?_
  exact Takes.pure ⟨rfl, domainFits⟩

/-- A request that was read fits and travels as it is. -/
theorem takes_request :
    Takes decRequest fun request _ =>
      request.transmitted = request ∧ request.Fits := by
  have ids :
      Takes (readCounted readId : Reader Option (List EndpointId))
        fun ids _ => ids.length ≤ kMaxCount ∧ ∀ id ∈ ids, True :=
    takes_counted (inverts_id.imp fun _ _ _ => trivial)
  refine inverts_id.bind fun id _ => ?_
  refine inverts_generation.bind fun generation _ => ?_
  refine exact_enum.inverts.bind fun shape _ => ?_
  refine inverts_id.bind fun source _ => ?_
  refine exact_u64.inverts.bind fun payloadSize _ => ?_
  refine exact_enum.inverts.bind fun direction _ => ?_
  refine takes_bool.bind fun allowStaging _ _ => ?_
  refine takes_bool.bind fun allowHostStaging _ _ => ?_
  refine takes_bool.bind fun allowStorageStaging _ _ => ?_
  refine takes_bool.bind fun allowRelay _ _ => ?_
  refine takes_bool.bind fun allowMulticast _ _ => ?_
  refine exact_u32.inverts.bind fun maxHops _ => ?_
  refine exact_u32.inverts.bind fun maxStages _ => ?_
  refine exact_u64.inverts.bind fun externalPriority _ => ?_
  refine inverts_generation.bind fun policyGeneration _ => ?_
  refine takes_transports.bind fun allowed _ _ => ?_
  refine takes_transports.bind fun forbidden _ _ => ?_
  refine exact_enum.inverts.bind fun collectiveShape _ => ?_
  refine exact_u64.inverts.checked.bind fun collectiveCount _ => ?_
  refine ids.bind fun destinations _ destinationsFit => ?_
  refine ids.bind fun participants _ participantsFit => ?_
  refine inverts_text.bind fun provenance provenanceFits => ?_
  refine inverts_text.bind fun requiredFailureDomain domainFits => ?_
  refine inverts_text.bind fun preferredLocality localityFits => ?_
  exact Takes.pure ⟨rfl,
    { destinations := destinationsFit.1
      participants := participantsFit.1
      provenance := provenanceFits
      requiredFailureDomain := domainFits
      preferredLocality := localityFits }⟩

/-! ## Plans -/

/-- A stage that was read travels as it is. -/
theorem takes_decStage
    (missing : Text) :
    Takes (decStage missing) fun stage _ => stage.transmitted = stage := by
  refine inverts_id.orFail.bind fun link _ => ?_
  refine inverts_id.orFail.bind fun source _ => ?_
  refine inverts_id.orFail.bind fun destination _ => ?_
  refine exact_u64.inverts.orFail.bind fun payload _ => ?_
  exact Takes.pure rfl

theorem map_eq_self
    {α : Type}
    {items : List α}
    {change : α → α}
    (keeps : ∀ item ∈ items, change item = item) :
    items.map change = items := by
  rw [List.map_congr_left keeps, List.map_id']

/-- A path that was read travels as it is. -/
theorem takes_decPath :
    Takes decPath fun path _ =>
      path.transmitted = path ∧ path.stages.length ≤ kMaxCount := by
  refine inverts_id.orFail.bind fun id _ => ?_
  refine exact_u64.inverts.orFail.bind fun totalPayload _ => ?_
  refine (takes_items (takes_decStage _)).bind fun stages _ read => ?_
  obtain ⟨short, travel⟩ := read
  refine Takes.pure ⟨?_, short⟩
  simp [Path.transmitted, map_eq_self travel]

/-- A plan that was read fits and travels as it is. -/
theorem takes_decPlan :
    Takes decPlan fun plan _ =>
      plan.transmitted = plan ∧ plan.Transmissible := by
  have binding :
      Takes
        (do
          let id ← orFail (ascii "PR eg") readId
          let generation ← orFail (ascii "PR eg") readGeneration
          pure (id, generation) :
          WireParser (EndpointId × EndpointGeneration))
        fun _ _ => True := by
    refine inverts_id.orFail.bind fun id _ => ?_
    refine inverts_generation.orFail.bind fun generation _ => ?_
    exact Takes.pure trivial
  refine inverts_id.orFail.bind fun id _ => ?_
  refine inverts_generation.orFail.bind fun generation _ => ?_
  refine inverts_id.orFail.bind fun requestId _ => ?_
  refine inverts_generation.orFail.bind fun requestGeneration _ => ?_
  refine inverts_id.orFail.bind fun primaryPath _ => ?_
  refine (takes_items takes_decPath).bind fun paths _ readPaths => ?_
  refine (takes_items (takes_decStage _)).bind
    fun stages _ readStages => ?_
  refine (takes_items binding).bind fun bindings _ readBindings => ?_
  refine Takes.pure ⟨?_, ?_⟩
  · simp [CommunicationPlan.transmitted, map_eq_self readStages.2,
      map_eq_self fun path member => (readPaths.2 path member).1]
  · exact
      { candidatePaths := readPaths.1
        stages := fun path member => (readPaths.2 path member).2
        orderedStages := readStages.1
        endpointGenerations := readBindings.1 }

/-! ## Messages -/

/-- The message as it is read back when it was decoded before. -/
def Message.settled (message : Message) : Message :=
  if message.type = .publishEndpoint then
    { message with endpoint := message.endpoint.settled }
  else
    message

/-- Within the limits, and with nothing that does not travel. -/
def Message.Arrived (message : Message) : Prop :=
  message.Fits ∧ message.received = message

namespace Message

@[simp] theorem type_settled
    (message : Message) :
    message.settled.type = message.type := by
  unfold settled
  split_ifs <;> rfl

/-- Only a publication with a negative distance is changed. -/
theorem settled_eq_self
    (message : Message) :
    message.settled = message ↔
      (message.type = .publishEndpoint →
        0 ≤ message.endpoint.location.numaDistance) := by
  unfold settled
  by_cases published : message.type = .publishEndpoint
  · rw [if_pos published, ← Endpoint.settled_eq_self]
    constructor
    · intro same _
      exact congrArg Message.endpoint same
    · intro same
      rw [same published]
  · simp [published]

end Message

/-- The encoder takes a message for its settled one. -/
theorem encodeMessage_settled
    (message : Message) :
    encodeMessage message.settled = encodeMessage message := by
  unfold Message.settled
  split_ifs with published
  · unfold encodeMessage
    simp only [published, encEndpoint_settled]
  · rfl

/-- The fields of any type that were read are fit to be sent. -/
theorem takes_parseMessage
    (type : MessageType) :
    Takes (parseMessage type) fun message _ =>
      message.type = type ∧ message.settled.Arrived := by
  unfold parseMessage
  cases type with
  | hello =>
      refine inverts_generation.orFail.bind fun epoch _ => ?_
      exact Takes.pure ⟨rfl, trivial, rfl⟩
  | register =>
      refine inverts_id.orFail.bind fun worker _ => ?_
      refine inverts_generation.orFail.bind fun boot _ => ?_
      refine inverts_text.orFail.bind fun name short => ?_
      exact Takes.pure ⟨rfl, short, rfl⟩
  | publishEndpoint =>
      refine inverts_id.orFail.bind fun worker _ => ?_
      refine inverts_generation.orFail.bind fun boot _ => ?_
      refine takes_endpoint.orFail.bind fun endpoint _ arrived => ?_
      refine Takes.pure ⟨rfl, arrived.2, ?_⟩
      simp [Message.settled, Message.received, Message.carrying, arrived.1]
  | publishLink =>
      refine inverts_id.orFail.bind fun worker _ => ?_
      refine inverts_generation.orFail.bind fun boot _ => ?_
      refine takes_link.orFail.bind fun link _ arrived => ?_
      refine Takes.pure ⟨rfl, arrived.2, ?_⟩
      simp [Message.settled, Message.received, Message.carrying, arrived.1]
  | publishCapacity =>
      refine inverts_id.orFail.bind fun linkId _ => ?_
      refine inverts_generation.orFail.bind fun generation _ => ?_
      refine exact_u64.inverts.orFail.bind fun usable _ => ?_
      refine exact_u64.inverts.orFail.bind fun headroom _ => ?_
      refine exact_enumOrFail.inverts.bind fun provenance _ => ?_
      exact Takes.pure ⟨rfl, trivial, rfl⟩
  | publishCongestion =>
      refine inverts_id.orFail.bind fun linkId _ => ?_
      refine inverts_generation.orFail.bind fun generation _ => ?_
      refine inverts_double.orFail.bind fun load _ => ?_
      refine inverts_double.orFail.bind fun penalty _ => ?_
      refine takes_bool.orFail.bind fun hardLimitExceeded _ _ => ?_
      refine exact_enumOrFail.inverts.bind fun provenance _ => ?_
      exact Takes.pure ⟨rfl, trivial, rfl⟩
  | submitRequest =>
      refine takes_request.orFail.bind fun request _ arrived => ?_
      refine Takes.pure ⟨rfl, arrived.2, ?_⟩
      simp [Message.settled, Message.received, Message.carrying, arrived.1]
  | planResult =>
      refine takes_bool.orFail.bind fun ok _ _ => ?_
      refine exact_enumOrFail.inverts.bind fun verdict _ => ?_
      cases ok with
      | true =>
          refine takes_decPlan.bind fun plan _ arrived => ?_
          refine Takes.pure ⟨rfl, fun _ => arrived.2, ?_⟩
          simp [Message.settled, Message.received, Message.carrying, arrived.1]
      | false =>
          have empty :
              Takes (pure {} : WireParser CommunicationPlan)
                fun plan _ => plan = {} :=
            Takes.pure rfl
          refine empty.bind fun plan _ isEmpty => ?_
          refine Takes.pure ⟨rfl, ?_, ?_⟩
          · intro answered
            cases answered
          · simp [Message.settled, Message.received, Message.carrying, isEmpty]
  | revalidate | commitRequest | executionHandoff | queryPlan =>
      refine inverts_id.orFail.bind fun planId _ => ?_
      exact Takes.pure ⟨rfl, trivial, rfl⟩
  | cancel | supersede =>
      refine inverts_id.orFail.bind fun requestId _ => ?_
      refine inverts_id.orFail.bind fun planId _ => ?_
      exact Takes.pure ⟨rfl, trivial, rfl⟩
  | commitResult =>
      refine takes_bool.orFail.bind fun ok _ _ => ?_
      refine inverts_id.orFail.bind fun planId _ => ?_
      exact Takes.pure ⟨rfl, trivial, rfl⟩
  | executionResult =>
      refine takes_bool.orFail.bind fun ok _ _ => ?_
      refine inverts_id.orFail.bind fun planId _ => ?_
      refine inverts_id.orFail.bind fun worker _ => ?_
      refine inverts_generation.orFail.bind fun boot _ => ?_
      exact Takes.pure ⟨rfl, trivial, rfl⟩
  | execute =>
      refine inverts_id.orFail.bind fun planId _ => ?_
      refine exact_u64.inverts.orFail.bind fun bytes _ => ?_
      refine inverts_id.orFail.bind fun worker _ => ?_
      refine inverts_generation.orFail.bind fun boot _ => ?_
      exact Takes.pure ⟨rfl, trivial, rfl⟩
  | publishTopology =>
      refine inverts_generation.orFail.bind fun generation _ => ?_
      exact Takes.pure ⟨rfl, trivial, rfl⟩
  | save | shutdown => exact Takes.pure ⟨rfl, trivial, rfl⟩
  | error =>
      refine inverts_text.orFail.bind fun error short => ?_
      exact Takes.pure ⟨rfl, short, rfl⟩

/-- Whatever is decoded has its type, and is fit to be sent once settled. -/
theorem decodeMessage_eq_ok
    {type : MessageType}
    {payload : List UInt8}
    {message : Message}
    (decoded : decodeMessage type payload = .ok message) :
    message.type = type ∧ message.settled.Arrived := by
  unfold decodeMessage at decoded
  cases ran : (parseMessage type).run payload with
  | error failure =>
      rw [ran] at decoded
      cases decoded
  | ok result =>
      rw [ran] at decoded
      cases decoded
      obtain ⟨_, _, arrived⟩ :=
        takes_parseMessage type payload result.1 result.2 ran
      exact arrived

/-- Whatever payload a message was decoded from, the message can be sent on: it
comes out of its own payload as it was.  The exception is a published endpoint
with a negative distance, which is read back as zero and does not change again. -/
theorem decoded_message_can_be_sent_on
    {type : MessageType}
    {payload : List UInt8}
    {message : Message}
    (decoded : decodeMessage type payload = .ok message) :
    message.type = type ∧
      decodeMessage type (encodeMessage message) = .ok message.settled ∧
      decodeMessage type (encodeMessage message.settled) =
        .ok message.settled ∧
      (message.settled = message ↔
        (type = .publishEndpoint →
          0 ≤ message.endpoint.location.numaDistance)) := by
  obtain ⟨rfl, fits, travels⟩ := decodeMessage_eq_ok decoded
  have again := decodeMessage_encodeMessage fits
  rw [travels, Message.type_settled] at again
  refine ⟨rfl, ?_, again, message.settled_eq_self⟩
  rw [← encodeMessage_settled]
  exact again

/-- A published endpoint whose last eight bytes, its distance, are all set. -/
def distantPayload : List UInt8 :=
  (encodeMessage acceleratorMessage).take 160 ++ List.replicate 8 255

/-- An endpoint at the distance minus one settles after one more trip. -/
theorem negative_distance_is_read_back_as_zero :
    ∃ message,
      decodeMessage .publishEndpoint distantPayload = .ok message ∧
        message.endpoint.location.numaDistance = -1 ∧
        message.settled ≠ message ∧
        decodeMessage .publishEndpoint (encodeMessage message) =
          .ok message.settled ∧
        decodeMessage .publishEndpoint (encodeMessage message.settled) =
          .ok message.settled := by
  have decoded :
      decodeMessage .publishEndpoint distantPayload =
        .ok { acceleratorMessage with
          endpoint :=
            { acceleratorMessage.endpoint with
              location := { numaDistance := -1 } } } := by
    rfl
  obtain ⟨_, first, second, unchanged⟩ := decoded_message_can_be_sent_on decoded
  refine ⟨_, decoded, rfl, ?_, first, second⟩
  intro same
  exact absurd (unchanged.mp same rfl) (by decide)

end CommunicationPlanner
