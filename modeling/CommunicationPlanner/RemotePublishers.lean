import CommunicationPlanner.Fencing
import CommunicationPlanner.WireRoundTrip

namespace CommunicationPlanner

open TransitionRun

/-!
# Publishers on the other side of the wire

A client hands a message to the encoder, and the coordinator handles what the
decoder makes of it.  Publications of capacity and congestion carry the stamp of
their publisher in the message, but not over the wire: the handler, which would
refuse a stamp that is out of date, always sees a publication without one.
-/

/-- The event at the coordinator when a client sends the message. -/
def Event.overWire : Event → Event
  | .receive socket sent =>
      match decodeMessage sent.type (encodeMessage sent) with
      | .ok received => .receive socket received
      | .error detail => .undecodable socket detail
  | event => event

theorem Event.overWire_of_fits
    {socket : Socket}
    {sent : Message}
    (fits : sent.Fits) :
    (Event.receive socket sent).overWire = .receive socket sent.received := by
  simp only [overWire, decodeMessage_encodeMessage fits]

namespace Message

variable {message : Message}

/-- Capacity or congestion of a link. -/
def publishesLoad (message : Message) : Prop :=
  message.type = .publishCapacity ∨ message.type = .publishCongestion

theorem fits_of_publishesLoad
    (publishes : message.publishesLoad) :
    message.Fits := by
  unfold Fits
  rcases publishes with kind | kind <;> simp [kind]

/-- The stamp of such a publication does not travel. -/
theorem worker_received
    (publishes : message.publishesLoad) :
    message.received.worker.isNull = true := by
  unfold received carrying
  rcases publishes with kind | kind <;> simp [kind]

theorem publishesLoad.received
    (publishes : message.publishesLoad) :
    message.received.publishesLoad := by
  unfold publishesLoad
  rwa [type_received]

theorem linkId_received
    (publishes : message.publishesLoad) :
    message.received.linkId = message.linkId := by
  unfold received carrying
  rcases publishes with kind | kind <;> simp [kind]

end Message

namespace Coordinator

/-- The machine as its clients see it. -/
def remoteStep?
    (config : Config)
    (state : Coordinator)
    (event : Event) : Option (Coordinator × List Action) :=
  step? config state event.overWire

variable
  {config : Config}
  {store : Option (List UInt8)}
  {trace : List CoordinatorStep}
  {state : Coordinator}
  {socket : Socket}
  {message : Message}

theorem fences_of_remoteRun
    (run : Run (remoteStep? config) (start store) trace state) :
    state.registry.Fences := by
  have behind :
      ∃ steps, ProcessRun config store steps state :=
    ⟨_, Run.translate Event.overWire run⟩
  obtain ⟨steps, reached⟩ := behind
  exact fences_of_run reached

/-- The handler refuses a stamp that is out of date. -/
theorem handleMessage_of_retired
    (fences : state.registry.Fences)
    (publishes : message.publishesLoad)
    (retired : state.registry.Retired message.worker message.boot) :
    handleMessage config state socket message =
      (state, [.send socket Registry.stalePublisher]) := by
  obtain ⟨named, unauthorized⟩ := fences.unauthorized_of_retired retired
  unfold handleMessage
  rcases publishes with kind | kind
  · simp [kind, withRegistry, Registry.handlePublishCapacity, named,
      unauthorized]
  · simp [kind, withRegistry, Registry.handlePublishCongestion, named,
      unauthorized]

variable (config state socket) in
/-- A publication without a stamp is accepted by any state. -/
theorem handleMessage_of_unstamped
    (publishes : message.publishesLoad)
    (unstamped : message.worker.isNull = true) :
    (handleMessage config state socket message).1.registry.snap ≠
        state.registry.snap ∧
      (handleMessage config state socket message).2 =
        [.send socket (okMessage message.linkId.value)] := by
  unfold handleMessage
  rcases publishes with kind | kind
  · simp only [kind, withRegistry, Registry.handlePublishCapacity, unstamped,
      Bool.not_true, Bool.false_and, Bool.false_eq_true, if_false, and_true]
    intro same
    exact Generation.next_ne _ (congrArg EvidenceSnapshot.capacityGeneration same)
  · simp only [kind, withRegistry, Registry.handlePublishCongestion, unstamped,
      Bool.not_true, Bool.false_and, Bool.false_eq_true, if_false, and_true]
    intro same
    exact Generation.next_ne _
      (congrArg EvidenceSnapshot.congestionGeneration same)

/-- Whatever its stamp was, a publication that a client sends is accepted. -/
theorem accepted_of_remoteStep?
    {before after : Coordinator}
    {actions : List Action}
    (publishes : message.publishesLoad)
    (stepped :
      remoteStep? config before (.receive socket message) =
        some (after, actions)) :
    after.registry.snap ≠ before.registry.snap ∧
      actions = [.send socket (okMessage message.linkId.value)] := by
  obtain ⟨changed, answered⟩ :=
    handleMessage_of_unstamped config before socket publishes.received
      (Message.worker_received publishes)
  rw [remoteStep?,
    Event.overWire_of_fits (Message.fits_of_publishesLoad publishes)] at stepped
  cases taken_of_step? stepped with
  | receive _ _ listening =>
      rw [Message.linkId_received publishes] at answered
      rw [registry_resume]
      exact ⟨changed, answered⟩

/-- In every run whose messages go through the encoder and the decoder, a
publication of capacity or congestion that is stamped with a retired incarnation
is accepted and changes the snapshot; as it was stamped, the handler would have
refused it. -/
theorem retired_publication_is_accepted
    (run : Run (remoteStep? config) (start store) trace state)
    {step : CoordinatorStep}
    (member : step ∈ trace)
    (sends : step.event = .receive socket message)
    (publishes : message.publishesLoad)
    (retired : step.before.registry.Retired message.worker message.boot) :
    step.after.registry.snap ≠ step.before.registry.snap ∧
      step.outputs = [.send socket (okMessage message.linkId.value)] ∧
      handleMessage config step.before socket message =
        (step.before, [.send socket Registry.stalePublisher]) := by
  have stepped := run.step_of_mem member
  rw [sends] at stepped
  obtain ⟨changed, answered⟩ := accepted_of_remoteStep? publishes stepped
  obtain ⟨leading, trailing, rfl⟩ := List.append_of_mem member
  obtain ⟨earlier, _⟩ := run.cut
  exact ⟨changed, answered,
    handleMessage_of_retired (fences_of_remoteRun earlier) publishes retired⟩

/-- Capacity of a link, with the stamp of an incarnation of the first worker. -/
def stampedCapacity (boot : WorkerBootId) : Message :=
  { type := .publishCapacity
    worker := ⟨1⟩
    boot := boot
    linkId := ⟨7⟩
    capacity := { generation := ⟨2⟩, usable := ⟨1⟩ } }

/-- The worker has come back under another boot. -/
theorem replaced_publication_is_accepted :
    ∃ trace state step,
      Run (remoteStep? defaultConfig) (start none) trace state ∧
        step ∈ trace ∧
        step.event = .receive ⟨4⟩ (stampedCapacity ⟨1⟩) ∧
        step.before.registry.Retired ⟨1⟩ ⟨1⟩ ∧
        step.after.registry.snap ≠ step.before.registry.snap := by
  have checked :
      (replay? (remoteStep? defaultConfig) (start none)
        (deployment ⟨4⟩ ⟨1⟩ ++
          [.receive ⟨4⟩
            (CoordinatorClient.registerWorker ⟨1⟩ ⟨2⟩ [])])).any
        (fun reached =>
          (reached.2.registry.workers[(⟨1⟩ : WorkerId)]?.any fun info =>
              info.boot ≠ ⟨1⟩) &&
            (remoteStep? defaultConfig reached.2
              (.receive ⟨4⟩ (stampedCapacity ⟨1⟩))).isSome) =
        true := by
    decide +kernel
  obtain ⟨past, middle, reached, holds⟩ := exists_run_of_replay? checked
  rw [Bool.and_eq_true] at holds
  obtain ⟨info, known, replaced⟩ := (Option.any_eq_true _ _).mp holds.1
  obtain ⟨⟨after, outputs⟩, stepped⟩ :=
    Option.isSome_iff_exists.mp holds.2
  have retired : middle.registry.Retired ⟨1⟩ ⟨1⟩ :=
    .inr ⟨info, known, of_decide_eq_true replaced⟩
  have accepted :=
    retired_publication_is_accepted (reached.snoc stepped)
      (List.mem_append_right _ (List.mem_singleton.mpr rfl)) rfl (.inl rfl)
      retired
  exact ⟨_, _, _, reached.snoc stepped,
    List.mem_append_right _ (List.mem_singleton.mpr rfl), rfl, retired,
    accepted.1⟩

/-- The worker's connection has ended, and another connection publishes. -/
theorem fenced_publication_is_accepted :
    ∃ trace state after outputs,
      Run (remoteStep? defaultConfig) (start none) trace state ∧
        (⟨1⟩, ⟨1⟩) ∈ state.registry.fenced ∧
        remoteStep? defaultConfig state
            (.receive ⟨5⟩ (stampedCapacity ⟨1⟩)) =
          some (after, outputs) ∧
        after.registry.snap ≠ state.registry.snap ∧
        outputs = [.send ⟨5⟩ (okMessage 7)] := by
  have checked :
      (replay? (remoteStep? defaultConfig) (start none)
        (deployment ⟨4⟩ ⟨1⟩ ++ [.disconnect ⟨4⟩, .accept ⟨5⟩])).any
        (fun reached =>
          (⟨1⟩, ⟨1⟩) ∈ reached.2.registry.fenced &&
            (remoteStep? defaultConfig reached.2
              (.receive ⟨5⟩ (stampedCapacity ⟨1⟩))).isSome) =
        true := by
    decide +kernel
  obtain ⟨trace, state, reached, holds⟩ := exists_run_of_replay? checked
  rw [Bool.and_eq_true, decide_eq_true_eq] at holds
  obtain ⟨⟨after, outputs⟩, stepped⟩ :=
    Option.isSome_iff_exists.mp holds.2
  obtain ⟨changed, answered⟩ := accepted_of_remoteStep? (.inl rfl) stepped
  exact ⟨trace, state, after, outputs, reached, holds.1, stepped, changed,
    answered⟩

end Coordinator

end CommunicationPlanner
