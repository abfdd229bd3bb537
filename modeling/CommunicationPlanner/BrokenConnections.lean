import CommunicationPlanner.FrameTransport
import CommunicationPlanner.RemotePublishers

namespace CommunicationPlanner

open ByteCodec ByteStream

/-!
# Connections that break

A connection may break after any byte, and any call on it may fail.  The thread
that serves it takes whatever it cannot receive for the end of the connection,
unless it finds the coordinator stopping before it reads again.  So the
coordinator handles a beginning of the messages that were sent, each with what
its type transmits, and then a disconnect if it is not stopping; nothing else
comes out of a broken stream.
-/

namespace Tcp

/-! ## Receiving from any stream -/

section

variable
  {calls : Calls}
  {line after : Line UInt8}
  {frame received : Frame}
  {rest : List UInt8}

/-- A frame that was received came first on the way, behind its length. -/
theorem of_recvFrame_eq_ok
    (isReceived : recvFrame calls line = .ok (received, after)) :
    ∃ header bytes,
      line.transit = header ++ (bytes ++ after.transit) ∧
      header.length = 4 ∧
      ofLittleEndian header = bytes.length ∧
      decodeFrame bytes = .ok received := by
  unfold recvFrame at isReceived
  split at isReceived
  · cases isReceived
  · rename_i header behind readHeader
    obtain ⟨four, rfl, behindHeader⟩ := of_readExact_eq_some readHeader
    simp only at isReceived
    split_ifs at isReceived with badLength
    split at isReceived
    · cases isReceived
    · rename_i bytes behindFrame readFrame
      obtain ⟨enough, isFrame, behindBytes⟩ := of_readExact_eq_some readFrame
      cases decoded : decodeFrame bytes with
      | error detail =>
          rw [decoded] at isReceived
          cases isReceived
      | ok other =>
          rw [decoded] at isReceived
          cases isReceived
          refine ⟨line.transit.take 4, bytes, ?_, ?_, ?_, decoded⟩
          · rw [behindBytes, isFrame, List.take_append_drop, behindHeader,
              List.take_append_drop]
          · rw [List.length_take]
            omega
          · rw [isFrame, List.length_take]
            omega

/-- Every frame that is received makes the stream shorter. -/
theorem length_transit_lt
    (isReceived : recvFrame calls line = .ok (received, after)) :
    after.transit.length < line.transit.length := by
  obtain ⟨header, bytes, transit, four, _⟩ := of_recvFrame_eq_ok isReceived
  rw [transit, List.length_append, List.length_append, four]
  omega

/-- Of a stream that was cut somewhere only what was sent is received. -/
theorem recvFrame_of_prefix
    (fits : frame.payload.length + 25 ≤ kMaxFramePayload)
    (cut : line.transit <+: wire frame ++ rest)
    (isReceived : recvFrame calls line = .ok (received, after)) :
    received = frame ∧
      after.transit <+: rest ∧
      line.transit = wire frame ++ after.transit := by
  obtain ⟨header, bytes, transit, four, isLength, decoded⟩ :=
    of_recvFrame_eq_ok isReceived
  obtain ⟨sent, encoded, size, roundTrip⟩ :=
    decodeFrame_encodeFrame frame (by omega)
  obtain ⟨lost, whole⟩ := cut
  have width : (writeU32 (UInt32.ofNat sent.length)).length = 4 := by
    simp [writeU32]
  rw [transit, wire_of_encoded encoded, List.append_assoc, List.append_assoc,
    List.append_assoc] at whole
  obtain ⟨sameHeader, behind⟩ :=
    List.append_inj whole (four.trans width.symm)
  have limit : kMaxFramePayload < 2 ^ 32 := by decide
  have sameLength : bytes.length = sent.length := by
    rw [← isLength, sameHeader]
    unfold writeU32
    rw [ofLittleEndian_littleEndian 4 _ (UInt32.toNat_lt _),
      UInt32.toNat_ofNat', Nat.mod_eq_of_lt (by omega)]
  obtain ⟨sameBytes, behindFrame⟩ := List.append_inj behind sameLength
  rw [sameBytes, roundTrip] at decoded
  cases decoded
  refine ⟨rfl, ⟨lost, behindFrame⟩, ?_⟩
  rw [transit, wire_of_encoded encoded, sameHeader, sameBytes,
    List.append_assoc]

end

end Tcp

/-! ## The events of a connection -/

/-- What the thread of a connection makes of a frame. -/
def Frame.event (frame : Frame) (socket : Socket) : Event :=
  match decodeMessage frame.type frame.payload with
  | .ok message => .receive socket message
  | .error detail => .undecodable socket detail

/--
The loop of `handleConnection`.  Before it reads from the connection it looks
whether the coordinator is stopping; `stopping count` is what it finds when it
has handled that many frames.  A thread that finds the coordinator stopping
leaves the loop, and fences nobody.
-/
def connectionEvents
    (calls : Calls)
    (stopping : Nat → Bool)
    (socket : Socket)
    (line : Line UInt8) : List Event :=
  if stopping 0 then
    []
  else
    match _received : Tcp.recvFrame calls line with
    | .error _ => [.disconnect socket]
    | .ok (frame, after) =>
        frame.event socket ::
          connectionEvents calls (fun count => stopping (count + 1)) socket
            after
termination_by line.transit.length
decreasing_by exact Tcp.length_transit_lt ‹_›

/-- How the thread of a connection ends that handled so many frames. -/
def connectionEnd
    (stopping : Nat → Bool)
    (socket : Socket)
    (handled : Nat) : List Event :=
  if stopping handled then [] else [.disconnect socket]

/-- The frame of a message. -/
def Message.frame (message : Message) : Frame :=
  { type := message.type, payload := encodeMessage message }

/-- The message can be written, and its frame received. -/
def Message.Sendable (message : Message) : Prop :=
  message.Fits ∧ (encodeMessage message).length + 25 ≤ kMaxFramePayload

theorem Message.event_frame
    {message : Message}
    (sendable : message.Sendable)
    (socket : Socket) :
    message.frame.event socket = .receive socket message.received := by
  unfold Frame.event
  rw [frame, decodeMessage_encodeMessage sendable.1]

section

variable
  {calls : Calls}
  {stopping : Nat → Bool}
  {line after : Line UInt8}
  {socket : Socket}

/-- A thread that cannot receive takes it for the end of the connection. -/
theorem connectionEvents_of_error
    {detail : Text}
    (failed : Tcp.recvFrame calls line = .error detail) :
    connectionEvents calls stopping socket line =
      connectionEnd stopping socket 0 := by
  rw [connectionEvents, connectionEnd]
  split_ifs
  · rfl
  · split
    · rfl
    · rename_i isReceived
      rw [failed] at isReceived
      cases isReceived

/-- A thread that can receive and shall go on handles the frame. -/
theorem connectionEvents_of_ok
    {frame : Frame}
    (goesOn : stopping 0 = false)
    (isReceived : Tcp.recvFrame calls line = .ok (frame, after)) :
    connectionEvents calls stopping socket line =
      frame.event socket ::
        connectionEvents calls (fun count => stopping (count + 1)) socket
          after := by
  rw [connectionEvents, goesOn]
  simp only [Bool.false_eq_true, if_false]
  split
  · rename_i failed
    rw [isReceived] at failed
    cases failed
  · rename_i other _ sameFrame
    rw [isReceived] at sameFrame
    cases sameFrame
    rfl

/-- Nothing comes out of a connection that nothing more arrives on. -/
theorem recvFrame_of_ended
    (ended : line.transit = []) :
    Tcp.recvFrame calls line = .error (ascii "read length failed") := by
  unfold Tcp.recvFrame
  rw [readExact_of_short (by rw [ended]; decide)]
  rfl

/-- Where no call fails, nothing of a message that is not received has arrived. -/
theorem eq_nil_of_error
    {detail : Text}
    {message : Message}
    {messages arrived : List Message}
    (reliable : calls.Reliable)
    (sendable : message.Sendable)
    (failed : Tcp.recvFrame calls line = .error detail)
    (isPrefix : arrived <+: message :: messages)
    (hasArrived :
      (arrived.flatMap fun message => Tcp.wire message.frame) <+:
        line.transit) :
    arrived = [] := by
  cases arrived with
  | nil => rfl
  | cons first others =>
      obtain ⟨rfl, _⟩ := List.cons_prefix_cons.mp isPrefix
      rw [List.flatMap_cons] at hasArrived
      obtain ⟨rest, whole⟩ := hasArrived
      rw [List.append_assoc] at whole
      have small : first.frame.payload.length + 25 ≤ kMaxFramePayload :=
        sendable.2
      obtain ⟨after, received, _⟩ :=
        Tcp.recvFrame_of_fits reliable small whole.symm
      rw [failed] at received
      cases received

end

end CommunicationPlanner
