import CommunicationPlanner.ByteStream
import CommunicationPlanner.WireRoundTrip

namespace CommunicationPlanner

open ByteCodec ByteStream

/-!
# Frames over a stream

On a socket a frame follows its length in four bytes.  The encoder limits the
payload of a frame, and the receiver compares the length of the whole frame with
the same limit: what is sent is received if and only if the header and the
checksum fit as well.
-/

namespace Tcp

/-! ## Sending and receiving -/

/-- `sendFrame`: the length of the frame, then the frame. -/
def sendFrame
    (calls : Calls)
    (frame : Frame)
    (line : Line UInt8) : Except Text (Line UInt8) := do
  let bytes ← encodeFrame frame
  match writeAll calls (writeU32 (UInt32.ofNat bytes.length)) line with
  | none => throw (ascii "write length failed")
  | some line =>
      match writeAll calls bytes line with
      | none => throw (ascii "write frame failed")
      | some line => pure line

/-- `recvFrame`: the length, which is checked, then so many bytes. -/
def recvFrame
    (calls : Calls)
    (line : Line UInt8) : Except Text (Frame × Line UInt8) :=
  match readExact calls 4 line with
  | none => throw (ascii "read length failed")
  | some (header, line) =>
      let len := ofLittleEndian header
      if len = 0 ∨ kMaxFramePayload < len then
        throw (ascii "bad frame length")
      else
        match readExact calls len line with
        | none => throw (ascii "read frame failed")
        | some (bytes, line) => do
            let frame ← decodeFrame bytes
            pure (frame, line)

/-- Send the frames one after another. -/
def sendFrames
    (calls : Calls) :
    List Frame → Line UInt8 → Except Text (Line UInt8)
  | [], line => pure line
  | frame :: frames, line => do
      let line ← sendFrame calls frame line
      sendFrames calls frames line

/-- Receive so many frames. -/
def recvFrames
    (calls : Calls) :
    Nat → Line UInt8 → Except Text (List Frame × Line UInt8)
  | 0, line => pure ([], line)
  | count + 1, line => do
      let (frame, line) ← recvFrame calls line
      let (frames, line) ← recvFrames calls count line
      pure (frame :: frames, line)

/-! ## One frame -/

/-- What a frame is on the stream. -/
def wire (frame : Frame) : List UInt8 :=
  match encodeFrame frame with
  | .ok bytes => writeU32 (UInt32.ofNat bytes.length) ++ bytes
  | .error _ => []

theorem wire_of_encoded
    {frame : Frame}
    {bytes : List UInt8}
    (encoded : encodeFrame frame = .ok bytes) :
    wire frame = writeU32 (UInt32.ofNat bytes.length) ++ bytes := by
  unfold wire
  rw [encoded]

/-- The encoder accepts the frame. -/
def Accepted (frame : Frame) : Prop :=
  ∃ bytes, encodeFrame frame = .ok bytes

theorem accepted_iff
    {frame : Frame} :
    Accepted frame ↔ frame.payload.length ≤ kMaxFramePayload := by
  constructor
  · rintro ⟨bytes, encoded⟩
    by_contra large
    unfold encodeFrame at encoded
    rw [if_pos (by omega)] at encoded
    cases encoded
  · intro small
    obtain ⟨bytes, encoded, _⟩ := decodeFrame_encodeFrame frame small
    exact ⟨bytes, encoded⟩

section Reliable

variable {calls : Calls}

theorem sendFrame_of_reliable
    (reliable : calls.Reliable)
    {frame : Frame}
    (accepted : Accepted frame)
    (line : Line UInt8) :
    ∃ after,
      sendFrame calls frame line = .ok after ∧
      after.transit = line.transit ++ wire frame := by
  obtain ⟨bytes, encoded⟩ := accepted
  obtain ⟨between, headed, first⟩ :=
    writeAll_of_reliable reliable
      (writeU32 (UInt32.ofNat bytes.length)) line
  obtain ⟨after, written, second⟩ :=
    writeAll_of_reliable reliable bytes between
  refine ⟨after, ?_, ?_⟩
  · unfold sendFrame
    simp only [encoded, bind, Except.bind, headed, written]
    rfl
  · rw [second, first, wire_of_encoded encoded, List.append_assoc]

/-- The four bytes before a frame tell its length. -/
theorem readExact_wire
    (reliable : calls.Reliable)
    {frame : Frame}
    {bytes rest : List UInt8}
    {line : Line UInt8}
    (encoded : encodeFrame frame = .ok bytes)
    (bounded : bytes.length < 2 ^ 32)
    (transit : line.transit = wire frame ++ rest) :
    ∃ header after,
      readExact calls 4 line = some (header, after) ∧
      ofLittleEndian header = bytes.length ∧
      after.transit = bytes ++ rest := by
  have width : (writeU32 (UInt32.ofNat bytes.length)).length = 4 := by
    simp [writeU32]
  rw [wire_of_encoded encoded, List.append_assoc] at transit
  obtain ⟨after, read, remaining⟩ :=
    readExact_of_reliable reliable 4 line
      (by rw [transit, List.length_append, width]; omega)
  rw [transit, ← width, List.take_left] at read
  rw [transit, ← width, List.drop_left] at remaining
  refine ⟨_, after, width ▸ read, ?_, remaining⟩
  unfold writeU32
  rw [ofLittleEndian_littleEndian 4 _ (UInt32.toNat_lt _),
    UInt32.toNat_ofNat', Nat.mod_eq_of_lt bounded]

/-- A frame that fits with its header and checksum is received, and the stream
behind it is untouched. -/
theorem recvFrame_of_fits
    (reliable : calls.Reliable)
    {frame : Frame}
    {rest : List UInt8}
    {line : Line UInt8}
    (fits : frame.payload.length + 25 ≤ kMaxFramePayload)
    (transit : line.transit = wire frame ++ rest) :
    ∃ after,
      recvFrame calls line = .ok (frame, after) ∧
      after.transit = rest := by
  obtain ⟨bytes, encoded, size, decoded⟩ :=
    decodeFrame_encodeFrame frame (by omega)
  have limit : kMaxFramePayload < 2 ^ 32 := by decide
  obtain ⟨header, between, headed, isLength, remaining⟩ :=
    readExact_wire reliable encoded (by omega) transit
  obtain ⟨after, read, last⟩ :=
    readExact_of_reliable reliable bytes.length between
      (by rw [remaining, List.length_append]; omega)
  rw [remaining, List.take_left] at read
  rw [remaining, List.drop_left] at last
  refine ⟨after, ?_, last⟩
  unfold recvFrame
  simp only [headed, isLength]
  rw [if_neg (by omega)]
  simp only [read, decoded]
  rfl

/-- A frame that only fits without them is not. -/
theorem recvFrame_of_oversized
    (reliable : calls.Reliable)
    {frame : Frame}
    {rest : List UInt8}
    {line : Line UInt8}
    (small : frame.payload.length ≤ kMaxFramePayload)
    (oversized : kMaxFramePayload < frame.payload.length + 25)
    (transit : line.transit = wire frame ++ rest) :
    recvFrame calls line = .error (ascii "bad frame length") := by
  obtain ⟨bytes, encoded, size, _⟩ := decodeFrame_encodeFrame frame small
  have limit : kMaxFramePayload + 25 < 2 ^ 32 := by decide
  obtain ⟨header, between, headed, isLength, _⟩ :=
    readExact_wire reliable encoded (by omega) transit
  unfold recvFrame
  simp only [headed, isLength]
  rw [if_pos (by omega)]
  rfl

/-! ## Every frame -/

/-- What was sent is on its way, frame by frame. -/
theorem sendFrames_of_reliable
    (reliable : calls.Reliable)
    {frames : List Frame}
    (accepted : ∀ frame ∈ frames, Accepted frame)
    (line : Line UInt8) :
    ∃ after,
      sendFrames calls frames line = .ok after ∧
      after.transit = line.transit ++ frames.flatMap wire := by
  induction frames generalizing line with
  | nil => exact ⟨line, rfl, by simp⟩
  | cons frame frames inductionHypothesis =>
      obtain ⟨between, sent, first⟩ :=
        sendFrame_of_reliable reliable (accepted frame (by simp)) line
      obtain ⟨after, sentRest, transit⟩ :=
        inductionHypothesis
          (fun other member => accepted other (by simp [member])) between
      refine ⟨after, ?_, ?_⟩
      · unfold sendFrames
        rw [sent]
        exact sentRest
      · rw [transit, first, List.flatMap_cons, List.append_assoc]

theorem recvFrames_of_fits
    (reliable : calls.Reliable)
    {frames : List Frame}
    {rest : List UInt8}
    {line : Line UInt8}
    (fits :
      ∀ frame ∈ frames, frame.payload.length + 25 ≤ kMaxFramePayload)
    (transit : line.transit = frames.flatMap wire ++ rest) :
    ∃ after,
      recvFrames calls frames.length line = .ok (frames, after) ∧
      after.transit = rest := by
  induction frames generalizing line with
  | nil => exact ⟨line, rfl, transit⟩
  | cons frame frames inductionHypothesis =>
      rw [List.flatMap_cons, List.append_assoc] at transit
      obtain ⟨between, received, remaining⟩ :=
        recvFrame_of_fits reliable (fits frame (by simp)) transit
      obtain ⟨after, receivedRest, last⟩ :=
        inductionHypothesis
          (fun other member => fits other (by simp [member])) remaining
      refine ⟨after, ?_, last⟩
      simp only [List.length_cons, recvFrames, received, receivedRest, bind,
        Except.bind]
      rfl

/-- The first frame that does not fit stops the receiver. -/
theorem recvFrames_of_oversized
    (reliable : calls.Reliable)
    {frames : List Frame}
    {rest : List UInt8}
    {line : Line UInt8}
    (accepted : ∀ frame ∈ frames, Accepted frame)
    (oversized :
      ∃ frame ∈ frames, kMaxFramePayload < frame.payload.length + 25)
    (transit : line.transit = frames.flatMap wire ++ rest) :
    recvFrames calls frames.length line =
      .error (ascii "bad frame length") := by
  induction frames generalizing line with
  | nil => simp at oversized
  | cons frame frames inductionHypothesis =>
      rw [List.flatMap_cons, List.append_assoc] at transit
      by_cases fits : frame.payload.length + 25 ≤ kMaxFramePayload
      · obtain ⟨between, received, remaining⟩ :=
          recvFrame_of_fits reliable fits transit
        have later :
            ∃ other ∈ frames,
              kMaxFramePayload < other.payload.length + 25 := by
          obtain ⟨other, member, large⟩ := oversized
          rcases List.mem_cons.mp member with rfl | member
          · omega
          · exact ⟨other, member, large⟩
        have refused :=
          inductionHypothesis
            (fun other member => accepted other (by simp [member])) later
            remaining
        simp only [List.length_cons, recvFrames, received, refused, bind,
          Except.bind]
      · have refused :=
          recvFrame_of_oversized reliable
            (accepted_iff.mp (accepted frame (by simp))) (by omega) transit
        simp only [List.length_cons, recvFrames, refused, bind, Except.bind]

/-- On a reliable stream the frames that the encoder accepts are received, in
order and without a byte left, exactly when each of them fits with its header and
its checksum. -/
theorem frames_arrive_iff
    (reliable : calls.Reliable)
    {frames : List Frame}
    {line : Line UInt8}
    (accepted : ∀ frame ∈ frames, Accepted frame)
    (quiet : line.transit = []) :
    (∃ sent received,
      sendFrames calls frames line = .ok sent ∧
        recvFrames calls frames.length sent = .ok (frames, received) ∧
        received.transit = []) ↔
      ∀ frame ∈ frames, frame.payload.length + 25 ≤ kMaxFramePayload := by
  obtain ⟨sent, succeeded, transit⟩ :=
    sendFrames_of_reliable reliable accepted line
  rw [quiet, List.nil_append, ← List.append_nil (frames.flatMap wire)] at transit
  constructor
  · rintro ⟨other, received, sentSame, receivedAll, _⟩
    rw [succeeded] at sentSame
    cases sentSame
    intro frame member
    by_contra large
    rw [recvFrames_of_oversized reliable accepted
      ⟨frame, member, by omega⟩ transit] at receivedAll
    cases receivedAll
  · intro fits
    obtain ⟨received, receivedAll, last⟩ :=
      recvFrames_of_fits reliable fits transit
    exact ⟨sent, received, succeeded, receivedAll, last⟩

end Reliable

/-- Every call moves at most three bytes. -/
def slowCalls : Calls :=
  { send := fun _ => some 2, recv := fun _ => some 2 }

theorem two_frames_arrive :
    ∃ sent received,
      sendFrames slowCalls [{ type := .save }, { payload := [1, 2, 3] }] {} =
          .ok sent ∧
        recvFrames slowCalls 2 sent =
          .ok ([{ type := .save }, { payload := [1, 2, 3] }], received) ∧
        received.transit = [] := by
  have reliable : slowCalls.Reliable :=
    { send := fun _ => ⟨2, rfl⟩, recv := fun _ => ⟨2, rfl⟩ }
  have fits :
      ∀ frame ∈ ([{ type := .save }, { payload := [1, 2, 3] }] : List Frame),
        frame.payload.length + 25 ≤ kMaxFramePayload := by
    simp [kMaxFramePayload]
  refine (frames_arrive_iff reliable (fun frame member => ?_) rfl).mpr fits
  exact accepted_iff.mpr (by have small := fits frame member; omega)

/-- The largest payload that the encoder accepts. -/
def largestFrame : Frame :=
  { payload := List.replicate kMaxFramePayload 0 }

/-- The largest frame is sent, and its receiver takes it for a broken one. -/
theorem largest_frame_is_lost :
    Accepted largestFrame ∧
      ∃ sent,
        sendFrames slowCalls [largestFrame] {} = .ok sent ∧
        recvFrames slowCalls 1 sent = .error (ascii "bad frame length") := by
  have reliable : slowCalls.Reliable :=
    { send := fun _ => ⟨2, rfl⟩, recv := fun _ => ⟨2, rfl⟩ }
  have size : largestFrame.payload.length = kMaxFramePayload :=
    List.length_replicate
  have accepted : ∀ frame ∈ [largestFrame], Accepted frame := by
    intro frame member
    rw [List.mem_singleton] at member
    exact accepted_iff.mpr (by rw [member, size])
  obtain ⟨sent, succeeded, transit⟩ :=
    sendFrames_of_reliable reliable accepted {}
  have onTheWay : sent.transit = [largestFrame].flatMap wire ++ [] := by
    rw [transit, List.append_nil]
    exact List.nil_append _
  exact ⟨accepted _ (by simp), sent, succeeded,
    recvFrames_of_oversized reliable accepted
      ⟨largestFrame, by simp, by omega⟩ onTheWay⟩

end Tcp

end CommunicationPlanner
