import CommunicationPlanner.WireRoundTrip
import CommunicationPlanner.StoreIntegrity

namespace CommunicationPlanner

open ByteCodec

/-!
# Damaged frames

`decodeFrame` returns a frame exactly when the encoding of the frame is a
prefix of the data.  A frame that has lost bytes is therefore never accepted,
and neither is one in which a byte of the type, the payload or the checksum has
changed.

The length field is different.  The checksum is read where the length says it
is, and what follows it is not looked at, so a changed length can move the
reader to bytes of the payload that pass for the checksum of the shorter frame.
`Frame.Hides` says when a frame carries such bytes.
-/

/-! ## What the decoder accepts -/

/-- The part of the header that does not depend on the payload. -/
def framePreamble (type : MessageType) : List UInt8 :=
  [writeU32 kFrameMagic, writeU32 kFrameVersion, writeEnum type].flatten

@[simp] theorem length_framePreamble
    (type : MessageType) :
    (framePreamble type).length = 9 := by
  simp [framePreamble, writeU32, writeEnum, writeU8]

theorem frameHeader_eq
    (frame : Frame) :
    frameHeader frame =
      framePreamble frame.type ++
        writeU64 (UInt64.ofNat frame.payload.length) := by
  simp [frameHeader, framePreamble]

/-- What an encoded frame has after its header. -/
def Frame.contents (frame : Frame) : List UInt8 :=
  frame.payload ++ writeU64 (fnv1a (frameBody frame))

theorem encoded_eq
    (frame : Frame) :
    frame.encoded = frameHeader frame ++ frame.contents := by
  rw [Frame.encoded, frameBody_eq, Frame.contents, frameBody_eq,
    List.append_assoc]

theorem exact_parseFrameHeader
    {data rest : List UInt8}
    {type : MessageType}
    {length : UInt64}
    (ran : parseFrameHeader.run data = .ok ((type, length), rest)) :
    length.toNat ≤ kMaxFramePayload ∧
      data = framePreamble type ++ writeU64 length ++ rest := by
  obtain ⟨magic, afterMagic, readMagic, ran⟩ := returned_of_bind ran
  obtain ⟨isMagic, ran⟩ := returned_of_unless ran
  obtain ⟨version, afterVersion, readVersion, ran⟩ := returned_of_bind ran
  obtain ⟨isVersion, ran⟩ := returned_of_unless ran
  obtain ⟨readType, afterType, gotType, ran⟩ := returned_of_bind ran
  obtain ⟨readLength, afterLength, gotLength, ran⟩ := returned_of_bind ran
  obtain ⟨bounded, ran⟩ := returned_of_unless ran
  cases ran
  refine ⟨Nat.not_lt.mp bounded, ?_⟩
  rw [exact_u32.orFail _ _ _ readMagic, exact_u32.orFail _ _ _ readVersion,
    exact_enumOrFail _ _ _ gotType, exact_u64.orFail _ _ _ gotLength,
    not_not.mp isMagic, not_not.mp isVersion]
  simp [framePreamble]

/-- Eight bytes are the encoding of the number they stand for. -/
theorem writeU64_ofLittleEndian
    {bytes : List UInt8}
    (isWord : bytes.length = 8) :
    writeU64 (UInt64.ofNat (ofLittleEndian bytes)) = bytes := by
  have small := ofLittleEndian_lt bytes
  have same := littleEndian_ofLittleEndian bytes
  rw [isWord] at small same
  have inWord : ofLittleEndian bytes < 2 ^ 64 := small
  rw [writeU64, UInt64.toNat_ofNat', Nat.mod_eq_of_lt inWord, same]

/-- A frame that was decoded stands at the start of the data. -/
theorem encoded_prefix_of_decodeFrame
    {data : List UInt8}
    {frame : Frame}
    (decoded : decodeFrame data = .ok frame) :
    frame.payload.length ≤ kMaxFramePayload ∧ frame.encoded <+: data := by
  unfold decodeFrame at decoded
  obtain ⟨⟨⟨type, length⟩, rest⟩, ranHeader, decoded⟩ :=
    Invertible.bind_eq_pure (m := Except Text) decoded
  obtain ⟨bounded, whole⟩ := exact_parseFrameHeader ranHeader
  obtain ⟨enough, decoded⟩ := ok_of_unless decoded
  obtain ⟨sumMatches, decoded⟩ := ok_of_unless decoded
  cases decoded
  have payloadLength : (rest.take length.toNat).length = length.toNat := by
    rw [List.length_take]
    omega
  have isHeader :
      frameHeader { type, payload := rest.take length.toNat } =
        framePreamble type ++ writeU64 length := by
    rw [frameHeader_eq, payloadLength, UInt64.ofNat_toNat]
  have covered :
      data.length - rest.length + length.toNat =
        (framePreamble type ++ writeU64 length).length + length.toNat := by
    rw [whole, List.length_append]
    omega
  have sum := not_not.mp sumMatches
  rw [covered, whole, List.take_length_add_append,
    List.drop_length_add_append, ← isHeader, ← frameBody_eq
      { type, payload := rest.take length.toNat }] at sum
  have word : ((rest.drop length.toNat).take 8).length = 8 := by
    rw [List.length_take, List.length_drop]
    omega
  refine ⟨by rw [payloadLength]; exact bounded, ?_⟩
  rw [encoded_eq, isHeader, whole, List.prefix_append_right_inj,
    Frame.contents, sum, writeU64_ofLittleEndian word]
  exact ⟨(rest.drop length.toNat).drop 8, by simp⟩

/-- The frames that are decoded from the data. -/
theorem decodeFrame_eq_ok_iff
    {data : List UInt8}
    {frame : Frame} :
    decodeFrame data = .ok frame ↔
      frame.payload.length ≤ kMaxFramePayload ∧ frame.encoded <+: data := by
  constructor
  · exact encoded_prefix_of_decodeFrame
  · rintro ⟨small, trailing, rfl⟩
    exact decodeFrame_append small trailing

theorem rejected_of_no_frame
    {data : List UInt8}
    (none :
      ∀ frame : Frame,
        frame.payload.length ≤ kMaxFramePayload →
          ¬ frame.encoded <+: data) :
    ∃ error, decodeFrame data = .error error := by
  cases decoded : decodeFrame data with
  | error error => exact ⟨error, rfl⟩
  | ok frame =>
      obtain ⟨small, isPrefix⟩ := decodeFrame_eq_ok_iff.mp decoded
      exact absurd isPrefix (none frame small)

/-! ## Frames that begin alike -/

theorem code_injective
    [Enumerated α] :
    Function.Injective (code : α → UInt8) := by
  intro first second same
  have decoded := ofCode_code first
  rw [same, ofCode_code second] at decoded
  exact (Option.some.inj decoded).symm

theorem framePreamble_injective :
    Function.Injective framePreamble := by
  intro first second same
  have codes : code first = code second := by
    simpa [framePreamble, writeEnum, writeU8] using same
  exact code_injective codes

theorem length_eq_of_writeU64_eq
    {first second : Nat}
    (firstSmall : first ≤ kMaxFramePayload)
    (secondSmall : second ≤ kMaxFramePayload)
    (same : writeU64 (UInt64.ofNat first) = writeU64 (UInt64.ofNat second)) :
    first = second := by
  have numbers := congrArg UInt64.toNat (writeU64_injective same)
  rw [toNat_ofNat_payload firstSmall, toNat_ofNat_payload secondSmall]
    at numbers
  exact numbers

/-- The header fixes the length of the payload. -/
theorem length_eq_of_frameHeader_eq
    {first second : Frame}
    (firstSmall : first.payload.length ≤ kMaxFramePayload)
    (secondSmall : second.payload.length ≤ kMaxFramePayload)
    (same : frameHeader first = frameHeader second) :
    first.payload.length = second.payload.length := by
  rw [frameHeader_eq, frameHeader_eq] at same
  obtain ⟨_, lengths⟩ := List.append_inj same (by simp)
  exact length_eq_of_writeU64_eq firstSmall secondSmall lengths

/-- What stands before the contents of a frame is its header. -/
theorem header_of_prefix_encoded
    {frame : Frame}
    {header contents : List UInt8}
    (isHeader : header.length = 17)
    (isPrefix : frame.encoded <+: header ++ contents) :
    frameHeader frame = header ∧ frame.contents <+: contents := by
  obtain ⟨trailing, whole⟩ := isPrefix
  rw [encoded_eq, List.append_assoc] at whole
  obtain ⟨headers, rest⟩ :=
    List.append_inj whole (by rw [length_frameHeader, isHeader])
  exact ⟨headers, trailing, rest⟩

/-- A frame does not stand in what is left of another. -/
theorem not_encoded_prefix_take
    {frame other : Frame}
    {count : Nat}
    (small : frame.payload.length ≤ kMaxFramePayload)
    (otherSmall : other.payload.length ≤ kMaxFramePayload)
    (short : count < frame.encoded.length) :
    ¬ other.encoded <+: frame.encoded.take count := by
  intro isPrefix
  have fits := isPrefix.length_le
  have whole : other.encoded <+: frameHeader frame ++ frame.contents := by
    rw [← encoded_eq]
    exact isPrefix.trans (List.take_prefix count frame.encoded)
  have headers :=
    (header_of_prefix_encoded (length_frameHeader frame) whole).1
  have sameLength := length_eq_of_frameHeader_eq otherSmall small headers
  rw [List.length_take, length_encoded] at fits
  rw [length_encoded] at short
  omega

/-! ## One changed byte -/

/-- The frame that ends the payload at a length. -/
def Frame.cut (frame : Frame) (length : Nat) : Frame :=
  { frame with payload := frame.payload.take length }

/--
The frame passes for a shorter one when one byte of its length field changes:
the checksum of the shorter frame stands where that frame would end.
-/
structure Frame.Hides (frame : Frame) (length : Nat) : Prop where
  shorter : length < frame.payload.length
  oneByte :
    ∃ index byte,
      (writeU64 (UInt64.ofNat frame.payload.length)).set index byte =
        writeU64 (UInt64.ofNat length)
  checksum :
    (frame.contents.drop length).take 8 =
      writeU64 (fnv1a (frameBody (frame.cut length)))

theorem set_ne_self
    {bytes : List UInt8}
    {index : Nat}
    {byte replaced : UInt8}
    (found : bytes[index]? = some replaced)
    (different : byte ≠ replaced) :
    bytes.set index byte ≠ bytes := by
  intro same
  have inside := (List.getElem?_eq_some_iff.mp found).1
  rw [← same, List.getElem?_set_self inside] at found
  exact different (Option.some.inj found)

/-- A change of one byte does not lead to another frame of the same length. -/
theorem set_encoded_ne
    {frame other : Frame}
    {index : Nat}
    {byte replaced : UInt8}
    (sameLength : other.payload.length = frame.payload.length)
    (found : frame.encoded[index]? = some replaced)
    (different : byte ≠ replaced) :
    frame.encoded.set index byte ≠ other.encoded := by
  intro isOther
  have sameBodyLength :
      (frameBody frame).length = (frameBody other).length := by
    rw [frameBody_eq, frameBody_eq, List.length_append, List.length_append,
      length_frameHeader, length_frameHeader, sameLength]
  unfold Frame.encoded at found isOther
  by_cases inBody : index < (frameBody frame).length
  · rw [List.getElem?_append_left inBody] at found
    rw [List.set_append_left _ _ inBody] at isOther
    obtain ⟨bodies, sums⟩ :=
      List.append_inj isOther (by rw [List.length_set, sameBodyLength])
    have changed := fnv1a_set_ne found different
    rw [bodies] at changed
    exact changed (writeU64_injective sums).symm
  · have afterBody := Nat.not_lt.mp inBody
    rw [List.getElem?_append_right afterBody] at found
    rw [List.set_append_right _ _ afterBody] at isOther
    obtain ⟨bodies, sums⟩ := List.append_inj isOther sameBodyLength
    rw [← bodies] at sums
    exact set_ne_self found different sums

/-- A header that is another one but for a byte differs in the length. -/
theorem oneByte_of_frameHeader_set
    {frame other : Frame}
    {index : Nat}
    {byte : UInt8}
    (small : frame.payload.length ≤ kMaxFramePayload)
    (otherSmall : other.payload.length ≤ kMaxFramePayload)
    (shorter : other.payload.length < frame.payload.length)
    (headers : frameHeader other = (frameHeader frame).set index byte) :
    other.type = frame.type ∧
      (writeU64 (UInt64.ofNat frame.payload.length)).set (index - 9) byte =
        writeU64 (UInt64.ofNat other.payload.length) := by
  rw [frameHeader_eq, frameHeader_eq] at headers
  by_cases inPreamble : index < (framePreamble frame.type).length
  · rw [List.set_append_left _ _ inPreamble] at headers
    obtain ⟨_, lengths⟩ := List.append_inj headers (by simp)
    have sameLength := length_eq_of_writeU64_eq otherSmall small lengths
    omega
  · rw [List.set_append_right _ _ (Nat.not_lt.mp inPreamble),
      length_framePreamble] at headers
    obtain ⟨preambles, lengths⟩ := List.append_inj headers (by simp)
    exact ⟨framePreamble_injective preambles, lengths.symm⟩

/-- A shorter frame whose contents come first is the frame cut short. -/
theorem checksum_of_prefix_contents
    {frame other : Frame}
    (sameType : other.type = frame.type)
    (shorter : other.payload.length < frame.payload.length)
    (isPrefix : other.contents <+: frame.contents) :
    (frame.contents.drop other.payload.length).take 8 =
      writeU64 (fnv1a (frameBody (frame.cut other.payload.length))) := by
  have inContents : other.payload <+: frame.contents :=
    (List.prefix_append other.payload _).trans isPrefix
  have payloadFirst : other.payload <+: frame.payload :=
    List.prefix_of_prefix_length_le inContents
      (List.prefix_append frame.payload _) shorter.le
  have isCut : frame.cut other.payload.length = other := by
    rw [Frame.cut, ← List.prefix_iff_eq_take.mp payloadFirst, ← sameType]
  obtain ⟨trailing, whole⟩ := isPrefix
  rw [isCut, ← whole, Frame.contents, List.append_assoc, List.drop_left,
    List.take_left' (length_writeU64 _)]

/-- What is accepted after a change of one byte was hidden in the frame. -/
theorem hides_of_encoded_prefix_set
    {frame other : Frame}
    {index : Nat}
    {byte replaced : UInt8}
    (small : frame.payload.length ≤ kMaxFramePayload)
    (otherSmall : other.payload.length ≤ kMaxFramePayload)
    (found : frame.encoded[index]? = some replaced)
    (different : byte ≠ replaced)
    (isPrefix : other.encoded <+: frame.encoded.set index byte) :
    frame.Hides other.payload.length := by
  have fits := isPrefix.length_le
  rw [List.length_set, length_encoded, length_encoded] at fits
  rcases Nat.lt_or_eq_of_le (Nat.le_of_add_le_add_right fits) with
    shorter | sameLength
  · rw [encoded_eq frame] at isPrefix
    by_cases inHeader : index < (frameHeader frame).length
    · rw [List.set_append_left _ _ inHeader] at isPrefix
      obtain ⟨headers, contents⟩ :=
        header_of_prefix_encoded (by simp) isPrefix
      obtain ⟨sameType, lengths⟩ :=
        oneByte_of_frameHeader_set small otherSmall shorter headers
      exact ⟨shorter, ⟨index - 9, byte, lengths⟩,
        checksum_of_prefix_contents sameType shorter contents⟩
    · rw [List.set_append_right _ _ (Nat.not_lt.mp inHeader)] at isPrefix
      have headers :=
        (header_of_prefix_encoded (length_frameHeader frame) isPrefix).1
      have sameLength := length_eq_of_frameHeader_eq otherSmall small headers
      omega
  · have sameSize :
        other.encoded.length = (frame.encoded.set index byte).length := by
      rw [List.length_set, length_encoded, length_encoded, sameLength]
    exact absurd (isPrefix.eq_of_length sameSize).symm
      (set_encoded_ne sameLength found different)

/-- A frame that hides a shorter one is one byte away from it. -/
theorem accepted_of_hides
    {frame : Frame}
    {length : Nat}
    (small : frame.payload.length ≤ kMaxFramePayload)
    (hides : frame.Hides length) :
    ∃ index byte replaced,
      frame.encoded[index]? = some replaced ∧
      byte ≠ replaced ∧
      decodeFrame (frame.encoded.set index byte) =
        .ok (frame.cut length) := by
  obtain ⟨shorter, ⟨index, byte, lengths⟩, checksum⟩ := hides
  have cutLength : (frame.cut length).payload.length = length := by
    rw [Frame.cut, List.length_take]
    omega
  have lengthSmall : length ≤ kMaxFramePayload := by omega
  have changes :
      writeU64 (UInt64.ofNat frame.payload.length) ≠
        writeU64 (UInt64.ofNat length) := by
    intro same
    have sameLength := length_eq_of_writeU64_eq small lengthSmall same
    omega
  have inWord :
      index < (writeU64 (UInt64.ofNat frame.payload.length)).length := by
    by_contra outside
    rw [List.set_eq_of_length_le (Nat.not_lt.mp outside)] at lengths
    exact changes lengths
  have altered :
      frame.encoded.set (9 + index) byte =
        frameHeader (frame.cut length) ++ frame.contents := by
    rw [encoded_eq, frameHeader_eq, List.append_assoc,
      List.set_append_right _ _ (by simp), length_framePreamble,
      Nat.add_sub_cancel_left, List.set_append_left _ _ inWord, lengths,
      frameHeader_eq, cutLength, List.append_assoc]
    rfl
  have contents : (frame.cut length).contents <+: frame.contents := by
    have start : frame.contents.take length = frame.payload.take length := by
      rw [Frame.contents, List.take_append_of_le_length shorter.le]
    rw [Frame.contents, ← checksum, Frame.cut, ← start]
    exact ⟨(frame.contents.drop length).drop 8, by simp⟩
  refine ⟨9 + index, byte,
    (writeU64 (UInt64.ofNat frame.payload.length))[index], ?_, ?_, ?_⟩
  · rw [encoded_eq, frameHeader_eq, List.append_assoc,
      List.getElem?_append_right (by simp), length_framePreamble,
      Nat.add_sub_cancel_left, List.getElem?_append_left inWord,
      List.getElem?_eq_getElem inWord]
  · rintro rfl
    rw [List.set_getElem_self] at lengths
    exact changes lengths
  · rw [altered]
    apply decodeFrame_eq_ok_iff.mpr
    refine ⟨by omega, ?_⟩
    rw [encoded_eq, List.prefix_append_right_inj]
    exact contents

/--
Every change of one byte and every loss of bytes at the end of an encoded frame
is noticed exactly when the frame hides no shorter frame.
-/
theorem damaged_frame_is_rejected_iff
    {frame : Frame}
    (small : frame.payload.length ≤ kMaxFramePayload) :
    ∃ bytes,
      encodeFrame frame = .ok bytes ∧
      (((∀ index byte replaced,
            bytes[index]? = some replaced →
            byte ≠ replaced →
              ∃ error, decodeFrame (bytes.set index byte) = .error error) ∧
          ∀ count,
            count < bytes.length →
              ∃ error, decodeFrame (bytes.take count) = .error error) ↔
        ∀ length, ¬ frame.Hides length) := by
  refine ⟨frame.encoded, encodeFrame_eq small, ?_, ?_⟩
  · rintro ⟨rejected, _⟩ length hides
    obtain ⟨index, byte, replaced, found, different, accepted⟩ :=
      accepted_of_hides small hides
    obtain ⟨error, refused⟩ := rejected index byte replaced found different
    rw [accepted] at refused
    cases refused
  · intro hidesNone
    constructor
    · intro index byte replaced found different
      apply rejected_of_no_frame
      intro other otherSmall isPrefix
      exact hidesNone _
        (hides_of_encoded_prefix_set small otherSmall found different
          isPrefix)
    · intro count short
      apply rejected_of_no_frame
      intro other otherSmall
      exact not_encoded_prefix_take small otherSmall short

/-- The greeting of the second coordinator that runs on a store. -/
def greeting : Frame :=
  { type := .hello, payload := encodeMessage { epoch := ⟨2⟩ } }

/-- No byte of the greeting's payload passes for a checksum. -/
theorem damaged_greeting_is_rejected :
    ∃ bytes,
      encodeFrame greeting = .ok bytes ∧
      (∀ index byte replaced,
        bytes[index]? = some replaced →
        byte ≠ replaced →
          ∃ error, decodeFrame (bytes.set index byte) = .error error) ∧
      ∀ count,
        count < bytes.length →
          ∃ error, decodeFrame (bytes.take count) = .error error := by
  obtain ⟨bytes, encoded, rejectedIff⟩ :=
    @damaged_frame_is_rejected_iff greeting (by decide)
  refine ⟨bytes, encoded, rejectedIff.mpr ?_⟩
  intro length hides
  have mismatched :
      ∀ length < greeting.payload.length,
        (greeting.contents.drop length).take 8 ≠
          writeU64 (fnv1a (frameBody (greeting.cut length))) := by
    decide +kernel
  exact mismatched length hides.shorter hides.checksum

/-- A greeting of which the payload is the checksum of an empty greeting. -/
def hidingFrame : Frame :=
  { type := .hello
    payload := writeU64 (fnv1a (frameBody { type := .hello })) }

/-- The length of the payload changes from eight to zero. -/
theorem frame_with_changed_length_is_accepted :
    hidingFrame.payload.length ≤ kMaxFramePayload ∧
      ∃ bytes,
        encodeFrame hidingFrame = .ok bytes ∧
        bytes[9]? = some 8 ∧
        decodeFrame (bytes.set 9 0) = .ok { type := .hello } := by
  have small : hidingFrame.payload.length ≤ kMaxFramePayload := by decide
  refine ⟨small, hidingFrame.encoded, encodeFrame_eq small, by decide, ?_⟩
  apply decodeFrame_eq_ok_iff.mpr
  exact ⟨by decide, by decide +kernel⟩

end CommunicationPlanner
