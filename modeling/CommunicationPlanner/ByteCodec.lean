import Mathlib.Control.Monad.Basic
import Mathlib.Data.List.Forall2
import Mathlib.Data.UInt

/-!
# Little-endian byte writers and readers

A writer is a function into byte lists; a reader consumes a prefix of a byte
list in a monad of failures.  `Reads reader bytes value` says that the reader,
on any input that starts with `bytes`, returns `value` and leaves exactly the
rest.  It composes along monadic sequencing, so a record format is verified
field by field: the proof follows the field list of the writer.

`Yields reader size good` is the converse judgment: whatever the input is, a
value that the reader returns is good and was made from `size value` bytes.
`FailsWith reader failure` bounds the errors that a reader can end with.

Counts are written before the items they count, strings are written with an
eight-byte length, and an enumeration is written as the position of its
constructor.
-/

namespace ByteCodec

/-- The unread part of the input. -/
abbrev Stream := List UInt8

/-- A reader with failures in `m`. -/
abbrev Reader (m : Type → Type) (α : Type) := StateT Stream m α

variable {m : Type → Type} [Monad m] {α β : Type}

/-- The reader turns `bytes` into `value`, whatever follows them. -/
def Reads
    (reader : Reader m α)
    (bytes : Stream)
    (value : α) : Prop :=
  ∀ rest, reader.run (bytes ++ rest) = pure (value, rest)

namespace Reads

/-- Returning a value consumes nothing. -/
theorem pure
    (value : α) :
    Reads (m := m) (Pure.pure value) [] value := by
  intro rest
  simp

/-- On exactly its own bytes a reader leaves nothing. -/
theorem run_all
    {reader : Reader m α}
    {bytes : Stream}
    {value : α}
    (reads : Reads reader bytes value) :
    reader.run bytes = Pure.pure (value, []) := by
  simpa using reads []

variable [LawfulMonad m]

/-- Sequenced readers consume concatenated bytes. -/
theorem bind
    {reader : Reader m α}
    {next : α → Reader m β}
    {first second : Stream}
    {value : α}
    {result : β}
    (reads : Reads reader first value)
    (readsNext : Reads (next value) second result) :
    Reads (reader >>= next) (first ++ second) result := by
  intro rest
  have step := reads (second ++ rest)
  rw [List.append_assoc, StateT.run_bind, step]
  simpa using readsNext rest

/-- What follows a reader runs on the rest. -/
theorem run_bind
    {reader : Reader m α}
    {next : α → Reader m β}
    {bytes : Stream}
    {value : α}
    (reads : Reads reader bytes value)
    (rest : Stream) :
    (reader >>= next).run (bytes ++ rest) = (next value).run rest := by
  rw [StateT.run_bind, reads rest, pure_bind]

/-- A reader followed by a pure function reads the image of the value. -/
theorem map
    {reader : Reader m α}
    {bytes : Stream}
    {value : α}
    (function : α → β)
    (reads : Reads reader bytes value) :
    Reads (function <$> reader) bytes (function value) := by
  intro rest
  simp [reads rest]

end Reads

/-- Run a counted loop of readers, collecting the values in order. -/
def readCount
    (reader : Reader m α) :
    Nat → Reader m (List α)
  | 0 => pure []
  | count + 1 => do
      let first ← reader
      let rest ← readCount reader count
      pure (first :: rest)

/-- A counted loop reads the pieces that its values are read from. -/
theorem Reads.pieces
    [LawfulMonad m]
    {reader : Reader m α}
    {pieces : List Stream}
    {values : List α}
    (reads : List.Forall₂ (Reads reader) pieces values) :
    Reads (readCount reader values.length) pieces.flatten values := by
  induction reads with
  | nil =>
      exact Reads.pure []
  | @cons piece value pieces values readsFirst _ inductionHypothesis =>
      have combined :
          Reads (readCount reader (values.length + 1))
            (piece ++ (pieces.flatten ++ [])) (value :: values) := by
        refine readsFirst.bind ?_
        refine inductionHypothesis.bind ?_
        exact Reads.pure _
      simpa using combined

/-- A counted loop reads what each of the concatenated items reads as. -/
theorem Reads.count_map
    [LawfulMonad m]
    {reader : Reader m β}
    {write : α → Stream}
    {image : α → β}
    {values : List α}
    (reads : ∀ value ∈ values, Reads reader (write value) (image value)) :
    Reads (readCount reader values.length) (values.flatMap write)
      (values.map image) := by
  have pieces :
      List.Forall₂ (Reads reader) (values.map write) (values.map image) := by
    rw [List.forall₂_map_left_iff, List.forall₂_map_right_iff,
      List.forall₂_same]
    exact reads
  have read := Reads.pieces pieces
  rw [List.length_map, ← List.flatMap_def] at read
  exact read

/-- A counted loop reads back the concatenation of its items. -/
theorem Reads.count
    [LawfulMonad m]
    {reader : Reader m α}
    {write : α → Stream}
    {values : List α}
    (reads : ∀ value ∈ values, Reads reader (write value) value) :
    Reads (readCount reader values.length) (values.flatMap write) values := by
  have mapped :
      Reads (readCount reader values.length) (values.flatMap write)
        (values.map id) :=
    Reads.count_map reads
  simpa using mapped

/-- Attach an error to the failure of a reader. -/
def orFail
    {ε : Type}
    (failure : ε)
    (reader : Reader Option α) :
    Reader (Except ε) α :=
  fun stream =>
    match reader.run stream with
    | none => .error failure
    | some result => .ok result

/-- Attaching an error does not change what is read. -/
theorem Reads.orFail
    {ε : Type}
    {reader : Reader Option α}
    {bytes : Stream}
    {value : α}
    (failure : ε)
    (reads : Reads reader bytes value) :
    Reads (ByteCodec.orFail failure reader) bytes value := by
  intro rest
  simp only [ByteCodec.orFail, StateT.run]
  have step : reader (bytes ++ rest) = some (value, rest) := reads rest
  rw [step]
  rfl

/-- Fail unless the value just read is acceptable. -/
def checked
    (acceptable : α → Bool)
    (reader : Reader Option α) :
    Reader Option α := do
  let value ← reader
  if acceptable value then pure value else failure

/-- An acceptable value passes the check. -/
theorem Reads.checked
    {acceptable : α → Bool}
    {reader : Reader Option α}
    {bytes : Stream}
    {value : α}
    (reads : Reads reader bytes value)
    (accepted : acceptable value = true) :
    Reads (ByteCodec.checked acceptable reader) bytes value := by
  have combined :
      Reads (ByteCodec.checked acceptable reader)
        (bytes ++ []) value := by
    apply reads.bind
    simpa [accepted] using Reads.pure (m := Option) value
  simpa using combined

/-! ## Fixed-width integers -/

/-- The `width` low bytes of a number, least significant first. -/
def littleEndian : (width value : Nat) → Stream
  | 0, _ => []
  | width + 1, value =>
      UInt8.ofNat (value % 256) :: littleEndian width (value / 256)

/-- The number denoted by bytes, least significant first. -/
def ofLittleEndian : Stream → Nat
  | [] => 0
  | byte :: rest => byte.toNat + 256 * ofLittleEndian rest

/-- A number takes as many bytes as its width says. -/
@[simp] theorem length_littleEndian
    (width value : Nat) :
    (littleEndian width value).length = width := by
  induction width generalizing value with
  | zero =>
      rfl
  | succ width inductionHypothesis =>
      simp [littleEndian, inductionHypothesis]

/-- Writing and reading a number that fits its width is the identity. -/
theorem ofLittleEndian_littleEndian
    (width value : Nat)
    (fits : value < 256 ^ width) :
    ofLittleEndian (littleEndian width value) = value := by
  induction width generalizing value with
  | zero =>
      simp only [Nat.pow_zero, Nat.lt_one_iff] at fits
      simp [littleEndian, ofLittleEndian, fits]
  | succ width inductionHypothesis =>
      have quotientFits : value / 256 < 256 ^ width := by
        apply Nat.div_lt_of_lt_mul
        rw [Nat.mul_comm, ← Nat.pow_succ]
        exact fits
      have lowByte :
          (UInt8.ofNat (value % 256)).toNat = value % 256 := by
        simp [UInt8.toNat_ofNat']
      simp only [littleEndian, ofLittleEndian, lowByte,
        inductionHypothesis _ quotientFits]
      omega

/-- Read one byte. -/
def readU8 : Reader Option UInt8 :=
  fun stream =>
    match stream with
    | [] => none
    | byte :: rest => some (byte, rest)

/-- Read the given number of bytes. -/
def readBytes (width : Nat) : Reader Option Stream :=
  readCount readU8 width

/-- One byte. -/
def writeU8 (value : UInt8) : Stream :=
  [value]

/-- Four bytes, the low one first. -/
def writeU32 (value : UInt32) : Stream :=
  littleEndian 4 value.toNat

/-- Eight bytes, the low one first. -/
def writeU64 (value : UInt64) : Stream :=
  littleEndian 8 value.toNat

/-- One byte, which is one or zero. -/
def writeBool (value : Bool) : Stream :=
  writeU8 (if value then 1 else 0)

/-- Four bytes, the low one first. -/
def readU32 : Reader Option UInt32 :=
  (fun bytes => UInt32.ofNat (ofLittleEndian bytes)) <$> readBytes 4

/-- Eight bytes, the low one first. -/
def readU64 : Reader Option UInt64 :=
  (fun bytes => UInt64.ofNat (ofLittleEndian bytes)) <$> readBytes 8

/-- Any non-zero byte reads as true. -/
def readBool : Reader Option Bool :=
  (fun byte => byte != 0) <$> readU8

/-- A byte is read back. -/
theorem reads_u8
    (value : UInt8) :
    Reads readU8 (writeU8 value) value := by
  intro rest
  rfl

/-- Reading as many bytes as there are returns them. -/
theorem reads_bytes
    (bytes : Stream) :
    Reads (readBytes bytes.length) bytes bytes := by
  have concatenation : bytes.flatMap writeU8 = bytes := by
    induction bytes with
    | nil =>
        rfl
    | cons byte rest inductionHypothesis =>
        simp [writeU8, inductionHypothesis]
  have counted :
      Reads (readCount readU8 bytes.length)
        (bytes.flatMap writeU8) bytes :=
    Reads.count fun value _ => reads_u8 value
  rw [concatenation] at counted
  exact counted

/-- A number that fits its width is read back. -/
private theorem reads_littleEndian
    (width value : Nat)
    (fits : value < 256 ^ width) :
    Reads (ofLittleEndian <$> readBytes width)
      (littleEndian width value) value := by
  have read := reads_bytes (littleEndian width value)
  rw [length_littleEndian] at read
  simpa [ofLittleEndian_littleEndian width value fits] using
    read.map ofLittleEndian

/-- A 32-bit number is read back. -/
theorem reads_u32
    (value : UInt32) :
    Reads readU32 (writeU32 value) value := by
  have fits : value.toNat < 256 ^ 4 := value.toNat_lt
  have read :=
    (reads_littleEndian 4 value.toNat fits).map UInt32.ofNat
  simpa [readU32, writeU32, Functor.map_map] using read

/-- A 64-bit number is read back. -/
theorem reads_u64
    (value : UInt64) :
    Reads readU64 (writeU64 value) value := by
  have fits : value.toNat < 256 ^ 8 := value.toNat_lt
  have read :=
    (reads_littleEndian 8 value.toNat fits).map UInt64.ofNat
  simpa [readU64, writeU64, Functor.map_map] using read

theorem writeU64_injective :
    Function.Injective writeU64 := by
  intro first second same
  have readFirst := (reads_u64 first).run_all
  rw [same, (reads_u64 second).run_all] at readFirst
  cases readFirst
  rfl

/-- A Boolean is read back. -/
theorem reads_bool
    (value : Bool) :
    Reads readBool (writeBool value) value := by
  have read := (reads_u8 (if value then 1 else 0)).map fun byte => byte != 0
  cases value <;> simpa [readBool, writeBool] using read

/-! ## Strings -/

/-- An eight-byte length and then the bytes. -/
def writeString (value : List UInt8) : Stream :=
  writeU64 (UInt64.ofNat value.length) ++ value

/-- A string longer than the limit is refused before it is read. -/
def readString (limit : Nat) : Reader Option (List UInt8) := do
  let length ← checked (fun length => length.toNat ≤ limit) readU64
  readBytes length.toNat

/-- A string within the limit is read back. -/
theorem reads_string
    {limit : Nat}
    (representable : limit < 2 ^ 64)
    {value : List UInt8}
    (short : value.length ≤ limit) :
    Reads (readString limit) (writeString value) value := by
  have lengthValue :
      (UInt64.ofNat value.length).toNat = value.length := by
    rw [UInt64.toNat_ofNat']
    exact Nat.mod_eq_of_lt (by omega)
  have accepted :
      decide ((UInt64.ofNat value.length).toNat ≤ limit) = true := by
    simpa [lengthValue] using short
  apply ((reads_u64 _).checked accepted).bind
  rw [lengthValue]
  exact reads_bytes value

/-! ## Enumerations -/

/-- A type coded in one byte by the position of its constructors. -/
class Enumerated (α : Type) where
  all : List α
  position : α → Nat
  position_lt : ∀ value, position value < 256
  all_position : ∀ value, all[position value]? = some value

/-- The byte that stands for a value. -/
def code [Enumerated α] (value : α) : UInt8 :=
  UInt8.ofNat (Enumerated.position value)

/-- The value a byte stands for; bytes past the last constructor have none. -/
def ofCode [Enumerated α] (byte : UInt8) : Option α :=
  (Enumerated.all)[byte.toNat]?

/-- The code of a constructor stands for it. -/
@[simp] theorem ofCode_code
    [Enumerated α]
    (value : α) :
    ofCode (code value) = some value := by
  have small := Enumerated.position_lt value
  have position :
      (UInt8.ofNat (Enumerated.position value)).toNat =
        Enumerated.position value := by
    rw [UInt8.toNat_ofNat']
    exact Nat.mod_eq_of_lt small
  simp only [ofCode, code, position]
  exact Enumerated.all_position value

/-- An enumeration that lists every value once. -/
class Enumerated.Distinct (α : Type) [Enumerated α] : Prop where
  nodup : (Enumerated.all : List α).Nodup

/-- Only one byte stands for a value. -/
theorem code_of_ofCode
    [Enumerated α]
    [Enumerated.Distinct α]
    {byte : UInt8}
    {value : α}
    (known : ofCode byte = some value) :
    code value = byte := by
  have listed := Enumerated.all_position value
  have inside := (List.getElem?_eq_some_iff.mp known).1
  have samePosition : byte.toNat = Enumerated.position value :=
    (List.getElem?_inj inside Enumerated.Distinct.nodup).mp
      (known.trans listed.symm)
  rw [code, ← samePosition, UInt8.ofNat_toNat]

/-- One byte, the code of the constructor. -/
def writeEnum [Enumerated α] (value : α) : Stream :=
  writeU8 (code value)

/-- One byte, which has to be the code of a constructor. -/
def readEnum [Enumerated α] : Reader Option α := do
  let byte ← readU8
  match ofCode byte with
  | some value => pure value
  | none => failure

/-- A constructor is read back. -/
theorem reads_enum
    [Enumerated α]
    (value : α) :
    Reads readEnum (writeEnum value) value := by
  have combined :
      Reads (m := Option) readEnum
        (writeU8 (code value) ++ []) value := by
    apply (reads_u8 (code value)).bind
    simpa using Reads.pure (m := Option) value
  simpa [writeEnum] using combined

/-- A byte that must be there and must stand for a constructor. -/
def enumOrFail
    [Enumerated α]
    {ε : Type}
    (missing invalid : ε) : Reader (Except ε) α := do
  let byte ← orFail missing readU8
  match ofCode byte with
  | some value => pure value
  | none => throw invalid

theorem reads_enumOrFail
    [Enumerated α]
    {ε : Type}
    (missing invalid : ε)
    (value : α) :
    Reads (enumOrFail missing invalid) (writeEnum value) value := by
  have combined :
      Reads (enumOrFail missing invalid)
        (writeU8 (code value) ++ []) value := by
    refine ((reads_u8 (code value)).orFail missing).bind ?_
    rw [ofCode_code]
    exact Reads.pure value
  simpa [writeEnum] using combined

/-- A four-byte count that must be there and within the limit, and the items. -/
def itemsOrFail
    {ε : Type}
    (limit : Nat)
    (missing tooMany : ε)
    (item : Reader (Except ε) α) : Reader (Except ε) (List α) := do
  let count ← orFail missing readU32
  if limit < count.toNat then
    throw tooMany
  else
    readCount item count.toNat

/-- A count beyond the limit is refused, whatever follows it. -/
theorem run_itemsOrFail_of_tooMany
    {ε : Type}
    {limit : Nat}
    {count : UInt32}
    {missing tooMany : ε}
    {item : Reader (Except ε) α}
    (tooLong : limit < count.toNat)
    (rest : Stream) :
    (itemsOrFail limit missing tooMany item).run (writeU32 count ++ rest) =
      .error tooMany := by
  unfold itemsOrFail
  rw [((reads_u32 count).orFail missing).run_bind, if_pos tooLong]
  rfl

/-! ## What is read, whatever the input -/

/-- A monad of failures in which a sequence returns only if its parts do. -/
class Invertible (m : Type → Type) [Monad m] : Prop where
  pure_inj :
    ∀ {α : Type} {first second : α},
      (pure first : m α) = pure second → first = second
  bind_eq_pure :
    ∀ {α β : Type} {first : m α} {next : α → m β} {result : β},
      (first >>= next) = pure result →
        ∃ value, first = pure value ∧ next value = pure result

instance : Invertible Option where
  pure_inj same := Option.some.inj same
  bind_eq_pure {_ _ first _ _} same := by
    cases first with
    | none => cases same
    | some value => exact ⟨value, rfl, same⟩

instance {ε : Type} : Invertible (Except ε) where
  pure_inj same := Except.ok.inj same
  bind_eq_pure {_ _ first _ _} same := by
    cases first with
    | error failure => cases same
    | ok value => exact ⟨value, rfl, same⟩

/-- Both readers of a sequence that returns return. -/
theorem returned_of_bind
    [Invertible m]
    [LawfulMonad m]
    {reader : Reader m α}
    {next : α → Reader m β}
    {stream rest : Stream}
    {result : β}
    (ran : (reader >>= next).run stream = pure (result, rest)) :
    ∃ value middle,
      reader.run stream = pure (value, middle) ∧
      (next value).run middle = pure (result, rest) := by
  rw [StateT.run_bind] at ran
  obtain ⟨⟨value, middle⟩, first, second⟩ := Invertible.bind_eq_pure ran
  exact ⟨value, middle, first, second⟩

/-- A guard that throws, in a computation that returned. -/
theorem ok_of_unless
    {ε : Type}
    {condition : Prop}
    [Decidable condition]
    {error : ε}
    {computation : Except ε α}
    {value : α}
    (ran : (if condition then throw error else computation) = .ok value) :
    ¬condition ∧ computation = .ok value := by
  by_cases refused : condition
  · rw [if_pos refused] at ran
    cases ran
  · rw [if_neg refused] at ran
    exact ⟨refused, ran⟩

/-- A guard that throws, in a reader that returned. -/
theorem returned_of_unless
    {ε : Type}
    {condition : Prop}
    [Decidable condition]
    {error : ε}
    {reader : Reader (Except ε) α}
    {stream : Stream}
    {returned : α × Stream}
    (ran :
      (if condition then throw error else reader).run stream =
        .ok returned) :
    ¬condition ∧ reader.run stream = .ok returned := by
  rw [apply_ite fun parser : Reader (Except ε) α => parser.run stream] at ran
  exact ok_of_unless ran

/-- A returned value and the number of bytes it took are related. -/
def Consumes
    (reader : Reader m α)
    (post : α → Nat → Prop) : Prop :=
  ∀ stream value rest,
    reader.run stream = pure (value, rest) →
      ∃ count, stream.length = count + rest.length ∧ post value count

/-- A returned value is good and took as many bytes as its size. -/
def Yields
    (reader : Reader m α)
    (size : α → Nat)
    (good : α → Prop) : Prop :=
  Consumes reader fun value count => count = size value ∧ good value

/-- A returned value and the bytes it was made from are related. -/
def Takes
    (reader : Reader m α)
    (post : α → Stream → Prop) : Prop :=
  ∀ stream value rest,
    reader.run stream = pure (value, rest) →
      ∃ bytes, stream = bytes ++ rest ∧ post value bytes

/-- A returned value is good and was made from the bytes that write it. -/
def Inverts
    (reader : Reader m α)
    (write : α → Stream)
    (good : α → Prop) : Prop :=
  Takes reader fun value bytes => bytes = write value ∧ good value

/-- A returned value was made from exactly the bytes that write it. -/
def Exact
    (reader : Reader m α)
    (write : α → Stream) : Prop :=
  ∀ stream value rest,
    reader.run stream = pure (value, rest) → stream = write value ++ rest

theorem Exact.inverts
    {reader : Reader m α}
    {write : α → Stream}
    (isExact : Exact reader write) :
    Inverts reader write fun _ => True :=
  fun stream value rest ran =>
    ⟨write value, isExact stream value rest ran, rfl, trivial⟩

theorem Exact.of_takes
    {reader : Reader m α}
    {write : α → Stream}
    (takes : Takes reader fun value bytes => bytes = write value) :
    Exact reader write := by
  intro stream value rest ran
  obtain ⟨bytes, taken, rfl⟩ := takes stream value rest ran
  exact taken

theorem Takes.imp
    {reader : Reader m α}
    {post weaker : α → Stream → Prop}
    (takes : Takes reader post)
    (implies : ∀ value bytes, post value bytes → weaker value bytes) :
    Takes reader weaker := by
  intro stream value rest ran
  obtain ⟨bytes, taken, holds⟩ := takes stream value rest ran
  exact ⟨bytes, taken, implies value bytes holds⟩

/-- Of the bytes only their number is kept. -/
theorem Takes.yields
    {reader : Reader m α}
    {post : α → Stream → Prop}
    {size : α → Nat}
    {good : α → Prop}
    (takes : Takes reader post)
    (sized :
      ∀ value bytes,
        post value bytes → bytes.length = size value ∧ good value) :
    Yields reader size good := by
  intro stream value rest ran
  obtain ⟨bytes, rfl, holds⟩ := takes stream value rest ran
  exact ⟨bytes.length, by simp, sized value bytes holds⟩

section

variable [Invertible m]

theorem Takes.pure
    {value : α}
    {post : α → Stream → Prop}
    (holds : post value []) :
    Takes (Pure.pure value : Reader m α) post := by
  intro stream returned rest ran
  obtain ⟨rfl, rfl⟩ := Prod.mk.inj (Invertible.pure_inj (m := m) ran)
  exact ⟨[], rfl, holds⟩

variable [LawfulMonad m]

/-- What a sequence of readers takes is the concatenation. -/
theorem Takes.bind
    {reader : Reader m α}
    {next : α → Reader m β}
    {spells : α → Stream → Prop}
    {post : β → Stream → Prop}
    (takes : Takes reader spells)
    (takesNext :
      ∀ value bytes, spells value bytes →
        Takes (next value) fun result more => post result (bytes ++ more)) :
    Takes (reader >>= next) post := by
  intro stream result rest ran
  obtain ⟨value, middle, first, second⟩ := returned_of_bind ran
  obtain ⟨bytes, rfl, spelled⟩ := takes stream value middle first
  obtain ⟨more, rfl, holds⟩ :=
    takesNext value bytes spelled middle result rest second
  exact ⟨bytes ++ more, by simp, holds⟩

theorem Inverts.bind
    {reader : Reader m α}
    {next : α → Reader m β}
    {write : α → Stream}
    {good : α → Prop}
    {post : β → Stream → Prop}
    (inverts : Inverts reader write good)
    (takesNext :
      ∀ value, good value →
        Takes (next value)
          fun result more => post result (write value ++ more)) :
    Takes (reader >>= next) post := by
  refine Takes.bind inverts fun value bytes spelled => ?_
  rw [spelled.1]
  exact takesNext value spelled.2

theorem Takes.map
    {reader : Reader m α}
    {function : α → β}
    {post : β → Stream → Prop}
    (takes : Takes reader fun value bytes => post (function value) bytes) :
    Takes (function <$> reader) post := by
  rw [← bind_pure_comp]
  refine takes.bind fun value bytes holds => ?_
  exact Takes.pure (by rwa [List.append_nil])

/-- The image of a value is written as the value was. -/
theorem Exact.map
    {reader : Reader m α}
    {function : α → β}
    {inverse : β → α}
    {write : α → Stream}
    (isExact : Exact reader write)
    (inverts : ∀ value, inverse (function value) = value) :
    Exact (function <$> reader) fun image => write (inverse image) := by
  refine Exact.of_takes (Takes.map (isExact.inverts.imp ?_))
  intro value bytes isWritten
  rw [inverts, isWritten.1]

/-- A counted loop takes a piece for each of its values. -/
theorem Takes.readCount
    {reader : Reader m α}
    {spells : α → Stream → Prop}
    (takes : Takes reader spells)
    (count : Nat) :
    Takes (ByteCodec.readCount reader count) fun values bytes =>
      values.length = count ∧
        ∃ pieces,
          List.Forall₂ spells values pieces ∧ bytes = pieces.flatten := by
  induction count with
  | zero =>
      exact Takes.pure ⟨rfl, [], .nil, rfl⟩
  | succ count inductionHypothesis =>
      refine takes.bind fun first bytes spelled => ?_
      refine inductionHypothesis.bind fun rest restBytes restSpelled => ?_
      obtain ⟨isCount, pieces, spelledRest, isPieces⟩ := restSpelled
      refine Takes.pure ⟨by simp [isCount], bytes :: pieces, ?_, ?_⟩
      · exact .cons spelled spelledRest
      · simp [isPieces]

end

theorem Takes.orFail
    {ε : Type}
    {failure : ε}
    {reader : Reader Option α}
    {post : α → Stream → Prop}
    (takes : Takes reader post) :
    Takes (ByteCodec.orFail failure reader) post := by
  intro stream value rest ran
  refine takes stream value rest ?_
  simp only [ByteCodec.orFail, StateT.run] at ran ⊢
  split at ran
  · cases ran
  · rename_i result returned
    cases ran
    exact returned

theorem Inverts.orFail
    {ε : Type}
    {failure : ε}
    {reader : Reader Option α}
    {write : α → Stream}
    {good : α → Prop}
    (inverts : Inverts reader write good) :
    Inverts (ByteCodec.orFail failure reader) write good :=
  Takes.orFail inverts

theorem Inverts.checked
    {acceptable : α → Bool}
    {reader : Reader Option α}
    {write : α → Stream}
    {good : α → Prop}
    (inverts : Inverts reader write good) :
    Inverts (ByteCodec.checked acceptable reader) write
      fun value => good value ∧ acceptable value = true := by
  refine inverts.bind fun value isGood => ?_
  by_cases accepted : acceptable value = true
  · rw [if_pos accepted]
    exact Takes.pure ⟨by simp, isGood, accepted⟩
  · rw [if_neg accepted]
    intro stream returned rest ran
    cases ran

/-- A guard that throws lets only what it accepts through. -/
theorem takes_unless
    {ε : Type}
    {condition : Prop}
    [Decidable condition]
    {error : ε}
    {reader : Reader (Except ε) α}
    {post : α → Stream → Prop}
    (takes : ¬condition → Takes reader post) :
    Takes (if condition then throw error else reader) post := by
  intro stream value rest ran
  obtain ⟨accepted, ran⟩ := returned_of_unless ran
  exact takes accepted stream value rest ran

/-! ## Readers that invert their writer -/

theorem Exact.orFail
    {ε : Type}
    {failure : ε}
    {reader : Reader Option α}
    {write : α → Stream}
    (isExact : Exact reader write) :
    Exact (ByteCodec.orFail failure reader) write := by
  intro stream value rest ran
  obtain ⟨bytes, taken, isWritten, _⟩ :=
    isExact.inverts.orFail stream value rest ran
  rw [taken, isWritten]

/-- A byte is read from its own spelling only. -/
theorem exact_u8 : Exact readU8 writeU8 := by
  intro stream byte rest ran
  cases stream with
  | nil => cases ran
  | cons head tail =>
      cases ran
      rfl

/-- As many bytes are read as were asked for. -/
theorem inverts_bytes
    (width : Nat) :
    Inverts (readBytes width) id fun bytes => bytes.length = width := by
  induction width with
  | zero =>
      exact Takes.pure ⟨rfl, rfl⟩
  | succ width inductionHypothesis =>
      refine exact_u8.inverts.bind fun byte _ => ?_
      refine inductionHypothesis.bind fun bytes isWidth => ?_
      exact Takes.pure ⟨by simp [writeU8], by simp [isWidth]⟩

theorem exact_enumOrFail
    [Enumerated α]
    [Enumerated.Distinct α]
    {ε : Type}
    {missing invalid : ε} :
    Exact (enumOrFail missing invalid : Reader (Except ε) α) writeEnum := by
  intro stream value rest ran
  obtain ⟨byte, afterByte, first, decoded⟩ := returned_of_bind ran
  rw [exact_u8.orFail stream byte afterByte first]
  cases known : (ofCode byte : Option α) with
  | none =>
      rw [known] at decoded
      cases decoded
  | some decodedValue =>
      rw [known] at decoded
      cases decoded
      rw [writeEnum, code_of_ofCode known]

/-- A constructor is read from its own spelling only. -/
theorem exact_enum
    [Enumerated α]
    [Enumerated.Distinct α] :
    Exact (readEnum : Reader Option α) writeEnum := by
  intro stream value rest ran
  obtain ⟨byte, afterByte, first, decoded⟩ := returned_of_bind ran
  rw [exact_u8 stream byte afterByte first]
  cases known : (ofCode byte : Option α) with
  | none =>
      rw [known] at decoded
      cases decoded
  | some decodedValue =>
      rw [known] at decoded
      cases decoded
      rw [writeEnum, code_of_ofCode known]

/-- A number is determined by its bytes. -/
theorem littleEndian_ofLittleEndian
    (bytes : Stream) :
    littleEndian bytes.length (ofLittleEndian bytes) = bytes := by
  induction bytes with
  | nil => rfl
  | cons byte rest inductionHypothesis =>
      have small := byte.toNat_lt
      have low :
          (byte.toNat + 256 * ofLittleEndian rest) % 256 = byte.toNat := by
        omega
      have high :
          (byte.toNat + 256 * ofLittleEndian rest) / 256 =
            ofLittleEndian rest := by
        omega
      simp only [List.length_cons, littleEndian, ofLittleEndian, low, high,
        inductionHypothesis, UInt8.ofNat_toNat]

/-- So many bytes make a number of so many bytes. -/
theorem ofLittleEndian_lt
    (bytes : Stream) :
    ofLittleEndian bytes < 256 ^ bytes.length := by
  induction bytes with
  | nil => simp [ofLittleEndian]
  | cons byte rest inductionHypothesis =>
      have small := byte.toNat_lt
      simp only [ofLittleEndian, List.length_cons, Nat.pow_succ]
      omega

/-- A word is made from as many bytes as it is wide. -/
private theorem exact_word
    {word : Type}
    {ofNat : Nat → word}
    {toNat : word → Nat}
    {width : Nat}
    (represents :
      ∀ value, value < 256 ^ width → toNat (ofNat value) = value) :
    Exact ((fun bytes => ofNat (ofLittleEndian bytes)) <$> readBytes width)
      fun value => littleEndian width (toNat value) := by
  refine Exact.of_takes (Takes.map ((inverts_bytes width).imp ?_))
  intro read bytes isRead
  obtain ⟨rfl, isWidth⟩ := isRead
  have small := ofLittleEndian_lt bytes
  have same := littleEndian_ofLittleEndian bytes
  rw [isWidth] at small same
  rw [represents _ small, same]

/-- A 32-bit number is read from its own spelling only. -/
theorem exact_u32 : Exact readU32 writeU32 :=
  exact_word fun value small => by
    rw [UInt32.toNat_ofNat']
    exact Nat.mod_eq_of_lt small

/-- A 64-bit number is read from its own spelling only. -/
theorem exact_u64 : Exact readU64 writeU64 :=
  exact_word fun value small => by
    rw [UInt64.toNat_ofNat']
    exact Nat.mod_eq_of_lt small

/-- Every byte but zero stands for `true`. -/
def SpellsBool (value : Bool) (bytes : Stream) : Prop :=
  ∃ byte : UInt8, (byte != 0) = value ∧ bytes = writeU8 byte

theorem reads_spelledBool
    {value : Bool}
    {bytes : Stream}
    (spelled : SpellsBool value bytes) :
    Reads readBool bytes value := by
  obtain ⟨byte, rfl, rfl⟩ := spelled
  exact (reads_u8 byte).map fun byte => byte != 0

/-- A Boolean is read from one byte, whichever stands for it. -/
theorem takes_bool : Takes readBool SpellsBool :=
  Takes.map <| exact_u8.inverts.imp fun byte _ isWritten =>
    ⟨byte, rfl, isWritten.1⟩

/-- A string is read from its own spelling only, and within the limit. -/
theorem inverts_string
    (limit : Nat) :
    Inverts (readString limit) writeString
      fun value => value.length ≤ limit := by
  refine exact_u64.inverts.checked.bind fun length accepted => ?_
  intro stream value rest ran
  obtain ⟨bytes, taken, rfl, isLength⟩ :=
    inverts_bytes length.toNat stream value rest ran
  have short : length.toNat ≤ limit := by simpa using accepted.2
  refine ⟨bytes, taken, ?_, by omega⟩
  rw [writeString, isLength, UInt64.ofNat_toNat]

/-! ## How a reader can fail -/

/-- Every error that the reader ends with satisfies the predicate. -/
def FailsWith
    {ε : Type}
    (reader : Reader (Except ε) α)
    (failure : ε → Prop) : Prop :=
  ∀ stream error, reader.run stream = .error error → failure error

section

variable {ε : Type} {failure : ε → Prop}

/-- A reader that returns does not fail. -/
theorem FailsWith.pure
    {value : α} :
    FailsWith (Pure.pure value : Reader (Except ε) α) failure := by
  intro stream error ran
  cases ran

/-- A reader that throws fails only with what it throws. -/
theorem FailsWith.throw
    {error : ε}
    (holds : failure error) :
    FailsWith (MonadExcept.throw error : Reader (Except ε) α) failure := by
  intro stream thrown ran
  cases ran
  exact holds

/-- A sequence fails only as its parts do. -/
theorem FailsWith.bind
    {reader : Reader (Except ε) α}
    {next : α → Reader (Except ε) β}
    (fails : FailsWith reader failure)
    (failsNext : ∀ value, FailsWith (next value) failure) :
    FailsWith (reader >>= next) failure := by
  intro stream error ran
  rw [StateT.run_bind] at ran
  cases first : reader.run stream with
  | error early =>
      rw [first] at ran
      cases ran
      exact fails stream error first
  | ok returned =>
      rw [first] at ran
      exact failsNext returned.1 returned.2 error ran

theorem FailsWith.ite
    {condition : Prop}
    [Decidable condition]
    {first second : Reader (Except ε) α}
    (failsFirst : FailsWith first failure)
    (failsSecond : FailsWith second failure) :
    FailsWith (if condition then first else second) failure := by
  by_cases holds : condition
  · rw [if_pos holds]
    exact failsFirst
  · rw [if_neg holds]
    exact failsSecond

theorem FailsWith.orFail
    {error : ε}
    {reader : Reader Option α}
    (holds : failure error) :
    FailsWith (ByteCodec.orFail error reader) failure := by
  intro stream thrown ran
  simp only [ByteCodec.orFail, StateT.run] at ran
  split at ran
  · cases ran
    exact holds
  · cases ran

/-- A repeated reader fails only as the reader does. -/
theorem FailsWith.readCount
    {reader : Reader (Except ε) α}
    (fails : FailsWith reader failure)
    (count : Nat) :
    FailsWith (ByteCodec.readCount reader count) failure := by
  induction count with
  | zero => exact FailsWith.pure
  | succ count inductionHypothesis =>
      refine fails.bind fun first => ?_
      exact inductionHypothesis.bind fun rest => FailsWith.pure

end

end ByteCodec
