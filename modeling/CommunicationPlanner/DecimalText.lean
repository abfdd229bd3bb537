import CommunicationPlanner.Identifiers
import Mathlib.Data.Nat.Digits.Defs

namespace CommunicationPlanner

/-!
# Identities and generations in decimal

`Id::fromString` and `Generation::fromString` are one loop over the characters,
which appends a digit to a 64-bit value after a division has shown that there
is room for it.  What a row of digits denotes is stated here on its own, with
Mathlib's positional numbers, and the loop is shown to compute exactly that.
-/

/-! ## What a text denotes -/

/-- One of the ten ASCII digits. -/
def isDigit (character : UInt8) : Bool :=
  48 ≤ character && character ≤ 57

/-- The number that a digit stands for. -/
def digitValue (character : UInt8) : Nat :=
  character.toNat - 48

/-- The number that a row of digits denotes, the most significant one first. -/
def denoted (text : Text) : Nat :=
  Nat.ofDigits 10 (text.map digitValue).reverse

theorem denoted_append_singleton
    (text : Text)
    (character : UInt8) :
    denoted (text ++ [character]) =
      denoted text * 10 + digitValue character := by
  simp only [denoted, List.map_append, List.map_cons, List.map_nil,
    List.reverse_append, List.reverse_singleton, List.singleton_append,
    Nat.ofDigits_cons]
  rw [Nat.add_comm, Nat.mul_comm]

/-- A digit stands for a number below ten. -/
theorem digitValue_le
    {character : UInt8}
    (digit : isDigit character = true) :
    digitValue character ≤ 9 := by
  simp only [isDigit, Bool.and_eq_true, decide_eq_true_eq,
    UInt8.le_iff_toNat_le] at digit
  have atMost := digit.2
  change character.toNat ≤ 57 at atMost
  unfold digitValue
  omega

/-! ## The loop -/

/-- One round of the loop: the digit is appended if there is room for it. -/
def appendDigit
    (value : UInt64)
    (character : UInt8) : Option UInt64 :=
  if character < 48 ∨ 57 < character then
    none
  else
    let digit := (character - 48).toUInt64
    if (0xFFFFFFFFFFFFFFFF - digit) / 10 < value then
      none
    else
      some (value * 10 + digit)

/-- `fromString`: the digits, as long as they fit 64 bits. -/
def parseDecimal (text : Text) : Option UInt64 :=
  if text = [] then
    none
  else
    text.foldlM appendDigit 0

/-- `Id::fromString`. -/
def Id.fromString (text : Text) : Option (Id Tag) :=
  (parseDecimal text).map Id.mk

/-- `Generation::fromString`. -/
def Generation.fromString (text : Text) : Option (Generation Tag) :=
  (parseDecimal text).map Generation.mk

/-- `Generation::str`. -/
def Generation.str (generation : Generation Tag) : Text :=
  decimal generation.value.toNat

/-- The rounded quotient leaves room exactly for the numbers that fit. -/
private theorem room_iff
    (value digit limit : Nat)
    (small : digit ≤ limit) :
    value ≤ (limit - digit) / 10 ↔ value * 10 + digit ≤ limit := by
  rw [Nat.le_div_iff_mul_le (by decide)]
  omega

/-- A round that succeeds appends a digit, and nothing wraps around in it. -/
theorem appendDigit_eq_some_iff
    {value next : UInt64}
    {character : UInt8} :
    appendDigit value character = some next ↔
      isDigit character = true ∧
        next.toNat = value.toNat * 10 + digitValue character := by
  have digitIff :
      ¬(character < 48 ∨ 57 < character) ↔ isDigit character = true := by
    simp [isDigit]
  by_cases digit : isDigit character = true
  · have small := digitValue_le digit
    have sameDigit :
        ((character - 48).toUInt64).toNat = digitValue character := by
      simp only [isDigit, Bool.and_eq_true, decide_eq_true_eq] at digit
      rw [UInt8.toNat_toUInt64, UInt8.toNat_sub_of_le _ _ digit.1]
      rfl
    have room :
        ¬(0xFFFFFFFFFFFFFFFF - (character - 48).toUInt64) / 10 < value ↔
          value.toNat * 10 + digitValue character < 2 ^ 64 := by
      rw [UInt64.not_lt, UInt64.le_iff_toNat_le, UInt64.toNat_div,
        UInt64.toNat_sub_of_le _ _ (by
          rw [UInt64.le_iff_toNat_le, sameDigit]
          change _ ≤ 18446744073709551615
          omega),
        sameDigit]
      change value.toNat ≤
        (18446744073709551615 - digitValue character) / 10 ↔ _
      rw [room_iff _ _ _ (by omega)]
      omega
    rw [appendDigit, if_neg (digitIff.mpr digit)]
    simp only
    by_cases fits : value.toNat * 10 + digitValue character < 2 ^ 64
    · rw [if_neg (room.mpr fits), Option.some.injEq, ← UInt64.toNat_inj,
        UInt64.toNat_add, UInt64.toNat_mul, sameDigit]
      change (value.toNat * 10 % 2 ^ 64 + digitValue character) % 2 ^ 64 =
        next.toNat ↔ _
      rw [Nat.mod_add_mod, Nat.mod_eq_of_lt fits]
      simp [digit, eq_comm]
    · rw [if_pos (not_not.mp (room.not.mpr fits))]
      have bounded := next.toNat_lt
      simp only [reduceCtorEq, digit, true_and, false_iff]
      omega
  · rw [appendDigit, if_pos (not_not.mp (digitIff.not.mpr digit))]
    simp [digit]

/--
After any number of rounds the value is the number that the characters read so
far denote; each of them fits, since the whole does.
-/
theorem foldlM_appendDigit_eq_some_iff
    {text : Text}
    {value : UInt64} :
    text.foldlM appendDigit 0 = some value ↔
      (∀ character ∈ text, isDigit character = true) ∧
        value.toNat = denoted text := by
  induction text using List.reverseRecOn generalizing value with
  | nil =>
      have zeroIff : (0 : UInt64) = value ↔ value.toNat = 0 := by
        rw [← UInt64.toNat_inj, eq_comm]
        rfl
      simpa [denoted] using zeroIff
  | append_singleton done character inductionHypothesis =>
      rw [List.foldlM_append, Option.bind_eq_bind, Option.bind_eq_some_iff,
        denoted_append_singleton]
      simp only [List.foldlM_cons, List.foldlM_nil, bind_pure,
        appendDigit_eq_some_iff, inductionHypothesis, List.mem_append,
        List.mem_singleton]
      constructor
      · rintro ⟨before, ⟨digits, denotes⟩, digit, appended⟩
        refine ⟨?_, by rw [appended, denotes]⟩
        rintro other (earlier | rfl)
        · exact digits other earlier
        · exact digit
      · rintro ⟨digits, denotes⟩
        have bounded := value.toNat_lt
        have fits : denoted done < 2 ^ 64 := by
          omega
        have restored : (UInt64.ofNat (denoted done)).toNat = denoted done :=
          UInt64.toNat_ofNat_of_lt fits
        refine ⟨UInt64.ofNat (denoted done),
          ⟨fun other earlier => digits other (.inl earlier), restored⟩,
          digits character (.inr rfl), ?_⟩
        rw [restored, denotes]

theorem parseDecimal_eq_some_iff
    {text : Text}
    {value : UInt64} :
    parseDecimal text = some value ↔
      text ≠ [] ∧
        (∀ character ∈ text, isDigit character = true) ∧
        value.toNat = denoted text := by
  by_cases empty : text = []
  · simp [parseDecimal, empty]
  · rw [parseDecimal, if_neg empty, foldlM_appendDigit_eq_some_iff]
    simp [empty]

/-! ## Printing -/

/-- The byte of a printed digit. -/
private theorem toNat_byte_of_isDigit
    {character : Char}
    (digit : character.isDigit = true) :
    (UInt8.ofNat character.toNat).toNat = character.toNat ∧
      48 ≤ character.toNat ∧ character.toNat ≤ 57 := by
  rw [Char.isDigit_iff_toNat] at digit
  have range : 48 ≤ character.toNat ∧ character.toNat ≤ 57 := digit
  refine ⟨UInt8.toNat_ofNat_of_lt' ?_, range⟩
  change character.toNat < 256
  omega

theorem denoted_map_ofNat_toNat
    {characters : List Char}
    (digits : ∀ character ∈ characters, character.isDigit = true) :
    denoted (characters.map fun character => UInt8.ofNat character.toNat) =
      Nat.ofDigitChars 10 characters 0 := by
  induction characters using List.reverseRecOn with
  | nil =>
      rfl
  | append_singleton done character inductionHypothesis =>
      have sameByte := (toNat_byte_of_isDigit (digits character (by simp))).1
      rw [List.map_append, List.map_singleton, denoted_append_singleton,
        inductionHypothesis fun other earlier =>
          digits other (List.mem_append_left _ earlier),
        Nat.ofDigitChars_append, Nat.ofDigitChars_cons, Nat.ofDigitChars_nil,
        digitValue, sameByte, Nat.mul_comm]
      rfl

/-- A printed number is a row of digits that denotes the number. -/
theorem denoted_decimal
    (value : Nat) :
    denoted (decimal value) = value := by
  unfold decimal
  rw [denoted_map_ofNat_toNat fun character member =>
    Nat.isDigit_of_mem_toDigits (by decide) (by decide) member]
  exact Nat.ofDigitChars_ten_toDigits

theorem isDigit_of_mem_decimal
    {value : Nat}
    {character : UInt8}
    (member : character ∈ decimal value) :
    isDigit character = true := by
  obtain ⟨printed, inDigits, rfl⟩ := List.mem_map.mp member
  have digit :=
    Nat.isDigit_of_mem_toDigits (by decide) (by decide) inDigits
  obtain ⟨sameByte, range⟩ := toNat_byte_of_isDigit digit
  simp only [isDigit, Bool.and_eq_true, decide_eq_true_eq,
    UInt8.le_iff_toNat_le, sameByte]
  exact range

theorem parseDecimal_decimal
    (value : UInt64) :
    parseDecimal (decimal value.toNat) = some value := by
  rw [parseDecimal_eq_some_iff]
  refine ⟨?_, fun character => isDigit_of_mem_decimal, ?_⟩
  · simp [decimal, Nat.toDigits_ne_nil]
  · rw [denoted_decimal]

/-! ## The two readers -/

/--
The reader accepts exactly the rows of digits that denote a 64-bit number,
returns that number, and reads back what was printed.
-/
structure ReadsDecimal
    (fromString : Text → Option α)
    (value : α → UInt64)
    (str : α → Text) : Prop where
  accepts :
    ∀ text, (fromString text).isSome = true ↔
      text ≠ [] ∧
        (∀ character ∈ text, isDigit character = true) ∧
        denoted text < 2 ^ 64
  returns :
    ∀ text result, fromString text = some result →
      (value result).toNat = denoted text
  inverts : ∀ result, fromString (str result) = some result

theorem readsDecimal_parseDecimal :
    ReadsDecimal parseDecimal id fun value => decimal value.toNat := by
  refine ⟨?_, ?_, parseDecimal_decimal⟩
  · intro text
    rw [Option.isSome_iff_exists]
    simp only [parseDecimal_eq_some_iff]
    constructor
    · rintro ⟨value, nonempty, digits, denotes⟩
      exact ⟨nonempty, digits, denotes ▸ value.toNat_lt⟩
    · rintro ⟨nonempty, digits, fits⟩
      exact ⟨UInt64.ofNat (denoted text), nonempty, digits,
        UInt64.toNat_ofNat_of_lt fits⟩
  · intro text value parsed
    exact (parseDecimal_eq_some_iff.mp parsed).2.2

/-- A reader stays exact when its values are wrapped. -/
theorem ReadsDecimal.map
    {wrap : UInt64 → α}
    {value : α → UInt64}
    (reads :
      ReadsDecimal parseDecimal id fun value => decimal value.toNat)
    (wrapped : ∀ result, wrap (value result) = result)
    (unwrapped : ∀ number, value (wrap number) = number) :
    ReadsDecimal (fun text => (parseDecimal text).map wrap) value
      fun result => decimal (value result).toNat := by
  refine ⟨?_, ?_, ?_⟩
  · intro text
    rw [Option.isSome_map]
    exact reads.accepts text
  · intro text result parsed
    obtain ⟨number, found, rfl⟩ := Option.map_eq_some_iff.mp parsed
    rw [unwrapped]
    exact reads.returns text number found
  · intro result
    rw [reads.inverts (value result), Option.map_some, wrapped]

/--
Both readers accept exactly the decimal numerals below `2 ^ 64`, return the
number and invert the printer, and no round of their loop wraps around.
-/
theorem fromString_reads_decimal
    (Tag : Type) :
    ReadsDecimal (Id.fromString : Text → Option (Id Tag)) Id.value Id.str ∧
      ReadsDecimal (Generation.fromString : Text → Option (Generation Tag))
        Generation.value Generation.str ∧
      ∀ character, isDigit character = true →
        digitValue character ≤ 2 ^ 64 - 1 ∧
          ∀ value next, appendDigit value character = some next →
            value.toNat * 10 + digitValue character < 2 ^ 64 ∧
              next.toNat = value.toNat * 10 + digitValue character := by
  refine ⟨readsDecimal_parseDecimal.map (fun _ => rfl) fun _ => rfl,
    readsDecimal_parseDecimal.map (fun _ => rfl) fun _ => rfl, ?_⟩
  intro character digit
  have small := digitValue_le digit
  refine ⟨by omega, ?_⟩
  intro value next appended
  have appends := (appendDigit_eq_some_iff.mp appended).2
  have bounded := next.toNat_lt
  exact ⟨by omega, appends⟩

example : (Id.fromString (ascii "18446744073709551615") : Option PathId) =
    some ⟨18446744073709551615⟩ := by
  decide +kernel

example : (Id.fromString (ascii "18446744073709551616") : Option PathId) =
    none := by
  decide +kernel

end CommunicationPlanner
