import Mathlib.Algebra.Group.Nat.Defs
import Mathlib.Data.List.Basic

/-!
# Fixed-width byte strings and hexadecimal text

`SizedBytes n` carries its length, so a value of the wrong width cannot be built.
`Hex.encode` writes two lowercase digits for each byte; `Hex.decode` reads digits
of either case. The two round trips hold on all bytes and on all lowercase text of
even length, so hexadecimal text and the bytes it denotes can stand for each other.
-/

namespace AcademicCredential.Lib

/-- A byte string of exactly `count` bytes. -/
abbrev SizedBytes (count : Nat) := {bytes : List UInt8 // bytes.length = count}

/-- The byte string of `count` zero bytes. -/
def SizedBytes.zero (count : Nat) : SizedBytes count :=
  ⟨List.replicate count 0, List.length_replicate⟩

namespace Hex

/-- The sixteen digits in lowercase, in order of value. -/
def lowerDigits : List Char :=
  ['0', '1', '2', '3', '4', '5', '6', '7', '8', '9', 'a', 'b', 'c', 'd', 'e', 'f']

/-- The sixteen digits in uppercase, in order of value. -/
def upperDigits : List Char :=
  ['0', '1', '2', '3', '4', '5', '6', '7', '8', '9', 'A', 'B', 'C', 'D', 'E', 'F']

/-- The lowercase digit of a value below sixteen. -/
def lowerDigit (value : Fin 16) : Char := lowerDigits.get value

/-- A digit of the class `[0-9a-f]`. -/
def isLowerDigit (char : Char) : Bool := lowerDigits.contains char

/-- A digit of the class `[0-9a-fA-F]`. -/
def isDigit (char : Char) : Bool := lowerDigits.contains char || upperDigits.contains char

/-- The value of a digit in either case. -/
def digitValue? (char : Char) : Option (Fin 16) :=
  (List.finRange 16).find? fun value =>
    lowerDigits.get value == char || upperDigits.get value == char

/-- Two lowercase digits for each byte, most significant digit first. -/
def encode : List UInt8 → List Char
  | [] => []
  | byte :: rest =>
      lowerDigit ⟨byte.toNat / 16, by have := byte.toNat_lt; omega⟩ ::
        lowerDigit ⟨byte.toNat % 16, Nat.mod_lt _ (by decide)⟩ :: encode rest

/-- Read pairs of digits; an odd length or another character is refused. -/
def decode : List Char → Option (List UInt8)
  | [] => some []
  | [_] => none
  | high :: low :: rest =>
      match digitValue? high, digitValue? low, decode rest with
      | some high, some low, some bytes =>
          some (UInt8.ofNat (16 * high.val + low.val) :: bytes)
      | _, _, _ => none

/-- A digit that is written is read as its value. -/
theorem digitValue?_lowerDigit (value : Fin 16) :
    digitValue? (lowerDigit value) = some value := by
  revert value
  decide

/-- The digits that are written are in lower case. -/
theorem isLowerDigit_lowerDigit (value : Fin 16) : isLowerDigit (lowerDigit value) = true := by
  revert value
  decide

/-- Every lowercase digit is the digit of its value. -/
theorem exists_lowerDigit {char : Char} (lower : isLowerDigit char = true) :
    ∃ value, lowerDigit value = char := by
  have listed : char ∈ lowerDigits := by simpa [isLowerDigit] using lower
  obtain ⟨index, bound, found⟩ := List.getElem_of_mem listed
  exact ⟨⟨index, bound⟩, found⟩

/-- Digits are characters of ASCII. -/
theorem ascii_of_isDigit {char : Char} (digit : isDigit char = true) : char.toNat < 0x80 := by
  have listed : char ∈ lowerDigits ++ upperDigits := by simpa [isDigit] using digit
  have checked : (lowerDigits ++ upperDigits).all fun char => char.toNat < 0x80 := by decide
  exact of_decide_eq_true (List.all_eq_true.mp checked char listed)

/-- Every byte is written as two digits. -/
@[simp] theorem encode_length (bytes : List UInt8) :
    (encode bytes).length = 2 * bytes.length := by
  induction bytes with
  | nil => rfl
  | cons byte rest inductionHypothesis =>
      simp only [encode, List.length_cons, inductionHypothesis]
      omega

/-- Encoded text consists of lowercase digits only. -/
theorem encode_lower (bytes : List UInt8) :
    ∀ char ∈ encode bytes, isLowerDigit char = true := by
  induction bytes with
  | nil => simp [encode]
  | cons byte rest inductionHypothesis =>
      intro char member
      simp only [encode, List.mem_cons] at member
      rcases member with rfl | rfl | later
      · exact isLowerDigit_lowerDigit _
      · exact isLowerDigit_lowerDigit _
      · exact inductionHypothesis char later

/-- Decoding recovers every byte string from its text. -/
@[simp] theorem decode_encode (bytes : List UInt8) : decode (encode bytes) = some bytes := by
  induction bytes with
  | nil => rfl
  | cons byte rest inductionHypothesis =>
      have sameByte : UInt8.ofNat (16 * (byte.toNat / 16) + byte.toNat % 16) = byte := by
        rw [Nat.div_add_mod, UInt8.ofNat_toNat]
      simp only [encode, decode, digitValue?_lowerDigit, inductionHypothesis, sameByte]

/-- Distinct byte strings have distinct text. -/
theorem encode_injective {left right : List UInt8} (same : encode left = encode right) :
    left = right := by
  have decoded := congrArg decode same
  simpa using decoded

/-- Encoding recovers lowercase text of even length from the bytes it denotes. -/
theorem exists_encode (count : Nat) (text : List Char) (length : text.length = 2 * count)
    (lower : ∀ char ∈ text, isLowerDigit char = true) :
    ∃ bytes : List UInt8, bytes.length = count ∧ encode bytes = text := by
  induction count generalizing text with
  | zero =>
      have empty : text = [] := List.length_eq_zero_iff.mp length
      exact ⟨[], rfl, by simp [encode, empty]⟩
  | succ count inductionHypothesis =>
      obtain _ | ⟨high, _ | ⟨low, rest⟩⟩ := text
      · simp at length
      · simp at length; omega
      · obtain ⟨highValue, rfl⟩ := exists_lowerDigit (lower high (by simp))
        obtain ⟨lowValue, rfl⟩ := exists_lowerDigit (lower low (by simp))
        obtain ⟨bytes, bytesLength, sameText⟩ :=
          inductionHypothesis rest (by simp at length; omega)
            fun char member => lower char (by simp [member])
        have bound : 16 * highValue.val + lowValue.val < 256 := by omega
        refine ⟨UInt8.ofNat (16 * highValue.val + lowValue.val) :: bytes, by simpa, ?_⟩
        have small : (UInt8.ofNat (16 * highValue.val + lowValue.val)).toNat =
            16 * highValue.val + lowValue.val := by
          simp [Nat.mod_eq_of_lt bound]
        have sameHigh : (16 * highValue.val + lowValue.val) / 16 = highValue.val := by omega
        have sameLow : (16 * highValue.val + lowValue.val) % 16 = lowValue.val := by omega
        simp only [encode, small, sameHigh, sameLow, sameText]

/-- What lowercase text of even length decodes to encodes to that text. -/
theorem encode_decode (count : Nat) (text : List Char) (length : text.length = 2 * count)
    (lower : ∀ char ∈ text, isLowerDigit char = true) :
    ∃ bytes : List UInt8, bytes.length = count ∧ decode text = some bytes ∧
      encode bytes = text := by
  obtain ⟨bytes, bytesLength, sameText⟩ := exists_encode count text length lower
  exact ⟨bytes, bytesLength, sameText ▸ decode_encode bytes, sameText⟩

/-- The case of a digit does not matter. -/
theorem digitValue?_toLower {char : Char} (digit : isDigit char = true) :
    digitValue? char.toLower = digitValue? char := by
  have listed : char ∈ lowerDigits ++ upperDigits := by simpa [isDigit] using digit
  have checked : (lowerDigits ++ upperDigits).all
      (fun char => digitValue? char.toLower == digitValue? char) = true := by decide
  exact eq_of_beq (List.all_eq_true.mp checked char listed)

/-- Upper case does not change what digits mean. -/
theorem decode_toLower (text : List Char) (digits : ∀ char ∈ text, isDigit char = true) :
    decode (text.map Char.toLower) = decode text := by
  induction text using decode.induct with
  | case1 => rfl
  | case2 => rfl
  | case3 high low rest _ _ _ _ _ _ inductionHypothesis
  | case4 high low rest _ inductionHypothesis =>
      have tail := inductionHypothesis fun char member => digits char (by simp [member])
      have highDigit := digitValue?_toLower (digits high (by simp))
      have lowDigit := digitValue?_toLower (digits low (by simp))
      simp only [List.map_cons, decode, highDigit, lowDigit, tail]

end Hex
end AcademicCredential.Lib
