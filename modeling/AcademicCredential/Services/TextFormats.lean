import AcademicCredential.Lib.Regex
import AcademicCredential.Services.UidSequence

/-!
# Validators and the encoding of hashes

The four patterns of `core/constants.py`, the validators that call `.match` on them, and the
conversions between a hash and its text in `utils/hash_service.py`. Each pattern stands in a
CHECK constraint too, which PostgreSQL reads its own way: `accepts_iff_documented`.
-/

namespace AcademicCredential

open AcademicCredential.Lib
open AcademicCredential.Contract

/-- The four formats of the schemas and services. -/
inductive TextFormat where
  | HASH_FORMAT_REGEX
  | WALLET_ADDRESS_REGEX
  | TX_HASH_REGEX
  | CERTIFICATE_UID_REGEX
  deriving DecidableEq, Repr

namespace TextFormat

/-- What stands between `^` and `$`. -/
def regex : TextFormat → Regex
  | .HASH_FORMAT_REGEX => .times 64 Hex.isLowerDigit
  | .WALLET_ADDRESS_REGEX =>
      .seq (.literal '0') (.seq (.literal 'x') (.times 40 Hex.isDigit))
  | .TX_HASH_REGEX => .seq (.literal '0') (.seq (.literal 'x') (.times 64 Hex.isDigit))
  | .CERTIFICATE_UID_REGEX =>
      .seq (.plus isUpperOrDigit) (.seq (.literal '-') (.seq (.times 4 Char.isDigit)
        (.seq (.literal '-') (.times 5 Char.isDigit))))

/-- `bool(pattern.match(text))`. -/
def accepts (format : TextFormat) (text : String) : Bool := format.regex.isMatch .python text

/-- The length of the column that values of the format are stored in. -/
def columnLength : TextFormat → Nat
  | .HASH_FORMAT_REGEX => 64
  | .WALLET_ADDRESS_REGEX => 42
  | .TX_HASH_REGEX => 66
  | .CERTIFICATE_UID_REGEX => 50

/-- The condition of the column's CHECK constraint. -/
def check : TextFormat → String → Bool
  | .HASH_FORMAT_REGEX => isSha256Text
  | .WALLET_ADDRESS_REGEX => isAddressText
  | .TX_HASH_REGEX => isTxHashText
  | .CERTIFICATE_UID_REGEX => isCertificateUidText

/-- The column takes the value. -/
def isStorable (format : TextFormat) (text : String) : Bool :=
  fits format.columnLength text && format.check text

/-- `0x` and `count` hexadecimal digits. -/
def IsPrefixedHex (count : Nat) (text : String) : Prop :=
  ∃ digits : List Char, text.toList = '0' :: 'x' :: digits ∧ digits.length = count ∧
    ∀ char ∈ digits, char ∈ Hex.lowerDigits ∨ char ∈ Hex.upperDigits

/-- The documented formats: 64 lowercase hexadecimal digits; `0x` and 40, or 64, hexadecimal
digits; `CODE-YYYY-NNNNN`. -/
def Documented : TextFormat → String → Prop
  | .HASH_FORMAT_REGEX, text => text.length = 64 ∧ ∀ char ∈ text.toList, char ∈ Hex.lowerDigits
  | .WALLET_ADDRESS_REGEX, text => IsPrefixedHex 40 text
  | .TX_HASH_REGEX, text => IsPrefixedHex 64 text
  | .CERTIFICATE_UID_REGEX, text =>
      ∃ code year sequence : List Char, text.toList = code ++ '-' :: (year ++ '-' :: sequence) ∧
        (code ≠ [] ∧ ∀ char ∈ code, isUpperOrDigit char = true) ∧
        (year.length = 4 ∧ ∀ char ∈ year, char.isDigit = true) ∧
        (sequence.length = 5 ∧ ∀ char ∈ sequence, char.isDigit = true)

/-- The words of a literal are its character. -/
theorem word_literal {char : Char} {word : List Char} :
    (Regex.literal char).Word word ↔ word = [char] := by
  rw [Regex.literal, Regex.Word, List.length_eq_one_iff]
  constructor
  · rintro ⟨⟨first, rfl⟩, all⟩
    simpa using all
  · rintro rfl
    exact ⟨⟨char, rfl⟩, by simp⟩

/-- A fixed character in front of an expression. -/
theorem word_literal_seq {char : Char} {regex : Regex} {word : List Char} :
    ((Regex.literal char).seq regex).Word word ↔
      ∃ rest, word = char :: rest ∧ regex.Word rest := by
  simp only [Regex.Word, word_literal]
  constructor
  · rintro ⟨_, rest, rfl, rfl, isRest⟩
    exact ⟨rest, rfl, isRest⟩
  · rintro ⟨rest, rfl, isRest⟩
    exact ⟨[char], rest, rfl, rfl, isRest⟩

/-- The text is a word of the pattern. -/
theorem isPrefixedHex_iff {count : Nat} {text : String} : IsPrefixedHex count text ↔
    (Regex.seq (.literal '0') (.seq (.literal 'x') (.times count Hex.isDigit))).Word
      text.toList := by
  rw [word_literal_seq]
  simp only [word_literal_seq]
  simp only [Regex.Word, Hex.isDigit, Bool.or_eq_true, List.contains_iff_mem]
  constructor
  · rintro ⟨digits, isText, length, all⟩
    exact ⟨_, isText, digits, rfl, length, all⟩
  · rintro ⟨_, isText, digits, rfl, length, all⟩
    exact ⟨digits, isText, length, all⟩

/-- The words of a pattern are the texts of its documented format. -/
theorem word_iff (format : TextFormat) (text : String) :
    format.regex.Word text.toList ↔ format.Documented text := by
  cases format with
  | HASH_FORMAT_REGEX =>
      simp only [regex, Regex.Word, Documented, String.length_toList, Hex.isLowerDigit,
        List.contains_iff_mem]
  | WALLET_ADDRESS_REGEX => exact isPrefixedHex_iff.symm
  | TX_HASH_REGEX => exact isPrefixedHex_iff.symm
  | CERTIFICATE_UID_REGEX =>
      simp only [regex, Regex.Word, Documented, word_literal]
      constructor
      · rintro ⟨code, _, isText, isCode, _, _, rfl, rfl, year, _, rfl, isYear, _, sequence, rfl,
          rfl, isSequence⟩
        exact ⟨code, year, sequence, isText, isCode, isYear, isSequence⟩
      · rintro ⟨code, year, sequence, isText, isCode, isYear, isSequence⟩
        exact ⟨code, _, isText, isCode, _, _, rfl, rfl, year, _, rfl, isYear, _, sequence, rfl,
          rfl, isSequence⟩

/-- The test decides the format. -/
theorem prefixedHex_iff {count : Nat} {text : String} :
    prefixedHex count text.toList = true ↔ IsPrefixedHex count text := by
  constructor
  · intro isPrefixed
    unfold prefixedHex at isPrefixed
    split at isPrefixed
    · rename_i digits isText
      simp only [exactly, Bool.and_eq_true, beq_iff_eq, List.all_eq_true] at isPrefixed
      refine ⟨digits, isText, isPrefixed.1, fun char member => ?_⟩
      have isDigit := isPrefixed.2 char member
      simpa [Hex.isDigit] using isDigit
    · cases isPrefixed
  · rintro ⟨digits, isText, length, all⟩
    rw [isText]
    simp only [prefixedHex, exactly, length, beq_self_eq_true, Bool.true_and, List.all_eq_true]
    intro char member
    simpa [Hex.isDigit] using all char member

/-- The CHECK constraints are met by the documented texts. -/
theorem check_iff (format : TextFormat) (text : String) :
    format.check text = true ↔ format.Documented text := by
  cases format with
  | HASH_FORMAT_REGEX =>
      simp only [check, isSha256Text, exactly, Documented, Bool.and_eq_true, beq_iff_eq,
        List.all_eq_true, String.length_toList, Hex.isLowerDigit, List.contains_iff_mem]
  | WALLET_ADDRESS_REGEX => exact prefixedHex_iff
  | TX_HASH_REGEX => exact prefixedHex_iff
  | CERTIFICATE_UID_REGEX =>
      simp only [check, isCertificateUidText_iff, Documented, exactly, Bool.and_eq_true,
        beq_iff_eq, List.all_eq_true]

/-- A CHECK constraint is the pattern as PostgreSQL reads it. -/
theorem check_eq_isMatch (format : TextFormat) (text : String) :
    format.check text = format.regex.isMatch .postgresql text := by
  rw [Bool.eq_iff_iff, check_iff, Regex.isMatch_postgresql_iff, word_iff]

/-- No documented text contains a line feed. -/
theorem not_allows_lineFeed (format : TextFormat) : ¬ format.regex.Allows '\n' := by
  cases format <;> simp [regex, Regex.Allows, Regex.literal] <;> decide

/-- `.match` accepts the documented texts, and those followed by one line feed. -/
theorem accepts_iff (format : TextFormat) (text : String) :
    format.accepts text = true ↔ format.Documented text ∨
      ∃ word, format.Documented word ∧ text = word ++ "\n" := by
  rw [accepts, Regex.isMatch_python_iff, word_iff]
  refine or_congr_right ?_
  constructor
  · rintro ⟨word, isWord, isText⟩
    refine ⟨String.ofList word, (word_iff format _).mp (by simpa using isWord), ?_⟩
    apply String.toList_inj.mp
    simpa using isText
  · rintro ⟨word, documented, rfl⟩
    exact ⟨word.toList, (word_iff format word).mpr documented, by simp⟩

/-- A documented text with a line feed behind it is not documented. -/
theorem not_documented_lineFeed {format : TextFormat} {word : String} :
    ¬ format.Documented (word ++ "\n") := by
  intro documented
  have isWord := (word_iff format _).mpr documented
  exact format.not_allows_lineFeed (isWord.allows '\n' (by simp))

/-- `re.match` in the validators of the services is `.match` of the patterns. -/
theorem pythonMatch_check (format : TextFormat) (text : String) :
    pythonMatch format.check text = format.accepts text := by
  rw [Bool.eq_iff_iff, accepts_iff, pythonMatch, Bool.or_eq_true, Bool.and_eq_true, check_iff,
    check_iff, beq_iff_eq]
  refine or_congr_right ?_
  constructor
  · rintro ⟨isLast, documented⟩
    refine ⟨_, documented, String.toList_inj.mp ?_⟩
    simpa using (List.dropLast_append_getLast? _ isLast).symm
  · rintro ⟨word, documented, rfl⟩
    simpa using documented

/-- A documented text longer than its column is a certificate UID. -/
theorem Documented.length_le {format : TextFormat} {text : String}
    (documented : format.Documented text) (notUid : format ≠ .CERTIFICATE_UID_REGEX) :
    text.length ≤ format.columnLength := by
  cases format with
  | HASH_FORMAT_REGEX => exact documented.1.le
  | WALLET_ADDRESS_REGEX | TX_HASH_REGEX =>
      obtain ⟨digits, isText, length, -⟩ := documented
      rw [← String.length_toList, isText]
      simp [length, columnLength]
  | CERTIFICATE_UID_REGEX => exact absurd rfl notUid

/-- A pattern accepts exactly its documented format, with values its column takes, unless a line
feed follows a documented text or a UID is too long for its column. -/
theorem accepts_iff_documented (format : TextFormat) (text : String) :
    ((format.accepts text = true ↔ format.Documented text) ∧
      (format.accepts text = true → format.isStorable text = true)) ↔
    (¬ ∃ word, format.Documented word ∧ text = word ++ "\n") ∧
      ¬ (format.Documented text ∧ format.columnLength < text.length) := by
  rw [accepts_iff, isStorable, Bool.and_eq_true, check_iff, fits, decide_eq_true_eq]
  constructor
  · rintro ⟨onlyDocumented, storable⟩
    constructor
    · rintro ⟨word, documented, rfl⟩
      exact not_documented_lineFeed (onlyDocumented.mp (Or.inr ⟨word, documented, rfl⟩))
    · rintro ⟨documented, long⟩
      exact absurd (storable (Or.inl documented)).1 (Nat.not_le.mpr long)
  · rintro ⟨noLineFeed, short⟩
    have onlyDocumented := or_iff_left (a := format.Documented text) noLineFeed
    refine ⟨onlyDocumented, fun accepted => ?_⟩
    have documented := onlyDocumented.mp accepted
    exact ⟨Nat.not_lt.mp fun long => short ⟨documented, long⟩, documented⟩

/-- A hash with a line feed behind it is accepted, but it is neither 64 digits nor storable. -/
theorem accepts_lineFeed :
    let text := String.ofList (List.replicate 64 'a' ++ ['\n'])
    TextFormat.accepts .HASH_FORMAT_REGEX text = true ∧
      ¬ TextFormat.Documented .HASH_FORMAT_REGEX text ∧
        TextFormat.isStorable .HASH_FORMAT_REGEX text = false := by
  refine ⟨by decide +kernel, ?_, by decide +kernel⟩
  rintro ⟨length, -⟩
  exact absurd length (by decide +kernel)

end TextFormat

/-- A field validator that requires a pattern. -/
def requirePattern (format : TextFormat) (message v : String) : Except String String :=
  if !format.accepts v then .error message else .ok v

/-- `validate_tx_hash`, in `ConfirmHashRequest` and in `ConfirmRevocationRequest`. -/
def validateTxHash : String → Except String String :=
  requirePattern .TX_HASH_REGEX
    "Invalid transaction hash format. Expected: 0x followed by 64 hex characters"

/-- `validate_wallet_address`. -/
def validateWalletAddress : String → Except String String :=
  requirePattern .WALLET_ADDRESS_REGEX
    "Invalid wallet address format. Expected: 0x followed by 40 hex characters"

/-- A validator returns the value it was given, and only one the pattern accepts. -/
theorem requirePattern_eq_ok_iff {format : TextFormat} {message v value : String} :
    requirePattern format message v = .ok value ↔ format.accepts v = true ∧ value = v := by
  unfold requirePattern
  cases format.accepts v <;> simp [eq_comm]

namespace HashService

/-- `validate_hash_format`. -/
def validateHashFormat (hashString : String) : Bool :=
  TextFormat.HASH_FORMAT_REGEX.accepts hashString

/-- `bytes.fromhex`: pairs of digits of either case, with white space between the pairs. -/
def fromhex : List Char → Option (List UInt8)
  | [] => some []
  | [char] => if isSpace char then some [] else none
  | high :: low :: rest =>
      if isSpace high then
        fromhex (low :: rest)
      else
        match Hex.digitValue? high, Hex.digitValue? low, fromhex rest with
        | some high, some low, some bytes =>
            some (UInt8.ofNat (16 * high.val + low.val) :: bytes)
        | _, _, _ => none

/-- `bytes32_to_hex`. -/
def bytes32ToHex (bytes32Value : List UInt8) : String := hexText bytes32Value

/-- `hex_to_bytes32`. -/
def hexToBytes32 (hexString : String) : Except Exception (List UInt8) :=
  match fromhex hexString.toList with
  | some bytes => .ok bytes
  | none => .error .ValueError

/-- Without spaces `bytes.fromhex` is the decoding of pairs of digits. -/
theorem fromhex_eq_decode {text : List Char} (noSpace : ∀ char ∈ text, isSpace char = false) :
    fromhex text = Hex.decode text := by
  induction text using Hex.decode.induct with
  | case1 => rfl
  | case2 char =>
      have plain := noSpace char (by simp)
      simp [fromhex, Hex.decode, plain]
  | case3 high low rest _ _ _ _ _ _ inductionHypothesis
  | case4 high low rest _ inductionHypothesis =>
      have plain := noSpace high (by simp)
      have tail := inductionHypothesis fun char member => noSpace char (by simp [member])
      simp only [fromhex, Hex.decode, plain, tail]
      rfl

/-- A digit is no space. -/
theorem isSpace_lowerDigit : ∀ value, isSpace (Hex.lowerDigit value) = false := by decide

/-- On lowercase digits `bytes.fromhex` reads the text as hexadecimal digits. -/
theorem fromhex_lower {text : List Char} (lower : ∀ char ∈ text, Hex.isLowerDigit char = true) :
    fromhex text = Hex.decode text := by
  apply fromhex_eq_decode
  intro char member
  obtain ⟨value, rfl⟩ := Hex.exists_lowerDigit (lower char member)
  exact isSpace_lowerDigit value

/-- A hash is read back from its text. -/
theorem hexToBytes32_bytes32ToHex (bytes : List UInt8) :
    hexToBytes32 (bytes32ToHex bytes) = .ok bytes := by
  have read := fromhex_lower (Hex.encode_lower bytes)
  simp [hexToBytes32, bytes32ToHex, hexText, read]

/-- A hash text denotes the 32 bytes whose text it is. -/
theorem exists_bytes32 {text : String}
    (isHash : TextFormat.HASH_FORMAT_REGEX.Documented text) :
    ∃ bytes : Bytes32, text = bytes32ToHex bytes.1 := by
  have format := (TextFormat.check_iff .HASH_FORMAT_REGEX text).mpr isHash
  obtain ⟨bytes, -, isText⟩ := exists_bytes_of_isSha256Text format
  exact ⟨bytes, isText.symm⟩

/-- The same digit 64 times. -/
theorem documented_replicate {digit : Char} (isDigit : digit ∈ Hex.lowerDigits) :
    TextFormat.HASH_FORMAT_REGEX.Documented (String.ofList (List.replicate 64 digit)) := by
  refine ⟨by simp, fun char member => ?_⟩
  rw [String.toList_ofList] at member
  rw [List.eq_of_mem_replicate member]
  exact isDigit

/-- The 32 bytes and the text of a hash determine each other: whole hash texts are equal exactly
when the bytes are that the contract compares. -/
theorem hash_round_trip :
    (∀ bytes : List UInt8, bytes.length = 32 →
      validateHashFormat (bytes32ToHex bytes) = true ∧
        hexToBytes32 (bytes32ToHex bytes) = .ok bytes) ∧
    (∀ text, TextFormat.HASH_FORMAT_REGEX.Documented text →
      ∃ bytes, hexToBytes32 text = .ok bytes ∧ bytes.length = 32 ∧ bytes32ToHex bytes = text) ∧
    (∀ left right : String, TextFormat.HASH_FORMAT_REGEX.Documented left →
      TextFormat.HASH_FORMAT_REGEX.Documented right →
        (left = right ↔ hexToBytes32 left = hexToBytes32 right) ∧
        (left = right ↔ sizedBytes? 32 left.toList = sizedBytes? 32 right.toList)) := by
  refine ⟨fun bytes length => ⟨?_, hexToBytes32_bytes32ToHex bytes⟩, ?_, ?_⟩
  · have isHash := isSha256Text_hexText ⟨bytes, length⟩
    have documented := (TextFormat.check_iff .HASH_FORMAT_REGEX _).mp isHash
    exact (TextFormat.accepts_iff .HASH_FORMAT_REGEX _).mpr (Or.inl documented)
  · intro text isHash
    obtain ⟨bytes, rfl⟩ := exists_bytes32 isHash
    exact ⟨bytes.1, hexToBytes32_bytes32ToHex bytes.1, bytes.2, rfl⟩
  · intro left right leftHash rightHash
    obtain ⟨leftBytes, rfl⟩ := exists_bytes32 leftHash
    obtain ⟨rightBytes, rfl⟩ := exists_bytes32 rightHash
    constructor
    · rw [hexToBytes32_bytes32ToHex, hexToBytes32_bytes32ToHex, Except.ok.injEq]
      exact hexText_inj.trans Subtype.ext_iff
    · simp only [bytes32ToHex, hexText, String.toList_ofList, sizedBytes?_encode,
        Option.some.injEq]
      exact hexText_inj

/-- The round trip of the hash of zeros. -/
theorem hash_round_trip_zero :
    hexToBytes32 (bytes32ToHex (List.replicate 32 0)) = .ok (List.replicate 32 0) ∧
      (∃ bytes, hexToBytes32 (String.ofList (List.replicate 64 '0')) = .ok bytes ∧
        bytes.length = 32 ∧ bytes32ToHex bytes = String.ofList (List.replicate 64 '0')) ∧
      hexToBytes32 (String.ofList (List.replicate 64 '0')) ≠
        hexToBytes32 (String.ofList (List.replicate 64 'f')) := by
  have zeros := @documented_replicate '0' (by decide)
  have letters := @documented_replicate 'f' (by decide)
  refine ⟨(hash_round_trip.1 (List.replicate 32 0) rfl).2, hash_round_trip.2.1 _ zeros, ?_⟩
  have distinct := (hash_round_trip.2.2 _ _ zeros letters).1
  intro same
  have sameDigits := String.ofList_injective (distinct.mpr same)
  exact absurd (List.cons.inj sameDigits).1 (by decide)

end HashService
end AcademicCredential
