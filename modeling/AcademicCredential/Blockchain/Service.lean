import AcademicCredential.Database.Session

/-!
# The blockchain service

`BlockchainService` turns contract data into the values the services compare and
store. One call through `_execute_with_retry` is one operation: it returns the node's
answer or ends in one of the failures of `RpcFailure`. What the process takes from
outside the repository is a `Runtime`: the hash function, the formatting of addresses
and transaction hashes by web3, and the settings.
-/

namespace AcademicCredential

open AcademicCredential.Lib
open AcademicCredential.Contract

/-- The settings and the third-party functions that the services use. -/
structure Runtime where
  /-- `hashlib.sha256(…).digest()`. -/
  sha256 : List UInt8 → Bytes32
  /-- `Web3.to_checksum_address`. -/
  toChecksumAddress : Address → String
  /-- The text of the error `Web3.to_checksum_address` raises for a text it refuses. -/
  checksumError : String → String
  /-- The 32 bytes web3 sends for a transaction hash argument, or why it refuses it. -/
  transactionHashBytes : String → Except String Bytes32
  contractAddress : String
  networkName : String
  networkChainId : Nat
  verificationBaseUrl : String

/-- `bytes.hex()`. -/
def hexText (bytes : List UInt8) : String := String.ofList (Hex.encode bytes)

/-- The `count` bytes a text denotes. -/
def sizedBytes? (count : Nat) (digits : List Char) : Option (SizedBytes count) :=
  match Hex.decode digits with
  | some bytes => if sized : bytes.length = count then some ⟨bytes, sized⟩ else none
  | none => none

/-- The address a text `0x…` denotes. -/
def addressBytes? (text : String) : Option Address :=
  match text.toList with
  | '0' :: 'x' :: digits => sizedBytes? 20 digits
  | _ => none

/-- `generate_hash_from_file`. -/
def generateHashFromFile (runtime : Runtime) (fileBytes : List UInt8) : String :=
  hexText (runtime.sha256 fileBytes).1

/-- `compare_hashes`. -/
def compareHashes (hashA hashB : String) : Bool := hashA = hashB

/-- `datetime.fromtimestamp(seconds, tz=timezone.utc)`, up to the year 9999. -/
def fromTimestamp (seconds : Nat) : Except Exception Timestamp :=
  if seconds ≤ 253402300799 then .ok (seconds * 1000000) else .error .ValueError

/-- `_CHAIN_STATUS_MAP`. -/
def chainStatusMap : CertificateStatus → String
  | .ACTIVE => "ACTIVE"
  | .REVOKED => "REVOKED"

/-- What `verify_certificate` returns. -/
structure BlockchainVerificationResult where
  isValid : Bool
  status : String
  certUid : String
  deriving DecidableEq, Repr

/-- What `get_certificate_record` returns. -/
structure ChainCertificateRecord where
  certificateHash : String
  issuingUniversity : String
  issuedAt : Timestamp
  revokedAt : Option Timestamp
  status : String
  «exists» : Bool
  deriving DecidableEq, Repr

/-- What `get_transaction_receipt` returns. -/
structure TransactionReceipt where
  txHash : String
  status : Nat
  blockNumber : Nat
  blockHash : String
  gasUsed : Nat
  effectiveGasPrice : Nat
  deriving DecidableEq, Repr

/-- The record as the backend keeps it, unless its timestamps have no `datetime`. -/
def chainRecord (runtime : Runtime) (record : CertificateRecord) :
    Except Exception ChainCertificateRecord := do
  let issuedAt ← fromTimestamp record.issuedAt
  let revokedAt ←
    if record.revokedAt > 0 then some <$> fromTimestamp record.revokedAt else pure none
  return {
    certificateHash := hexText record.certificateHash.1
    issuingUniversity := runtime.toChecksumAddress record.issuingUniversity
    issuedAt
    revokedAt
    status := chainStatusMap record.status
    «exists» := true }

/-- The receipt as the backend keeps it. -/
def transactionReceipt (txHash : String) (receipt : Receipt) : TransactionReceipt where
  txHash
  status := receipt.status
  blockNumber := receipt.blockNumber
  blockHash := "0x" ++ hexText receipt.blockHash.1
  gasUsed := receipt.gasUsed
  effectiveGasPrice := receipt.effectiveGasPrice

namespace BlockchainService

/-- `verify_certificate`: the format of the hash is checked before the contract is asked. -/
def verifyCertificate (certUid submittedHashHex : String) :
    Action BlockchainVerificationResult := do
  if !hashFormatRegex submittedHashHex then
    Program.raise (.app .BlockchainHashFormatError
      ("Invalid hash format: expected 64 lowercase hex chars, got '" ++
        String.ofList (submittedHashHex.toList.take 20) ++ "...'"))
  else
    match sizedBytes? 32 submittedHashHex.toList with
    -- `re.match` lets a trailing newline through, which `Web3.to_bytes` refuses.
    | none => Program.raise .ValueError
    | some hashBytes32 => do
        let (isValid, status) ← attempt (.rpc (.verifyCertificate certUid hashBytes32))
        return { isValid, status := chainStatusMap status, certUid }

/-- `get_certificate_record`: a record that does not exist is `None`. -/
def getCertificateRecord (runtime : Runtime) (certUid : String) :
    Action (Option ChainCertificateRecord) := do
  let record ← attempt (.rpc (.getCertificateRecord certUid))
  if !record.exists then
    return none
  else
    return some (← Program.ofExcept (chainRecord runtime record))

/-- `get_transaction_receipt`: a transaction that is not mined has none. -/
def getTransactionReceipt (runtime : Runtime) (txHash : String) :
    Action (Option TransactionReceipt) := do
  match runtime.transactionHashBytes txHash with
  | .error text => Program.raise (RpcFailure.retriesExhausted text).exception
  | .ok transactionHash =>
      let receipt ← attempt (.rpc (.getTransactionReceipt transactionHash))
      return receipt.map (transactionReceipt txHash)

/-- `is_authorized_issuer`: the address is checked before the contract is asked. -/
def isAuthorizedIssuer (runtime : Runtime) (walletAddress : String) : Action Bool := do
  if !walletAddressRegex walletAddress then
    Program.raise (.app .BlockchainAddressError
      ("Invalid wallet address format: '" ++ walletAddress ++ "'"))
  else
    match addressBytes? walletAddress with
    | none => Program.raise (.app .BlockchainAddressError
        ("Cannot checksum address '" ++ walletAddress ++ "': " ++
          runtime.checksumError walletAddress))
    | some wallet => attempt (.rpc (.isAuthorizedIssuer wallet))

end BlockchainService

/-- The digits of bytes are read as these bytes. -/
theorem sizedBytes?_encode {count : Nat} (bytes : SizedBytes count) :
    sizedBytes? count (Hex.encode bytes.1) = some bytes := by
  simp [sizedBytes?, bytes.2]

/-- A hash text denotes 32 bytes, and those bytes have that text. -/
theorem exists_bytes_of_isSha256Text {text : String} (format : isSha256Text text = true) :
    ∃ bytes : Bytes32, sizedBytes? 32 text.toList = some bytes ∧ hexText bytes.1 = text := by
  simp only [isSha256Text, exactly, Bool.and_eq_true, beq_iff_eq, List.all_eq_true] at format
  obtain ⟨bytes, sized, decoded, encoded⟩ := Hex.encode_decode 32 text.toList format.1 format.2
  refine ⟨⟨bytes, sized⟩, by simp [sizedBytes?, decoded, sized], ?_⟩
  simp [hexText, encoded]

/-- The text of 32 bytes is a hash text. -/
theorem isSha256Text_hexText (bytes : Bytes32) : isSha256Text (hexText bytes.1) = true := by
  have lower := Hex.encode_lower bytes.1
  simpa [isSha256Text, exactly, hexText, bytes.2] using lower

/-- Bytes are determined by their text. -/
theorem hexText_injective {left right : List UInt8} (same : hexText left = hexText right) :
    left = right := by
  refine Hex.encode_injective ?_
  simpa [hexText] using congrArg String.toList same

/-- Hashes are equal when their texts are. -/
theorem hexText_inj {left right : Bytes32} : hexText left.1 = hexText right.1 ↔ left = right :=
  ⟨fun same => Subtype.ext (hexText_injective same), fun same => same ▸ rfl⟩

/-- The digits that are written are in lower case. -/
theorem toLower_lowerDigit : ∀ value, (Hex.lowerDigit value).toLower = Hex.lowerDigit value := by
  decide

/-- The digits of hash texts are characters of ASCII, and small. -/
theorem digits_of_isSha256Text {text : String} (format : isSha256Text text = true) :
    (∀ char ∈ text.toList, char.toNat < 0x80) ∧
      String.ofList (text.toList.map Char.toLower) = text := by
  simp only [isSha256Text, exactly, Bool.and_eq_true, List.all_eq_true] at format
  constructor
  · intro char member
    refine Hex.ascii_of_isDigit ?_
    rw [Hex.isDigit, show Hex.lowerDigits.contains char = true from format.2 char member,
      Bool.true_or]
  · have unchanged : text.toList.map Char.toLower = text.toList := by
      refine List.map_congr_left (g := id) (fun char member => ?_) |>.trans (List.map_id _)
      obtain ⟨value, rfl⟩ := Hex.exists_lowerDigit (format.2 char member)
      exact toLower_lowerDigit value
    rw [unchanged, String.ofList_toList]

/-- Hash texts are lowercase already for `str.lower`. -/
theorem lower_of_isSha256Text {text : String} (format : isSha256Text text = true) :
    lower text = text :=
  (lower_of_ascii (digits_of_isSha256Text format).1).trans (digits_of_isSha256Text format).2

/-- Hash texts are lowercase already for `LOWER`. -/
theorem simpleLower_of_isSha256Text {text : String} (format : isSha256Text text = true) :
    simpleLower text = text :=
  (simpleLower_of_ascii (digits_of_isSha256Text format).1).trans (digits_of_isSha256Text format).2

end AcademicCredential
