import AcademicCredential.Blockchain.Service
import AcademicCredential.Database.Validity

/-!
# Deciding validity

Whether a database is valid can be computed, and so can every run over it. The sample
rows are one university with an administrator, one certificate and its blockchain
transactions; the counterexamples of the development run the services on them.
-/

namespace AcademicCredential

open AcademicCredential.Lib
open AcademicCredential.Contract

/-- The tables, for checks that go through all of them. -/
def Table.all : List Table :=
  [.certificates, .blockchainTransactions, .qrVerifications, .verificationLogs, .universities,
    .users, .students, .employers, .refreshTokens]

/-- Every table is listed. -/
theorem Table.mem_all (table : Table) : table ∈ Table.all := by
  cases table <;> decide

instance {table : Table} (left right : Row table) : Decidable (Apart left right) :=
  inferInstanceAs (Decidable (∀ key ∈ uniqueKeys left, key ∉ uniqueKeys right))

instance {table : Table} (row : Row table) : Decidable (Admissible row) :=
  inferInstanceAs (Decidable (violation? (constraints table) row = none))

/-- Validity is decided table by table. -/
theorem Database.valid_iff (database : Database) :
    database.Valid ↔ ∀ table ∈ Table.all,
      (∀ row ∈ database table, Admissible row) ∧ (database table).Pairwise Apart := by
  constructor
  · exact fun valid table _ => ⟨valid.admissible table, valid.apart table⟩
  · intro checked
    exact ⟨fun table => (checked table (Table.mem_all table)).1,
      fun table => (checked table (Table.mem_all table)).2⟩

instance (database : Database) : Decidable database.Valid :=
  decidable_of_iff' _ database.valid_iff

/-- A key that is no UUID from `bound` on. -/
def KeyValue.below (bound : Uuid) : KeyValue → Bool
  | .uuid value => value < bound
  | .text _ => true

/-- A UUID above all keys is unused. -/
theorem unused_of_below {database : Database} {bound uuid : Uuid}
    (below : ∀ table ∈ Table.all, ∀ row ∈ database table, ∀ key ∈ uniqueKeys row,
      key.value.below bound = true)
    (above : bound ≤ uuid) : Unused database uuid := by
  intro table row member key isKey same
  have isBelow := below table (Table.mem_all table) row member key isKey
  rw [same, KeyValue.below, decide_eq_true_iff] at isBelow
  exact absurd isBelow (Nat.not_lt.mpr above)

/-- The settings of a development network; `sha256` and `toChecksumAddress` answer for
the sample file and the sample wallet. -/
def Runtime.sample : Runtime where
  sha256 _ := ⟨[0xba, 0x78, 0x16, 0xbf, 0x8f, 0x01, 0xcf, 0xea, 0x41, 0x41, 0x40, 0xde, 0x5d, 0xae,
    0x22, 0x23, 0xb0, 0x03, 0x61, 0xa3, 0x96, 0x17, 0x7a, 0x9c, 0xb4, 0x10, 0xff, 0x61, 0xf2, 0x00,
    0x15, 0xad], rfl⟩
  toChecksumAddress _ := "0x5aAeb6053F3E94C9b9A09f33669435E7Ef1BeAed"
  checksumError text := "when sending a str, it must be a hex string. Got: '" ++ text ++ "'"
  transactionHashBytes text :=
    match text.toList with
    | '0' :: 'x' :: digits =>
        match sizedBytes? 32 digits with
        | some bytes => .ok bytes
        | none => .error "Non-hexadecimal digit found"
    | _ => .error "Non-hexadecimal digit found"
  contractAddress := "0x5FbDB2315678afecb367f032d93F642f64180aa3"
  networkName := "hardhat"
  networkChainId := 31337
  verificationBaseUrl := "http://localhost:8000/api/v1/verify/qr"

namespace Sample

/-- The text `abc`. -/
def file : List UInt8 := [97, 98, 99]

/-- The hash of the sample file. -/
def fileHash : String := "ba7816bf8f01cfea414140de5dae2223b00361a396177a9cb410ff61f20015ad"

/-- The wallet of the sample university. -/
def wallet : String := "0x5aAeb6053F3E94C9b9A09f33669435E7Ef1BeAed"

/-- The hash of the sample transaction. -/
def transactionHash : Bytes32 := ⟨List.replicate 32 0x11, rfl⟩

/-- The hash of the sample transaction, as text. -/
def txHash : String := "0x1111111111111111111111111111111111111111111111111111111111111111"

/-- The sample university. -/
def university : University where
  id := 1
  shortCode := "UNI"
  walletAddress := some wallet
  isVerified := true
  verifiedAt := some 1

/-- A bcrypt hash. -/
def passwordHash : String := "$2b$12$KIXQKqE9sUO5vGxL2o0Zt.8s0C5m1f0nQZlGv0mXzq5m3m1y6x2yW"

/-- The administrator of the sample university. -/
def administrator : User where
  id := 2
  email := "admin@uni.example"
  passwordHash := passwordHash
  role := .UNIVERSITY_ADMIN
  universityId := some 1
  firstName := "Given"
  lastName := "Admin"
  isActive := true
  lastLoginAt := none
  lastLoginIp := none
  failedLoginAttempts := 0
  lockedUntil := none
  createdAt := 1

/-- The sample certificate, in a given status. -/
def certificate (status : BlockchainStatus) : Certificate where
  id := 3
  certificateUid := "UNI-2024-00001"
  universityId := 1
  studentId := 4
  issuedBy := 2
  recipientName := "Given Graduate"
  recipientEmailSnapshot := "graduate@uni.example"
  degreeTitle := "BSc"
  fieldOfStudy := "Mathematics"
  gradeClassification := none
  honors := none
  issueDate := 19000
  expiryDate := none
  sha256Hash := fileHash
  blockchainStatus := status
  filePath := "certificates/1/3.pdf"
  fileOriginalName := "degree.pdf"
  fileSizeBytes := 3
  fileMimeType := "application/pdf"
  isActive := true
  revocationReason := none
  revokedBy := none
  revokedAt := none

/-- A sample row of a transaction. -/
def transaction (id : Uuid) (txType : TransactionType) (status : TransactionStatus)
    (hash : Option String) : BlockchainTransaction where
  id
  certificateId := some 3
  txHash := hash
  txType
  fromAddress := wallet
  toAddress := Runtime.sample.contractAddress
  contractAddress := Runtime.sample.contractAddress
  blockNumber := none
  blockHash := none
  gasUsed := none
  gasPriceWei := none
  transactionFeeWei := none
  networkName := "hardhat"
  networkChainId := 31337
  certificateHashStored := some fileHash
  status
  errorMessage := none
  submittedAt := 5
  confirmedAt := none

/-- The QR row of the sample certificate. -/
def qr : QRVerification where
  id := 6
  certificateId := 3
  token := "abcdefghijklmnopqrstuvwxyzabcdefghijklmnop"
  verificationUrl := "http://localhost:8000/api/v1/verify/qr/abcdefghijklmnopqrstuvwxyzabcdefghijklmnop"
  totalScanCount := 0
  lastScannedAt := none
  isActive := true
  deactivatedAt := none
  deactivatedReason := none
  expiresAt := none
  generatedBy := 2
  createdAt := 5

/-- The sample rows, with the certificate in a given status. -/
def database (status : BlockchainStatus) (transactions : List BlockchainTransaction) : Database
  | .certificates => [certificate status]
  | .blockchainTransactions => transactions
  | .qrVerifications => [qr]
  | .universities => [university]
  | .users => [administrator]
  | _ => []

/-- Clocks that stand still, counting UUIDs and the given outcomes of the RPC calls. -/
def inputs (rpc : Nat → RpcOutcome) : Inputs where
  rpc
  wallClock _ := 1700000000000000
  databaseClock _ := 1700000000000000
  monotonic _ := 0
  monotonic_mono _ _ _ := Nat.le_refl 0
  today _ := 19700
  uuid4 read := 100 + read
  tokenUrlsafe _ := "abcdefghijklmnopqrstuvwxyzabcdefghijklmnopq"

/-- Every RPC call is answered, and nothing is mined meanwhile. -/
def answered (_ : Nat) : RpcOutcome where
  mined := []
  failure := none

/-- The account that deploys the sample contract. -/
def deployer : Address := SizedBytes.zero 20

/-- The address of the sample wallet. -/
def issuer : Address := ⟨[0x5a, 0xae, 0xb6, 0x05, 0x3f, 0x3e, 0x94, 0xc9, 0xb9, 0xa0, 0x9f, 0x33,
  0x66, 0x94, 0x35, 0xe7, 0xef, 0x1b, 0xea, 0xed], rfl⟩

/-- A transaction of the registry contract in the block of the given number. -/
def mined (hash : UInt8) (block : Nat) (sender : Address) (call : Call) : MinedTransaction where
  transactionHash := ⟨List.replicate 32 hash, rfl⟩
  blockNumber := block
  blockHash := ⟨List.replicate 32 hash, rfl⟩
  gasUsed := 21000
  effectiveGasPrice := 1
  call := .registry { message := { sender, timestamp := 1700000000 + block }, call }

/-- The transaction that authorizes the sample wallet. -/
def authorization : MinedTransaction := mined 0xaa 1 deployer (.authorizeIssuer issuer)

/-- The hash of the sample file is stored, by the transaction with hash `txHash`. -/
def storage (certUid : String) : MinedTransaction :=
  mined 0x11 2 issuer (.storeCertificate (solidityString certUid) (Runtime.sample.sha256 file))

/-- The transaction that revokes a record. -/
def revocation (certUid : String) : MinedTransaction :=
  mined 0x22 3 issuer (.revokeCertificate (solidityString certUid))

/-- The hash of the sample revocation, as text. -/
def revocationTxHash : String :=
  "0x2222222222222222222222222222222222222222222222222222222222222222"

/-- The sample chain after some transactions. -/
def chain (transactions : List MinedTransaction) : Chain :=
  (Chain.deployed deployer).mineAll transactions

/-- The sample rows are valid in each state from which a sample starts. -/
theorem valid_databases :
    (database .PENDING [transaction 5 .STORE_HASH .PENDING none]).Valid ∧
      (database .CONFIRMED [transaction 5 .STORE_HASH .SUBMITTED (some txHash)]).Valid ∧
      (database .CONFIRMED [transaction 5 .REVOKE_HASH .PENDING none]).Valid := by
  decide +kernel

/-- The database after an upload is valid. -/
theorem valid_uploaded : (database .PENDING [transaction 5 .STORE_HASH .PENDING none]).Valid :=
  valid_databases.1

/-- A confirmed certificate whose transaction still counts as submitted. -/
theorem valid_submitted :
    (database .CONFIRMED [transaction 5 .STORE_HASH .SUBMITTED (some txHash)]).Valid :=
  valid_databases.2.1

/-- A confirmed certificate whose revocation was initiated. -/
theorem valid_initiated : (database .CONFIRMED [transaction 5 .REVOKE_HASH .PENDING none]).Valid :=
  valid_databases.2.2

end Sample
end AcademicCredential
