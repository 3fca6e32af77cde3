import AcademicCredential.Blockchain.Answers
import AcademicCredential.Contract.Access
import AcademicCredential.Database.Decide

/-!
# The two views of the contract

`get_certificate_record` reads the contract's struct by position, as the ABI encodes
it, and `verify_certificate` asks the contract to compare. `recordOf_abiRecord` takes
the positions back to the fields; `views_agree` states what the backend learns from
either view of one registry, and that the two cannot contradict each other.
-/

namespace AcademicCredential

open AcademicCredential.Lib
open AcademicCredential.Contract

/-- A `CertificateRecord` in the order in which Solidity declares its members. -/
abbrev RecordTuple := Bytes32 × Address × Nat × Bool × Nat × Nat

/-- The number of an enum member. -/
def Contract.CertificateStatus.code : CertificateStatus → Nat
  | .ACTIVE => 0
  | .REVOKED => 1

/-- The tuple in which the ABI returns a record. -/
def abiRecord (record : CertificateRecord) : RecordTuple :=
  (record.certificateHash, record.issuingUniversity, record.status.code, record.exists,
    record.issuedAt, record.revokedAt)

/-- `_CHAIN_STATUS_MAP.get(code, f"UNKNOWN({code})")`. -/
def chainStatusText : Nat → String
  | 0 => "ACTIVE"
  | 1 => "REVOKED"
  | code => "UNKNOWN(" ++ toString code ++ ")"

/-- What `get_certificate_record` does with the tuple, by position. -/
def recordOfTuple (runtime : Runtime) (result : RecordTuple) :
    Except Exception (Option ChainCertificateRecord) :=
  let (certificateHash, issuingUniversity, status, «exists», issuedAt, revokedAt) := result
  if !«exists» then
    .ok none
  else do
    let issuedAt ← fromTimestamp issuedAt
    let revokedAt ← if revokedAt > 0 then some <$> fromTimestamp revokedAt else pure none
    return some {
      certificateHash := hexText certificateHash.1
      issuingUniversity := runtime.toChecksumAddress issuingUniversity
      issuedAt
      revokedAt
      status := chainStatusText status
      «exists» := true }

/-- The text of a status code is the text of the status. -/
theorem chainStatusText_code (status : CertificateStatus) :
    chainStatusText status.code = chainStatusMap status := by
  cases status <;> rfl

/-- Reading by position is reading by name. -/
theorem recordOf_abiRecord (runtime : Runtime) (record : CertificateRecord) :
    recordOfTuple runtime (abiRecord record) = recordOf runtime record := by
  cases present : record.exists with
  | false => simp [recordOfTuple, abiRecord, recordOf, present]
  | true =>
      simp only [recordOfTuple, abiRecord, recordOf, present, Bool.not_true, Bool.false_eq_true,
        if_false, if_true, chainRecord, chainStatusText_code, map_bind]
      congr 1
      funext issuedAt
      split <;> simp only [map_bind, map_pure]

/-- Only REVOKED is shown as such. -/
theorem chainStatusMap_eq_revoked {status : CertificateStatus} :
    chainStatusMap status = "REVOKED" ↔ status = .REVOKED := by
  cases status <;> simp [chainStatusMap]

/-- Only ACTIVE is shown as such. -/
theorem chainStatusMap_eq_active {status : CertificateStatus} :
    chainStatusMap status = "ACTIVE" ↔ status = .ACTIVE := by
  cases status <;> simp [chainStatusMap]

/-- The backend's record dates a revocation exactly when the contract does. -/
theorem chainRecord_revokedAt {runtime : Runtime} {stored : CertificateRecord}
    {record : ChainCertificateRecord} (read : chainRecord runtime stored = .ok record) :
    record.revokedAt = none ↔ stored.revokedAt = 0 := by
  unfold chainRecord fromTimestamp at read
  by_cases issued : stored.issuedAt ≤ 253402300799
  · by_cases never : stored.revokedAt > 0
    · by_cases revoked : stored.revokedAt ≤ 253402300799
      · simp only [issued, never, revoked, if_true] at read
        cases read
        simp
        omega
      · simp only [issued, never, revoked, if_true, if_false] at read
        cases read
    · simp only [issued, never, if_true, if_false] at read
      cases read
      simp
      omega
  · simp only [issued, if_false] at read
    cases read

/-- What is mined before the given read of a call is on the chain that the read finds. -/
def Store.chainAtRead (store : Store) (inputs : Inputs) : Nat → Chain
  | 0 => store.chain.mineAll (inputs.rpc 0).mined
  | read + 1 => (store.chainAtRead inputs read).mineAll (inputs.rpc (read + 1)).mined

/-- From one read to the next the chain grows. -/
theorem Store.chainAtRead_grows (store : Store) (inputs : Inputs) (read : Nat) :
    Chain.Grows (store.chainAtRead inputs read) (store.chainAtRead inputs (read + 1)) :=
  Chain.grows_mineAll _ _

/-- The next read is answered, on a registry in the given state. -/
structure Direct.AnsweredOn (direct : Direct) (registry : Registry) : Prop where
  answered : direct.nextOutcome.failure = none
  registry : (direct.nextOutcome.chain direct.chain).registry = registry

/-- What `get_certificate_record` returns is what the registry stores. -/
structure RecordFaithful (stored : CertificateRecord) (record? : Option ChainCertificateRecord) :
    Prop where
  absent : record? = none ↔ stored.exists = false
  certificateHash : ∀ record ∈ record?, record.certificateHash = hexText stored.certificateHash.1
  status : ∀ record ∈ record?, record.status = chainStatusMap stored.status
  revokedAt : ∀ record ∈ record?, record.revokedAt = none ↔ stored.status ≠ .REVOKED

/-- What the service makes of a record that can be represented is faithful to it. -/
theorem recordOf_faithful (runtime : Runtime) {stored : CertificateRecord}
    (representable : Representable stored) (timely : stored.exists = true → Registry.Timely stored) :
    ∃ record?, recordOf runtime stored = .ok record? ∧ RecordFaithful stored record? := by
  cases present : stored.exists with
  | false =>
      refine ⟨none, by simp [recordOf, present], ⟨by simp [present], ?_, ?_, ?_⟩⟩ <;>
        simp
  | true =>
      rcases chainRecord_cases runtime stored with
        ⟨-, record, read, sameHash, -, sameStatus⟩ | ⟨impossible, -⟩
      · refine ⟨some record, by simp [recordOf, present, read, Functor.map, Except.map], ?_⟩
        refine ⟨by simp [present], by simpa using sameHash, by simpa using sameStatus, ?_⟩
        intro other isRecord
        obtain rfl := Option.some.inj isRecord
        rw [chainRecord_revokedAt read, (timely present).2]
        cases stored.status <;> simp
      · exact absurd representable impossible

/-- An answered `get_certificate_record` returns the record of the contract. -/
theorem run_getCertificateRecord_answered (runtime : Runtime) {direct : Direct}
    {registry : Registry} (answered : direct.AnsweredOn registry) (certUid : String) :
    ((BlockchainService.getCertificateRecord runtime certUid).run directHandler direct).1 =
      recordOf runtime (registry.certificates (solidityString certUid)) := by
  rw [BlockchainService.run_getCertificateRecord, recordLookup, recordAnswer,
    RpcOutcome.reply_of_none answered.answered]
  simp only [Chain.answer, answered.registry, Registry.getCertificateRecord, Except.bind]

/-- An answered `verify_certificate` returns the verdict of the contract. -/
theorem run_verifyCertificate_answered {direct : Direct} {registry : Registry}
    (answered : direct.AnsweredOn registry) (certUid : String) (submittedHash : Bytes32) :
    ((BlockchainService.verifyCertificate certUid (hexText submittedHash.1)).run directHandler
        direct).1 =
      .ok (verificationOf certUid
        (registry.verifyCertificate (solidityString certUid) submittedHash)) := by
  rw [BlockchainService.run_verifyCertificate direct certUid rfl, verifyAnswer,
    RpcOutcome.reply_of_none answered.answered]
  simp only [Chain.answer, answered.registry, Except.map]

/-- A hash is valid under a UID exactly when the record read is active and has it. -/
theorem RecordFaithful.isValid_iff {registry : Registry} {certUid : SolidityString}
    {record? : Option ChainCertificateRecord}
    (faithful : RecordFaithful (registry.certificates certUid) record?) (submittedHash : Bytes32) :
    (registry.verifyCertificate certUid submittedHash).1 = true ↔
      ∃ record ∈ record?,
        record.status = "ACTIVE" ∧ record.certificateHash = hexText submittedHash.1 := by
  cases record? with
  | none =>
      have absent := faithful.absent.mp rfl
      simp [Registry.verifyCertificate, absent]
  | some record =>
      have present : (registry.certificates certUid).exists = true := by
        by_contra absent
        have none := faithful.absent.mpr (by simpa using absent)
        cases none
      have sameHash := faithful.certificateHash record rfl
      have sameStatus := faithful.status record rfl
      simp only [Option.mem_some_iff, exists_eq_left', sameStatus, sameHash,
        chainStatusMap_eq_active, hexText_inj]
      cases status : (registry.certificates certUid).status <;>
        simp [Registry.verifyCertificate, present, status]

/-- The views agree on which records are revoked. -/
theorem RecordFaithful.revoked_iff {registry : Registry} {certUid : SolidityString}
    {record? : Option ChainCertificateRecord}
    (faithful : RecordFaithful (registry.certificates certUid) record?) (submittedHash : Bytes32) :
    (registry.verifyCertificate certUid submittedHash).2 = .REVOKED ↔
      ∃ record ∈ record?, record.status = "REVOKED" := by
  cases record? with
  | none =>
      have absent := faithful.absent.mp rfl
      simp [Registry.verifyCertificate, absent]
  | some record =>
      have present : (registry.certificates certUid).exists = true := by
        by_contra absent
        have none := faithful.absent.mpr (by simpa using absent)
        cases none
      have sameStatus := faithful.status record rfl
      simp only [Option.mem_some_iff, exists_eq_left', sameStatus, chainStatusMap_eq_revoked]
      cases status : (registry.certificates certUid).status <;>
        simp [Registry.verifyCertificate, present, status]

/-- For every state the contract can reach and every hash text, both reads return; the
record is the one the contract's tuple stands for, with the stored values, and the
verification says of the hash what the record says. -/
theorem views_agree (deployer : Address) (transactions : List Transaction)
    (chronological : Registry.Chronological transactions) (runtime : Runtime) (certUid : String)
    {hash : String} (isHash : isSha256Text hash = true)
    (representable : Representable
      ((Registry.afterTransactions deployer transactions).certificates (solidityString certUid)))
    {recordRead verifyRead : Direct}
    (recordAnswered : recordRead.AnsweredOn (Registry.afterTransactions deployer transactions))
    (verifyAnswered : verifyRead.AnsweredOn (Registry.afterTransactions deployer transactions)) :
    ∃ record? verification,
      ((BlockchainService.getCertificateRecord runtime certUid).run directHandler recordRead).1 =
        .ok record? ∧
      ((BlockchainService.verifyCertificate certUid hash).run directHandler verifyRead).1 =
        .ok verification ∧
      recordOfTuple runtime (abiRecord ((Registry.afterTransactions deployer
        transactions).certificates (solidityString certUid))) = .ok record? ∧
      RecordFaithful
        ((Registry.afterTransactions deployer transactions).certificates (solidityString certUid))
        record? ∧
      (verification.isValid = true ↔
        ∃ record ∈ record?, record.status = "ACTIVE" ∧ record.certificateHash = hash) ∧
      (verification.status = "REVOKED" ↔ ∃ record ∈ record?, record.status = "REVOKED") := by
  obtain ⟨submittedHash, -, rfl⟩ := exists_bytes_of_isSha256Text isHash
  have timely : ∀ present, Registry.Timely _ := fun present =>
    (Registry.issuedWithin_afterTransactions deployer transactions chronological
      (solidityString certUid) present).1
  generalize stateIs : Registry.afterTransactions deployer transactions = registry at *
  obtain ⟨record?, read, faithful⟩ := recordOf_faithful runtime representable timely
  refine ⟨record?, _, ?_, run_verifyCertificate_answered verifyAnswered certUid submittedHash,
    ?_, faithful, ?_, ?_⟩
  · rw [run_getCertificateRecord_answered runtime recordAnswered, read]
  · rw [recordOf_abiRecord, read]
  · exact faithful.isValid_iff submittedHash
  · exact chainStatusMap_eq_revoked.trans (faithful.revoked_iff submittedHash)

namespace Sample

/-- A session on a registry in the given state, whose reads are answered. -/
def onRegistry (registry : Registry) : Direct :=
  .fresh ⟨.empty, ⟨registry, []⟩, []⟩ (inputs answered)

end Sample

/-- A revoked certificate: its record is dated, and its own hash is not valid any more. -/
theorem views_agree_revoked :
    let direct := Sample.onRegistry
      (Registry.afterTransactions Registry.ownerWallet Registry.issuedAndRevoked)
    let hash := hexText (List.replicate 32 0x77)
    ∃ record verification,
      ((BlockchainService.getCertificateRecord .sample "C").run directHandler direct).1 =
        .ok (some record) ∧
      ((BlockchainService.verifyCertificate "C" hash).run directHandler direct).1 =
        .ok verification ∧
      record.certificateHash = hash ∧ record.revokedAt ≠ none ∧
      verification.isValid = false ∧ verification.status = "REVOKED" := by
  have chronological : Registry.Chronological Registry.issuedAndRevoked := by
    unfold Registry.Chronological
    decide
  have uid : solidityString "C" = [0x43] := by decide
  have stored : (Registry.afterTransactions Registry.ownerWallet
      Registry.issuedAndRevoked).certificates (solidityString "C") =
        ⟨⟨List.replicate 32 0x77, rfl⟩, Registry.universityWallet, .REVOKED, true, 2, 3⟩ := by
    rw [uid]
    decide
  have answered : (Sample.onRegistry (Registry.afterTransactions Registry.ownerWallet
      Registry.issuedAndRevoked)).AnsweredOn (Registry.afterTransactions Registry.ownerWallet
        Registry.issuedAndRevoked) := ⟨rfl, rfl⟩
  have isHash : isSha256Text (hexText (List.replicate 32 0x77)) = true :=
    isSha256Text_hexText ⟨List.replicate 32 0x77, rfl⟩
  obtain ⟨record?, verification, read, verified, -, faithful, valid, revoked⟩ :=
    views_agree Registry.ownerWallet Registry.issuedAndRevoked chronological .sample "C" isHash
      (by rw [stored]; decide) answered answered
  rw [stored] at faithful
  cases record? with
  | none =>
      have absent := faithful.absent.mp rfl
      cases absent
  | some record =>
      have isRevoked : record.status = "REVOKED" := faithful.status record rfl
      refine ⟨record, verification, read, verified, faithful.certificateHash record rfl, ?_, ?_, ?_⟩
      · intro undated
        exact (faithful.revokedAt record rfl).mp undated rfl
      · by_contra isValid
        obtain ⟨other, isRecord, active, -⟩ := valid.mp (by simpa using isValid)
        obtain rfl := Option.some.inj isRecord
        rw [isRevoked] at active
        exact absurd active (by decide)
      · exact revoked.mpr ⟨record, rfl, isRevoked⟩

end AcademicCredential
