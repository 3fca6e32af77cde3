import AcademicCredential.Services.LogRows

/-!
# The verdict of the chain

Once `verify_certificate` has answered, its answer alone should decide the result. The
decision shares its `try` block with a second read that only gathers evidence, and the
result has to pass the insertion of the log row. This module says exactly when the
verdict survives both.
-/

namespace AcademicCredential

open AcademicCredential.Lib
open AcademicCredential.Contract

namespace VerificationService

/-- The id drawn for a log row is not in use. -/
def LogIdFree (database : Database) (id : Uuid) : Prop :=
  database.find? .verificationLogs id = none

/-- How the second read of the chain, `get_certificate_record`, ends. -/
def recordRead (runtime : Runtime) (store : Store) (inputs : Inputs) (certUid : String) :
    Except Exception (Option ChainCertificateRecord) :=
  recordAnswer runtime ((inputs.rpc 0).chain store.chain) (inputs.rpc 1) certUid

/-- The chain has answered the first read of a call. -/
def Answers (store : Store) (inputs : Inputs) (certUid : String) (hash : Bytes32)
    (answer : BlockchainVerificationResult) : Prop :=
  verifyAnswer store.chain (inputs.rpc 0) certUid hash = .ok answer

/-- The log row of a confirmed file verification is accepted. -/
def FileLogAccepted (store : Store) (inputs : Inputs) (certificate : Certificate)
    (hash : Bytes32) (result : VerificationResult) : Prop :=
  storeTxHash store.database certificate.id ≠ "" ∧
    (result = .AUTHENTIC → hexText hash.1 = certificate.sha256Hash) ∧
    LogIdFree store.database (inputs.uuid4 5)

/-- The scan is counted and its log row is accepted. -/
def ScanLogAccepted (store : Store) (inputs : Inputs) (request : ScanRequest)
    (qr : QRVerification) (certificate : Certificate) (result : VerificationResult) : Prop :=
  qr.totalScanCount + 1 < 2 ^ 31 ∧ storeTxHash store.database certificate.id ≠ "" ∧
    result ≠ .TAMPERED ∧ LogIdFree store.database
      (inputs.uuid4 ((scanState (flowStart store inputs) request.token).reads + 3))

/-- When the verdict on a file reaches the caller: the second read succeeds and the row
is accepted, or it ends in a connection error or a timeout and the database happens to
say TAMPERED too. -/
def FileVerdictKept (runtime : Runtime) (store : Store) (inputs : Inputs)
    (certificate : Certificate) (hash : Bytes32) (answer : BlockchainVerificationResult) : Prop :=
  match recordRead runtime store inputs certificate.certificateUid with
  | .ok _ => FileLogAccepted store inputs certificate hash (decision answer)
  | .error error =>
      error.isUnreachable = true ∧ decision answer = .TAMPERED ∧
        hexText hash.1 ≠ certificate.sha256Hash ∧
        FileLogAccepted store inputs certificate hash .TAMPERED

/-- When the verdict on a scan reaches the caller. -/
def ScanVerdictKept (runtime : Runtime) (store : Store) (inputs : Inputs)
    (request : ScanRequest) (qr : QRVerification) (certificate : Certificate)
    (answer : BlockchainVerificationResult) : Prop :=
  match recordRead runtime store inputs certificate.certificateUid with
  | .ok _ => ScanLogAccepted store inputs request qr certificate (decision answer)
  | .error _ => False

section decidable

variable (runtime : Runtime) (store : Store) (inputs : Inputs) (request : ScanRequest)
  (qr : QRVerification) (certificate : Certificate) (hash : Bytes32)
  (answer : BlockchainVerificationResult) (result : VerificationResult)

instance : Decidable (FileLogAccepted store inputs certificate hash result) :=
  inferInstanceAs (Decidable (_ ∧ (_ → _) ∧ Database.find? _ _ _ = none))

instance : Decidable (ScanLogAccepted store inputs request qr certificate result) :=
  inferInstanceAs (Decidable (_ ∧ _ ∧ _ ∧ Database.find? _ _ _ = none))

instance : Decidable (FileVerdictKept runtime store inputs certificate hash answer) :=
  match read : recordRead runtime store inputs certificate.certificateUid with
  | .ok _ => decidable_of_iff (FileLogAccepted store inputs certificate hash (decision answer))
      (by simp only [FileVerdictKept, read])
  | .error error => decidable_of_iff (error.isUnreachable = true ∧ decision answer = .TAMPERED ∧
      hexText hash.1 ≠ certificate.sha256Hash ∧
        FileLogAccepted store inputs certificate hash .TAMPERED)
      (by simp only [FileVerdictKept, read])

instance : Decidable (ScanVerdictKept runtime store inputs request qr certificate answer) :=
  match read : recordRead runtime store inputs certificate.certificateUid with
  | .ok _ => decidable_of_iff
      (ScanLogAccepted store inputs request qr certificate (decision answer))
      (by simp only [ScanVerdictKept, read])
  | .error _ => decidable_of_iff False (by simp only [ScanVerdictKept, read])

end decidable

section paths

variable {runtime : Runtime} {store : ValidStore} {inputs : Inputs}
  {block : Except Exception FlowExit × Direct}

/-- The row of a confirmed certificate gets the id that is drawn after the chain was asked. -/
theorem confirmedRow_id {certificate : Certificate} (request : FileRequest) {hash : Bytes32}
    {blockchainService : Bool} {evidence : ChainEvidence} {asked : Direct}
    (consulted : fileConsultation runtime (flowStart store.toStore inputs).read certificate hash
      blockchainService = (.ok evidence, asked)) (processingTime : Nat) :
    ((request.confirmedEntry certificate (hexText hash.1) evidence
      (storeTxHash (flowStart store.toStore inputs).working certificate.id)
      processingTime).rowIn asked.read).id = inputs.uuid4 5 := by
  have ids : asked.reads = 3 ∧ asked.inputs = inputs := by
    have same := evidenceIn_reads runtime (flowStart store.toStore inputs).read blockchainService
      certificate.certificateUid hash
      (fileEvidenceOf (flowStart store.toStore inputs).working certificate (hexText hash.1))
      (fileFallback certificate (hexText hash.1))
    rw [fileConsultation] at consulted
    rw [show (flowStart store.toStore inputs).read.working =
      (flowStart store.toStore inputs).working from rfl] at consulted
    rw [consulted] at same
    exact same
  rw [← ids.2, show (5 : Nat) = asked.reads + 2 by omega]
  rfl

/-- The log of a confirmed file is accepted exactly under the condition on the inputs. -/
theorem confirmedRow_accepted {certificate : Certificate}
    (member : certificate ∈ store.database .certificates) {request : FileRequest}
    {hash : Bytes32} {blockchainService : Bool} {evidence : ChainEvidence} {asked : Direct}
    (consulted : fileConsultation runtime (flowStart store.toStore inputs).read certificate hash
      blockchainService = (.ok evidence, asked)) (processingTime : Nat) :
    checkLog (flowStart store.toStore inputs).working
        ((request.confirmedEntry certificate (hexText hash.1) evidence
          (storeTxHash (flowStart store.toStore inputs).working certificate.id)
          processingTime).rowIn asked.read) = .ok () ↔
      FileLogAccepted store.toStore inputs certificate hash evidence.result := by
  have rowId := confirmedRow_id request consulted processingTime
  rw [checkLog_ok, rowId]
  exact (and_congr_left' (confirmed_admissible (store.valid.admissible .certificates certificate
    member) store.valid request hash evidence processingTime)).trans and_assoc

/-- The log of a scan is accepted exactly under the condition on the inputs. -/
theorem scanRow_accepted {certificate : Certificate}
    (member : certificate ∈ store.database .certificates) {request : ScanRequest}
    {hash : Bytes32} {blockchainService : Bool} {evidence : ChainEvidence} {asked : Direct}
    (consulted : qrConsultation runtime (scanState (flowStart store.toStore inputs) request.token)
      certificate hash blockchainService = (.ok evidence, asked)) (qr : QRVerification)
    (processingTime : Nat) :
    qr.totalScanCount + 1 < 2 ^ 31 ∧ checkLog (flowStart store.toStore inputs).working
        ((request.entry qr certificate evidence
          (storeTxHash (flowStart store.toStore inputs).working certificate.id)
          processingTime).rowIn asked.read.read) = .ok () ↔
      ScanLogAccepted store.toStore inputs request qr certificate evidence.result := by
  obtain ⟨-, sameInputs, -⟩ := scanState_chain (flowStart store.toStore inputs) request.token
  have ids := evidenceIn_reads runtime (scanState (flowStart store.toStore inputs) request.token)
    (certificate.blockchainStatus = .CONFIRMED && blockchainService) certificate.certificateUid
    hash (qrEvidenceOf (scanState (flowStart store.toStore inputs) request.token).working
      certificate) (qrFallback certificate)
  rw [qrConsultation] at consulted
  rw [consulted] at ids
  have rowId : ((request.entry qr certificate evidence
      (storeTxHash (flowStart store.toStore inputs).working certificate.id)
      processingTime).rowIn asked.read.read).id =
        inputs.uuid4 ((scanState (flowStart store.toStore inputs) request.token).reads + 3) := by
    rw [← ids.1, show inputs = asked.inputs from (ids.2.trans sameInputs).symm]
    rfl
  rw [checkLog_ok, rowId]
  refine and_congr_right' ?_
  exact (and_congr_left' (scan_admissible (store.valid.admissible .certificates certificate
    member) store.valid request qr evidence processingTime)).trans and_assoc

/-- A check that is passed leaves by the exit given. -/
theorem map_const_ok_iff {checked : Except Exception Unit} {exit : FlowExit}
    {result : VerificationResult} :
    (∃ other, (checked.map fun _ => exit) = .ok other ∧ other.result = result) ↔
      checked = .ok () ∧ exit.result = result := by
  cases checked <;> simp [Except.map]

/-- A stored certificate that is confirmed is active. -/
theorem isActive_of_confirmed {certificate : Certificate}
    (member : certificate ∈ store.database .certificates)
    (confirmed : certificate.blockchainStatus = .CONFIRMED) : certificate.isActive = true :=
  certificate.isActive_of_not_revoked (store.valid.admissible .certificates certificate member)
    (by simp [confirmed])

/-- No verdict of the chain is PENDING_CHAIN. -/
theorem decision_ne_pendingChain (answer : BlockchainVerificationResult) :
    decision answer ≠ .PENDING_CHAIN := by
  unfold decision
  split
  · decide
  · split <;> decide

/-- Once the first read is answered, the two reads of a flow end as `recordRead` says. -/
theorem chainAnswers_of_answers {certUid : String} {hash : Bytes32}
    {answer : BlockchainVerificationResult} {direct : Direct}
    (sameChain : direct.chain = store.chain) (sameInputs : direct.inputs = inputs)
    (noCalls : direct.rpcCalls = [])
    (answered : Answers store.toStore inputs certUid hash answer) :
    (chainAnswers runtime direct certUid hash).1 =
      (recordRead runtime store.toStore inputs certUid).map fun record => (answer, record) := by
  have verified : verifyAnswer direct.chain direct.nextOutcome certUid hash = .ok answer := by
    rw [Direct.nextOutcome, sameChain, sameInputs, noCalls]
    exact answered
  have second : (recordLookup runtime (direct.asked (.verifyCertificate certUid hash)) certUid).1 =
      recordRead runtime store.toStore inputs certUid := by
    simp only [recordLookup, recordRead, Direct.asked, Direct.nextOutcome, Direct.nextChain,
      RpcOutcome.chain, sameChain, sameInputs, noCalls]
    rfl
  rw [chainAnswers_of_verified verified, second]

/-- The error is the read's. -/
theorem map_pair_error {read : Except Exception (Option ChainCertificateRecord)}
    {answer : BlockchainVerificationResult} {error : Exception}
    (raised : (read.map fun record => (answer, record)) = .error error) : read = .error error := by
  cases read with
  | ok _ => cases raised
  | error other =>
      cases raised
      rfl

/-- Both answers are those of the two reads. -/
theorem map_pair_ok {read : Except Exception (Option ChainCertificateRecord)}
    {answer : BlockchainVerificationResult}
    {answers : BlockchainVerificationResult × Option ChainCertificateRecord}
    (both : (read.map fun record => (answer, record)) = .ok answers) :
    answers.1 = answer ∧ ∃ record, read = .ok record := by
  cases read with
  | error _ => cases both
  | ok record =>
      cases both
      exact ⟨rfl, record, rfl⟩

/-- The file flow keeps the verdict exactly under the condition on the inputs. -/
theorem FilePath.verdict {certificate : Certificate} {request : FileRequest} {hash : Bytes32}
    {answer : BlockchainVerificationResult}
    (path : FilePath runtime (flowStart store.toStore inputs) request true hash block)
    (found : fileCertificate store.database request.certUidHint (hexText hash.1) =
      some certificate)
    (isConfirmed : certificate.blockchainStatus = .CONFIRMED)
    (answered : Answers store.toStore inputs certificate.certificateUid hash answer) :
    (∃ exit, block.1 = .ok exit ∧ exit.result = decision answer) ↔
      FileVerdictKept runtime store.toStore inputs certificate hash answer := by
  have member := fileCertificate_mem found
  have active := isActive_of_confirmed member isConfirmed
  have ends := @chainAnswers_of_answers runtime store inputs _ _ _
    (flowStart store.toStore inputs).read rfl rfl rfl answered
  unfold FileVerdictKept
  cases path with
  | raised alsoFound _ consulted =>
      obtain rfl := Option.some.inj (found.symm.trans alsoFound)
      obtain ⟨-, raised, reached⟩ := evidenceIn_error consulted
      rw [map_pair_error (ends.symm.trans raised)]
      simp [reached]
  | notFound absent _ _ _ => cases absent.symm.trans found
  | unconfirmed alsoFound isUnconfirmed _ _ _ =>
      obtain rfl := Option.some.inj (found.symm.trans alsoFound)
      exact absurd isConfirmed isUnconfirmed
  | confirmed alsoFound _ consulted returns _ _ _ =>
      obtain rfl := Option.some.inj (found.symm.trans alsoFound)
      rw [map_const_ok_iff, confirmedRow_accepted member consulted, returns]
      rcases evidenceIn_ok consulted with ⟨-, answers, both, rfl⟩ | ⟨rfl, why⟩
      · obtain ⟨rfl, record, read⟩ := map_pair_ok (ends.symm.trans both)
        rw [read]
        exact ⟨fun kept => kept.1, fun accepted => ⟨accepted, rfl⟩⟩
      · obtain ⟨error, raised, unreachable⟩ := why rfl
        have notPending := decision_ne_pendingChain answer
        rw [map_pair_error (ends.symm.trans raised)]
        by_cases same : hexText hash.1 = certificate.sha256Hash
        · simp [fileFallback, active, compareHashes, same, notPending.symm]
        · simp [fileFallback, active, compareHashes, same, unreachable, eq_comm, and_comm]

/-- A scan keeps the verdict exactly under the condition on the inputs. -/
theorem QrPath.verdict {certificate : Certificate} {qr : QRVerification} {request : ScanRequest}
    {answer : BlockchainVerificationResult}
    (path : QrPath runtime (flowStart store.toStore inputs) request true block)
    (found : scannedIn (flowStart store.toStore inputs) request.token = some (qr, certificate))
    (isConfirmed : certificate.blockchainStatus = .CONFIRMED)
    (answered : Answers store.toStore inputs certificate.certificateUid
      (certificateHash certificate) answer) :
    (∃ exit, block.1 = .ok exit ∧ exit.result = decision answer) ↔
      ScanVerdictKept runtime store.toStore inputs request qr certificate answer := by
  obtain ⟨-, member⟩ := scannedIn_found found
  have active := isActive_of_confirmed member isConfirmed
  obtain ⟨sameChain, sameInputs, noCalls⟩ :=
    scanState_chain (flowStart store.toStore inputs) request.token
  unfold ScanVerdictKept
  cases path with
  | notFound absent _ _ => cases absent.symm.trans found
  | raised alsoFound isHash consulted =>
      cases alsoFound.symm.trans found
      obtain ⟨-, raised, -⟩ := evidenceIn_error consulted
      rw [certificateHash_eq isHash] at answered
      have ends := @chainAnswers_of_answers runtime store inputs _ _ _ _ sameChain sameInputs
        noCalls answered
      rw [map_pair_error (ends.symm.trans raised)]
      simp
  | uncounted alsoFound isHash consulted full _ =>
      cases alsoFound.symm.trans found
      rw [certificateHash_eq isHash] at answered
      cases recordRead runtime store.toStore inputs certificate.certificateUid with
      | error _ => simp
      | ok _ => exact iff_of_false (by simp) fun accepted => full accepted.1
  | @counted _ _ _ _ processingTime _ _ _ alsoFound isHash consulted room returns _ _ _ =>
      cases alsoFound.symm.trans found
      rw [certificateHash_eq isHash] at answered
      have accepted := (and_iff_right room).symm.trans
        (scanRow_accepted member consulted qr processingTime)
      rw [map_const_ok_iff, accepted, returns]
      rcases evidenceIn_ok consulted with ⟨-, answers, both, rfl⟩ | ⟨rfl, why⟩
      · have ends := @chainAnswers_of_answers runtime store inputs _ _ _ _ sameChain sameInputs
          noCalls answered
        obtain ⟨rfl, record, read⟩ := map_pair_ok (ends.symm.trans both)
        rw [read]
        exact ⟨fun kept => kept.1, fun accepted => ⟨accepted, rfl⟩⟩
      · obtain ⟨error, raised, unreachable⟩ := why (by simp [isConfirmed])
        have ends := @chainAnswers_of_answers runtime store inputs _ _ _ _ sameChain sameInputs
          noCalls answered
        have notPending := decision_ne_pendingChain answer
        rw [map_pair_error (ends.symm.trans raised)]
        simp [qrFallback, active, isConfirmed, notPending.symm]

end paths

/-- Once the chain has answered, the flows return the decision on its answer exactly when
the evidence read and the log row do not get in the way. -/
theorem chain_verdict_kept_iff (runtime : Runtime) (store : ValidStore) (inputs : Inputs)
    (fileBytes : List UInt8) (fileRequest : FileRequest) (scanRequest : ScanRequest) :
    (∀ certificate answer,
      fileCertificate store.database fileRequest.certUidHint
        (generateHashFromFile runtime fileBytes) = some certificate →
      certificate.blockchainStatus = .CONFIRMED →
      Answers store.toStore inputs certificate.certificateUid (runtime.sha256 fileBytes) answer →
      (resultOf ((verifyByFileUpload runtime fileBytes fileRequest true).run sessionHandler
          (store.toStore, .fresh inputs)).1 = some (decision answer) ↔
        FileVerdictKept runtime store.toStore inputs certificate (runtime.sha256 fileBytes)
          answer)) ∧
    ∀ qr certificate answer,
      scannedIn (flowStart store.toStore inputs) scanRequest.token = some (qr, certificate) →
      certificate.blockchainStatus = .CONFIRMED →
      Answers store.toStore inputs certificate.certificateUid (certificateHash certificate)
        answer →
      (resultOf ((verifyByQrToken runtime scanRequest true).run sessionHandler
          (store.toStore, .fresh inputs)).1 = some (decision answer) ↔
        ScanVerdictKept runtime store.toStore inputs scanRequest qr certificate answer) := by
  constructor
  · intro certificate answer found isConfirmed answered
    obtain ⟨block, path, -, outcome⟩ :=
      verifyByFileUpload_path runtime store inputs fileBytes fileRequest true
    rw [(store.run_eq inputs _).1, outcome.result_eq]
    exact path.verdict found isConfirmed answered
  · intro qr certificate answer found isConfirmed answered
    obtain ⟨block, path, -, outcome⟩ :=
      verifyByQrToken_path runtime store inputs scanRequest true
    rw [(store.run_eq inputs _).1, outcome.result_eq]
    exact path.verdict found isConfirmed answered

/-- The sample file and the sample scan are answered with the verdict of the chain. -/
theorem chain_verdict_kept_sample :
    resultOf ((verifyByFileUpload Runtime.sample Sample.file sampleUpload true).run sessionHandler
        (confirmedStore.toStore, .fresh (Sample.inputs Sample.answered))).1 = some .AUTHENTIC ∧
      resultOf ((verifyByQrToken Runtime.sample sampleScan true).run sessionHandler
        (confirmedStore.toStore, .fresh (Sample.inputs Sample.answered))).1 =
          some .AUTHENTIC := by
  obtain ⟨file, scan⟩ := chain_verdict_kept_iff Runtime.sample confirmedStore
    (Sample.inputs Sample.answered) Sample.file sampleUpload sampleScan
  constructor
  · refine (file (Sample.certificate .CONFIRMED) ⟨true, "ACTIVE", "UNI-2024-00001"⟩
      (by decide +kernel) rfl (by unfold Answers; decide +kernel)).mpr (by decide +kernel)
  · refine (scan Sample.qr (Sample.certificate .CONFIRMED) ⟨true, "ACTIVE", "UNI-2024-00001"⟩
      (by decide +kernel) rfl (by unfold Answers; decide +kernel)).mpr (by decide +kernel)

/-- The chain has a revoked record; the database has not heard of it. -/
def revokedOnChainStore : ValidStore where
  database := Sample.database .CONFIRMED
    [Sample.transaction 5 .STORE_HASH .SUBMITTED (some Sample.txHash)]
  chain := Sample.chain
    [Sample.authorization, Sample.storage "UNI-2024-00001", Sample.revocation "UNI-2024-00001"]
  files := []
  valid := Sample.valid_submitted

/-- The first read is answered and every later one fails. -/
def onlyFirstAnswered (call : Nat) : RpcOutcome where
  mined := []
  failure := if call = 0 then none else some (.retriesExhausted "connection refused")

/-- The chain answers REVOKED, the evidence read fails, and both flows return
PENDING_CHAIN. -/
theorem revoked_verdict_discarded :
    Answers revokedOnChainStore.toStore (Sample.inputs onlyFirstAnswered) "UNI-2024-00001"
        (Runtime.sample.sha256 Sample.file) ⟨false, "REVOKED", "UNI-2024-00001"⟩ ∧
      decision ⟨false, "REVOKED", "UNI-2024-00001"⟩ = .REVOKED ∧
      resultOf ((verifyByFileUpload Runtime.sample Sample.file sampleUpload true).run
        sessionHandler (revokedOnChainStore.toStore,
          .fresh (Sample.inputs onlyFirstAnswered))).1 = some .PENDING_CHAIN ∧
      resultOf ((verifyByQrToken Runtime.sample sampleScan true).run sessionHandler
        (revokedOnChainStore.toStore, .fresh (Sample.inputs onlyFirstAnswered))).1 =
          some .PENDING_CHAIN := by
  unfold Answers
  decide +kernel

end VerificationService
end AcademicCredential
