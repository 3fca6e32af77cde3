import AcademicCredential.Blockchain.Answers
import AcademicCredential.Database.CertificateRows
import AcademicCredential.Services.Verification

/-!
# What the helpers of the verification service do

The log row, the proof and the evidence of a verification as functions of the state in
which they are computed. `chainAnswers` is how the two reads of the chain end,
`evidenceIn` what a flow makes of it.
-/

namespace AcademicCredential

open AcademicCredential.Lib
open AcademicCredential.Contract

/-- What `verify_certificate` and then `get_certificate_record` answer about a
certificate, unless one of them raises. -/
def chainAnswers (runtime : Runtime) (direct : Direct) (certUid : String) (hash : Bytes32) :
    Except Exception (BlockchainVerificationResult × Option ChainCertificateRecord) × Direct :=
  let asked := direct.asked (.verifyCertificate certUid hash)
  match verifyAnswer direct.chain direct.nextOutcome certUid hash with
  | .error error => (.error error, asked)
  | .ok answer =>
      ((recordLookup runtime asked certUid).1.map fun record => (answer, record),
        (recordLookup runtime asked certUid).2)

/-- The answers depend on the chain, on what the node does and on the reads made. -/
theorem chainAnswers_congr (runtime : Runtime) {left right : Direct}
    (sameChain : left.chain = right.chain) (sameInputs : left.inputs = right.inputs)
    (sameCalls : left.rpcCalls = right.rpcCalls) (certUid : String) (hash : Bytes32) :
    (chainAnswers runtime left certUid hash).1 = (chainAnswers runtime right certUid hash).1 := by
  have sameOutcome : left.nextOutcome = right.nextOutcome := by
    rw [Direct.nextOutcome, Direct.nextOutcome, sameInputs, sameCalls]
  have sameLookup : (recordLookup runtime (left.asked (.verifyCertificate certUid hash))
      certUid).1 = (recordLookup runtime (right.asked (.verifyCertificate certUid hash))
        certUid).1 := by
    simp only [recordLookup, Direct.nextOutcome, Direct.asked, Direct.nextChain, sameChain,
      sameInputs, sameCalls]
  unfold chainAnswers
  dsimp only
  rw [sameChain, sameOutcome, sameLookup]
  split <;> rfl

/-- Asking the chain leaves the rows. -/
theorem chainAnswers_working (runtime : Runtime) (direct : Direct) (certUid : String)
    (hash : Bytes32) : (chainAnswers runtime direct certUid hash).2.working = direct.working := by
  unfold chainAnswers
  dsimp only
  split <;> rfl

/-- Asking the chain leaves the transaction open. -/
theorem Direct.Open.chainAnswers {direct : Direct} (opened : direct.Open) (runtime : Runtime)
    (certUid : String) (hash : Bytes32) : (chainAnswers runtime direct certUid hash).2.Open := by
  unfold AcademicCredential.chainAnswers
  dsimp only
  split
  · exact opened.asked _
  · exact (opened.asked _).asked _

namespace VerificationService

/-- The STORE_HASH row with a block number. -/
def blockNumber (database : Database) (certificateId : Uuid) : Nat :=
  let txs := BlockchainTransactionRepository.bySubmission
    ((database .blockchainTransactions).filter fun row => row.certificateId = some certificateId)
  ((txs.find? fun tx => tx.txType = .STORE_HASH &&
    (tx.blockNumber.any fun number => number ≠ 0)).bind (·.blockNumber)).getD 0

/-- The STORE_HASH row of a certificate that has a transaction hash. -/
def storedTx? (database : Database) (certificateId : Uuid) : Option BlockchainTransaction :=
  (BlockchainTransactionRepository.bySubmission
    ((database .blockchainTransactions).filter fun row =>
      row.certificateId = some certificateId)).find? fun tx =>
    tx.txType = .STORE_HASH && (tx.txHash.any fun hash => hash ≠ "")

/-- Its transaction hash, or the empty text. -/
def storeTxHash (database : Database) (certificateId : Uuid) : String :=
  ((storedTx? database certificateId).bind (·.txHash)).getD ""

variable {direct : Direct}

/-- `get_block_number` finds the block of the submission. -/
theorem run_getBlockNumber (opened : direct.Open) (certificateId : Uuid) :
    (getBlockNumber certificateId).run directHandler direct =
      (.ok (blockNumber direct.working certificateId), direct) := by
  simp [getBlockNumber, Program.run_map, Except.map, blockNumber,
    BlockchainTransactionRepository.run_getByCertificateId opened]

/-- `get_store_tx_hash` finds the hash of the submission. -/
theorem run_getStoreTxHash (opened : direct.Open) (certificateId : Uuid) :
    (getStoreTxHash certificateId).run directHandler direct =
      (.ok (storeTxHash direct.working certificateId), direct) := by
  simp [getStoreTxHash, Program.run_map, Except.map, storeTxHash, storedTx?,
    BlockchainTransactionRepository.run_getByCertificateId opened]

/-- The row of a log entry: the clock and the new id are the next two reads. -/
def LogEntry.rowIn (entry : LogEntry) (direct : Direct) : VerificationLog :=
  entry.row (direct.inputs.uuid4 (direct.reads + 1)) (direct.inputs.wallClock direct.reads)

/-- Whether a log row is accepted; the day does not matter. -/
def checkLog (database : Database) (row : VerificationLog) : Except Exception Unit :=
  checkInsert 0 database .verificationLogs row

/-- What inserting a log row does. -/
def insertLog (direct : Direct) (row : VerificationLog) : Except Exception Unit × Direct :=
  match checkLog direct.working row with
  | .ok () => (.ok (), direct.write (.insert .verificationLogs row))
  | .error error => (.error error, direct)

/-- The log is inserted, or refused. -/
theorem run_recordLog (opened : direct.Open) (entry : LogEntry) :
    (recordLog entry).run directHandler direct =
      insertLog direct.read.read (entry.rowIn direct) := by
  have created := @BaseRepository.run_create direct.read.read opened.read.read .verificationLogs
    (entry.rowIn direct)
  have sameCheck : checkInsert (direct.read.read.inputs.today direct.read.read.reads)
      direct.read.read.working .verificationLogs (entry.rowIn direct) =
        checkLog direct.read.read.working (entry.rowIn direct) := rfl
  have rowIs : entry.row (direct.read.inputs.uuid4 direct.read.reads)
      (direct.inputs.wallClock direct.reads) = entry.rowIn direct := rfl
  simp only [recordLog, VerificationLogRepository.create, Program.run_bind, Program.run_perform,
    directHandler, rowIs, created, sameCheck, insertLog]
  cases checkLog direct.read.read.working (entry.rowIn direct) <;> rfl

/-- The proof for a record on chain. -/
def proofOf (database : Database) (certificate : Certificate) (record : ChainCertificateRecord) :
    BlockchainProof where
  verified := true
  txHash := storeTxHash database certificate.id
  blockNumber := blockNumber database certificate.id
  issuerAddress := record.issuingUniversity
  storedAt := record.issuedAt

/-- The proof is built from certificate, record and block. -/
theorem run_buildProof (opened : direct.Open) (certificate : Certificate)
    (record : ChainCertificateRecord) :
    (buildProof certificate record (blockNumber direct.working certificate.id)).run directHandler
        direct = (.ok (proofOf direct.working certificate record), direct) := by
  simp only [buildProof, Program.run_bind, run_getStoreTxHash opened, Program.run_pure]
  rfl

/-- What the file flow makes of the two answers. -/
def fileEvidenceOf (database : Database) (certificate : Certificate) (submittedHash : String)
    (answers : BlockchainVerificationResult × Option ChainCertificateRecord) : ChainEvidence where
  result := decision answers.1
  blockchainVerified := true
  blockchainProof := answers.2.map (proofOf database certificate)
  tamperEvidence := some {
    submittedHash
    storedHash := (answers.2.map (·.certificateHash)).getD certificate.sha256Hash
    «match» := answers.1.isValid }

/-- What the QR flow makes of the two answers. -/
def qrEvidenceOf (database : Database) (certificate : Certificate)
    (answers : BlockchainVerificationResult × Option ChainCertificateRecord) : ChainEvidence where
  result := decision answers.1
  blockchainVerified := true
  blockchainProof := answers.2.map (proofOf database certificate)
  tamperEvidence := none

/-- The evidence on a confirmed certificate, or the error that ends the flow: the
answers of the chain if it gives them, the fallback if it is not reached. -/
def evidenceFrom (evidenceOf : BlockchainVerificationResult × Option ChainCertificateRecord →
      ChainEvidence) (fallback : ChainEvidence) :
    Except Exception (BlockchainVerificationResult × Option ChainCertificateRecord) →
      Except Exception ChainEvidence
  | .ok answers => .ok (evidenceOf answers)
  | .error error => if error.isUnreachable then .ok fallback else .error error

/-- The file flow asks the chain for verdict and record. -/
theorem run_consultChainForFile (opened : direct.Open) (runtime : Runtime)
    (certificate : Certificate) (hash : Bytes32) :
    (consultChainForFile runtime certificate (hexText hash.1)).run directHandler direct =
      ((chainAnswers runtime direct certificate.certificateUid hash).1.map
          (fileEvidenceOf direct.working certificate (hexText hash.1)),
        (chainAnswers runtime direct certificate.certificateUid hash).2) := by
  have askedOpen := (opened.asked (.verifyCertificate certificate.certificateUid hash)).asked
    (.getCertificateRecord certificate.certificateUid)
  simp only [consultChainForFile, Program.run_bind,
    BlockchainService.run_verifyCertificate direct certificate.certificateUid rfl, chainAnswers]
  cases verifyAnswer direct.chain direct.nextOutcome certificate.certificateUid hash with
  | error error => rfl
  | ok answer =>
      simp only [BlockchainService.run_getCertificateRecord, recordLookup]
      cases recordAnswer runtime (direct.asked (.verifyCertificate certificate.certificateUid
          hash)).chain (direct.asked (.verifyCertificate certificate.certificateUid
          hash)).nextOutcome certificate.certificateUid with
      | error error => rfl
      | ok record =>
          simp only [run_getBlockNumber askedOpen]
          cases record with
          | none => rfl
          | some record =>
              simp only [Program.run_bind, run_buildProof askedOpen]
              rfl

/-- A scan asks the chain for verdict and record. -/
theorem run_consultChainForQr (opened : direct.Open) (runtime : Runtime)
    (certificate : Certificate) {hash : Bytes32} (isHash : hexText hash.1 = certificate.sha256Hash) :
    (consultChainForQr runtime certificate).run directHandler direct =
      ((chainAnswers runtime direct certificate.certificateUid hash).1.map
          (qrEvidenceOf direct.working certificate),
        (chainAnswers runtime direct certificate.certificateUid hash).2) := by
  have askedOpen := (opened.asked (.verifyCertificate certificate.certificateUid hash)).asked
    (.getCertificateRecord certificate.certificateUid)
  simp only [consultChainForQr, Program.run_bind,
    BlockchainService.run_verifyCertificate direct certificate.certificateUid isHash, chainAnswers]
  cases verifyAnswer direct.chain direct.nextOutcome certificate.certificateUid hash with
  | error error => rfl
  | ok answer =>
      simp only [BlockchainService.run_getCertificateRecord, recordLookup]
      cases recordAnswer runtime (direct.asked (.verifyCertificate certificate.certificateUid
          hash)).chain (direct.asked (.verifyCertificate certificate.certificateUid
          hash)).nextOutcome certificate.certificateUid with
      | error error => rfl
      | ok record =>
          simp only [run_getBlockNumber askedOpen]
          cases record with
          | none => rfl
          | some record =>
              simp only [Program.run_bind, Program.run_map, run_buildProof askedOpen]
              rfl

/-- The evidence and the state after it was gathered. -/
def evidenceIn (runtime : Runtime) (direct : Direct) (consults : Bool) (certUid : String)
    (hash : Bytes32) (evidenceOf : BlockchainVerificationResult × Option ChainCertificateRecord →
      ChainEvidence) (fallback : ChainEvidence) : Except Exception ChainEvidence × Direct :=
  if consults then
    (evidenceFrom evidenceOf fallback (chainAnswers runtime direct certUid hash).1,
      (chainAnswers runtime direct certUid hash).2)
  else
    (.ok fallback, direct)

/-- Finding the evidence leaves the rows. -/
theorem evidenceIn_working (runtime : Runtime) (direct : Direct) (consults : Bool)
    (certUid : String) (hash : Bytes32)
    (evidenceOf : BlockchainVerificationResult × Option ChainCertificateRecord → ChainEvidence)
    (fallback : ChainEvidence) :
    (evidenceIn runtime direct consults certUid hash evidenceOf fallback).2.working =
      direct.working := by
  unfold evidenceIn
  split
  · exact chainAnswers_working runtime direct certUid hash
  · rfl

/-- Reads of the chain are neither clock readings nor new ids. -/
theorem chainAnswers_reads (runtime : Runtime) (direct : Direct) (certUid : String)
    (hash : Bytes32) : (chainAnswers runtime direct certUid hash).2.reads = direct.reads ∧
      (chainAnswers runtime direct certUid hash).2.inputs = direct.inputs := by
  unfold chainAnswers
  dsimp only
  split <;> exact ⟨rfl, rfl⟩

/-- Finding the evidence reads no clock. -/
theorem evidenceIn_reads (runtime : Runtime) (direct : Direct) (consults : Bool)
    (certUid : String) (hash : Bytes32)
    (evidenceOf : BlockchainVerificationResult × Option ChainCertificateRecord → ChainEvidence)
    (fallback : ChainEvidence) :
    (evidenceIn runtime direct consults certUid hash evidenceOf fallback).2.reads =
        direct.reads ∧
      (evidenceIn runtime direct consults certUid hash evidenceOf fallback).2.inputs =
        direct.inputs := by
  unfold evidenceIn
  split
  · exact chainAnswers_reads runtime direct certUid hash
  · exact ⟨rfl, rfl⟩

/-- Finding the evidence leaves the transaction open. -/
theorem Open.evidenceIn (opened : direct.Open) (runtime : Runtime) (consults : Bool)
    (certUid : String) (hash : Bytes32)
    (evidenceOf : BlockchainVerificationResult × Option ChainCertificateRecord → ChainEvidence)
    (fallback : ChainEvidence) :
    (evidenceIn runtime direct consults certUid hash evidenceOf fallback).2.Open := by
  unfold VerificationService.evidenceIn
  split
  · exact opened.chainAnswers runtime certUid hash
  · exact opened

/-- Once the first read is answered, the two reads end as the second one does. -/
theorem chainAnswers_of_verified {runtime : Runtime} {direct : Direct} {certUid : String}
    {hash : Bytes32} {answer : BlockchainVerificationResult}
    (verified : verifyAnswer direct.chain direct.nextOutcome certUid hash = .ok answer) :
    (chainAnswers runtime direct certUid hash).1 =
      (recordLookup runtime (direct.asked (.verifyCertificate certUid hash)) certUid).1.map
        fun record => (answer, record) := by
  unfold chainAnswers
  rw [verified]

/-- The reads of the chain end in an error that the flow does not catch. -/
def ChainRaises (runtime : Runtime) (direct : Direct) (certUid : String) (hash : Bytes32) : Prop :=
  ∃ error, (chainAnswers runtime direct certUid hash).1 = .error error ∧
    error.isUnreachable = false

/-- Both reads of the chain are answered, and the first one decides for a result. -/
def ChainDecides (runtime : Runtime) (direct : Direct) (certUid : String) (hash : Bytes32)
    (result : VerificationResult) : Prop :=
  ∃ answers, (chainAnswers runtime direct certUid hash).1 = .ok answers ∧
    decision answers.1 = result

section evidence

variable {runtime : Runtime} {asked : Direct} {consults : Bool} {certUid : String}
  {hash : Bytes32} {fallback : ChainEvidence}
  {evidenceOf : BlockchainVerificationResult × Option ChainCertificateRecord → ChainEvidence}

/-- Gathering evidence fails only on an error of the chain that is not caught. -/
theorem evidenceIn_error {error : Exception}
    (gathered : evidenceIn runtime direct consults certUid hash evidenceOf fallback =
      (.error error, asked)) :
    consults = true ∧ (chainAnswers runtime direct certUid hash).1 = .error error ∧
      error.isUnreachable = false := by
  unfold evidenceIn at gathered
  cases consults with
  | false => cases gathered
  | true =>
      obtain ⟨outcome, -⟩ := Prod.mk.inj gathered
      cases answers : (chainAnswers runtime direct certUid hash).1 with
      | ok both =>
          rw [answers] at outcome
          cases outcome
      | error raised =>
          rw [answers, evidenceFrom] at outcome
          cases unreachable : raised.isUnreachable with
          | true =>
              rw [unreachable, if_pos rfl] at outcome
              cases outcome
          | false =>
              simp only [unreachable, Bool.false_eq_true, if_false] at outcome
              cases outcome
              exact ⟨rfl, rfl, unreachable⟩

/-- Evidence is the chain's when both reads were answered, and else the fallback. -/
theorem evidenceIn_ok {evidence : ChainEvidence}
    (gathered : evidenceIn runtime direct consults certUid hash evidenceOf fallback =
      (.ok evidence, asked)) :
    (consults = true ∧ ∃ answers, (chainAnswers runtime direct certUid hash).1 = .ok answers ∧
      evidence = evidenceOf answers) ∨
    (evidence = fallback ∧ (consults = true → ∃ error,
      (chainAnswers runtime direct certUid hash).1 = .error error ∧
        error.isUnreachable = true)) := by
  unfold evidenceIn at gathered
  cases consults with
  | false =>
      cases gathered
      exact .inr ⟨rfl, fun impossible => by cases impossible⟩
  | true =>
      obtain ⟨outcome, -⟩ := Prod.mk.inj gathered
      cases answers : (chainAnswers runtime direct certUid hash).1 with
      | ok both =>
          rw [answers] at outcome
          cases outcome
          exact .inl ⟨rfl, both, rfl, rfl⟩
      | error raised =>
          rw [answers, evidenceFrom] at outcome
          cases unreachable : raised.isUnreachable with
          | true =>
              rw [unreachable, if_pos rfl] at outcome
              cases outcome
              exact .inr ⟨rfl, fun _ => ⟨raised, rfl, unreachable⟩⟩
          | false =>
              simp only [unreachable, Bool.false_eq_true, if_false] at outcome
              cases outcome

/-- Evidence was gathered, so the chain has not ended the flow. -/
theorem evidenceIn_not_raises {evidence : ChainEvidence}
    (gathered : evidenceIn runtime direct consults certUid hash evidenceOf fallback =
      (.ok evidence, asked)) (consulting : consults = true) :
    ¬ ChainRaises runtime direct certUid hash := by
  rintro ⟨error, raised, reached⟩
  rcases evidenceIn_ok gathered with ⟨-, answers, answered, -⟩ | ⟨-, why⟩
  · rw [answered] at raised
    cases raised
  · obtain ⟨other, otherRaised, unreachable⟩ := why consulting
    rw [otherRaised] at raised
    cases raised
    rw [unreachable] at reached
    cases reached

/-- A result other than the fallback's is the chain's decision. -/
theorem evidenceIn_result_iff {evidence : ChainEvidence} {result : VerificationResult}
    (decides : ∀ answers, (evidenceOf answers).result = decision answers.1)
    (notFallback : fallback.result ≠ result)
    (gathered : evidenceIn runtime direct consults certUid hash evidenceOf fallback =
      (.ok evidence, asked)) :
    evidence.result = result ↔
      consults = true ∧ ChainDecides runtime direct certUid hash result := by
  rcases evidenceIn_ok gathered with ⟨consulting, answers, answered, rfl⟩ | ⟨rfl, why⟩
  · rw [decides]
    constructor
    · intro decided
      exact ⟨consulting, answers, answered, decided⟩
    · rintro ⟨-, other, otherAnswered, decided⟩
      rw [answered] at otherAnswered
      cases otherAnswered
      exact decided
  · refine iff_of_false notFallback ?_
    rintro ⟨consulting, answers, answered, -⟩
    obtain ⟨error, raised, -⟩ := why consulting
    rw [raised] at answered
    cases answered

end evidence

/-- An error of the answers is one of the chain. -/
theorem chainAnswers_error {runtime : Runtime} {certUid : String} {hash : Bytes32}
    {error : Exception} (raised : (chainAnswers runtime direct certUid hash).1 = .error error) :
    error.FromChain := by
  unfold chainAnswers at raised
  dsimp only at raised
  split at raised
  · rename_i other answered
    cases raised
    exact verifyAnswer_error answered
  · cases looked : (recordLookup runtime (direct.asked (.verifyCertificate certUid hash))
      certUid).1 with
    | ok record =>
        rw [looked] at raised
        cases raised
    | error other =>
        rw [looked] at raised
        cases raised
        exact recordAnswer_error looked

/-- A `try` block that consults the chain, with its `except` branch. -/
theorem run_catchUnreachable {consult : Action ChainEvidence} {fallback : ChainEvidence}
    {evidenceOf : BlockchainVerificationResult × Option ChainCertificateRecord → ChainEvidence}
    {answers : Except Exception (BlockchainVerificationResult × Option ChainCertificateRecord)}
    {after : Direct}
    (consulted : consult.run directHandler direct = (answers.map evidenceOf, after)) :
    (consult.catchError fun error =>
        if error.isUnreachable then return fallback else Program.raise error).run directHandler
        direct =
      (evidenceFrom evidenceOf fallback answers, after) := by
  rw [Program.run_catchError, consulted]
  cases answers with
  | ok answers => rfl
  | error error =>
      cases unreachable : error.isUnreachable <;>
        simp [Except.map, evidenceFrom, unreachable]

/-- What the file flow gathers on a confirmed certificate. -/
def fileConsultation (runtime : Runtime) (direct : Direct) (certificate : Certificate)
    (hash : Bytes32) (blockchainService : Bool) : Except Exception ChainEvidence × Direct :=
  evidenceIn runtime direct blockchainService certificate.certificateUid hash
    (fileEvidenceOf direct.working certificate (hexText hash.1))
    (fileFallback certificate (hexText hash.1))

/-- The evidence of the file flow is the chain's, or the fallback. -/
theorem run_fileEvidence (opened : direct.Open) (runtime : Runtime) (certificate : Certificate)
    (hash : Bytes32) (blockchainService : Bool) :
    (fileEvidence runtime certificate (hexText hash.1) blockchainService).run directHandler
        direct =
      fileConsultation runtime direct certificate hash blockchainService := by
  cases blockchainService with
  | false => rfl
  | true =>
      exact run_catchUnreachable (run_consultChainForFile opened runtime certificate hash)

/-- What the QR flow gathers on a scanned certificate. -/
def qrConsultation (runtime : Runtime) (direct : Direct) (certificate : Certificate)
    (hash : Bytes32) (blockchainService : Bool) : Except Exception ChainEvidence × Direct :=
  evidenceIn runtime direct (certificate.blockchainStatus = .CONFIRMED && blockchainService)
    certificate.certificateUid hash (qrEvidenceOf direct.working certificate)
    (qrFallback certificate)

/-- The evidence of a scan is the chain's, or the fallback. -/
theorem run_qrEvidence (opened : direct.Open) (runtime : Runtime) (certificate : Certificate)
    {hash : Bytes32} (isHash : hexText hash.1 = certificate.sha256Hash)
    (blockchainService : Bool) :
    (qrEvidence runtime certificate blockchainService).run directHandler direct =
      qrConsultation runtime direct certificate hash blockchainService := by
  unfold qrEvidence qrConsultation evidenceIn
  split
  · exact run_catchUnreachable (run_consultChainForQr opened runtime certificate isHash)
  · rfl

end VerificationService
end AcademicCredential
