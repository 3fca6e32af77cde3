import AcademicCredential.Footprints
import AcademicCredential.Services.Revocation
import AcademicCredential.Services.Verification

/-!
# What the certificate services may perform

The operations of the four certificate services, of the QR generation and of the two
verification flows, whatever the replies: reads, and the writes each lemma lists as a
hypothesis.
-/

namespace AcademicCredential

open AcademicCredential.Lib

variable {allowed : (Reply : Type) → Op Reply → Prop}

variable (reading : ∀ (Reply : Type) (op : Op Reply), op.isReading = true → allowed Reply op)

include reading

namespace QrVerificationService

/-- Generating a QR code flushes and inserts its row and nothing else. -/
theorem every_generateBlock (runtime : Runtime) (certId user : Uuid)
    (flush : ∀ id assignments, allowed _ (.flush .qrVerifications id assignments))
    (insert : ∀ row, allowed _ (.insert .qrVerifications row)) :
    (generateBlock runtime certId user).Every allowed := by
  have create : (do
      let token ← Program.perform .tokenUrlsafe
      let id ← Program.perform .uuid4
      let createdAt ← Program.perform .serverNow
      QRVerificationRepository.create {
        id
        certificateId := certId
        token
        verificationUrl := runtime.verificationBaseUrl ++ "/" ++ token
        totalScanCount := 0
        lastScannedAt := none
        isActive := true
        deactivatedAt := none
        deactivatedReason := none
        expiresAt := none
        generatedBy := user
        createdAt } : Action QRVerification).Every allowed :=
    Program.every_bind (every_reading reading rfl) fun _ =>
      Program.every_bind (every_reading reading rfl) fun _ =>
        Program.every_bind (every_reading reading rfl) fun _ =>
          BaseRepository.every_create reading (insert _)
  refine Program.every_bind (BaseRepository.every_getById reading _ _) fun certificate => ?_
  cases certificate with
  | none => exact Program.every_raise _
  | some certificate =>
      dsimp only
      split
      · exact Program.every_raise _
      · refine Program.every_bind (BaseRepository.every_findOne reading _ _) fun existing => ?_
        cases existing with
        | none => exact create
        | some existing =>
            refine Program.every_bind (BaseRepository.every_modify reading ?_) fun _ => create
            rw [bind_assoc]
            exact Program.every_bind (every_reading reading rfl) fun now =>
              every_attempt (flush _ _)

end QrVerificationService

namespace CertificateIssuanceService

/-- The row of the submission is updated when there is one. -/
theorem every_updateStoreTx (tx? : Option BlockchainTransaction) (status : TransactionStatus)
    (blockData : List TransactionAssignment)
    (flush : ∀ id assignments, allowed _ (.flush .blockchainTransactions id assignments)) :
    (updateStoreTx tx? status blockData).Every allowed := by
  cases tx? with
  | none => exact Program.every_pure _
  | some tx =>
      exact Program.every_bind (BaseRepository.every_modify_return reading (flush _ _)) fun _ =>
        Program.every_pure _

omit reading in
/-- `save_certificate` writes one file. -/
theorem every_saveCertificate (fileBytes : List UInt8) (universityId certId : Uuid)
    (save : ∀ path bytes, allowed _ (.writeFile path bytes)) :
    (saveCertificate fileBytes universityId certId).Every allowed :=
  Program.every_bind ((Program.every_perform _).mpr (save _ _)) fun _ => Program.every_pure _

/-- An upload writes its file, then its certificate and a submission without a hash, both
PENDING. -/
theorem every_createRecords (runtime : Runtime) (fileBytes : List UInt8)
    (fileOriginalName : String) (metadata : IssueMetadata) (currentUser studentUser : User)
    (university : University) (walletAddress : String)
    (save : ∀ path bytes, allowed _ (.writeFile path bytes))
    (insertCertificate : ∀ row : Certificate, row.blockchainStatus = .PENDING →
      row.isActive = true → allowed _ (.insert .certificates row))
    (insertTransaction : ∀ row : BlockchainTransaction, row.status = .PENDING →
      row.txHash = none → allowed _ (.insert .blockchainTransactions row)) :
    (createRecords runtime fileBytes fileOriginalName metadata currentUser studentUser university
      walletAddress).Every allowed := by
  refine Program.every_bind (every_reading reading rfl) fun today => ?_
  refine Program.every_bind
    (CertificateRepository.every_getNextUidSequence reading _ _) fun sequence => ?_
  refine Program.every_bind (BaseRepository.every_findOne reading _ _) fun duplicate => ?_
  cases duplicate with
  | some _ => exact Program.every_raise _
  | none =>
      refine Program.every_bind (every_reading reading rfl) fun certId => ?_
      refine Program.every_bind (every_saveCertificate _ _ _ save) fun filePath => ?_
      refine Program.every_bind (BaseRepository.every_create reading
        (insertCertificate _ rfl rfl)) fun certificate => ?_
      refine Program.every_bind (every_reading reading rfl) fun txId => ?_
      refine Program.every_bind (every_reading reading rfl) fun submittedAt => ?_
      exact Program.every_bind (BaseRepository.every_create reading
        (insertTransaction _ rfl rfl))
        fun _ => Program.every_pure _

/-- Everything an upload does besides its reads is in its two records. -/
theorem every_uploadBlock (runtime : Runtime) (fileBytes : List UInt8)
    (fileOriginalName : String) (metadata : IssueMetadata) (currentUser : User)
    (save : ∀ path bytes, allowed _ (.writeFile path bytes))
    (insertCertificate : ∀ row : Certificate, row.blockchainStatus = .PENDING →
      row.isActive = true → allowed _ (.insert .certificates row))
    (insertTransaction : ∀ row : BlockchainTransaction, row.status = .PENDING →
      row.txHash = none → allowed _ (.insert .blockchainTransactions row)) :
    (uploadBlock runtime fileBytes fileOriginalName metadata currentUser).Every allowed := by
  refine Program.every_bind (BaseRepository.every_findOne reading _ _) fun university => ?_
  cases university with
  | none => exact Program.every_raise _
  | some university =>
      dsimp only
      split
      · exact Program.every_raise _
      cases walletOf university with
      | none => exact Program.every_raise _
      | some walletAddress =>
          refine Program.every_bind (BaseRepository.every_findOne reading _ _) fun studentUser => ?_
          cases studentUser with
          | none => exact Program.every_raise _
          | some studentUser =>
              refine Program.every_bind (BaseRepository.every_findOne reading _ _) fun student => ?_
              cases student with
              | none => exact Program.every_raise _
              | some _ =>
                  exact every_createRecords reading _ _ _ _ _ _ _ _ save insertCertificate
                    insertTransaction

/-- The status writes of a confirmation. -/
theorem every_statusWrites {Value : Type} (tx? : Option BlockchainTransaction)
    (status : TransactionStatus) (blockData : List TransactionAssignment) (id : Uuid)
    (mark : BlockchainStatus) {next : Option Certificate → Action Value}
    (flushTransaction : ∀ id assignments, allowed _ (.flush .blockchainTransactions id assignments))
    (flushCertificate : allowed _ (.flush .certificates id [.blockchainStatus mark]))
    (rest : ∀ updated, (next updated).Every allowed) :
    (do updateStoreTx tx? status blockData
        next (← CertificateRepository.updateBlockchainStatus id mark)).Every allowed :=
  Program.every_bind (every_updateStoreTx reading _ _ _ flushTransaction) fun _ =>
    Program.every_bind (BaseRepository.every_modify_return reading flushCertificate) rest

/-- A failed cross-check flushes the row of the submission. -/
theorem every_crossCheckFailed {Value : Type} (storeTx : Option BlockchainTransaction)
    (txHash message : String)
    (flush : ∀ id assignments, allowed _ (.flush .blockchainTransactions id assignments)) :
    (crossCheckFailed storeTx txHash message : Action Value).Every allowed :=
  Program.every_bind (every_updateStoreTx reading _ _ _ flush) fun _ => Program.every_raise _

/-- The `try` statement of a confirmation. -/
theorem every_verifyStorage (runtime : Runtime) (certificate : Certificate)
    (university : Option University) (storeTx : Option BlockchainTransaction) (txHash : String)
    (flushTransaction : ∀ id assignments, allowed _ (.flush .blockchainTransactions id assignments))
    (mark : ∀ status, status ≠ .REVOKED →
      allowed _ (.flush .certificates certificate.id [.blockchainStatus status])) :
    (verifyStorage runtime certificate university storeTx txHash).Every allowed := by
  refine Program.every_bind
    (BlockchainService.every_getTransactionReceipt reading _ _) fun receipt => ?_
  cases receipt with
  | none =>
      exact every_statusWrites reading _ _ _ _ _ flushTransaction (mark .SUBMITTED (by decide))
        fun _ => Program.every_pure _
  | some receipt =>
      dsimp only
      split
      · exact every_statusWrites reading _ _ _ _ _ flushTransaction (mark .FAILED (by decide))
          fun _ => Program.every_raise _
      · refine Program.every_bind
          (BlockchainService.every_getCertificateRecord reading _ _) fun record => ?_
        cases record with
        | none => exact every_crossCheckFailed reading _ _ _ flushTransaction
        | some record =>
            dsimp only [crossValidate]
            split
            · exact every_crossCheckFailed reading _ _ _ flushTransaction
            split
            · exact every_crossCheckFailed reading _ _ _ flushTransaction
            · exact every_statusWrites reading _ _ _ _ _ flushTransaction
                (mark .CONFIRMED (by decide)) fun _ => Program.every_pure _

/-- The `except` clauses of a confirmation. -/
theorem every_unreachable {Value : Type} (certificate : Certificate)
    (storeTx : Option BlockchainTransaction)
    (txHash : String) (error : Exception)
    (flushTransaction : ∀ id assignments, allowed _ (.flush .blockchainTransactions id assignments))
    (submit : allowed _ (.flush .certificates certificate.id [.blockchainStatus .SUBMITTED])) :
    (if error.isUnreachable then do
        unreachableWrites certificate storeTx txHash
        Program.raise error
      else
        Program.raise error : Action Value).Every allowed := by
  split
  · refine Program.every_bind ?_ fun _ => Program.every_raise _
    unfold unreachableWrites
    split
    · exact every_statusWrites reading _ _ _ _ _ flushTransaction submit
        fun _ => Program.every_pure _
    · exact Program.every_pure _
  · exact Program.every_raise _

/-- The block of a confirmation marks the certificate and updates its transaction. -/
theorem every_confirmBlock (runtime : Runtime) (certId : Uuid) (txHash : String)
    (currentUser : User)
    (flushTransaction : ∀ id assignments, allowed _ (.flush .blockchainTransactions id assignments))
    (flushCertificate : ∀ id status, allowed _ (.flush .certificates id
      [.blockchainStatus status])) :
    (confirmBlock runtime certId txHash currentUser).Every allowed := by
  refine Program.every_bind (BaseRepository.every_getById reading _ _) fun certificate => ?_
  cases certificate with
  | none => exact Program.every_raise _
  | some certificate =>
      dsimp only
      split
      · exact Program.every_raise _
      split
      · exact Program.every_raise _
      refine Program.every_bind (BaseRepository.every_findOne reading _ _) fun university => ?_
      refine Program.every_bind
        (BlockchainTransactionRepository.every_getByCertificateId reading _) fun txs => ?_
      exact Program.every_catchError
        (every_verifyStorage reading _ _ _ _ _ flushTransaction
          fun status _ => flushCertificate _ status)
        fun error => every_unreachable reading _ _ _ error flushTransaction (flushCertificate _ _)

end CertificateIssuanceService

namespace CertificateRevocationService

open CertificateIssuanceService

/-- The checks before a revocation only read. -/
theorem every_preflight (runtime : Runtime) (certificate : Certificate) (walletAddress : String) :
    (preflight runtime certificate walletAddress).Every allowed := by
  refine Program.every_catchError ?_ fun error => ?_
  · refine Program.every_bind (BlockchainService.every_isAuthorizedIssuer reading _ _) fun allows => ?_
    split
    · exact Program.every_raise _
    · refine Program.every_bind
        (BlockchainService.every_getCertificateRecord reading _ _) fun record => ?_
      cases record with
      | none => exact Program.every_raise _
      | some record =>
          dsimp only
          split
          · exact Program.every_raise _
          split
          · exact Program.every_raise _
          · exact Program.every_pure _
  · split
    · exact Program.every_pure _
    · exact Program.every_raise _

/-- A revocation is initiated by a reason on the certificate and one submission. -/
theorem every_initiateBlock (runtime : Runtime) (certId : Uuid) (reason : String)
    (currentUser : User) (blockchainService : Bool)
    (insertTransaction : ∀ row : BlockchainTransaction, row.status = .PENDING →
      row.txHash = none → allowed _ (.insert .blockchainTransactions row)) :
    (initiateBlock runtime certId reason currentUser blockchainService).Every allowed := by
  refine Program.every_bind (BaseRepository.every_getById reading _ _) fun certificate => ?_
  cases certificate with
  | none => exact Program.every_raise _
  | some certificate =>
      dsimp only
      split
      · exact Program.every_raise _
      split
      · exact Program.every_raise _
      split
      · exact Program.every_raise _
      refine Program.every_bind (BaseRepository.every_findOne reading _ _) fun university => ?_
      cases university with
      | none => exact Program.every_raise _
      | some university =>
          dsimp only
          cases walletOf university with
          | none => exact Program.every_raise _
          | some walletAddress =>
              have create : ∀ _ : Unit, (do
                  let id ← Program.perform .uuid4
                  let submittedAt ← Program.perform .serverNow
                  let _ ← BlockchainTransactionRepository.create {
                    id
                    certificateId := some certId
                    txHash := none
                    txType := .REVOKE_HASH
                    fromAddress := walletAddress
                    toAddress := runtime.contractAddress
                    contractAddress := runtime.contractAddress
                    blockNumber := none
                    blockHash := none
                    gasUsed := none
                    gasPriceWei := none
                    transactionFeeWei := none
                    networkName := runtime.networkName
                    networkChainId := runtime.networkChainId
                    certificateHashStored := none
                    status := .PENDING
                    errorMessage := some reason
                    submittedAt
                    confirmedAt := none }
                  return (certificate, walletAddress) :
                    Action (Certificate × String)).Every allowed := fun _ =>
                Program.every_bind (every_reading reading rfl) fun _ =>
                  Program.every_bind (every_reading reading rfl) fun _ =>
                    Program.every_bind (BaseRepository.every_create reading
        (insertTransaction _ rfl rfl))
                      fun _ => Program.every_pure _
              dsimp only
              split
              · exact Program.every_bind (every_preflight reading _ _ _) create
              · exact create ()

/-- A confirmed revocation flushes its submission and the certificate. -/
theorem every_confirmBlock (runtime : Runtime) (certId : Uuid) (txHash : String)
    (currentUser : User)
    (flushTransaction : ∀ id assignments, allowed _ (.flush .blockchainTransactions id assignments))
    (flushCertificate : ∀ id reason user now, allowed _ (.flush .certificates id
      (CertificateRepository.revocation reason user now))) :
    (confirmBlock runtime certId txHash currentUser).Every allowed := by
  have updates : ∀ tx? status blockData, (updateRevokeTx tx? status blockData).Every allowed :=
    fun _ _ _ => every_updateStoreTx reading _ _ _ flushTransaction
  refine Program.every_bind (BaseRepository.every_getById reading _ _) fun certificate => ?_
  cases certificate with
  | none => exact Program.every_raise _
  | some certificate =>
      dsimp only
      split
      · exact Program.every_raise _
      split
      · exact Program.every_raise _
      refine Program.every_bind
        (BlockchainTransactionRepository.every_getByCertificateId reading _) fun txs => ?_
      refine Program.every_catchError ?_ fun error => ?_
      · refine Program.every_bind
          (BlockchainService.every_getTransactionReceipt reading _ _) fun receipt => ?_
        cases receipt with
        | none => exact Program.every_bind (updates _ _ _) fun _ => Program.every_pure _
        | some receipt =>
            dsimp only
            split
            · exact Program.every_bind (updates _ _ _) fun _ => Program.every_raise _
            · refine Program.every_bind
                (BlockchainService.every_getCertificateRecord reading _ _) fun record => ?_
              cases record with
              | none => exact Program.every_raise _
              | some record =>
                  dsimp only [recordRevocation]
                  split
                  · exact Program.every_raise _
                  refine Program.every_bind ?_ fun revokedAt => ?_
                  · unfold revocationTime
                    cases record.revokedAt with
                    | none => exact every_reading reading rfl
                    | some _ => exact Program.every_pure _
                  · refine Program.every_bind (CertificateRepository.every_revoke reading
                      fun now => flushCertificate _ _ _ now) fun _ => ?_
                    exact Program.every_bind (updates _ _ _) fun _ => Program.every_pure _
      · split
        · exact Program.every_bind (updates _ _ _) fun _ => Program.every_raise _
        · exact Program.every_raise _

end CertificateRevocationService
namespace BlockchainService

/-- Asking the chain only reads. -/
theorem every_verifyCertificate (certUid submittedHashHex : String) :
    (verifyCertificate certUid submittedHashHex).Every allowed := by
  unfold verifyCertificate
  split
  · exact Program.every_raise _
  · split
    · exact Program.every_raise _
    · exact Program.every_bind (every_rpc reading _) fun _ => Program.every_pure _

end BlockchainService

namespace VerificationService

/-- A verification is logged by one row. -/
theorem every_recordLog (entry : LogEntry)
    (insert : ∀ row, allowed _ (.insert .verificationLogs row)) :
    (recordLog entry).Every allowed :=
  Program.every_bind (every_reading reading rfl) fun _ =>
    Program.every_bind (every_reading reading rfl) fun _ =>
      Program.every_bind (BaseRepository.every_create reading (insert _)) fun _ =>
        Program.every_pure _

/-- Building the answer only reads. -/
theorem every_buildResult (verificationId : Uuid) (result : VerificationResult)
    (certificate : Option Certificate) (submittedHash : Option String) (hashMatch : Option Bool)
    (processingTimeMs : Nat) (blockchainProof : Option BlockchainProof)
    (tamperEvidence : Option TamperEvidence) :
    (buildResult verificationId result certificate submittedHash hashMatch processingTimeMs
      blockchainProof tamperEvidence).Every allowed :=
  Program.every_bind (every_reading reading rfl) fun _ => Program.every_pure _

/-- Looking up the hash of the submission only reads. -/
theorem every_getStoreTxHash (certificateId : Uuid) :
    (getStoreTxHash certificateId).Every allowed :=
  Program.every_bind (BlockchainTransactionRepository.every_getByCertificateId reading _)
    fun _ => Program.every_pure _

/-- Looking up the block of the submission only reads. -/
theorem every_getBlockNumber (certificateId : Uuid) :
    (getBlockNumber certificateId).Every allowed :=
  Program.every_bind (BlockchainTransactionRepository.every_getByCertificateId reading _)
    fun _ => Program.every_pure _

/-- Building the proof only reads. -/
theorem every_buildProof (certificate : Certificate) (chainRecord : ChainCertificateRecord)
    (blockNumber : Nat) : (buildProof certificate chainRecord blockNumber).Every allowed :=
  Program.every_bind (every_getStoreTxHash reading _) fun _ => Program.every_pure _

/-- Looking for the certificate only reads. -/
theorem every_findCertificate (certUidHint : Option String) (submittedHash : String) :
    (findCertificate certUidHint submittedHash).Every allowed := by
  unfold findCertificate
  dsimp only
  split
  on_goal 1 => split
  -- With and without a hint the first lookup is followed by the one by hash.
  all_goals
    refine Program.every_bind ?_ fun found => ?_
    · first
      | exact Program.every_pure _
      | exact BaseRepository.every_findOne reading _ _
    · cases found with
      | none => exact BaseRepository.every_findOne reading _ _
      | some certificate => exact Program.every_pure _

/-- Comparing the file with the chain only reads. -/
theorem every_fileEvidence (runtime : Runtime) (certificate : Certificate)
    (submittedHash : String) (blockchainService : Bool) :
    (fileEvidence runtime certificate submittedHash blockchainService).Every allowed := by
  cases blockchainService with
  | false => exact Program.every_pure _
  | true =>
      refine Program.every_catchError ?_ fun error => ?_
      · refine Program.every_bind (BlockchainService.every_verifyCertificate reading _ _) fun _ => ?_
        refine Program.every_bind (BlockchainService.every_getCertificateRecord reading _ _)
          fun record => ?_
        refine Program.every_bind (every_getBlockNumber reading _) fun _ => ?_
        cases record with
        | none => exact Program.every_pure _
        | some record =>
            exact Program.every_bind (every_buildProof reading _ _ _) fun _ => Program.every_pure _
      · split
        · exact Program.every_pure _
        · exact Program.every_raise _

/-- Comparing the stored hash with the chain only reads. -/
theorem every_qrEvidence (runtime : Runtime) (certificate : Certificate)
    (blockchainService : Bool) :
    (qrEvidence runtime certificate blockchainService).Every allowed := by
  unfold qrEvidence
  split
  · refine Program.every_catchError ?_ fun error => ?_
    · refine Program.every_bind (BlockchainService.every_verifyCertificate reading _ _) fun _ => ?_
      refine Program.every_bind (BlockchainService.every_getCertificateRecord reading _ _)
        fun record => ?_
      refine Program.every_bind (every_getBlockNumber reading _) fun _ => ?_
      cases record with
      | none => exact Program.every_bind (Program.every_pure _) fun _ => Program.every_pure _
      | some record =>
          exact Program.every_bind (Program.every_bind (every_buildProof reading _ _ _)
            fun _ => Program.every_pure _) fun _ => Program.every_pure _
    · split
      · exact Program.every_pure _
      · exact Program.every_raise _
  · exact Program.every_pure _

/-- The block of the file flow writes its log and nothing else. -/
theorem every_fileBlock (runtime : Runtime) (request : FileRequest) (blockchainService : Bool)
    (startTime : Nat) (verificationId : Uuid) (submittedHash : String)
    (insert : ∀ row, allowed _ (.insert .verificationLogs row)) :
    (fileBlock runtime request blockchainService startTime verificationId
      submittedHash).Every allowed := by
  refine Program.every_bind (every_findCertificate reading _ _) fun certificate => ?_
  refine Program.every_bind (every_reading reading rfl) fun _ => ?_
  cases certificate with
  | none =>
      refine Program.every_bind (every_recordLog reading _ insert) fun _ => ?_
      exact Program.every_bind (every_buildResult reading _ _ _ _ _ _ _ _) fun _ =>
        Program.every_pure _
  | some certificate =>
      dsimp only
      split
      · refine Program.every_bind (every_recordLog reading _ insert) fun _ => ?_
        exact Program.every_bind (every_buildResult reading _ _ _ _ _ _ _ _) fun _ =>
          Program.every_pure _
      · refine Program.every_bind (every_fileEvidence reading _ _ _ _) fun _ => ?_
        refine Program.every_bind (every_reading reading rfl) fun _ => ?_
        refine Program.every_bind (every_getStoreTxHash reading _) fun _ => ?_
        exact Program.every_bind (every_recordLog reading _ insert) fun _ => Program.every_pure _

/-- The certificate of a scanned code is only read. -/
theorem every_scannedCertificate (qr : Option QRVerification) :
    (scannedCertificate qr).Every allowed := by
  cases qr with
  | none => exact Program.every_pure _
  | some qr =>
      unfold scannedCertificate
      dsimp only
      split
      · exact Program.every_pure _
      · refine Program.every_bind ?_ fun expired => ?_
        · unfold isExpired
          split
          · exact Program.every_pure _
          · exact Program.every_bind (every_reading reading rfl) fun _ => Program.every_pure _
        · split
          · exact Program.every_pure _
          · exact Program.every_bind (BaseRepository.every_getById reading _ _) fun _ =>
              Program.every_pure _

/-- The block of a scan counts it and writes its log. -/
theorem every_qrBlock (runtime : Runtime) (request : ScanRequest) (blockchainService : Bool)
    (startTime : Nat) (verificationId : Uuid)
    (count : ∀ id assignments, allowed _ (.executeUpdate .qrVerifications id assignments))
    (insert : ∀ row, allowed _ (.insert .verificationLogs row)) :
    (qrBlock runtime request blockchainService startTime verificationId).Every allowed := by
  refine Program.every_bind (BaseRepository.every_findOne reading _ _) fun qr => ?_
  refine Program.every_bind (every_reading reading rfl) fun _ => ?_
  refine Program.every_bind (every_scannedCertificate reading qr) fun scanned => ?_
  cases scanned with
  | none =>
      exact Program.every_bind (every_buildResult reading _ _ _ _ _ _ _ _) fun _ =>
        Program.every_pure _
  | some both =>
      refine Program.every_bind (every_qrEvidence reading _ _ _) fun _ => ?_
      refine Program.every_bind (every_reading reading rfl) fun _ => ?_
      refine Program.every_bind (Program.every_bind (every_reading reading rfl) fun _ =>
        every_attempt (count _ _)) fun _ => ?_
      refine Program.every_bind (every_getStoreTxHash reading _) fun _ => ?_
      exact Program.every_bind (every_recordLog reading _ insert) fun _ => Program.every_pure _

end VerificationService
end AcademicCredential
