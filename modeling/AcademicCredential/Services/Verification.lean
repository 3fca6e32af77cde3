import AcademicCredential.Blockchain.Service
import AcademicCredential.Repositories

/-!
# The verification service

`verify_by_file_upload` and `verify_by_qr_token`, with their private helpers. Each flow
is one transaction; the `return` statements inside the block are the `returned` exits
of `FlowExit`, which commit like falling off its end does.
-/

namespace AcademicCredential

open AcademicCredential.Lib

namespace VerificationService

/-- The proof that an answer shows. -/
structure BlockchainProof where
  verified : Bool
  txHash : String
  blockNumber : Nat
  issuerAddress : String
  storedAt : Timestamp
  deriving DecidableEq, Repr

/-- The evidence of tampering that an answer shows. -/
structure TamperEvidence where
  submittedHash : String
  storedHash : String
  «match» : Bool
  deriving DecidableEq, Repr

/-- `university_name` is not an attribute of the model, so it reads as `None`. -/
structure CertificateInfo where
  certificateUid : String
  recipientName : String
  degreeTitle : String
  universityName : Option String
  issueDate : Date
  isActive : Bool
  deriving DecidableEq, Repr

/-- The answer to a verification. -/
structure VerificationResponse where
  verificationId : Uuid
  result : VerificationResult
  certificate : Option CertificateInfo
  blockchainProof : Option BlockchainProof
  tamperEvidence : Option TamperEvidence
  verifiedAt : Timestamp
  processingTimeMs : Nat
  deriving DecidableEq, Repr

/-- What the blockchain part of a flow leaves behind. -/
structure ChainEvidence where
  result : VerificationResult
  blockchainVerified : Bool
  blockchainProof : Option BlockchainProof
  tamperEvidence : Option TamperEvidence
  deriving DecidableEq, Repr

/-- How the transaction block of a flow is left. -/
inductive FlowExit where
  | returned (response : VerificationResponse)
  | completed (certificate : Certificate) (evidence : ChainEvidence) (processingTimeMs : Nat)

/-- `_get_block_number`. -/
def getBlockNumber (certificateId : Uuid) : Action Nat := do
  let txs ← BlockchainTransactionRepository.getByCertificateId certificateId
  let numbered := txs.find? fun tx =>
    tx.txType = .STORE_HASH && (tx.blockNumber.any fun number => number ≠ 0)
  return (numbered.bind (·.blockNumber)).getD 0

/-- `_get_store_tx_hash`. -/
def getStoreTxHash (certificateId : Uuid) : Action String := do
  let txs ← BlockchainTransactionRepository.getByCertificateId certificateId
  let hashed := txs.find? fun tx =>
    tx.txType = .STORE_HASH && (tx.txHash.any fun hash => hash ≠ "")
  return (hashed.bind (·.txHash)).getD ""

/-- The keyword arguments of `_record_log`, with their defaults. `university_name` is
passed as `getattr(certificate, 'university_name', None)` and is `None` throughout. -/
structure LogEntry where
  certificateId : Option Uuid
  certificateUidQueried : Option String
  verifierUserId : Option Uuid
  method : VerificationMethod
  result : VerificationResult
  submittedHash : Option String := none
  storedHash : Option String := none
  hashMatch : Option Bool := none
  blockchainVerified : Bool := false
  blockchainTxHash : Option String := none
  qrVerificationId : Option Uuid := none
  ipAddress : Option String := none
  userAgent : Option String := none
  processingTimeMs : Option Nat := none
  universityName : Option String := none
  degreeTitle : Option String := none
  recipientName : Option String := none
  deriving DecidableEq, Repr

/-- The row of an entry. -/
def LogEntry.row (entry : LogEntry) (id : Uuid) (verifiedAt : Timestamp) : VerificationLog where
  id
  certificateId := entry.certificateId
  certificateUidQueried := entry.certificateUidQueried
  verifierUserId := entry.verifierUserId
  qrVerificationId := entry.qrVerificationId
  verificationMethod := entry.method
  result := entry.result
  submittedHash := entry.submittedHash
  storedHash := entry.storedHash
  hashMatch := entry.hashMatch
  blockchainVerified := entry.blockchainVerified
  blockchainTxHash := entry.blockchainTxHash
  universityNameSnapshot := entry.universityName
  degreeTitleSnapshot := entry.degreeTitle
  recipientNameSnapshot := entry.recipientName
  ipAddress := entry.ipAddress
  userAgent := entry.userAgent
  processingTimeMs := entry.processingTimeMs
  verifiedAt

/-- `_record_log`: the row's primary key is a new one, not the `verification_id`. -/
def recordLog (entry : LogEntry) : Action Unit := do
  let verifiedAt ← Program.perform .now
  let id ← Program.perform .uuid4
  let _ ← VerificationLogRepository.create (entry.row id verifiedAt)

/-- `_build_result`. -/
def buildResult (verificationId : Uuid) (result : VerificationResult)
    (certificate : Option Certificate) (submittedHash : Option String)
    (hashMatch : Option Bool) (processingTimeMs : Nat)
    (blockchainProof : Option BlockchainProof) (tamperEvidence : Option TamperEvidence) :
    Action VerificationResponse := do
  let certificateInfo := certificate.map fun certificate =>
    { certificateUid := certificate.certificateUid
      recipientName := certificate.recipientName
      degreeTitle := certificate.degreeTitle
      universityName := none
      issueDate := certificate.issueDate
      isActive := certificate.isActive }
  let evidence :=
    match tamperEvidence, submittedHash, certificate with
    | some evidence, _, _ => some evidence
    | none, some submittedHash, some certificate =>
        some { submittedHash, storedHash := certificate.sha256Hash, «match» := hashMatch.getD false }
    | none, _, _ => none
  let verifiedAt ← Program.perform .now
  return {
    verificationId
    result
    certificate := certificateInfo
    blockchainProof
    tamperEvidence := evidence
    verifiedAt
    processingTimeMs }

/-- The decision on an answer of `verify_certificate`. -/
def decision (chainResult : BlockchainVerificationResult) : VerificationResult :=
  if chainResult.status = "REVOKED" then .REVOKED
  else if chainResult.isValid && chainResult.status = "ACTIVE" then .AUTHENTIC
  else .TAMPERED

/-- The proof a record on chain gives, with what the database knows of its transaction. -/
def buildProof (certificate : Certificate) (chainRecord : ChainCertificateRecord)
    (blockNumber : Nat) : Action BlockchainProof := do
  let txHash ← getStoreTxHash certificate.id
  return {
    verified := true
    txHash
    blockNumber
    issuerAddress := chainRecord.issuingUniversity
    storedAt := chainRecord.issuedAt }

/-- The certificate by its UID if a hint was given, else or otherwise by the hash. -/
def findCertificate (certUidHint : Option String) (submittedHash : String) :
    Action (Option Certificate) := do
  let byHint ←
    match certUidHint with
    | some hint => if hint ≠ "" then CertificateRepository.getByUid hint else pure none
    | none => pure none
  match byHint with
  | some certificate => return some certificate
  | none => CertificateRepository.getByHash submittedHash

/-- What the database alone says about an uploaded file. -/
def fileFallback (certificate : Certificate) (submittedHash : String) : ChainEvidence :=
  let hashMatch := compareHashes submittedHash certificate.sha256Hash
  { result :=
      if !certificate.isActive then .REVOKED
      else if hashMatch then .PENDING_CHAIN
      else .TAMPERED
    blockchainVerified := false
    blockchainProof := none
    tamperEvidence := some {
      submittedHash, storedHash := certificate.sha256Hash, «match» := hashMatch } }

/-- The `try` block of the file flow. -/
def consultChainForFile (runtime : Runtime) (certificate : Certificate)
    (submittedHash : String) : Action ChainEvidence := do
  let chainResult ← BlockchainService.verifyCertificate certificate.certificateUid submittedHash
  let result := decision chainResult
  let chainRecord ← BlockchainService.getCertificateRecord runtime certificate.certificateUid
  let blockNumber ← getBlockNumber certificate.id
  match chainRecord with
  | some chainRecord =>
      let proof ← buildProof certificate chainRecord blockNumber
      return {
        result
        blockchainVerified := true
        blockchainProof := some proof
        tamperEvidence := some {
          submittedHash
          storedHash := chainRecord.certificateHash
          «match» := chainResult.isValid } }
  | none =>
      return {
        result
        blockchainVerified := true
        blockchainProof := none
        tamperEvidence := some {
          submittedHash
          storedHash := certificate.sha256Hash
          «match» := chainResult.isValid } }

/-- The result of a confirmed certificate: the chain's, or the fallback when the chain
is unreachable or no service is there. -/
def fileEvidence (runtime : Runtime) (certificate : Certificate) (submittedHash : String)
    (blockchainService : Bool) : Action ChainEvidence :=
  if blockchainService then
    (consultChainForFile runtime certificate submittedHash).catchError fun error =>
      if error.isUnreachable then return fileFallback certificate submittedHash
      else Program.raise error
  else
    return fileFallback certificate submittedHash

/-- Who sends a file, and from where. -/
structure FileRequest where
  certUidHint : Option String
  currentUserId : Uuid
  requestIp : Option String
  userAgent : Option String
  deriving DecidableEq, Repr

/-- The log entry of a file that matches no certificate. -/
def FileRequest.notFoundEntry (request : FileRequest) (submittedHash : String)
    (processingTime : Nat) : LogEntry where
  certificateId := none
  certificateUidQueried := request.certUidHint
  verifierUserId := some request.currentUserId
  method := .FILE_UPLOAD
  result := .NOT_FOUND
  submittedHash := some submittedHash
  ipAddress := request.requestIp
  userAgent := request.userAgent
  processingTimeMs := some processingTime

/-- The result for a certificate that is not confirmed. -/
def unconfirmedResult (certificate : Certificate) : VerificationResult :=
  if certificate.blockchainStatus = .REVOKED then .REVOKED else .PENDING_CHAIN

/-- The log entry of a file whose certificate is not confirmed. -/
def FileRequest.unconfirmedEntry (request : FileRequest) (certificate : Certificate)
    (submittedHash : String) (processingTime : Nat) : LogEntry where
  certificateId := some certificate.id
  certificateUidQueried := some certificate.certificateUid
  verifierUserId := some request.currentUserId
  method := .FILE_UPLOAD
  result := unconfirmedResult certificate
  submittedHash := some submittedHash
  storedHash := some certificate.sha256Hash
  hashMatch := some (compareHashes submittedHash certificate.sha256Hash)
  ipAddress := request.requestIp
  userAgent := request.userAgent
  processingTimeMs := some processingTime
  degreeTitle := some certificate.degreeTitle
  recipientName := some certificate.recipientName

/-- The log entry of a file whose certificate is confirmed. -/
def FileRequest.confirmedEntry (request : FileRequest) (certificate : Certificate)
    (submittedHash : String) (evidence : ChainEvidence) (blockchainTxHash : String)
    (processingTime : Nat) : LogEntry where
  certificateId := some certificate.id
  certificateUidQueried := some certificate.certificateUid
  verifierUserId := some request.currentUserId
  method := .FILE_UPLOAD
  result := evidence.result
  submittedHash := some submittedHash
  storedHash := some certificate.sha256Hash
  hashMatch := some (compareHashes submittedHash certificate.sha256Hash)
  blockchainVerified := evidence.blockchainVerified
  blockchainTxHash := some blockchainTxHash
  ipAddress := request.requestIp
  userAgent := request.userAgent
  processingTimeMs := some processingTime
  degreeTitle := some certificate.degreeTitle
  recipientName := some certificate.recipientName

/-- The transaction block of the file flow. -/
def fileBlock (runtime : Runtime) (request : FileRequest) (blockchainService : Bool)
    (startTime : Nat) (verificationId : Uuid) (submittedHash : String) : Action FlowExit := do
  let certificate ← findCertificate request.certUidHint submittedHash
  let processingTime := (← Program.perform .monotonic) - startTime
  match certificate with
  | none =>
      recordLog (request.notFoundEntry submittedHash processingTime)
      return .returned (← buildResult verificationId .NOT_FOUND none none none processingTime
        none none)
  | some certificate =>
      if certificate.blockchainStatus ≠ .CONFIRMED then
        recordLog (request.unconfirmedEntry certificate submittedHash processingTime)
        return .returned (← buildResult verificationId (unconfirmedResult certificate)
          (some certificate) (some submittedHash) none processingTime none none)
      else
        let evidence ← fileEvidence runtime certificate submittedHash blockchainService
        let processingTime := (← Program.perform .monotonic) - startTime
        let blockchainTxHash ← getStoreTxHash certificate.id
        recordLog (request.confirmedEntry certificate submittedHash evidence blockchainTxHash
          processingTime)
        return .completed certificate evidence processingTime

/-- `verify_by_file_upload`. -/
def verifyByFileUpload (runtime : Runtime) (fileBytes : List UInt8) (request : FileRequest)
    (blockchainService : Bool) : Action VerificationResponse := do
  let startTime ← Program.perform .monotonic
  let verificationId ← Program.perform .uuid4
  let submittedHash := generateHashFromFile runtime fileBytes
  let exit ← transaction <|
    fileBlock runtime request blockchainService startTime verificationId submittedHash
  match exit with
  | .returned response => return response
  | .completed certificate evidence processingTime =>
      buildResult verificationId evidence.result (some certificate) (some submittedHash)
        (some (compareHashes submittedHash certificate.sha256Hash)) processingTime
        evidence.blockchainProof evidence.tamperEvidence

/-- What the database alone says about a scanned certificate. -/
def qrFallback (certificate : Certificate) : ChainEvidence where
  result :=
    if !certificate.isActive || certificate.blockchainStatus = .REVOKED then .REVOKED
    else .PENDING_CHAIN
  blockchainVerified := false
  blockchainProof := none
  tamperEvidence := none

/-- The `try` block of the QR flow. -/
def consultChainForQr (runtime : Runtime) (certificate : Certificate) : Action ChainEvidence := do
  let chainResult ← BlockchainService.verifyCertificate certificate.certificateUid
    certificate.sha256Hash
  let result := decision chainResult
  let chainRecord ← BlockchainService.getCertificateRecord runtime certificate.certificateUid
  let blockNumber ← getBlockNumber certificate.id
  let blockchainProof ←
    match chainRecord with
    | some chainRecord => some <$> buildProof certificate chainRecord blockNumber
    | none => pure none
  return { result, blockchainVerified := true, blockchainProof, tamperEvidence := none }

/-- The result of a scanned certificate. -/
def qrEvidence (runtime : Runtime) (certificate : Certificate) (blockchainService : Bool) :
    Action ChainEvidence :=
  if certificate.blockchainStatus = .CONFIRMED && blockchainService then
    (consultChainForQr runtime certificate).catchError fun error =>
      if error.isUnreachable then return qrFallback certificate
      else Program.raise error
  else
    return qrFallback certificate

/-- `qr.expires_at and qr.expires_at < datetime.now(timezone.utc)`. -/
def isExpired (qr : QRVerification) : Action Bool :=
  match qr.expiresAt with
  | none => return false
  | some expiresAt => do
      let now ← Program.perform .now
      return expiresAt < now

/-- The certificate behind a usable token, with its QR row. -/
def scannedCertificate (qr : Option QRVerification) :
    Action (Option (QRVerification × Certificate)) :=
  match qr with
  | none => return none
  | some qr =>
      if !qr.isActive then
        return none
      else do
        if ← isExpired qr then
          return none
        else
          let certificate ← CertificateRepository.getById qr.certificateId
          return certificate.map fun certificate => (qr, certificate)

/-- What is scanned, and from where. -/
structure ScanRequest where
  token : String
  requestIp : Option String
  userAgent : Option String
  deriving DecidableEq, Repr

/-- The log entry of a scan: nobody is signed in and no file is submitted. -/
def ScanRequest.entry (request : ScanRequest) (qr : QRVerification) (certificate : Certificate)
    (evidence : ChainEvidence) (blockchainTxHash : String) (processingTime : Nat) :
    LogEntry where
  certificateId := some certificate.id
  certificateUidQueried := some certificate.certificateUid
  verifierUserId := none
  qrVerificationId := some qr.id
  method := .QR_SCAN
  result := evidence.result
  submittedHash := none
  storedHash := some certificate.sha256Hash
  blockchainVerified := evidence.blockchainVerified
  blockchainTxHash := some blockchainTxHash
  ipAddress := request.requestIp
  userAgent := request.userAgent
  processingTimeMs := some processingTime
  degreeTitle := some certificate.degreeTitle
  recipientName := some certificate.recipientName

/-- The transaction block of the QR flow. -/
def qrBlock (runtime : Runtime) (request : ScanRequest) (blockchainService : Bool)
    (startTime : Nat) (verificationId : Uuid) : Action FlowExit := do
  let qr ← QRVerificationRepository.getByToken request.token
  let processingTime := (← Program.perform .monotonic) - startTime
  match ← scannedCertificate qr with
  | none =>
      return .returned (← buildResult verificationId .NOT_FOUND none none none processingTime
        none none)
  | some (qr, certificate) =>
      let evidence ← qrEvidence runtime certificate blockchainService
      let processingTime := (← Program.perform .monotonic) - startTime
      QRVerificationRepository.incrementScanCount qr.id
      let blockchainTxHash ← getStoreTxHash certificate.id
      recordLog (request.entry qr certificate evidence blockchainTxHash processingTime)
      return .completed certificate evidence processingTime

/-- `verify_by_qr_token`. -/
def verifyByQrToken (runtime : Runtime) (request : ScanRequest) (blockchainService : Bool) :
    Action VerificationResponse := do
  let startTime ← Program.perform .monotonic
  let verificationId ← Program.perform .uuid4
  let exit ← transaction <|
    qrBlock runtime request blockchainService startTime verificationId
  match exit with
  | .returned response => return response
  | .completed certificate evidence processingTime =>
      buildResult verificationId evidence.result (some certificate) none none processingTime
        evidence.blockchainProof none

end VerificationService
end AcademicCredential
