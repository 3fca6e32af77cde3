import AcademicCredential.Services.Qr

/-!
# The issuance service

`upload_and_hash_certificate` and `confirm_blockchain_storage`. The second is cut at
the `try` statement of the source: `verifyStorage` is the guarded part, and
`unreachableWrites` what the `except` branch writes before it raises again.
-/

namespace AcademicCredential

open AcademicCredential.Lib

/-- The calendar year of a day. -/
def yearOf (day : Date) : Int :=
  let shifted := day + 719468
  let era := shifted / 146097
  let dayOfEra := shifted % 146097
  let yearOfEra := (dayOfEra - dayOfEra / 1460 + dayOfEra / 36524 - dayOfEra / 146096) / 365
  let dayOfYear := dayOfEra - (365 * yearOfEra + yearOfEra / 4 - yearOfEra / 100)
  -- Months count from March, so January and February belong to the next year.
  let month := (5 * dayOfYear + 2) / 153
  yearOfEra + era * 400 + if month < 10 then 0 else 1

/-- `f"{number:05d}"`. -/
def fiveDigits (number : Nat) : String :=
  let digits := toString number
  String.ofList (List.replicate (5 - digits.length) '0') ++ digits

/-- `str(uuid)`. -/
def uuidText (uuid : Uuid) : String :=
  let digits := Hex.encode ((List.range 16).map fun place =>
    UInt8.ofNat (uuid / 256 ^ (15 - place) % 256))
  String.ofList (digits.take 8 ++ '-' :: (digits.drop 8).take 4 ++ '-' :: (digits.drop 12).take 4
    ++ '-' :: (digits.drop 16).take 4 ++ '-' :: digits.drop 20)

/-- `save_certificate`: the relative path the file is stored under. -/
def saveCertificate (fileBytes : List UInt8) (universityId certId : Uuid) : Action String := do
  let relativePath := "certificates/" ++ uuidText universityId ++ "/" ++ uuidText certId ++ ".pdf"
  Program.perform (.writeFile relativePath fileBytes)
  return relativePath

namespace CertificateIssuanceService

/-- The fields of `CertificateIssueRequest`. -/
structure IssueMetadata where
  recipientEmail : String
  degreeTitle : String
  fieldOfStudy : String
  issueDate : Date
  expiryDate : Option Date
  gradeClassification : Option String
  honors : Option String
  deriving DecidableEq, Repr

/-- The answer to an upload. -/
structure CertificateDraft where
  certificateId : Uuid
  certificateUid : String
  sha256Hash : String
  blockchainStatus : BlockchainStatus
  deriving DecidableEq, Repr

/-- The university of an administrator; `None` matches no row. -/
def universityOf (currentUser : User) : Action (Option University) :=
  BaseRepository.findOne .universities fun row => some row.id = currentUser.universityId

/-- The wallet of a university, unless it is missing or empty. -/
def walletOf (university : University) : Option String :=
  university.walletAddress.filter fun address => address ≠ ""

/-- Steps 3 to 8 of the upload, once issuer and student are known. -/
def createRecords (runtime : Runtime) (fileBytes : List UInt8) (fileOriginalName : String)
    (metadata : IssueMetadata) (currentUser studentUser : User) (university : University)
    (walletAddress : String) : Action CertificateDraft := do
  let year := yearOf (← Program.perform .today)
  let sequence ← CertificateRepository.getNextUidSequence university.shortCode year
  let certificateUid :=
    university.shortCode ++ "-" ++ toString year ++ "-" ++ fiveDigits sequence
  let sha256Hash := generateHashFromFile runtime fileBytes
  match ← CertificateRepository.getByHash sha256Hash with
  | some _ => Program.raise ErrorClass.DuplicateCertificateError.default
  | none =>
      let certId ← Program.perform .uuid4
      let filePath ← saveCertificate fileBytes university.id certId
      let certificate ← CertificateRepository.create {
        id := certId
        certificateUid
        universityId := university.id
        studentId := studentUser.id
        issuedBy := currentUser.id
        recipientName := studentUser.firstName ++ " " ++ studentUser.lastName
        recipientEmailSnapshot := metadata.recipientEmail
        degreeTitle := metadata.degreeTitle
        fieldOfStudy := metadata.fieldOfStudy
        gradeClassification := metadata.gradeClassification
        honors := metadata.honors
        issueDate := metadata.issueDate
        expiryDate := metadata.expiryDate
        sha256Hash
        blockchainStatus := .PENDING
        filePath
        fileOriginalName
        fileSizeBytes := fileBytes.length
        fileMimeType := "application/pdf"
        isActive := true
        revocationReason := none
        revokedBy := none
        revokedAt := none }
      let txId ← Program.perform .uuid4
      let submittedAt ← Program.perform .serverNow
      let _ ← BlockchainTransactionRepository.create {
        id := txId
        certificateId := some certificate.id
        txHash := none
        txType := .STORE_HASH
        fromAddress := walletAddress
        toAddress := runtime.contractAddress
        contractAddress := runtime.contractAddress
        blockNumber := none
        blockHash := none
        gasUsed := none
        gasPriceWei := none
        transactionFeeWei := none
        networkName := runtime.networkName
        networkChainId := runtime.networkChainId
        certificateHashStored := some sha256Hash
        status := .PENDING
        errorMessage := none
        submittedAt
        confirmedAt := none }
      return {
        certificateId := certificate.id
        certificateUid
        sha256Hash
        blockchainStatus := .PENDING }

/-- The transaction block of `upload_and_hash_certificate`. -/
def uploadBlock (runtime : Runtime) (fileBytes : List UInt8) (fileOriginalName : String)
    (metadata : IssueMetadata) (currentUser : User) : Action CertificateDraft := do
  match ← universityOf currentUser with
  | none => Program.raise ErrorClass.UnverifiedUniversityError.default
  | some university =>
      if !university.isVerified then
        Program.raise ErrorClass.UnverifiedUniversityError.default
      else
        match walletOf university with
        | none => Program.raise ErrorClass.MissingWalletAddressError.default
        | some walletAddress =>
            match ← UserRepository.getByEmail metadata.recipientEmail with
            | none => Program.raise (.app .UserNotFoundError
                "No student account found with this email. Student must register first.")
            | some studentUser =>
                match ← StudentRepository.getByUserId studentUser.id with
                | none => Program.raise (.app .UserNotFoundError
                    "No student profile found for this email")
                | some _ =>
                    createRecords runtime fileBytes fileOriginalName metadata currentUser
                      studentUser university walletAddress

/-- `upload_and_hash_certificate`. -/
def uploadAndHashCertificate (runtime : Runtime) (fileBytes : List UInt8)
    (fileOriginalName : String) (metadata : IssueMetadata) (currentUser : User) :
    Action CertificateDraft :=
  transaction (uploadBlock runtime fileBytes fileOriginalName metadata currentUser)

/-- The certificate as the answer to a confirmation shows it. -/
structure CertificateSummary where
  id : Uuid
  certificateUid : String
  recipientName : String
  degreeTitle : String
  fieldOfStudy : String
  issueDate : Date
  blockchainStatus : BlockchainStatus
  isActive : Bool
  deriving DecidableEq, Repr

/-- The answer of `confirm_blockchain_storage`. -/
inductive StorageResponse where
  | submitted (message : String) (certificateId : Uuid) (blockchainTxHash : String)
  | confirmed (certificate : CertificateSummary) (txHash : String) (blockNumber : Nat)
      (confirmedAt : Timestamp) (issuerAddress : String)
      (qrToken qrVerificationUrl qrImageUrl : String)
  deriving DecidableEq, Repr

/-- How the transaction block of `confirm_blockchain_storage` is left. -/
inductive StorageExit where
  | submitted
  | confirmed (certificate : Certificate) (receipt : TransactionReceipt)
      (record : ChainCertificateRecord)

/-- An update of the STORE_HASH row, if the certificate has one. -/
def updateStoreTx (storeTx : Option BlockchainTransaction) (status : TransactionStatus)
    (blockData : List TransactionAssignment) : Action Unit := do
  match storeTx with
  | some tx =>
      let _ ← BlockchainTransactionRepository.updateStatus tx.id status blockData
  | none => pure ()

/-- Mark the STORE_HASH row as failed after a cross-check of the on-chain record. -/
def crossCheckFailed {Value : Type} (storeTx : Option BlockchainTransaction)
    (blockchainTxHash message : String) : Action Value := do
  updateStoreTx storeTx .FAILED [.txHash (some blockchainTxHash)]
  Program.raise (.app .ServiceError message)

/-- Check C: the issuer on chain is not the wallet of the university. -/
def issuerMismatch (university : Option University) (record : ChainCertificateRecord) : Bool :=
  match university.bind walletOf with
  | some wallet => lower record.issuingUniversity ≠ lower wallet
  | none => false

/-- What a confirmation records of the mined transaction. -/
def confirmationData (blockchainTxHash : String) (receipt : TransactionReceipt)
    (confirmedAt : Timestamp) : List TransactionAssignment :=
  [.txHash (some blockchainTxHash), .blockNumber (some receipt.blockNumber),
    .blockHash (some receipt.blockHash), .gasUsed (some receipt.gasUsed),
    .gasPriceWei (some receipt.effectiveGasPrice),
    .transactionFeeWei (some (receipt.gasUsed * receipt.effectiveGasPrice)),
    .confirmedAt (some confirmedAt)]

/-- The checks A, B and C on the record, and step 5. -/
def crossValidate (certificate : Certificate) (university : Option University)
    (storeTx : Option BlockchainTransaction) (blockchainTxHash : String)
    (receipt : TransactionReceipt) : Option ChainCertificateRecord → Action StorageExit
  | none =>
      crossCheckFailed storeTx blockchainTxHash
        "Certificate record missing from contract despite successful transaction receipt"
  | some record =>
      if lower record.certificateHash ≠ lower certificate.sha256Hash then
        crossCheckFailed storeTx blockchainTxHash
          "Stored blockchain hash does not match certificate SHA-256 hash"
      else if issuerMismatch university record then
        crossCheckFailed storeTx blockchainTxHash
          "Issuing wallet on blockchain does not match university wallet"
      else do
        updateStoreTx storeTx .CONFIRMED
          (confirmationData blockchainTxHash receipt record.issuedAt)
        let updated ← CertificateRepository.updateBlockchainStatus certificate.id .CONFIRMED
        return .confirmed (updated.getD certificate) receipt record

/-- The body of the `try` statement. -/
def verifyStorage (runtime : Runtime) (certificate : Certificate)
    (university : Option University) (storeTx : Option BlockchainTransaction)
    (blockchainTxHash : String) : Action StorageExit := do
  match ← BlockchainService.getTransactionReceipt runtime blockchainTxHash with
  | none =>
      updateStoreTx storeTx .SUBMITTED [.txHash (some blockchainTxHash)]
      let _ ← CertificateRepository.updateBlockchainStatus certificate.id .SUBMITTED
      return .submitted
  | some receipt =>
      if receipt.status = 0 then
        updateStoreTx storeTx .FAILED [.txHash (some blockchainTxHash),
          .blockNumber (some receipt.blockNumber), .blockHash (some receipt.blockHash)]
        let _ ← CertificateRepository.updateBlockchainStatus certificate.id .FAILED
        Program.raise (.app .ServiceError "Transaction failed on blockchain (reverted)")
      else
        let record ← BlockchainService.getCertificateRecord runtime certificate.certificateUid
        crossValidate certificate university storeTx blockchainTxHash receipt record

/-- What the `except` branch writes. -/
def unreachableWrites (certificate : Certificate) (storeTx : Option BlockchainTransaction)
    (blockchainTxHash : String) : Action Unit := do
  if storeTx.isSome && certificate.blockchainStatus = .PENDING then
    updateStoreTx storeTx .SUBMITTED [.txHash (some blockchainTxHash)]
    let _ ← CertificateRepository.updateBlockchainStatus certificate.id .SUBMITTED
  else
    pure ()

/-- The transaction block of `confirm_blockchain_storage`. -/
def confirmBlock (runtime : Runtime) (certId : Uuid) (blockchainTxHash : String)
    (currentUser : User) : Action StorageExit := do
  match ← CertificateRepository.getById certId with
  | none => Program.raise ErrorClass.CertificateNotFoundError.default
  | some certificate =>
      if some certificate.universityId ≠ currentUser.universityId then
        Program.raise ErrorClass.OwnershipViolationError.default
      else if certificate.blockchainStatus ≠ .PENDING ∧
          certificate.blockchainStatus ≠ .SUBMITTED then
        Program.raise (.app .ServiceError ("Certificate cannot be confirmed from status '" ++
          certificate.blockchainStatus.text ++ "'"))
      else
        let university ← universityOf currentUser
        let txs ← BlockchainTransactionRepository.getByCertificateId certId
        let storeTx := txs.find? fun tx => tx.txType = .STORE_HASH
        (verifyStorage runtime certificate university storeTx blockchainTxHash).catchError
          fun error =>
            if error.isUnreachable then do
              unreachableWrites certificate storeTx blockchainTxHash
              Program.raise error
            else
              Program.raise error

/-- `confirm_blockchain_storage`: an unreachable chain is raised after its writes are committed. -/
def confirmBlockchainStorage (runtime : Runtime) (certId : Uuid) (blockchainTxHash : String)
    (currentUser : User) : Action StorageResponse := do
  match ← transaction (confirmBlock runtime certId blockchainTxHash currentUser) with
  | .submitted =>
      return .submitted "Transaction pending confirmation on blockchain" certId blockchainTxHash
  | .confirmed certificate receipt record =>
      let qrResult ← QrVerificationService.generateQrForCertificate runtime certId currentUser.id
      return .confirmed
        { id := certificate.id
          certificateUid := certificate.certificateUid
          recipientName := certificate.recipientName
          degreeTitle := certificate.degreeTitle
          fieldOfStudy := certificate.fieldOfStudy
          issueDate := certificate.issueDate
          blockchainStatus := .CONFIRMED
          isActive := certificate.isActive }
        blockchainTxHash receipt.blockNumber record.issuedAt record.issuingUniversity
        qrResult.token qrResult.verificationUrl ("/api/v1/qr/" ++ qrResult.token ++ "/image")

end CertificateIssuanceService
end AcademicCredential
