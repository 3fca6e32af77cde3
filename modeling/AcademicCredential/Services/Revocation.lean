import AcademicCredential.Services.Issuance

/-!
# The revocation service

`initiate_revocation` and `confirm_revocation`. As in the issuance service, the body of
the `try` statement and the writes of its `except` branch are definitions of their own.
-/

namespace AcademicCredential

open AcademicCredential.Lib

namespace CertificateRevocationService

open CertificateIssuanceService (universityOf walletOf)

/-- The answer to an initiated revocation. -/
structure RevocationTicket where
  certificateId : Uuid
  certificateUid : String
  universityWalletAddress : String
  message : String
  deriving DecidableEq, Repr

/-- The pre-flight reads of the chain; an unreachable chain does not stop the request. -/
def preflight (runtime : Runtime) (certificate : Certificate) (walletAddress : String) :
    Action Unit :=
  (do
    if !(← BlockchainService.isAuthorizedIssuer runtime walletAddress) then
      Program.raise (.app .ServiceError
        "University wallet is no longer authorized on smart contract")
    else
      match ← BlockchainService.getCertificateRecord runtime certificate.certificateUid with
      | none => Program.raise (.app .ServiceError "Certificate record not found on blockchain")
      | some record =>
          if record.status = "REVOKED" then
            Program.raise ErrorClass.CertificateAlreadyRevokedError.default
          else if lower record.issuingUniversity ≠ lower walletAddress then
            Program.raise (.app .OwnershipViolationError
              "University wallet does not match original issuing wallet on blockchain")
          else
            pure ()).catchError fun error =>
    if error.isUnreachable then pure () else Program.raise error

/-- The transaction block of `initiate_revocation`. The reason is kept in
`error_message` until the revocation is confirmed. -/
def initiateBlock (runtime : Runtime) (certId : Uuid) (reason : String) (currentUser : User)
    (blockchainService : Bool) : Action (Certificate × String) := do
  match ← CertificateRepository.getById certId with
  | none => Program.raise ErrorClass.CertificateNotFoundError.default
  | some certificate =>
      if some certificate.universityId ≠ currentUser.universityId then
        Program.raise ErrorClass.OwnershipViolationError.default
      else if !certificate.isActive then
        Program.raise ErrorClass.CertificateAlreadyRevokedError.default
      else if certificate.blockchainStatus ≠ .CONFIRMED then
        Program.raise (.app .UnconfirmedCertificateError "Cannot revoke unconfirmed certificate")
      else
        match ← universityOf currentUser with
        | none => Program.raise ErrorClass.UniversityNotFoundError.default
        | some university =>
            match walletOf university with
            | none => Program.raise ErrorClass.MissingWalletAddressError.default
            | some walletAddress =>
                if blockchainService then
                  preflight runtime certificate walletAddress
                else
                  pure ()
                let id ← Program.perform .uuid4
                let submittedAt ← Program.perform .serverNow
                let _ ← BlockchainTransactionRepository.create {
                  id
                  certificateId := some certId
                  txHash := none
                  txType := .REVOKE_HASH
                  fromAddress := walletAddress
                  toAddress := runtime.contractAddress
                  contractAddress := runtime.contractAddress
                  blockNumber := none
                  blockHash := none
                  gasUsed := none
                  gasPriceWei := none
                  transactionFeeWei := none
                  networkName := runtime.networkName
                  networkChainId := runtime.networkChainId
                  certificateHashStored := none
                  status := .PENDING
                  errorMessage := some reason
                  submittedAt
                  confirmedAt := none }
                return (certificate, walletAddress)

/-- `initiate_revocation`: the reason in one transaction, the submission in a second. -/
def initiateRevocation (runtime : Runtime) (certId : Uuid) (reason : String)
    (currentUser : User) (blockchainService : Bool) : Action RevocationTicket := do
  let (certificate, walletAddress) ←
    transaction (initiateBlock runtime certId reason currentUser blockchainService)
  return {
    certificateId := certId
    certificateUid := certificate.certificateUid
    universityWalletAddress := walletAddress
    message := "Sign the revocation transaction in MetaMask" }

/-- The answer of `confirm_revocation`. -/
inductive RevocationResponse where
  | submitted (message : String) (certificateId : Uuid)
  | revoked (certificateId : Uuid) (revokedAt : Timestamp)
  deriving DecidableEq, Repr

/-- An update of the open REVOKE_HASH row, if there is one. -/
def updateRevokeTx (revokeTx : Option BlockchainTransaction) (status : TransactionStatus)
    (blockData : List TransactionAssignment) : Action Unit :=
  CertificateIssuanceService.updateStoreTx revokeTx status blockData

/-- The reason stored by phase 1, or the generic text. -/
def originalReason (revokeTx : Option BlockchainTransaction) : String :=
  match (revokeTx.bind (·.errorMessage)).filter fun reason => reason ≠ "" with
  | some reason => reason
  | none => "Revocation confirmed on blockchain"

/-- The revocation time on chain, or now. -/
def revocationTime (record : ChainCertificateRecord) : Action Timestamp :=
  match record.revokedAt with
  | some revokedAt => pure revokedAt
  | none => Program.perform .now

/-- Steps 3 to 5: the check of the on-chain status and the revocation in the database. -/
def recordRevocation (certId currentUserId : Uuid) (revokeTx : Option BlockchainTransaction)
    (blockchainTxHash : String) (receipt : TransactionReceipt) :
    Option ChainCertificateRecord → Action RevocationResponse
  | none => Program.raise (.app .ServiceError
      "Certificate record not found on blockchain after revocation transaction")
  | some record => do
      if record.status ≠ "REVOKED" then
        Program.raise (.app .ServiceError "Blockchain record does not reflect REVOKED status")
      else
        let revokedAt ← revocationTime record
        let _ ← CertificateRepository.revoke certId (originalReason revokeTx) currentUserId
        updateRevokeTx revokeTx .CONFIRMED
          (CertificateIssuanceService.confirmationData blockchainTxHash receipt revokedAt)
        return .revoked certId revokedAt

/-- The body of the `try` statement. -/
def verifyRevocation (runtime : Runtime) (certificate : Certificate) (currentUserId : Uuid)
    (revokeTx : Option BlockchainTransaction) (blockchainTxHash : String) :
    Action RevocationResponse := do
  match ← BlockchainService.getTransactionReceipt runtime blockchainTxHash with
  | none =>
      updateRevokeTx revokeTx .SUBMITTED [.txHash (some blockchainTxHash)]
      return .submitted "Revocation transaction pending confirmation" certificate.id
  | some receipt =>
      if receipt.status = 0 then
        updateRevokeTx revokeTx .FAILED
          [.txHash (some blockchainTxHash), .blockNumber (some receipt.blockNumber)]
        Program.raise (.app .ServiceError "Revocation transaction reverted on blockchain")
      else
        let record ← BlockchainService.getCertificateRecord runtime certificate.certificateUid
        recordRevocation certificate.id currentUserId revokeTx blockchainTxHash receipt record

/-- The transaction block of `confirm_revocation`. -/
def confirmBlock (runtime : Runtime) (certId : Uuid) (blockchainTxHash : String)
    (currentUser : User) : Action RevocationResponse := do
  match ← CertificateRepository.getById certId with
  | none => Program.raise ErrorClass.CertificateNotFoundError.default
  | some certificate =>
      if some certificate.universityId ≠ currentUser.universityId then
        Program.raise ErrorClass.OwnershipViolationError.default
      else if !certificate.isActive then
        Program.raise ErrorClass.CertificateAlreadyRevokedError.default
      else
        let txs ← BlockchainTransactionRepository.getByCertificateId certId
        let revokeTx := txs.find? fun tx => tx.txType = .REVOKE_HASH &&
          (tx.status = .PENDING || tx.status = .SUBMITTED)
        (verifyRevocation runtime certificate currentUser.id revokeTx blockchainTxHash).catchError
          fun error =>
            if error.isUnreachable then do
              updateRevokeTx revokeTx .SUBMITTED [.txHash (some blockchainTxHash)]
              Program.raise error
            else
              Program.raise error

/-- `confirm_revocation`. -/
def confirmRevocation (runtime : Runtime) (certId : Uuid) (blockchainTxHash : String)
    (currentUser : User) : Action RevocationResponse :=
  transaction (confirmBlock runtime certId blockchainTxHash currentUser)

end CertificateRevocationService
end AcademicCredential
