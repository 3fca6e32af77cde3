import AcademicCredential.Database.Schema
import AcademicCredential.Lib.Inet

/-!
# Constraints

The CHECK constraints of the migrations in three-valued logic, what the types of the columns
refuse (`String(n)` lengths, numeric ranges, network addresses, and U+0000 in the texts of a
request), and the UNIQUE keys a row occupies; a missing value occupies none. `violation?` names
the first constraint a row fails. The one constraint that looks at the current date is checked
when a row is inserted: dates only pass, so a row that met it keeps meeting it.
-/

namespace AcademicCredential

open AcademicCredential.Lib
open AcademicCredential.Lib.Truth

/-- A named condition on rows; a row is refused when it evaluates to false. -/
structure Constraint (R : Type) where
  name : String
  truth : R → Truth

/-- `String(bound)`. -/
def fits (bound : Nat) (text : String) : Bool := text.length ≤ bound

/-- `column IS NULL OR condition`. -/
def nullOr {α : Type} (condition : α → Bool) (value : Option α) : Truth :=
  or (isNull value) (test condition value)

/-- `BIGINT`. -/
def isBigInt (value : Nat) : Bool := value < 2 ^ 63

/-- `NUMERIC(30, 0)`. -/
def isNumeric30 (value : Nat) : Bool := value < 10 ^ 30

/-- `SMALLINT`. -/
def isSmallInt (value : Nat) : Bool := value < 2 ^ 15

/-- `INTEGER`. -/
def isInteger (value : Nat) : Bool := value < 2 ^ 31

/-- A condition on a nullable column passes when the value is NULL or meets it. -/
@[simp] theorem passes_nullOr {α : Type} (condition : α → Bool) (value : Option α) :
    (nullOr condition value).passes = value.all condition := by
  cases value <;> simp [nullOr]

namespace Certificate

/-- The columns whose texts come from a request or from a user's row. -/
def texts (row : Certificate) : List String :=
  [row.recipientName, row.recipientEmailSnapshot, row.degreeTitle, row.fieldOfStudy,
    row.fileOriginalName] ++ row.gradeClassification.toList ++ row.honors.toList

/-- The columns and CHECKs of `certificates`. -/
def constraints : List (Constraint Certificate) := [
  ⟨"certificate_uid", fun row => certain (fits 50 row.certificateUid)⟩,
  ⟨"recipient_name", fun row => certain (fits 300 row.recipientName)⟩,
  ⟨"recipient_email_snapshot", fun row => certain (fits 255 row.recipientEmailSnapshot)⟩,
  ⟨"degree_title", fun row => certain (fits 300 row.degreeTitle)⟩,
  ⟨"field_of_study", fun row => certain (fits 300 row.fieldOfStudy)⟩,
  ⟨"grade_classification", fun row => test (fits 100) row.gradeClassification⟩,
  ⟨"honors", fun row => test (fits 100) row.honors⟩,
  ⟨"sha256_hash", fun row => certain (fits 64 row.sha256Hash)⟩,
  ⟨"file_path", fun row => certain (fits 1000 row.filePath)⟩,
  ⟨"file_original_name", fun row => certain (fits 500 row.fileOriginalName)⟩,
  ⟨"file_mime_type", fun row => certain (fits 100 row.fileMimeType)⟩,
  ⟨"text", fun row => certain (row.texts.all isText)⟩,
  ⟨"chk_certificates_uid_format", fun row =>
    certain (isCertificateUidText row.certificateUid)⟩,
  ⟨"chk_certificates_sha256_format", fun row => certain (isSha256Text row.sha256Hash)⟩,
  ⟨"chk_certificates_sha256_lowercase", fun row =>
    certain (row.sha256Hash == simpleLower row.sha256Hash)⟩,
  ⟨"chk_certificates_expiry_after_issue", fun row =>
    nullOr (fun expiryDate => expiryDate > row.issueDate) row.expiryDate⟩,
  ⟨"chk_certificates_file_size_positive", fun row => certain (row.fileSizeBytes > 0)⟩,
  ⟨"chk_certificates_file_size_limit", fun row => certain (row.fileSizeBytes ≤ 52428800)⟩,
  ⟨"chk_certificates_mime_type", fun row =>
    certain (["application/pdf", "application/x-pdf"].contains row.fileMimeType)⟩,
  ⟨"chk_certificates_revocation_consistency", fun row =>
    or
      (and (and (certain row.isActive) (isNull row.revocationReason))
        (and (isNull row.revokedBy) (isNull row.revokedAt)))
      (and (and (certain (!row.isActive)) (isNotNull row.revocationReason))
        (and (isNotNull row.revokedBy) (isNotNull row.revokedAt)))⟩,
  ⟨"chk_certificates_blockchain_status_revoked_sync", fun row =>
    certain (!(!row.isActive && row.blockchainStatus != .REVOKED))⟩,
  ⟨"chk_certificates_recipient_name_not_empty", fun row =>
    certain (isNotBlank row.recipientName)⟩,
  ⟨"chk_certificates_degree_not_empty", fun row => certain (isNotBlank row.degreeTitle)⟩]

/-- `issue_date >= '1900-01-01' AND issue_date <= CURRENT_DATE + INTERVAL '1 day'`. -/
def issueDateReasonable (today : Date) : Constraint Certificate where
  name := "chk_certificates_issue_date_reasonable"
  truth := fun row => certain (-25567 ≤ row.issueDate && row.issueDate ≤ today + 1)

end Certificate

/-- The columns and CHECKs of `blockchain_transactions`. -/
def BlockchainTransaction.constraints : List (Constraint BlockchainTransaction) := [
  ⟨"tx_hash", fun row => test (fits 66) row.txHash⟩,
  ⟨"from_address", fun row => certain (fits 42 row.fromAddress)⟩,
  ⟨"to_address", fun row => certain (fits 42 row.toAddress)⟩,
  ⟨"contract_address", fun row => certain (fits 42 row.contractAddress)⟩,
  ⟨"block_number", fun row => test isBigInt row.blockNumber⟩,
  ⟨"block_hash", fun row => test (fits 66) row.blockHash⟩,
  ⟨"gas_used", fun row => test isBigInt row.gasUsed⟩,
  ⟨"gas_price_wei", fun row => test isNumeric30 row.gasPriceWei⟩,
  ⟨"transaction_fee_wei", fun row => test isNumeric30 row.transactionFeeWei⟩,
  ⟨"network_name", fun row => certain (fits 50 row.networkName)⟩,
  ⟨"network_chain_id", fun row => certain (isInteger row.networkChainId)⟩,
  ⟨"certificate_hash_stored", fun row => test (fits 64) row.certificateHashStored⟩,
  ⟨"chk_blockchain_tx_hash_format", fun row => nullOr isTxHashText row.txHash⟩,
  ⟨"chk_blockchain_from_address_format", fun row => certain (isAddressText row.fromAddress)⟩,
  ⟨"chk_blockchain_to_address_format", fun row => certain (isAddressText row.toAddress)⟩,
  ⟨"chk_blockchain_contract_address_format", fun row =>
    certain (isAddressText row.contractAddress)⟩,
  ⟨"chk_blockchain_block_number_positive", fun row => nullOr (0 < ·) row.blockNumber⟩,
  ⟨"chk_blockchain_gas_used_positive", fun row => nullOr (0 < ·) row.gasUsed⟩,
  ⟨"chk_blockchain_chain_id_positive", fun row => certain (0 < row.networkChainId)⟩,
  ⟨"chk_blockchain_confirmed_has_block", fun row =>
    or (certain (row.status != .CONFIRMED))
      (and (isNotNull row.blockNumber) (isNotNull row.confirmedAt))⟩,
  ⟨"chk_blockchain_hash_stored_format", fun row =>
    nullOr isSha256Text row.certificateHashStored⟩,
  ⟨"chk_blockchain_fee_consistency", fun row =>
    or (and (isNull row.gasUsed) (isNull row.transactionFeeWei))
      (and (isNotNull row.gasUsed)
        (and (isNotNull row.gasPriceWei) (isNotNull row.transactionFeeWei)))⟩]

/-- The columns and CHECKs of `qr_verifications`. -/
def QRVerification.constraints : List (Constraint QRVerification) := [
  ⟨"token", fun row => certain (fits 128 row.token)⟩,
  ⟨"verification_url", fun row => certain (fits 1000 row.verificationUrl)⟩,
  ⟨"total_scan_count", fun row => certain (isInteger row.totalScanCount)⟩,
  ⟨"deactivated_reason", fun row => test (fits 255) row.deactivatedReason⟩,
  ⟨"chk_qr_token_length", fun row => certain (32 ≤ row.token.length)⟩,
  ⟨"chk_qr_url_format", fun row => certain (isWebUrl row.verificationUrl)⟩,
  ⟨"chk_qr_deactivation_consistency", fun row =>
    or (and (certain row.isActive) (isNull row.deactivatedAt))
      (and (certain (!row.isActive)) (isNotNull row.deactivatedAt))⟩,
  ⟨"chk_qr_expiry_future", fun row => nullOr (row.createdAt < ·) row.expiresAt⟩,
  ⟨"chk_qr_scan_consistency", fun row =>
    or (and (certain (row.totalScanCount == 0)) (isNull row.lastScannedAt))
      (and (certain (0 < row.totalScanCount)) (isNotNull row.lastScannedAt))⟩]

/-- The columns and CHECKs of `verification_logs`. -/
def VerificationLog.constraints : List (Constraint VerificationLog) := [
  ⟨"certificate_uid_queried", fun row => test (fits 50) row.certificateUidQueried⟩,
  ⟨"submitted_hash", fun row => test (fits 64) row.submittedHash⟩,
  ⟨"stored_hash", fun row => test (fits 64) row.storedHash⟩,
  ⟨"blockchain_tx_hash", fun row => test (fits 66) row.blockchainTxHash⟩,
  ⟨"university_name_snapshot", fun row => test (fits 300) row.universityNameSnapshot⟩,
  ⟨"degree_title_snapshot", fun row => test (fits 300) row.degreeTitleSnapshot⟩,
  ⟨"recipient_name_snapshot", fun row => test (fits 300) row.recipientNameSnapshot⟩,
  ⟨"chk_vlog_submitted_hash_format", fun row => nullOr isSha256Text row.submittedHash⟩,
  ⟨"chk_vlog_stored_hash_format", fun row => nullOr isSha256Text row.storedHash⟩,
  ⟨"chk_vlog_blockchain_tx_format", fun row => nullOr isTxHashText row.blockchainTxHash⟩,
  ⟨"chk_vlog_hash_match_consistency", fun row =>
    or (isNull row.hashMatch) (and (isNotNull row.submittedHash) (isNotNull row.storedHash))⟩,
  ⟨"chk_vlog_tampered_has_both_hashes", fun row =>
    or (certain (row.result != .TAMPERED))
      (and (isNotNull row.submittedHash) (isNotNull row.storedHash))⟩,
  ⟨"chk_vlog_authentic_hash_match", fun row =>
    or (certain (row.result != .AUTHENTIC)) (test (· == true) row.hashMatch)⟩,
  ⟨"chk_vlog_qr_method_has_qr_id", fun row =>
    or (certain (row.verificationMethod != .QR_SCAN)) (isNotNull row.qrVerificationId)⟩,
  ⟨"chk_vlog_processing_time_positive", fun row => nullOr (0 ≤ ·) row.processingTimeMs⟩]

/-- The columns and CHECKs of `universities`. -/
def University.constraints : List (Constraint University) := [
  ⟨"short_code", fun row => certain (fits 20 row.shortCode)⟩,
  ⟨"wallet_address", fun row => test (fits 42) row.walletAddress⟩,
  ⟨"chk_universities_wallet_format", fun row => nullOr isAddressText row.walletAddress⟩,
  ⟨"chk_universities_short_code_uppercase", fun row =>
    certain (row.shortCode.toList.all fun char => char == char.toUpper)⟩,
  ⟨"chk_universities_short_code_length", fun row =>
    certain (2 ≤ row.shortCode.length && row.shortCode.length ≤ 20)⟩,
  ⟨"chk_universities_verified_consistency", fun row =>
    or (and (certain (!row.isVerified)) (isNull row.verifiedAt))
      (and (certain row.isVerified) (isNotNull row.verifiedAt))⟩]

/-- The columns and CHECKs of `users`. -/
def User.constraints : List (Constraint User) := [
  ⟨"email", fun row => certain (fits 255 row.email)⟩,
  ⟨"password_hash", fun row => certain (fits 255 row.passwordHash)⟩,
  ⟨"failed_login_attempts", fun row => certain (isSmallInt row.failedLoginAttempts)⟩,
  ⟨"last_login_ip", fun row => nullOr Inet.isInetText row.lastLoginIp⟩,
  ⟨"chk_users_email_format", fun row => certain (isEmailText row.email)⟩,
  ⟨"first_name", fun row => certain (fits 100 row.firstName)⟩,
  ⟨"last_name", fun row => certain (fits 100 row.lastName)⟩,
  ⟨"text", fun row => certain ([row.email, row.firstName, row.lastName].all isText)⟩,
  ⟨"chk_users_email_lowercase", fun row => certain (row.email == simpleLower row.email)⟩,
  ⟨"chk_users_names_not_empty", fun row =>
    certain (isNotBlank row.firstName && isNotBlank row.lastName)⟩,
  ⟨"chk_users_university_admin_requires_university", fun row =>
    or (certain (row.role != .UNIVERSITY_ADMIN)) (isNotNull row.universityId)⟩,
  ⟨"chk_users_student_no_university", fun row =>
    or (certain (row.role != .STUDENT)) (isNull row.universityId)⟩,
  ⟨"chk_users_employer_no_university", fun row =>
    or (certain (row.role != .EMPLOYER)) (isNull row.universityId)⟩,
  ⟨"chk_users_lock_consistency", fun row => nullOr (row.createdAt < ·) row.lockedUntil⟩]

/-- The texts of a profile. -/
def Employer.texts (row : Employer) : List String :=
  [row.companyName, row.companyWebsite, row.industry, row.companySize, row.country, row.city,
    row.jobTitle, row.department].flatMap Option.toList

/-- The columns of `employers`. -/
def Employer.constraints : List (Constraint Employer) := [
  ⟨"company_name NOT NULL", fun row => isNotNull row.companyName⟩,
  ⟨"company_name", fun row => test (fits 300) row.companyName⟩,
  ⟨"company_website", fun row => test (fits 500) row.companyWebsite⟩,
  ⟨"industry", fun row => test (fits 100) row.industry⟩,
  ⟨"company_size", fun row => test (fits 50) row.companySize⟩,
  ⟨"country", fun row => test (fits 100) row.country⟩,
  ⟨"city", fun row => test (fits 100) row.city⟩,
  ⟨"job_title", fun row => test (fits 150) row.jobTitle⟩,
  ⟨"department", fun row => test (fits 150) row.department⟩,
  ⟨"text", fun row => certain (row.texts.all isText)⟩,
  ⟨"chk_employers_company_name_not_empty", fun row => test isNotBlank row.companyName⟩,
  ⟨"chk_employers_website_format", fun row => nullOr isWebUrl row.companyWebsite⟩,
  ⟨"chk_employers_company_size_values", fun row =>
    nullOr (["1-10", "11-50", "51-200", "201-500", "501-1000", "1001-5000", "5000+"].contains ·)
      row.companySize⟩]

/-- The columns and CHECKs of `refresh_tokens`. -/
def RefreshToken.constraints : List (Constraint RefreshToken) := [
  ⟨"created_ip", fun row => nullOr Inet.isInetText row.createdIp⟩,
  ⟨"chk_refresh_token_hash_length", fun row => certain (row.tokenHash.length = 64)⟩,
  ⟨"chk_refresh_token_expiry_future", fun row => certain (row.createdAt < row.expiresAt)⟩,
  ⟨"chk_refresh_token_revoked_consistency", fun row =>
    or (and (certain (!row.isRevoked)) (isNull row.revokedAt))
      (and (certain row.isRevoked) (isNotNull row.revokedAt))⟩]

/-- The constraints a stored row of each table meets. -/
def constraints : (table : Table) → List (Constraint (Row table))
  | .certificates => Certificate.constraints
  | .blockchainTransactions => BlockchainTransaction.constraints
  | .qrVerifications => QRVerification.constraints
  | .verificationLogs => VerificationLog.constraints
  | .universities => University.constraints
  | .users => User.constraints
  | .students => []
  | .employers => Employer.constraints
  | .refreshTokens => RefreshToken.constraints

/-- The constraints checked when a row is inserted on a given day. -/
def insertConstraints (today : Date) : (table : Table) → List (Constraint (Row table))
  | .certificates => Certificate.constraints ++ [Certificate.issueDateReasonable today]
  | table => constraints table

/-- The name of the first constraint a row fails. -/
def violation? {R : Type} (constraints : List (Constraint R)) (row : R) : Option String :=
  (constraints.find? fun constraint => !(constraint.truth row).passes).map (·.name)

/-- Nothing is violated when every constraint passes. -/
theorem violation?_eq_none {R : Type} {constraints : List (Constraint R)} {row : R} :
    violation? constraints row = none ↔
      ∀ constraint ∈ constraints, (constraint.truth row).passes = true := by
  simp [violation?, List.find?_eq_none]

/-- A value of a UNIQUE column. -/
inductive KeyValue where
  | uuid (value : Uuid)
  | text (value : String)
  deriving DecidableEq, Repr

/-- A value in a UNIQUE column or index, with the constraint's name. -/
structure UniqueKey where
  constraint : String
  value : KeyValue
  deriving DecidableEq, Repr

/-- The UNIQUE keys a row occupies, its primary key first. -/
def uniqueKeys : {table : Table} → Row table → List UniqueKey
  | .certificates, row =>
      [⟨"id", .uuid row.id⟩, ⟨"certificate_uid", .text row.certificateUid⟩,
        ⟨"sha256_hash", .text row.sha256Hash⟩]
  | .blockchainTransactions, row =>
      ⟨"id", .uuid row.id⟩ :: (row.txHash.toList.map fun hash => ⟨"tx_hash", .text hash⟩)
  | .qrVerifications, row =>
      ⟨"id", .uuid row.id⟩ :: ⟨"token", .text row.token⟩ ::
        if row.isActive then
          [⟨"uq_qr_one_active_per_certificate", .uuid row.certificateId⟩]
        else
          []
  | .verificationLogs, row => [⟨"id", .uuid row.id⟩]
  | .universities, row =>
      ⟨"id", .uuid row.id⟩ :: ⟨"short_code", .text row.shortCode⟩ ::
        (row.walletAddress.toList.map fun address => ⟨"wallet_address", .text address⟩)
  | .users, row => [⟨"id", .uuid row.id⟩, ⟨"email", .text row.email⟩]
  | .students, row => [⟨"id", .uuid row.id⟩, ⟨"user_id", .uuid row.userId⟩]
  | .employers, row => [⟨"id", .uuid row.id⟩, ⟨"user_id", .uuid row.userId⟩]
  | .refreshTokens, row =>
      [⟨"id", .uuid row.id⟩, ⟨"uq_refresh_tokens_token_hash", .text row.tokenHash⟩]

/-- The primary key is one of the keys of a row. -/
theorem primaryKey_mem {table : Table} (row : Row table) :
    ⟨"id", .uuid (rowId row)⟩ ∈ uniqueKeys row := by
  cases table <;> simp [uniqueKeys, rowId]

/-- The first UNIQUE key of `row` that some row of `others` occupies already. -/
def conflict? {table : Table} (row : Row table) (others : List (Row table)) :
    Option UniqueKey :=
  (uniqueKeys row).find? fun key => others.any fun other => (uniqueKeys other).contains key

/-- There is no conflict when no other row has one of the keys. -/
theorem conflict?_eq_none {table : Table} {row : Row table} {others : List (Row table)} :
    conflict? row others = none ↔
      ∀ key ∈ uniqueKeys row, ∀ other ∈ others, key ∉ uniqueKeys other := by
  simp [conflict?, List.find?_eq_none]

end AcademicCredential
