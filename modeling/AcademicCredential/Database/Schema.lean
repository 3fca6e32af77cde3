import AcademicCredential.Core
import AcademicCredential.Lib.ThreeValued

/-!
# Tables, columns and constraints

The rows of the tables the services read and write, and the assignments an UPDATE of
each table may make. Columns that no modelled statement reads or writes are left out.

The triggers of the migrations refuse updates of a confirmed certificate's content and
of any verification log. No assignment below does either, so they never fire.
-/

namespace AcademicCredential

open AcademicCredential.Lib

/-- A UUID, as a number. -/
abbrev Uuid := Nat

/-- Microseconds since the epoch. -/
abbrev Timestamp := Nat

/-- Days since 1970-01-01. -/
abbrev Date := Int

/-- The tables. -/
inductive Table where
  | certificates
  | blockchainTransactions
  | qrVerifications
  | verificationLogs
  | universities
  | users
  | students
  | employers
  | refreshTokens
  deriving DecidableEq, Repr

/-- The table's SQL name. -/
def Table.name : Table → String
  | .certificates => "certificates"
  | .blockchainTransactions => "blockchain_transactions"
  | .qrVerifications => "qr_verifications"
  | .verificationLogs => "verification_logs"
  | .universities => "universities"
  | .users => "users"
  | .students => "students"
  | .employers => "employers"
  | .refreshTokens => "refresh_tokens"

/-- A row of `certificates`. -/
structure Certificate where
  id : Uuid
  certificateUid : String
  universityId : Uuid
  studentId : Uuid
  issuedBy : Uuid
  recipientName : String
  recipientEmailSnapshot : String
  degreeTitle : String
  fieldOfStudy : String
  gradeClassification : Option String
  honors : Option String
  issueDate : Date
  expiryDate : Option Date
  sha256Hash : String
  blockchainStatus : BlockchainStatus
  filePath : String
  fileOriginalName : String
  fileSizeBytes : Nat
  fileMimeType : String
  isActive : Bool
  revocationReason : Option String
  revokedBy : Option Uuid
  revokedAt : Option Timestamp
  deriving DecidableEq, Repr

/-- A row of `blockchain_transactions`. -/
structure BlockchainTransaction where
  id : Uuid
  certificateId : Option Uuid
  txHash : Option String
  txType : TransactionType
  fromAddress : String
  toAddress : String
  contractAddress : String
  blockNumber : Option Nat
  blockHash : Option String
  gasUsed : Option Nat
  gasPriceWei : Option Nat
  transactionFeeWei : Option Nat
  networkName : String
  networkChainId : Nat
  certificateHashStored : Option String
  status : TransactionStatus
  errorMessage : Option String
  submittedAt : Timestamp
  confirmedAt : Option Timestamp
  deriving DecidableEq, Repr

/-- A row of `qr_verifications`. -/
structure QRVerification where
  id : Uuid
  certificateId : Uuid
  token : String
  verificationUrl : String
  totalScanCount : Nat
  lastScannedAt : Option Timestamp
  isActive : Bool
  deactivatedAt : Option Timestamp
  deactivatedReason : Option String
  expiresAt : Option Timestamp
  generatedBy : Uuid
  createdAt : Timestamp
  deriving DecidableEq, Repr

/-- A row of `verification_logs`. -/
structure VerificationLog where
  id : Uuid
  certificateId : Option Uuid
  certificateUidQueried : Option String
  verifierUserId : Option Uuid
  qrVerificationId : Option Uuid
  verificationMethod : VerificationMethod
  result : VerificationResult
  submittedHash : Option String
  storedHash : Option String
  hashMatch : Option Bool
  blockchainVerified : Bool
  blockchainTxHash : Option String
  universityNameSnapshot : Option String
  degreeTitleSnapshot : Option String
  recipientNameSnapshot : Option String
  ipAddress : Option String
  userAgent : Option String
  processingTimeMs : Option Nat
  verifiedAt : Timestamp
  deriving DecidableEq, Repr

/-- A row of `universities`. -/
structure University where
  id : Uuid
  shortCode : String
  walletAddress : Option String
  isVerified : Bool
  verifiedAt : Option Timestamp
  deriving DecidableEq, Repr

/-- A row of `users`. -/
structure User where
  id : Uuid
  email : String
  passwordHash : String
  role : UserRole
  universityId : Option Uuid
  firstName : String
  lastName : String
  isActive : Bool
  lastLoginAt : Option Timestamp
  lastLoginIp : Option String
  failedLoginAttempts : Nat
  lockedUntil : Option Timestamp
  createdAt : Timestamp
  deriving DecidableEq, Repr

/-- A row of `students`. -/
structure Student where
  id : Uuid
  userId : Uuid
  deriving DecidableEq, Repr

/-- A row of `employers`. -/
structure Employer where
  id : Uuid
  userId : Uuid
  companyName : Option String
  companyWebsite : Option String
  industry : Option String
  companySize : Option String
  country : Option String
  city : Option String
  jobTitle : Option String
  department : Option String
  deriving DecidableEq, Repr

/-- A row of `refresh_tokens`. -/
structure RefreshToken where
  id : Uuid
  userId : Uuid
  tokenHash : String
  isRevoked : Bool
  replacedBy : Option Uuid
  createdAt : Timestamp
  expiresAt : Timestamp
  revokedAt : Option Timestamp
  createdIp : Option String
  deriving DecidableEq, Repr

/-- The row type of each table. -/
abbrev Row : Table → Type
  | .certificates => Certificate
  | .blockchainTransactions => BlockchainTransaction
  | .qrVerifications => QRVerification
  | .verificationLogs => VerificationLog
  | .universities => University
  | .users => User
  | .students => Student
  | .employers => Employer
  | .refreshTokens => RefreshToken

instance : (table : Table) → DecidableEq (Row table)
  | .certificates => inferInstanceAs (DecidableEq Certificate)
  | .blockchainTransactions => inferInstanceAs (DecidableEq BlockchainTransaction)
  | .qrVerifications => inferInstanceAs (DecidableEq QRVerification)
  | .verificationLogs => inferInstanceAs (DecidableEq VerificationLog)
  | .universities => inferInstanceAs (DecidableEq University)
  | .users => inferInstanceAs (DecidableEq User)
  | .students => inferInstanceAs (DecidableEq Student)
  | .employers => inferInstanceAs (DecidableEq Employer)
  | .refreshTokens => inferInstanceAs (DecidableEq RefreshToken)

/-- The primary key. -/
def rowId : {table : Table} → Row table → Uuid
  | .certificates, row => row.id
  | .blockchainTransactions, row => row.id
  | .qrVerifications, row => row.id
  | .verificationLogs, row => row.id
  | .universities, row => row.id
  | .users, row => row.id
  | .students, row => row.id
  | .employers, row => row.id
  | .refreshTokens, row => row.id

/-- The columns of a certificate that some statement of the services sets. The UID, the hash and
the owner have no constructor: no statement sets them. -/
inductive CertificateAssignment where
  | blockchainStatus (status : BlockchainStatus)
  | isActive (value : Bool)
  | revocationReason (reason : Option String)
  | revokedBy (user : Option Uuid)
  | revokedAt (time : Option Timestamp)
  deriving DecidableEq, Repr

/-- The columns of a transaction row that some statement sets. -/
inductive TransactionAssignment where
  | status (newStatus : TransactionStatus)
  | txHash (hash : Option String)
  | blockNumber (number : Option Nat)
  | blockHash (hash : Option String)
  | gasUsed (amount : Option Nat)
  | gasPriceWei (price : Option Nat)
  | transactionFeeWei (fee : Option Nat)
  | confirmedAt (time : Option Timestamp)
  deriving DecidableEq, Repr

/-- The columns of a QR row that some statement sets. -/
inductive QRAssignment where
  | isActive (value : Bool)
  | deactivatedAt (time : Option Timestamp)
  | deactivatedReason (reason : Option String)
  /-- `total_scan_count = total_scan_count + 1`. -/
  | incrementScanCount
  | lastScannedAt (time : Option Timestamp)
  deriving DecidableEq, Repr

/-- The column of a university that some statement sets. -/
inductive UniversityAssignment where
  | walletAddress (address : Option String)
  deriving DecidableEq, Repr

/-- The columns of a user that some statement sets. -/
inductive UserAssignment where
  | passwordHash (hash : String)
  | isActive (value : Bool)
  | lastLoginAt (time : Option Timestamp)
  | lastLoginIp (address : Option String)
  | failedLoginAttempts (count : Nat)
  /-- `failed_login_attempts = failed_login_attempts + 1`. -/
  | incrementFailedLoginAttempts
  | lockedUntil (time : Option Timestamp)
  deriving DecidableEq, Repr

/-- The columns of an employer that some statement sets. -/
inductive EmployerAssignment where
  | companyName (value : Option String)
  | companyWebsite (value : Option String)
  | industry (value : Option String)
  | companySize (value : Option String)
  | country (value : Option String)
  | city (value : Option String)
  | jobTitle (value : Option String)
  | department (value : Option String)
  deriving DecidableEq, Repr

/-- The columns of a refresh token that some statement sets. -/
inductive RefreshTokenAssignment where
  | isRevoked (value : Bool)
  | revokedAt (time : Option Timestamp)
  | replacedBy (token : Option Uuid)
  deriving DecidableEq, Repr

/-- What an UPDATE of each table may set. -/
abbrev Assignment : Table → Type
  | .certificates => CertificateAssignment
  | .blockchainTransactions => TransactionAssignment
  | .qrVerifications => QRAssignment
  | .universities => UniversityAssignment
  | .users => UserAssignment
  | .employers => EmployerAssignment
  | .refreshTokens => RefreshTokenAssignment
  | .verificationLogs | .students => Empty

/-- Set a column of a certificate. -/
def CertificateAssignment.assign (row : Certificate) : CertificateAssignment → Certificate
  | .blockchainStatus status => { row with blockchainStatus := status }
  | .isActive value => { row with isActive := value }
  | .revocationReason reason => { row with revocationReason := reason }
  | .revokedBy user => { row with revokedBy := user }
  | .revokedAt time => { row with revokedAt := time }

/-- Set a column of a transaction row. -/
def TransactionAssignment.assign (row : BlockchainTransaction) :
    TransactionAssignment → BlockchainTransaction
  | .status newStatus => { row with status := newStatus }
  | .txHash hash => { row with txHash := hash }
  | .blockNumber number => { row with blockNumber := number }
  | .blockHash hash => { row with blockHash := hash }
  | .gasUsed amount => { row with gasUsed := amount }
  | .gasPriceWei price => { row with gasPriceWei := price }
  | .transactionFeeWei fee => { row with transactionFeeWei := fee }
  | .confirmedAt time => { row with confirmedAt := time }

/-- Set a column of a QR row. -/
def QRAssignment.assign (row : QRVerification) : QRAssignment → QRVerification
  | .isActive value => { row with isActive := value }
  | .deactivatedAt time => { row with deactivatedAt := time }
  | .deactivatedReason reason => { row with deactivatedReason := reason }
  | .incrementScanCount => { row with totalScanCount := row.totalScanCount + 1 }
  | .lastScannedAt time => { row with lastScannedAt := time }

/-- Set the wallet of a university. -/
def UniversityAssignment.assign (row : University) : UniversityAssignment → University
  | .walletAddress address => { row with walletAddress := address }

/-- Set a column of a user. -/
def UserAssignment.assign (row : User) : UserAssignment → User
  | .passwordHash hash => { row with passwordHash := hash }
  | .isActive value => { row with isActive := value }
  | .lastLoginAt time => { row with lastLoginAt := time }
  | .lastLoginIp address => { row with lastLoginIp := address }
  | .failedLoginAttempts count => { row with failedLoginAttempts := count }
  | .incrementFailedLoginAttempts =>
      { row with failedLoginAttempts := row.failedLoginAttempts + 1 }
  | .lockedUntil time => { row with lockedUntil := time }

/-- Set a column of an employer. -/
def EmployerAssignment.assign (row : Employer) : EmployerAssignment → Employer
  | .companyName value => { row with companyName := value }
  | .companyWebsite value => { row with companyWebsite := value }
  | .industry value => { row with industry := value }
  | .companySize value => { row with companySize := value }
  | .country value => { row with country := value }
  | .city value => { row with city := value }
  | .jobTitle value => { row with jobTitle := value }
  | .department value => { row with department := value }

/-- Set a column of a refresh token. -/
def RefreshTokenAssignment.assign (row : RefreshToken) : RefreshTokenAssignment → RefreshToken
  | .isRevoked value => { row with isRevoked := value }
  | .revokedAt time => { row with revokedAt := time }
  | .replacedBy token => { row with replacedBy := token }

/-- Set one column of a row. -/
def assign : {table : Table} → Row table → Assignment table → Row table
  | .certificates, row, assignment => assignment.assign row
  | .blockchainTransactions, row, assignment => assignment.assign row
  | .qrVerifications, row, assignment => assignment.assign row
  | .universities, row, assignment => assignment.assign row
  | .users, row, assignment => assignment.assign row
  | .employers, row, assignment => assignment.assign row
  | .refreshTokens, row, assignment => assignment.assign row
  | .verificationLogs, row, _ => row
  | .students, row, _ => row

/-- Set several columns, in order. -/
def assignAll {table : Table} (row : Row table) (assignments : List (Assignment table)) :
    Row table :=
  assignments.foldl assign row

/-- No assignment touches the primary key. -/
@[simp] theorem rowId_assign {table : Table} (row : Row table) (assignment : Assignment table) :
    rowId (assign row assignment) = rowId row := by
  cases table with
  | certificates | blockchainTransactions | qrVerifications | universities | users | employers
  | refreshTokens => cases assignment <;> rfl
  | verificationLogs | students => rfl

/-- No assignment sets the primary key. -/
@[simp] theorem rowId_assignAll {table : Table} (row : Row table)
    (assignments : List (Assignment table)) : rowId (assignAll row assignments) = rowId row := by
  induction assignments generalizing row with
  | nil => rfl
  | cons first rest inductionHypothesis =>
      simpa [assignAll] using inductionHypothesis (assign row first)

end AcademicCredential
