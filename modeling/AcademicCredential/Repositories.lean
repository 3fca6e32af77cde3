import AcademicCredential.Database.Session
import AcademicCredential.Lib.Paging
import Mathlib.Data.List.Sort

/-!
# Repositories

The data-access classes, one statement after the other as they issue them. A lookup by
a UNIQUE column takes the first row of the result: there is at most one. A query that
cuts a page from its rows is given an order that its `ORDER BY` allows.
-/

namespace AcademicCredential

open AcademicCredential.Lib
open AcademicCredential.Lib.Paging (RowOrder)

namespace BaseRepository

/-- A SELECT with `scalar_one_or_none`. -/
def findOne (table : Table) (condition : Row table → Bool) : Action (Option (Row table)) := do
  let rows ← Program.perform (.select table condition)
  return rows.head?

/-- `get_by_id`. -/
def getById (table : Table) (id : Uuid) : Action (Option (Row table)) :=
  findOne table fun row => rowId row = id

/-- `create`: add, flush, refresh. -/
def create (table : Table) (row : Row table) : Action (Row table) := do
  attempt (.insert table row)
  let loaded ← Program.perform (.refresh table (rowId row))
  return loaded.getD row

/-- `update` and the methods written out like it: SELECT the row, compute and set the
new attribute values, flush, refresh. -/
def modify (table : Table) (id : Uuid) (assignments : Action (List (Assignment table))) :
    Action (Option (Row table)) := do
  match ← getById table id with
  | none => return none
  | some row =>
      let values ← assignments
      attempt (.flush table id values)
      let loaded ← Program.perform (.refresh table id)
      return some (loaded.getD row)

/-- The instances among rows sorted newest first that `OFFSET` and `LIMIT` leave. -/
def page {R : Type} (skip limit : Nat) (rows : List R) : List R := (rows.drop skip).take limit

end BaseRepository

namespace CertificateRepository

/-- `get_by_id`. -/
def getById (id : Uuid) : Action (Option Certificate) :=
  BaseRepository.getById .certificates id

/-- `get_by_uid`. -/
def getByUid (certificateUid : String) : Action (Option Certificate) :=
  BaseRepository.findOne .certificates fun row => row.certificateUid = certificateUid

/-- `get_by_hash`. -/
def getByHash (sha256Hash : String) : Action (Option Certificate) :=
  BaseRepository.findOne .certificates fun row => row.sha256Hash = sha256Hash

/-- `create`. -/
def create (row : Certificate) : Action Certificate :=
  BaseRepository.create .certificates row

/-- Latest issue date first. -/
def byIssueDate (certificates : List Certificate) : List Certificate :=
  certificates.insertionSort fun left right => right.issueDate ≤ left.issueDate

/-- `get_by_student`. -/
def getByStudent (studentId : Uuid) (activeOnly : Bool) : Action (List Certificate) := do
  let rows ← Program.perform (.select .certificates fun row =>
    row.studentId = studentId && (!activeOnly || row.isActive))
  return byIssueDate rows

/-- One page of a university's certificates and how many there are, in an order that
`ORDER BY issue_date DESC` allows; `filters` are further conditions on the columns. -/
def getByUniversity (order : RowOrder Certificate.issueDate) (universityId : Option Uuid)
    (skip limit : Nat) (filters : Certificate → Bool) : Action (List Certificate × Nat) := do
  let total ← Program.perform (.count .certificates fun row =>
    some row.universityId = universityId && filters row)
  let rows ← Program.perform (.select .certificates fun row =>
    some row.universityId = universityId && filters row)
  return (BaseRepository.page skip limit (order.arrange rows), total)

/-- The `tx_hash` argument of the source is not used by it. -/
def updateBlockchainStatus (certId : Uuid) (status : BlockchainStatus) :
    Action (Option Certificate) :=
  BaseRepository.modify .certificates certId (return [.blockchainStatus status])

/-- The attributes `revoke` sets. -/
def revocation (reason : String) (revokedBy : Uuid) (now : Timestamp) :
    List CertificateAssignment :=
  [.isActive false, .revocationReason (some reason), .revokedBy (some revokedBy),
    .revokedAt (some now), .blockchainStatus .REVOKED]

/-- `revoke`. -/
def revoke (certId : Uuid) (reason : String) (revokedBy : Uuid) :
    Action (Option Certificate) :=
  BaseRepository.modify .certificates certId do
    let now ← Program.perform .now
    return revocation reason revokedBy now

/-- SQL `LIKE`: `_` is any character, `%` any text, and a backslash quotes. -/
def like : List Char → List Char → Bool
  | [], text => text.isEmpty
  | '%' :: pattern, text => (List.range (text.length + 1)).any fun skipped =>
      like pattern (text.drop skipped)
  | '\\' :: quoted :: pattern, char :: text => quoted == char && like pattern text
  | '_' :: pattern, _ :: text => like pattern text
  | expected :: pattern, char :: text => expected == char && like pattern text
  | _, [] => false

/-- `int(text)` on decimal digits. -/
def parseInt? (text : List Char) : Option Nat :=
  if text != [] && text.all Char.isDigit then
    some (text.foldl (fun value char => 10 * value + (char.toNat - '0'.toNat)) 0)
  else
    none

/-- `text.rsplit("-", 1)[-1]`. -/
def afterLastDash (text : String) : List Char :=
  (text.toList.reverse.takeWhile (· != '-')).reverse

/-- `get_next_uid_sequence`: the number after the largest UID of the year. -/
def getNextUidSequence (universityShortCode : String) (year : Int) : Action Nat := do
  let pattern := universityShortCode ++ "-" ++ toString year ++ "-%"
  let maxUid ← Program.perform <| .selectText .certificates fun rows =>
    (((rows.map Certificate.certificateUid).filter fun uid =>
      like pattern.toList uid.toList).insertionSort (· ≥ ·)).head?
  match maxUid with
  | none => return 1
  | some uid =>
      match parseInt? (afterLastDash uid) with
      | some sequence => return sequence + 1
      | none => Program.raise .ValueError

end CertificateRepository

namespace BlockchainTransactionRepository

/-- Newest submission first. -/
def bySubmission (transactions : List BlockchainTransaction) : List BlockchainTransaction :=
  transactions.insertionSort fun left right => right.submittedAt ≤ left.submittedAt

/-- `get_by_certificate_id`, latest first. -/
def getByCertificateId (certId : Uuid) : Action (List BlockchainTransaction) := do
  let rows ← Program.perform
    (.select .blockchainTransactions fun row => row.certificateId = some certId)
  return bySubmission rows

/-- `create`. -/
def create (row : BlockchainTransaction) : Action BlockchainTransaction :=
  BaseRepository.create .blockchainTransactions row

/-- `update_status`, with the further columns that are given. -/
def updateStatus (txId : Uuid) (status : TransactionStatus)
    (blockData : List TransactionAssignment) : Action (Option BlockchainTransaction) :=
  BaseRepository.modify .blockchainTransactions txId (return .status status :: blockData)

end BlockchainTransactionRepository

namespace QRVerificationRepository

/-- `get_by_token`. -/
def getByToken (token : String) : Action (Option QRVerification) :=
  BaseRepository.findOne .qrVerifications fun row => row.token = token

/-- `get_active_by_certificate`. -/
def getActiveByCertificate (certId : Uuid) : Action (Option QRVerification) :=
  BaseRepository.findOne .qrVerifications fun row => row.certificateId = certId && row.isActive

/-- `increment_scan_count`. -/
def incrementScanCount (qrId : Uuid) : Action Unit := do
  let now ← Program.perform .now
  attempt (.executeUpdate .qrVerifications qrId [.incrementScanCount, .lastScannedAt (some now)])

/-- `deactivate`. -/
def deactivate (qrId : Uuid) (reason : String) : Action (Option QRVerification) :=
  BaseRepository.modify .qrVerifications qrId do
    let now ← Program.perform .now
    return [.isActive false, .deactivatedAt (some now), .deactivatedReason (some reason)]

/-- `create`. -/
def create (row : QRVerification) : Action QRVerification :=
  BaseRepository.create .qrVerifications row

end QRVerificationRepository

namespace VerificationLogRepository

/-- `create`. -/
def create (row : VerificationLog) : Action VerificationLog :=
  BaseRepository.create .verificationLogs row

/-- One page of a certificate's logs and how many there are, in an order that
`ORDER BY verified_at DESC` allows. -/
def getByCertificate (order : RowOrder VerificationLog.verifiedAt) (certId : Uuid)
    (skip limit : Nat) : Action (List VerificationLog × Nat) := do
  let total ← Program.perform (.count .verificationLogs fun row => row.certificateId = some certId)
  let rows ← Program.perform (.select .verificationLogs fun row => row.certificateId = some certId)
  return (BaseRepository.page skip limit (order.arrange rows), total)

/-- One page of a verifier's logs and how many there are. -/
def getByVerifier (order : RowOrder VerificationLog.verifiedAt) (verifierId : Uuid)
    (skip limit : Nat) : Action (List VerificationLog × Nat) := do
  let total ← Program.perform (.count .verificationLogs fun row =>
    row.verifierUserId = some verifierId)
  let rows ← Program.perform (.select .verificationLogs fun row =>
    row.verifierUserId = some verifierId)
  return (BaseRepository.page skip limit (order.arrange rows), total)

end VerificationLogRepository

namespace UniversityRepository

/-- `get_by_id`. -/
def getById (id : Uuid) : Action (Option University) :=
  BaseRepository.getById .universities id

/-- The code comes from a request; the driver refuses a parameter with U+0000. -/
def getByShortCode (shortCode : Option String) : Action (Option University) :=
  if shortCode.all isText then
    BaseRepository.findOne .universities fun row => some row.shortCode = shortCode
  else
    Program.raise .DBAPIError

/-- `get_by_wallet_address`. -/
def getByWalletAddress (walletAddress : String) : Action (Option University) :=
  BaseRepository.findOne .universities fun row => row.walletAddress = some walletAddress

/-- `update_wallet_address`. -/
def updateWalletAddress (universityId : Uuid) (walletAddress : String) :
    Action (Option University) :=
  BaseRepository.modify .universities universityId
    (return [.walletAddress (some walletAddress)])

end UniversityRepository

namespace UserRepository

/-- `get_by_id`. -/
def getById (id : Uuid) : Action (Option User) :=
  BaseRepository.getById .users id

/-- `get_by_email`. -/
def getByEmail (email : String) : Action (Option User) :=
  BaseRepository.findOne .users fun row => row.email = email

/-- `create`. -/
def create (row : User) : Action User :=
  BaseRepository.create .users row

/-- `update`. -/
def update (id : Uuid) (data : List UserAssignment) : Action (Option User) :=
  BaseRepository.modify .users id (return data)

/-- `delete` of a model with an `is_active` column. -/
def delete (id : Uuid) : Action Unit := do
  match ← getById id with
  | none => return ()
  | some _ => attempt (.flush .users id [.isActive false])

/-- `update_last_login`. -/
def updateLastLogin (userId : Uuid) (ipAddress : String) : Action Unit := do
  let now ← Program.perform .now
  attempt (.executeUpdate .users userId [.lastLoginAt (some now), .lastLoginIp (some ipAddress)])

/-- `UPDATE … RETURNING`: the statement and the count it leaves. -/
def incrementFailedAttempts (userId : Uuid) : Action Nat := do
  attempt (.executeUpdate .users userId [.incrementFailedLoginAttempts])
  match ← getById userId with
  | some row => return row.failedLoginAttempts
  | none => Program.raise .NoResultFound

/-- `reset_failed_attempts`. -/
def resetFailedAttempts (userId : Uuid) : Action Unit :=
  attempt (.executeUpdate .users userId [.failedLoginAttempts 0])

/-- `set_account_lock`. -/
def setAccountLock (userId : Uuid) (lockedUntil : Timestamp) : Action Unit :=
  attempt (.executeUpdate .users userId [.lockedUntil (some lockedUntil)])

end UserRepository

namespace StudentRepository

/-- `get_by_user_id`. -/
def getByUserId (userId : Uuid) : Action (Option Student) :=
  BaseRepository.findOne .students fun row => row.userId = userId

/-- `create`. -/
def create (row : Student) : Action Student :=
  BaseRepository.create .students row

end StudentRepository

namespace EmployerRepository

/-- `get_by_user_id`. -/
def getByUserId (userId : Uuid) : Action (Option Employer) :=
  BaseRepository.findOne .employers fun row => row.userId = userId

/-- `create`. -/
def create (row : Employer) : Action Employer :=
  BaseRepository.create .employers row

/-- `update`. -/
def update (id : Uuid) (data : List EmployerAssignment) : Action (Option Employer) :=
  BaseRepository.modify .employers id (return data)

end EmployerRepository

namespace RefreshTokenRepository

/-- `create`: only the hash of the token is stored. -/
def create (userId : Uuid) (tokenHash : String) (expiresAt : Timestamp) (ip : Option String) :
    Action RefreshToken := do
  let id ← Program.perform .uuid4
  let createdAt ← Program.perform .serverNow
  BaseRepository.create .refreshTokens {
    id
    userId
    tokenHash
    isRevoked := false
    replacedBy := none
    createdAt
    expiresAt
    revokedAt := none
    createdIp := ip }

/-- `get_by_token_hash`. -/
def getByTokenHash (tokenHash : String) : Action (Option RefreshToken) :=
  BaseRepository.findOne .refreshTokens fun row => row.tokenHash = tokenHash

/-- `revoke`, with the token that replaces it. -/
def revoke (tokenId : Uuid) (replacedBy : Option Uuid) : Action Unit := do
  let now ← Program.perform .now
  attempt (.executeUpdate .refreshTokens tokenId
    [.isRevoked true, .revokedAt (some now), .replacedBy replacedBy])

/-- The UPDATE of every row in a list. -/
def revokeEach (now : Timestamp) : List RefreshToken → Action Unit
  | [] => return ()
  | row :: rows => do
      attempt (.executeUpdate .refreshTokens row.id [.isRevoked true, .revokedAt (some now)])
      revokeEach now rows

/-- `UPDATE … WHERE user_id = … AND is_revoked = FALSE`, row by row; how many there were. -/
def revokeAllForUser (userId : Uuid) : Action Nat := do
  let now ← Program.perform .now
  let rows ← Program.perform (.select .refreshTokens fun row =>
    row.userId = userId && !row.isRevoked)
  revokeEach now rows
  return rows.length

end RefreshTokenRepository

end AcademicCredential
