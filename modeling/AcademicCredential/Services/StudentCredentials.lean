import AcademicCredential.Blockchain.Service
import AcademicCredential.RepositoryRuns

/-!
# What students read

`student_credential_service.py` and the bodies of the endpoints that a student may ask
about one certificate. All of them load the certificate, then the student's profile, and
compare the certificate's `student_id` with the profile's own id.
-/

namespace AcademicCredential

open AcademicCredential.Lib
open AcademicCredential.Lib.Paging (RowOrder)

/-- `CertificateRepository.get_by_id`, or `CertificateNotFoundError`. -/
def existingCertificate (certId : Uuid) : Action Certificate := do
  match ← CertificateRepository.getById certId with
  | none => Program.raise ErrorClass.CertificateNotFoundError.default
  | some certificate => return certificate

/-- The ownership check of the readers below. -/
def requireOwner (currentUser : User) (certificate : Certificate) : Action Unit := do
  match ← StudentRepository.getByUserId currentUser.id with
  | none => Program.raise ErrorClass.OwnershipViolationError.default
  | some student =>
      if certificate.studentId ≠ student.id then
        Program.raise ErrorClass.OwnershipViolationError.default
      else
        return ()

/-- The ownership check of the endpoints for administrators and students. -/
def requireReader (currentUser : User) (certificate : Certificate) : Action Unit :=
  match currentUser.role with
  | .UNIVERSITY_ADMIN =>
      if some certificate.universityId ≠ currentUser.universityId then
        Program.raise ErrorClass.OwnershipViolationError.default
      else
        return ()
  | .STUDENT => requireOwner currentUser certificate
  | .SUPER_ADMIN | .EMPLOYER => Program.raise ErrorClass.OwnershipViolationError.default

namespace StudentCredentialService

/-- `get_my_credentials`. -/
def getMyCredentials (studentId : Uuid) : Action (List Certificate) := do
  match ← StudentRepository.getByUserId studentId with
  | none => return []
  | some student => CertificateRepository.getByStudent student.id false

/-- The answer to a request for a credential. -/
structure CredentialDetail where
  certificate : Certificate
  qrCode : Option QRVerification
  verificationUrl : Option String
  deriving DecidableEq

/-- `get_credential_detail`. -/
def getCredentialDetail (runtime : Runtime) (certId : Uuid) (currentUser : User) :
    Action CredentialDetail := do
  let certificate ← existingCertificate certId
  requireOwner currentUser certificate
  let qr ← QRVerificationRepository.getActiveByCertificate certId
  return {
    certificate
    qrCode := qr
    verificationUrl := qr.map fun qr => runtime.verificationBaseUrl ++ "/" ++ qr.token }

/-- The answer to a request for a link. -/
structure ShareLink where
  verificationUrl : Option String
  qrImageUrl : Option String
  qrToken : Option String
  expiresAt : Option Timestamp
  deriving DecidableEq

/-- `get_share_link`. -/
def getShareLink (runtime : Runtime) (certId : Uuid) (currentUser : User) :
    Action ShareLink := do
  let certificate ← existingCertificate certId
  requireOwner currentUser certificate
  if certificate.blockchainStatus ≠ .CONFIRMED then
    Program.raise ErrorClass.UnconfirmedCertificateError.default
  else
    match ← QRVerificationRepository.getActiveByCertificate certId with
    | some qr => return {
        verificationUrl := some (runtime.verificationBaseUrl ++ "/" ++ qr.token)
        qrImageUrl := some ("/api/v1/qr/image/" ++ qr.token)
        qrToken := some qr.token
        expiresAt := qr.expiresAt }
    | none => return {
        verificationUrl := none
        qrImageUrl := none
        qrToken := none
        expiresAt := none }

end StudentCredentialService

namespace StudentRouter

/-- What `FileResponse` is given. -/
structure Download where
  path : String
  filename : String
  deriving DecidableEq

/-- `download_credential`. -/
def downloadCredential (certificateId : Uuid) (currentUser : User) : Action Download := do
  let certificate ← existingCertificate certificateId
  requireOwner currentUser certificate
  if certificate.blockchainStatus ≠ .CONFIRMED then
    Program.raise ErrorClass.UnconfirmedCertificateError.default
  else
    let isThere ← Program.perform (.fileExists certificate.filePath)
    if !isThere then
      Program.raise ErrorClass.FileNotFoundOnDiskError.default
    else
      return { path := certificate.filePath, filename := certificate.certificateUid ++ ".pdf" }

end StudentRouter

namespace CertificateRouter

/-- `get_certificate`. -/
def getCertificate (certificateId : Uuid) (currentUser : User) : Action Certificate := do
  let certificate ← existingCertificate certificateId
  requireReader currentUser certificate
  return certificate

end CertificateRouter

namespace LogRouter

/-- The logs of the page, and how many there are in all. -/
def getCertificateLogs (order : RowOrder VerificationLog.verifiedAt) (certificateId : Uuid)
    (page limit : Nat) (currentUser : User) : Action (List VerificationLog × Nat) := do
  let certificate ← existingCertificate certificateId
  requireReader currentUser certificate
  VerificationLogRepository.getByCertificate order certificateId ((page - 1) * limit) limit

end LogRouter

/-- The student profile of a user. -/
def profile? (database : Database) (user : User) : Option Student :=
  (database .students).find? fun row => row.userId = user.id

/-- The program never ends in an ownership violation. -/
def NeverDenies {Value : Type} (program : Action Value) : Prop :=
  ∀ direct, (program.run directHandler direct).1 ≠
    .error ErrorClass.OwnershipViolationError.default

section readers

variable {direct : Direct} {user : User} {certificate : Certificate}

/-- Looking for a row reads it inside a transaction. -/
theorem BaseRepository.run_findOne_touch (direct : Direct) (table : Table)
    (condition : Row table → Bool) :
    (findOne table condition).run directHandler direct =
      (.ok ((direct.working table).find? condition), direct.touch) := by
  simp [findOne, Program.run_map, Except.map, directHandler, List.head?_filter]

/-- An existing certificate is found. -/
theorem run_existingCertificate
    (found : direct.working.find? .certificates certificate.id = some certificate) :
    (existingCertificate certificate.id).run directHandler direct =
      (.ok certificate, direct.touch) := by
  have looked : (direct.working .certificates).find?
      (fun row => decide (@rowId .certificates row = certificate.id)) = some certificate := found
  simp [existingCertificate, Program.run_bind, CertificateRepository.getById,
    BaseRepository.getById, BaseRepository.run_findOne_touch direct, looked]

/-- The owner is who has the profile that the certificate names. -/
theorem run_requireOwner (direct : Direct) (user : User) (certificate : Certificate) :
    (requireOwner user certificate).run directHandler direct =
      (if (profile? direct.working user).map (·.id) = some certificate.studentId then .ok ()
        else .error ErrorClass.OwnershipViolationError.default, direct.touch) := by
  have looked : (StudentRepository.getByUserId user.id).run directHandler direct =
      (.ok (profile? direct.working user), direct.touch) :=
    BaseRepository.run_findOne_touch direct .students _
  simp only [requireOwner, Program.run_bind, looked]
  cases profile? direct.working user with
  | none => rfl
  | some student =>
      by_cases same : certificate.studentId = student.id
      · simp [same]
      · have other : student.id ≠ certificate.studentId := fun equal => same equal.symm
        simp [same, other]

/-- A student may read exactly as an owner. -/
theorem run_requireReader (isStudent : user.role = .STUDENT) (direct : Direct) :
    (requireReader user certificate).run directHandler direct =
      (requireOwner user certificate).run directHandler direct := by
  simp [requireReader, isStudent]

/-- A reader that checks the owner first denies exactly those the profile does not own. -/
theorem denied_iff {Value : Type} {check : Certificate → Action Unit}
    (checks : (check certificate).run directHandler direct.touch =
      (requireOwner user certificate).run directHandler direct.touch)
    {rest : Certificate → Action Value} (never : NeverDenies (rest certificate))
    (found : direct.working.find? .certificates certificate.id = some certificate) :
    ((do let loaded ← existingCertificate certificate.id
         check loaded
         rest loaded).run directHandler direct).1 =
        .error ErrorClass.OwnershipViolationError.default ↔
      (profile? direct.working user).map (·.id) ≠ some certificate.studentId := by
  simp only [Program.run_bind, run_existingCertificate found, checks, run_requireOwner]
  have sameWorking : direct.touch.working = direct.working := rfl
  rw [sameWorking]
  by_cases owned : (profile? direct.working user).map (·.id) = some certificate.studentId
  · simp only [if_pos owned]
    exact iff_of_false (never _) (not_not.mpr owned)
  · simp only [if_neg owned]
    simpa using owned

end readers

end AcademicCredential
