import AcademicCredential.Database.Decide
import AcademicCredential.RepositoryRuns

/-!
# Dashboards

`get_university_dashboard_data` and `get_employer_dashboard`. Both count the total in SQL
and the classes in Python, over the newest 1000 rows, in an order that the query leaves open
for ties. `figures_true_iff` says when the classes are true all the same.
-/

namespace AcademicCredential

open AcademicCredential.Lib
open AcademicCredential.Lib.Paging

/-- The rows the classes are counted over. -/
def dashboardLimit : Nat := 1000

/-- How the two queries of a dashboard order ties. -/
structure DashboardOrders {Row Key : Type} [LinearOrder Key] (key : Row → Key) where
  counted : RowOrder key
  recent : RowOrder key

namespace UniversityService

/-- The counts of the certificates of a university by their status. -/
structure CertificateStats where
  total : Nat
  confirmed : Nat
  pending : Nat
  revoked : Nat
  failed : Nat
  deriving DecidableEq, Repr

/-- One turn of the loop over the certificates. -/
def CertificateStats.count (stats : CertificateStats) (certificate : Certificate) :
    CertificateStats :=
  match certificate.blockchainStatus with
  | .CONFIRMED => { stats with confirmed := stats.confirmed + 1 }
  | .PENDING | .SUBMITTED => { stats with pending := stats.pending + 1 }
  | .REVOKED => { stats with revoked := stats.revoked + 1 }
  | .FAILED => { stats with failed := stats.failed + 1 }

/-- What the dashboard of a university shows. -/
structure Dashboard where
  university : University
  stats : CertificateStats
  recentCertificates : List Certificate
  deriving DecidableEq

/-- `get_university_dashboard_data`. -/
def getUniversityDashboardData (orders : DashboardOrders Certificate.issueDate)
    (universityId : Uuid) (currentUser : User) : Action Dashboard := do
  if currentUser.universityId ≠ some universityId then
    Program.raise ErrorClass.OwnershipViolationError.default
  else
    match ← UniversityRepository.getById universityId with
    | none => Program.raise ErrorClass.UniversityNotFoundError.default
    | some university =>
        let (certificates, total) ←
          CertificateRepository.getByUniversity orders.counted (some universityId) 0 dashboardLimit
            fun _ => true
        let stats := certificates.foldl CertificateStats.count
          { total, confirmed := 0, pending := 0, revoked := 0, failed := 0 }
        let (recent, _) ←
          CertificateRepository.getByUniversity orders.recent (some universityId) 0 5 fun _ => true
        return { university, stats, recentCertificates := recent }

/-- A certificate counts as pending until the chain has settled it. -/
def isPending (certificate : Certificate) : Bool :=
  certificate.blockchainStatus = .PENDING || certificate.blockchainStatus = .SUBMITTED

/-- The figures are the numbers of the certificates, and add up. -/
structure CertificateStats.True (stats : CertificateStats) (certificates : List Certificate) :
    Prop where
  addUp : stats.confirmed + stats.pending + stats.revoked + stats.failed = stats.total
  confirmed : stats.confirmed = certificates.countP (·.blockchainStatus = .CONFIRMED)
  pending : stats.pending = certificates.countP isPending
  revoked : stats.revoked = certificates.countP (·.blockchainStatus = .REVOKED)
  failed : stats.failed = certificates.countP (·.blockchainStatus = .FAILED)

/-- The loop over the certificates counts them by status. -/
theorem foldl_count (certificates : List Certificate) (stats : CertificateStats) :
    certificates.foldl CertificateStats.count stats =
      { total := stats.total
        confirmed := stats.confirmed + certificates.countP (·.blockchainStatus = .CONFIRMED)
        pending := stats.pending + certificates.countP isPending
        revoked := stats.revoked + certificates.countP (·.blockchainStatus = .REVOKED)
        failed := stats.failed + certificates.countP (·.blockchainStatus = .FAILED) } := by
  induction certificates generalizing stats with
  | nil => rfl
  | cons certificate certificates inductionHypothesis =>
      rw [List.foldl_cons, inductionHypothesis]
      simp only [List.countP_cons]
      cases status : certificate.blockchainStatus <;>
        simp [CertificateStats.count, isPending, status] <;> omega

/-- Every certificate is in one class. -/
theorem length_eq_classes (certificates : List Certificate) :
    certificates.length = certificates.countP (·.blockchainStatus = .CONFIRMED) +
      certificates.countP isPending + certificates.countP (·.blockchainStatus = .REVOKED) +
        certificates.countP (·.blockchainStatus = .FAILED) := by
  induction certificates with
  | nil => rfl
  | cons certificate certificates inductionHypothesis =>
      simp only [List.countP_cons, List.length_cons, inductionHypothesis]
      cases status : certificate.blockchainStatus <;> simp [isPending, status] <;> omega

end UniversityService

namespace EmployerService

/-- The counts of the verifications of an employer by their result. -/
structure VerificationSummary where
  totalVerifications : Nat
  authenticCount : Nat
  tamperedCount : Nat
  revokedCount : Nat
  notFoundCount : Nat
  deriving DecidableEq, Repr

/-- One turn of the loop over the logs. -/
def VerificationSummary.count (summary : VerificationSummary) (log : VerificationLog) :
    VerificationSummary :=
  match log.result with
  | .AUTHENTIC => { summary with authenticCount := summary.authenticCount + 1 }
  | .TAMPERED => { summary with tamperedCount := summary.tamperedCount + 1 }
  | .REVOKED => { summary with revokedCount := summary.revokedCount + 1 }
  | .NOT_FOUND => { summary with notFoundCount := summary.notFoundCount + 1 }
  | .PENDING_CHAIN | .ERROR => summary

/-- What the dashboard of an employer shows. -/
structure Dashboard where
  employerProfile : Employer
  verificationSummary : VerificationSummary
  recentVerifications : List VerificationLog
  deriving DecidableEq

/-- `get_employer_dashboard`. -/
def getEmployerDashboard (orders : DashboardOrders VerificationLog.verifiedAt)
    (currentUser : User) : Action Dashboard := do
  match ← EmployerRepository.getByUserId currentUser.id with
  | none => Program.raise (.app .NotFoundError "Employer profile not found")
  | some employer =>
      let (logs, total) ←
        VerificationLogRepository.getByVerifier orders.counted currentUser.id 0 dashboardLimit
      let summary := logs.foldl VerificationSummary.count {
        totalVerifications := total
        authenticCount := 0
        tamperedCount := 0
        revokedCount := 0
        notFoundCount := 0 }
      let (recent, _) ← VerificationLogRepository.getByVerifier orders.recent currentUser.id 0 5
      return {
        employerProfile := employer
        verificationSummary := summary
        recentVerifications := recent }

/-- The results that the summary has a figure for. -/
def isReported (log : VerificationLog) : Bool :=
  log.result = .AUTHENTIC || log.result = .TAMPERED || log.result = .REVOKED ||
    log.result = .NOT_FOUND

/-- The figures are the numbers of the logs. -/
structure VerificationSummary.True (summary : VerificationSummary) (logs : List VerificationLog) :
    Prop where
  authentic : summary.authenticCount = logs.countP (·.result = .AUTHENTIC)
  tampered : summary.tamperedCount = logs.countP (·.result = .TAMPERED)
  revoked : summary.revokedCount = logs.countP (·.result = .REVOKED)
  notFound : summary.notFoundCount = logs.countP (·.result = .NOT_FOUND)

/-- The loop over the logs counts them by result. -/
theorem foldl_count (logs : List VerificationLog) (summary : VerificationSummary) :
    logs.foldl VerificationSummary.count summary =
      { totalVerifications := summary.totalVerifications
        authenticCount := summary.authenticCount + logs.countP (·.result = .AUTHENTIC)
        tamperedCount := summary.tamperedCount + logs.countP (·.result = .TAMPERED)
        revokedCount := summary.revokedCount + logs.countP (·.result = .REVOKED)
        notFoundCount := summary.notFoundCount + logs.countP (·.result = .NOT_FOUND) } := by
  induction logs generalizing summary with
  | nil => rfl
  | cons log logs inductionHypothesis =>
      rw [List.foldl_cons, inductionHypothesis]
      simp only [List.countP_cons]
      cases result : log.result <;> simp [VerificationSummary.count, result] <;> omega

/-- Figures counted over the first rows are true when the others are in no reported class. -/
theorem true_take_iff {fetched logs : List VerificationLog} (sorted : fetched.Perm logs)
    (limit total : Nat) :
    VerificationSummary.True ((fetched.take limit).foldl VerificationSummary.count
        { totalVerifications := total, authenticCount := 0, tamperedCount := 0, revokedCount := 0,
          notFoundCount := 0 }) logs ↔
      ∀ log ∈ fetched.drop limit, isReported log = false := by
  have split : ∀ inClass : VerificationLog → Bool, logs.countP inClass =
      (fetched.take limit).countP inClass + (fetched.drop limit).countP inClass := by
    intro inClass
    rw [← List.countP_append, List.take_append_drop, sorted.countP_eq]
  constructor
  · intro figures log member
    have none : ∀ inClass : VerificationLog → Bool,
        (fetched.take limit).countP inClass = logs.countP inClass → inClass log = false := by
      intro inClass same
      have zero : (fetched.drop limit).countP inClass = 0 := by
        have parts := split inClass
        omega
      simpa using List.countP_eq_zero.mp zero log member
    have authentic := none _ (by simpa [foldl_count] using figures.authentic)
    have tampered := none _ (by simpa [foldl_count] using figures.tampered)
    have revoked := none _ (by simpa [foldl_count] using figures.revoked)
    have notFound := none _ (by simpa [foldl_count] using figures.notFound)
    simp [isReported, authentic, tampered, revoked, notFound]
  · intro unreported
    have same : ∀ inClass : VerificationLog → Bool,
        (∀ log, inClass log = true → isReported log = true) →
        (fetched.take limit).countP inClass = logs.countP inClass := by
      intro inClass reported
      have zero : (fetched.drop limit).countP inClass = 0 := by
        refine List.countP_eq_zero.mpr fun log member isIn => ?_
        have isReported := reported log isIn
        rw [unreported log member] at isReported
        cases isReported
      have parts := split inClass
      omega
    rw [foldl_count]
    constructor
    · simpa using same _ (by simp +contextual [isReported])
    · simpa using same _ (by simp +contextual [isReported])
    · simpa using same _ (by simp +contextual [isReported])
    · simpa using same _ (by simp +contextual [isReported])

end EmployerService

/-- The certificates of a university. -/
def certificatesOf (database : Database) (universityId : Uuid) : List Certificate :=
  (database .certificates).filter fun row => row.universityId = universityId

/-- The logs of a verifier. -/
def logsOf (database : Database) (verifierId : Uuid) : List VerificationLog :=
  (database .verificationLogs).filter fun row => row.verifierUserId = some verifierId

/-- `get_by_university` answers with the first certificates in the order, and their number. -/
theorem run_getByUniversity (direct : Direct) (order : RowOrder Certificate.issueDate)
    (universityId : Uuid) (limit : Nat) :
    (CertificateRepository.getByUniversity order (some universityId) 0 limit fun _ => true).run
        directHandler direct =
      (.ok ((order.arrange (certificatesOf direct.working universityId)).take limit,
        (certificatesOf direct.working universityId).length), direct.touch) := by
  simp [CertificateRepository.getByUniversity, Program.run_bind, Program.run_map, Except.map,
    directHandler, certificatesOf, BaseRepository.page, List.countP_eq_length_filter, Direct.touch]

/-- `get_by_verifier` answers with the first logs in the order, and their number. -/
theorem run_getByVerifier (direct : Direct) (order : RowOrder VerificationLog.verifiedAt)
    (verifierId : Uuid) (limit : Nat) :
    (VerificationLogRepository.getByVerifier order verifierId 0 limit).run directHandler direct =
      (.ok ((order.arrange (logsOf direct.working verifierId)).take limit,
        (logsOf direct.working verifierId).length), direct.touch) := by
  simp [VerificationLogRepository.getByVerifier, Program.run_bind, Program.run_map, Except.map,
    directHandler, logsOf, BaseRepository.page, List.countP_eq_length_filter, Direct.touch]

/-- The statistics of a dashboard that is returned. -/
theorem stats_of_returned {direct : Direct} {orders : DashboardOrders Certificate.issueDate}
    {universityId : Uuid} {currentUser : User} {dashboard : UniversityService.Dashboard}
    (returned : ((UniversityService.getUniversityDashboardData orders universityId currentUser).run
      directHandler direct).1 = .ok dashboard) :
    dashboard.stats =
      ((orders.counted.arrange (certificatesOf direct.working universityId)).take
        dashboardLimit).foldl UniversityService.CertificateStats.count {
          total := (certificatesOf direct.working universityId).length
          confirmed := 0, pending := 0, revoked := 0, failed := 0 } := by
  have looked : (UniversityRepository.getById universityId).run directHandler direct =
      (.ok ((direct.working .universities).find? fun row =>
        decide (@rowId .universities row = universityId)), direct.touch) := by
    simp [UniversityRepository.getById, BaseRepository.getById, BaseRepository.findOne,
      Program.run_map, Except.map, directHandler, List.head?_filter]
  unfold UniversityService.getUniversityDashboardData at returned
  split at returned
  · cases returned
  · simp only [Program.run_bind, looked] at returned
    split at returned
    · cases returned
    · simp only [Program.run_bind, run_getByUniversity] at returned
      cases returned
      rfl

/-- The summary of an employer's dashboard. -/
theorem run_getEmployerDashboard {direct : Direct}
    (orders : DashboardOrders VerificationLog.verifiedAt) {currentUser : User} {employer : Employer}
    (found : (direct.working .employers).find? (fun row => decide (row.userId = currentUser.id)) =
      some employer) :
    ((EmployerService.getEmployerDashboard orders currentUser).run directHandler direct).1 = .ok {
      employerProfile := employer
      verificationSummary :=
        ((orders.counted.arrange (logsOf direct.working currentUser.id)).take
          dashboardLimit).foldl EmployerService.VerificationSummary.count {
            totalVerifications := (logsOf direct.working currentUser.id).length
            authenticCount := 0, tamperedCount := 0, revokedCount := 0, notFoundCount := 0 }
      recentVerifications :=
        (orders.recent.arrange (logsOf direct.working currentUser.id)).take 5 } := by
  have looked : (EmployerRepository.getByUserId currentUser.id).run directHandler direct =
      (.ok (some employer), direct.touch) := by
    simp [EmployerRepository.getByUserId, BaseRepository.findOne, Program.run_map, Except.map,
      directHandler, List.head?_filter, found]
  simp [EmployerService.getEmployerDashboard, Program.run_bind, Program.run_map, Except.map, looked,
    run_getByVerifier, Direct.touch]

/-- A dashboard that is returned shows the profile of the employer who asked. -/
theorem employer_of_returned {direct : Direct}
    {orders : DashboardOrders VerificationLog.verifiedAt} {currentUser : User}
    {dashboard : EmployerService.Dashboard}
    (returned : ((EmployerService.getEmployerDashboard orders currentUser).run directHandler
      direct).1 = .ok dashboard) :
    (direct.working .employers).find? (fun row => decide (row.userId = currentUser.id)) =
      some dashboard.employerProfile := by
  cases found : (direct.working .employers).find? fun row =>
      decide (row.userId = currentUser.id) with
  | none =>
      have looked : (EmployerRepository.getByUserId currentUser.id).run directHandler direct =
          (.ok none, direct.touch) := by
        simp only [EmployerRepository.getByUserId, BaseRepository.findOne, directHandler,
          List.head?_filter, Program.run_bind, Program.run_perform, Program.run_pure, found]
      simp [EmployerService.getEmployerDashboard, Program.run_bind, looked] at returned
  | some employer =>
      rw [run_getEmployerDashboard orders found] at returned
      cases returned
      rfl

/-- The statistics over the newest certificates are true when there are no others. -/
theorem UniversityService.true_take_iff {fetched certificates : List Certificate}
    (sorted : fetched.Perm certificates) (limit : Nat) :
    CertificateStats.True ((fetched.take limit).foldl CertificateStats.count
        { total := certificates.length, confirmed := 0, pending := 0, revoked := 0, failed := 0 })
        certificates ↔ certificates.length ≤ limit := by
  have length := sorted.length_eq
  constructor
  · intro figures
    have addUp := figures.addUp
    have classes := length_eq_classes (fetched.take limit)
    simp only [foldl_count, Nat.zero_add] at addUp
    rw [List.length_take] at classes
    omega
  · intro few
    have all : fetched.take limit = fetched := List.take_of_length_le (by omega)
    have classes := length_eq_classes fetched
    rw [all, foldl_count]
    constructor
    · simp only [Nat.zero_add]
      omega
    · simpa using sorted.countP_eq _
    · simpa using sorted.countP_eq _
    · simpa using sorted.countP_eq _
    · simpa using sorted.countP_eq _

/-- A university's figures add up to the total, and are true, exactly when it has at most 1000
certificates. An employer's figures are true exactly when none of the logs beyond the newest
1000 has a result that is reported. -/
theorem figures_true_iff (store : ValidStore) (inputs : Inputs) :
    (∀ orders universityId currentUser dashboard,
      ((UniversityService.getUniversityDashboardData orders universityId currentUser).run
        sessionHandler (store.toStore, .fresh inputs)).1 = .ok dashboard →
      (dashboard.stats.True (certificatesOf store.database universityId) ↔
        (certificatesOf store.database universityId).length ≤ 1000)) ∧
    (∀ orders currentUser dashboard,
      ((EmployerService.getEmployerDashboard orders currentUser).run sessionHandler
        (store.toStore, .fresh inputs)).1 = .ok dashboard →
      (dashboard.verificationSummary.True (logsOf store.database currentUser.id) ↔
        ∀ log ∈ (orders.counted.arrange (logsOf store.database currentUser.id)).drop 1000,
          EmployerService.isReported log = false)) := by
  constructor
  · intro orders universityId currentUser dashboard returned
    rw [(store.run_eq inputs _).1] at returned
    rw [stats_of_returned returned]
    exact UniversityService.true_take_iff (orders.counted.perm _) dashboardLimit
  · intro orders currentUser dashboard returned
    rw [(store.run_eq inputs _).1] at returned
    have found := employer_of_returned returned
    rw [run_getEmployerDashboard orders found] at returned
    rw [← Except.ok.inj returned]
    exact EmployerService.true_take_iff (orders.counted.perm _) dashboardLimit _

namespace Sample

/-- An employer's verification of an authentic certificate. -/
def authenticLog (id : Uuid) : VerificationLog where
  id
  certificateId := none
  certificateUidQueried := none
  verifierUserId := some 2
  qrVerificationId := none
  verificationMethod := .FILE_UPLOAD
  result := .AUTHENTIC
  submittedHash := some fileHash
  storedHash := some fileHash
  hashMatch := some true
  blockchainVerified := true
  blockchainTxHash := none
  universityNameSnapshot := none
  degreeTitleSnapshot := none
  recipientNameSnapshot := none
  ipAddress := none
  userAgent := none
  processingTimeMs := some 1
  verifiedAt := 1

/-- An employer. -/
def employer : Employer where
  id := 3
  userId := 2
  companyName := some "Sample Company"
  companyWebsite := none
  industry := none
  companySize := none
  country := none
  city := none
  jobTitle := none
  department := none

/-- A database in which the employer has verified so many certificates. -/
def verifications (count : Nat) : Database
  | .certificates => [certificate .PENDING]
  | .universities => [university]
  | .employers => [employer]
  | .verificationLogs => (List.range count).map authenticLog
  | _ => []

/-- The log of a verification is admissible. -/
theorem authenticLog_admissible (id : Uuid) : @Admissible .verificationLogs (authenticLog id) := by
  have same : violation? (constraints .verificationLogs) (authenticLog id) =
      violation? (constraints .verificationLogs) (authenticLog 0) := rfl
  have accepted : violation? (constraints .verificationLogs) (authenticLog 0) = none := by
    decide +kernel
  exact same.trans accepted

/-- The database of verifications is valid. -/
theorem verifications_valid (count : Nat) : (verifications count).Valid := by
  have others : (verifications 0).Valid := by decide +kernel
  refine ⟨fun table row member => ?_, fun table => ?_⟩
  · cases table with
    | verificationLogs =>
        obtain ⟨id, -, rfl⟩ := List.mem_map.mp member
        exact authenticLog_admissible id
    | _ => exact others.admissible _ row member
  · cases table with
    | verificationLogs =>
        refine List.pairwise_map.mpr (List.nodup_range.imp fun different => ?_)
        intro key inLeft inRight
        simp only [uniqueKeys, authenticLog, List.mem_singleton] at inLeft inRight
        rw [inLeft] at inRight
        exact different (by simpa using inRight)
    | _ => exact others.apart _

/-- A store with an employer's verifications. -/
def verified (count : Nat) : ValidStore where
  database := verifications count
  chain := Chain.deployed deployer
  files := []
  valid := verifications_valid count

/-- Ties stay in the order of the table. -/
def tiesAsStored {Row Key : Type} [LinearOrder Key] (key : Row → Key) : DashboardOrders key :=
  ⟨.stable key, .stable key⟩

end Sample

/-- The figures of the sample university and the sample employer are true. -/
theorem figures_true_sample :
    (∃ dashboard, ((UniversityService.getUniversityDashboardData
        (Sample.tiesAsStored Certificate.issueDate) 1 Sample.administrator).run sessionHandler
          ((Sample.verified 2).toStore, .fresh (Sample.inputs Sample.answered))).1 =
          .ok dashboard ∧
      dashboard.stats.True (certificatesOf (Sample.verified 2).database 1)) ∧
    (∃ dashboard, ((EmployerService.getEmployerDashboard
        (Sample.tiesAsStored VerificationLog.verifiedAt) Sample.administrator).run sessionHandler
          ((Sample.verified 2).toStore, .fresh (Sample.inputs Sample.answered))).1 =
          .ok dashboard ∧
      dashboard.verificationSummary.True (logsOf (Sample.verified 2).database 2)) := by
  have figures := figures_true_iff (Sample.verified 2) (Sample.inputs Sample.answered)
  constructor
  · exact ⟨{
      university := Sample.university
      stats := { total := 1, confirmed := 0, pending := 1, revoked := 0, failed := 0 }
      recentCertificates := [Sample.certificate .PENDING] }, by decide +kernel,
        (figures.1 (Sample.tiesAsStored _) 1 Sample.administrator _ (by decide +kernel)).mpr
          (by decide +kernel)⟩
  · exact ⟨{
      employerProfile := Sample.employer
      verificationSummary := {
        totalVerifications := 2, authenticCount := 2, tamperedCount := 0, revokedCount := 0
        notFoundCount := 0 }
      recentVerifications := [Sample.authenticLog 0, Sample.authenticLog 1] }, by decide +kernel,
        (figures.2 (Sample.tiesAsStored _) Sample.administrator _ (by decide +kernel)).mpr
          (by decide +kernel)⟩

/-- The employer's logs are those of the verifications. -/
theorem Sample.logsOf_verified (count : Nat) :
    logsOf (verified count).database 2 = (List.range count).map authenticLog := by
  refine List.filter_eq_self.mpr fun log member => ?_
  obtain ⟨id, -, rfl⟩ := List.mem_map.mp member
  rfl

/-- Every log of the verifications is AUTHENTIC. -/
theorem Sample.countP_authentic {count : Nat} {logs : List VerificationLog}
    (among : ∀ log ∈ logs, log ∈ (List.range count).map authenticLog) :
    logs.countP (·.result = .AUTHENTIC) = logs.length := by
  refine List.countP_eq_length.mpr fun log member => ?_
  obtain ⟨id, -, rfl⟩ := List.mem_map.mp (among log member)
  rfl

/-- The figure of authentic verifications stops at the limit. -/
theorem Sample.authenticCount_verified (count : Nat) :
    ∃ dashboard, ((EmployerService.getEmployerDashboard
        (tiesAsStored VerificationLog.verifiedAt) administrator).run sessionHandler
          ((verified count).toStore, .fresh (inputs answered))).1 = .ok dashboard ∧
      dashboard.verificationSummary.authenticCount = min dashboardLimit count := by
  have found : ((Direct.fresh (verified count).toStore (inputs answered)).working .employers).find?
      (fun row => decide (row.userId = administrator.id)) = some employer := rfl
  let logs := (RowOrder.stable VerificationLog.verifiedAt).arrange
    (logsOf (verified count).database 2)
  have arranged : logs.Perm (logsOf (verified count).database 2) := RowOrder.perm _ _
  rw [((verified count).run_eq _ _).1,
    run_getEmployerDashboard (tiesAsStored VerificationLog.verifiedAt) found]
  refine ⟨_, rfl, ?_⟩
  have sorted : ∀ log ∈ logs.take dashboardLimit, log ∈ (List.range count).map authenticLog := by
    intro log member
    rw [← logsOf_verified]
    exact arranged.mem_iff.mp (List.mem_of_mem_take member)
  have counted := countP_authentic sorted
  have length : logs.length = count := by
    rw [arranged.length_eq, logsOf_verified, List.length_map, List.length_range]
  rw [List.length_take, length] at counted
  rw [EmployerService.foldl_count]
  simp only [Nat.zero_add]
  exact counted

/-- Of 1001 authentic verifications an employer is shown 1000. -/
theorem dashboard_undercounts :
    ∃ dashboard, ((EmployerService.getEmployerDashboard
        (Sample.tiesAsStored VerificationLog.verifiedAt) Sample.administrator).run sessionHandler
          ((Sample.verified 1001).toStore, .fresh (Sample.inputs Sample.answered))).1 =
          .ok dashboard ∧
      dashboard.verificationSummary.authenticCount = 1000 ∧
      (logsOf (Sample.verified 1001).database 2).countP (·.result = .AUTHENTIC) = 1001 := by
  obtain ⟨dashboard, returned, shown⟩ := Sample.authenticCount_verified 1001
  refine ⟨dashboard, returned, shown, ?_⟩
  rw [Sample.logsOf_verified, Sample.countP_authentic fun _ member => member, List.length_map,
    List.length_range]

end AcademicCredential
