import AcademicCredential.ServiceFootprints
import AcademicCredential.Services.VerificationRuns

/-!
# The paths of the verification flows

The ways out of the two transaction blocks of the verification service, `FilePath` and
`QrPath`. What is proved about the results and the log rows of the flows is a case
analysis on these paths.
-/

namespace AcademicCredential

open AcademicCredential.Lib
open AcademicCredential.Contract

namespace VerificationService

variable {direct : Direct}

/-- The certificate a file is compared with. -/
def fileCertificate (database : Database) (certUidHint : Option String) (submittedHash : String) :
    Option Certificate :=
  ((certUidHint.filter fun hint => hint ≠ "").bind fun hint =>
      (database .certificates).find? fun row => row.certificateUid = hint).or
    ((database .certificates).find? fun row => row.sha256Hash = submittedHash)

/-- The certificate of a file is stored. -/
theorem fileCertificate_mem {database : Database} {certUidHint : Option String}
    {submittedHash : String} {certificate : Certificate}
    (found : fileCertificate database certUidHint submittedHash = some certificate) :
    certificate ∈ database .certificates := by
  rcases Option.or_eq_some_iff.mp found with byHint | ⟨-, byHash⟩
  · obtain ⟨hint, -, foundByHint⟩ := Option.bind_eq_some_iff.mp byHint
    exact List.mem_of_find?_eq_some foundByHint
  · exact List.mem_of_find?_eq_some byHash

/-- `findCertificate` finds the certificate of the file. -/
theorem run_findCertificate (opened : direct.Open) (certUidHint : Option String)
    (submittedHash : String) :
    (findCertificate certUidHint submittedHash).run directHandler direct =
      (.ok (fileCertificate direct.working certUidHint submittedHash), direct) := by
  have byHash := BaseRepository.run_findOne opened .certificates
    fun row => row.sha256Hash = submittedHash
  cases certUidHint with
  | none =>
      simp only [findCertificate, pure_bind, CertificateRepository.getByHash, byHash]
      rfl
  | some hint =>
      have byUid := BaseRepository.run_findOne opened .certificates
        fun row => row.certificateUid = hint
      by_cases given : hint ≠ ""
      · cases found : (direct.working .certificates).find? fun row => row.certificateUid = hint with
        | none =>
            simp [findCertificate, fileCertificate, Program.run_bind, given, Option.filter,
              CertificateRepository.getByUid, CertificateRepository.getByHash, byUid, byHash, found]
        | some certificate =>
            simp [findCertificate, fileCertificate, Program.run_bind, given, Option.filter,
              CertificateRepository.getByUid, byUid, found]
      · simp [findCertificate, fileCertificate, given, Option.filter,
          CertificateRepository.getByHash, byHash]

/-- The result with which the block ends. -/
def FlowExit.result : FlowExit → VerificationResult
  | .returned response => response.result
  | .completed _ evidence _ => evidence.result

/-- The UID of the certificate an exit reports on. -/
def FlowExit.certificateUid : FlowExit → Option String
  | .returned response => response.certificate.map (·.certificateUid)
  | .completed certificate _ _ => some certificate.certificateUid

/-- The state a block leaves holds one more log row, if the table accepts it. -/
def Logs (direct : Direct) (row : VerificationLog) (left : Direct) : Prop :=
  checkLog direct.working row = .ok () →
    left.working .verificationLogs = direct.working .verificationLogs ++ [row]

/-- The ways out of the transaction block of `verify_by_file_upload`. In the last three
what is left to happen is the insertion of a log row. -/
inductive FilePath (runtime : Runtime) (direct : Direct) (request : FileRequest)
    (blockchainService : Bool) (hash : Bytes32) : Except Exception FlowExit × Direct → Prop where
  /-- The chain ends the flow with an error. -/
  | raised {certificate error asked}
      (found : fileCertificate direct.working request.certUidHint (hexText hash.1) =
        some certificate)
      (confirmed : certificate.blockchainStatus = .CONFIRMED)
      (consulted : fileConsultation runtime direct.read certificate hash blockchainService =
        (.error error, asked)) :
      FilePath runtime direct request blockchainService hash (.error error, asked)
  | notFound {processingTime exit left}
      (absent : fileCertificate direct.working request.certUidHint (hexText hash.1) = none)
      (returns : exit.result = .NOT_FOUND) (reports : exit.certificateUid = none)
      (logs : Logs direct ((request.notFoundEntry (hexText hash.1) processingTime).rowIn
        direct.read) left) :
      FilePath runtime direct request blockchainService hash
        ((checkLog direct.working ((request.notFoundEntry (hexText hash.1) processingTime).rowIn
          direct.read)).map fun _ => exit, left)
  | unconfirmed {certificate processingTime exit left}
      (found : fileCertificate direct.working request.certUidHint (hexText hash.1) =
        some certificate)
      (isUnconfirmed : certificate.blockchainStatus ≠ .CONFIRMED)
      (returns : exit.result = unconfirmedResult certificate)
      (reports : exit.certificateUid = some certificate.certificateUid)
      (logs : Logs direct ((request.unconfirmedEntry certificate (hexText hash.1)
        processingTime).rowIn direct.read) left) :
      FilePath runtime direct request blockchainService hash
        ((checkLog direct.working ((request.unconfirmedEntry certificate (hexText hash.1)
          processingTime).rowIn direct.read)).map fun _ => exit, left)
  | confirmed {certificate evidence asked processingTime exit left}
      (found : fileCertificate direct.working request.certUidHint (hexText hash.1) =
        some certificate)
      (isConfirmed : certificate.blockchainStatus = .CONFIRMED)
      (consulted : fileConsultation runtime direct.read certificate hash blockchainService =
        (.ok evidence, asked))
      (returns : exit.result = evidence.result) (calls : left.rpcCalls = asked.rpcCalls)
      (reports : exit.certificateUid = some certificate.certificateUid)
      (logs : Logs direct ((request.confirmedEntry certificate (hexText hash.1) evidence
        (storeTxHash direct.working certificate.id) processingTime).rowIn asked.read) left) :
      FilePath runtime direct request blockchainService hash
        ((checkLog direct.working ((request.confirmedEntry certificate (hexText hash.1) evidence
          (storeTxHash direct.working certificate.id) processingTime).rowIn asked.read)).map
            fun _ => exit, left)

/-- Recording a log row and then something that returns: only the row can be refused. -/
theorem run_recordThen (opened : direct.Open) (entry : LogEntry) {next : Action FlowExit}
    {result : VerificationResult} {certificateUid : Option String}
    (returns : ∀ state : Direct, ∃ exit left, next.run directHandler state = (.ok exit, left) ∧
      exit.result = result ∧ exit.certificateUid = certificateUid ∧
      left.rpcCalls = state.rpcCalls ∧ left.working = state.working) :
    ∃ exit left, (recordLog entry >>= fun _ => next).run directHandler direct =
        ((checkLog direct.working (entry.rowIn direct)).map fun _ => exit, left) ∧
      exit.result = result ∧ exit.certificateUid = certificateUid ∧
      left.rpcCalls = direct.rpcCalls ∧ Logs direct (entry.rowIn direct) left := by
  have sameWorking : direct.read.read.working = direct.working := rfl
  rw [Program.run_bind, run_recordLog opened, insertLog, sameWorking]
  obtain ⟨exit, left, ran, isResult, reports, calls, working⟩ :=
    returns (direct.read.read.write (.insert .verificationLogs (entry.rowIn direct)))
  cases checked : checkLog direct.working (entry.rowIn direct) with
  | ok _ =>
      refine ⟨exit, left, ran, isResult, reports, calls, fun _ => ?_⟩
      rw [working]
      simp [Direct.write, Write.apply, sameWorking]
  | error error =>
      refine ⟨exit, direct.read.read, rfl, isResult, reports, rfl, fun accepted => ?_⟩
      rw [checked] at accepted
      cases accepted

/-- `return _build_result(…)` inside a transaction block. -/
theorem run_returned (verificationId : Uuid) (result : VerificationResult)
    (certificate : Option Certificate) (submittedHash : Option String) (processingTimeMs : Nat)
    (state : Direct) :
    ∃ exit left, (do
        return .returned (← buildResult verificationId result certificate submittedHash none
          processingTimeMs none none) : Action FlowExit).run directHandler state =
          (.ok exit, left) ∧
      exit.result = result ∧ exit.certificateUid = certificate.map (·.certificateUid) ∧
      left.rpcCalls = state.rpcCalls ∧ left.working = state.working := by
  refine ⟨_, _, rfl, rfl, ?_, rfl, rfl⟩
  cases certificate <;> rfl

/-- Falling off the end of a transaction block. -/
theorem run_completed (certificate : Certificate) (evidence : ChainEvidence)
    (processingTimeMs : Nat) (state : Direct) :
    ∃ exit left, (return .completed certificate evidence processingTimeMs :
        Action FlowExit).run directHandler state = (.ok exit, left) ∧
      exit.result = evidence.result ∧ exit.certificateUid = some certificate.certificateUid ∧
      left.rpcCalls = state.rpcCalls ∧ left.working = state.working :=
  ⟨_, _, rfl, rfl, rfl, rfl, rfl⟩

/-- The block of the file flow takes one of the paths. -/
theorem fileBlock_path (opened : direct.Open) (runtime : Runtime) (request : FileRequest)
    (blockchainService : Bool) (startTime : Nat) (verificationId : Uuid) (hash : Bytes32) :
    FilePath runtime direct request blockchainService hash
      ((fileBlock runtime request blockchainService startTime verificationId
        (hexText hash.1)).run directHandler direct) := by
  rw [fileBlock, Program.run_bind, run_findCertificate opened]
  cases found : fileCertificate direct.working request.certUidHint (hexText hash.1) with
  | none =>
      obtain ⟨exit, left, ran, returns, reports, -, logs⟩ := run_recordThen opened.read
        (request.notFoundEntry (hexText hash.1)
          (direct.inputs.monotonic direct.reads - startTime))
        (run_returned verificationId .NOT_FOUND none none
          (direct.inputs.monotonic direct.reads - startTime))
      dsimp only
      rw [Program.run_bind, Program.run_perform]
      dsimp only [directHandler]
      rw [ran]
      exact .notFound found returns reports logs
  | some certificate =>
      dsimp only
      rw [Program.run_bind, Program.run_perform]
      dsimp only [directHandler]
      by_cases isConfirmed : certificate.blockchainStatus = .CONFIRMED
      · have askedOpen : (fileConsultation runtime direct.read certificate hash
            blockchainService).2.Open := Open.evidenceIn opened.read ..
        have askedWorking : (fileConsultation runtime direct.read certificate hash
            blockchainService).2.working = direct.working := evidenceIn_working ..
        rw [if_neg (not_not.mpr isConfirmed), Program.run_bind,
          run_fileEvidence opened.read runtime certificate hash blockchainService]
        rcases consulted : fileConsultation runtime direct.read certificate hash
          blockchainService with ⟨error | evidence, asked⟩
        · exact .raised found isConfirmed consulted
        · rw [consulted] at askedOpen askedWorking
          obtain ⟨exit, left, ran, returns, reports, calls, logs⟩ := run_recordThen askedOpen.read
            (request.confirmedEntry certificate (hexText hash.1) evidence
              (storeTxHash direct.working certificate.id)
              (asked.inputs.monotonic asked.reads - startTime))
            (run_completed certificate evidence
              (asked.inputs.monotonic asked.reads - startTime))
          have sameTxHash : storeTxHash asked.read.working certificate.id =
              storeTxHash direct.working certificate.id := by rw [← askedWorking]; rfl
          have sameWorking : asked.read.working = direct.working := askedWorking
          dsimp only
          rw [Program.run_bind, Program.run_perform]
          dsimp only [directHandler]
          rw [Program.run_bind, run_getStoreTxHash askedOpen.read, sameTxHash]
          dsimp only
          rw [Logs, sameWorking] at logs
          rw [ran, sameWorking]
          exact .confirmed found isConfirmed consulted returns calls reports logs
      · obtain ⟨exit, left, ran, returns, reports, -, logs⟩ := run_recordThen opened.read
          (request.unconfirmedEntry certificate (hexText hash.1)
            (direct.inputs.monotonic direct.reads - startTime))
          (run_returned verificationId (unconfirmedResult certificate) (some certificate)
            (some (hexText hash.1)) (direct.inputs.monotonic direct.reads - startTime))
        rw [if_pos isConfirmed, ran]
        exact .unconfirmed found isConfirmed returns reports logs

/-- The outcome of a flow and the outcome of its transaction block. -/
structure FlowOutcome (block : Except Exception FlowExit × Direct)
    (flow : Except Exception VerificationResponse × Direct) : Prop where
  outcome : (∃ error, block.1 = .error error ∧ flow.1 = .error error ∧
      flow.2.database = block.2.database) ∨
    ∃ exit response, block.1 = .ok exit ∧ flow.1 = .ok response ∧
      response.result = exit.result ∧
      response.certificate.map (·.certificateUid) = exit.certificateUid ∧
      flow.2.database = block.2.working
  rpcCalls : flow.2.rpcCalls = block.2.rpcCalls

/-- What follows the transaction block of a flow keeps its result. -/
theorem flowOutcome (block : Action FlowExit) {finish : FlowExit → Action VerificationResponse}
    (finishes : ∀ (exit : FlowExit) (state : Direct), ∃ response left,
      (finish exit).run directHandler state = (.ok response, left) ∧
        response.result = exit.result ∧
        response.certificate.map (·.certificateUid) = exit.certificateUid ∧
        left.rpcCalls = state.rpcCalls ∧ left.database = state.database)
    (closed : direct.inTransaction = false) :
    FlowOutcome (block.run directHandler direct.touch)
      ((transaction block >>= finish).run directHandler direct) := by
  rw [Program.run_bind, run_transaction block closed]
  rcases block.run directHandler direct.touch with ⟨error | exit, left⟩
  · exact ⟨.inl ⟨error, rfl, rfl, rfl⟩, rfl⟩
  · obtain ⟨response, finished, ran, sameResult, sameUid, sameCalls, sameDatabase⟩ :=
      finishes exit left.committed
    dsimp only
    rw [ran]
    exact ⟨.inr ⟨exit, response, rfl, rfl, sameResult, sameUid, sameDatabase⟩, sameCalls⟩

/-- The state in which the transaction block of a flow starts: the clock was read and
the verification got its id. -/
def flowStart (store : Store) (inputs : Inputs) : Direct :=
  (Direct.fresh store inputs).read.read.touch

/-- The flow starts inside an open transaction. -/
theorem open_flowStart (store : ValidStore) (inputs : Inputs) :
    (flowStart store.toStore inputs).Open :=
  ⟨rfl, store.valid⟩

/-- The file flow takes one of the paths, and answers as it says. -/
theorem verifyByFileUpload_path (runtime : Runtime) (store : ValidStore) (inputs : Inputs)
    (fileBytes : List UInt8) (request : FileRequest) (blockchainService : Bool) :
    ∃ block, FilePath runtime (flowStart store.toStore inputs) request blockchainService
        (runtime.sha256 fileBytes) block ∧ block.2.database = store.database ∧
      FlowOutcome block ((verifyByFileUpload runtime fileBytes request blockchainService).run
        directHandler (.fresh store.toStore inputs)) := by
  have path := fileBlock_path (open_flowStart store inputs) runtime request blockchainService
    (inputs.monotonic 0) (inputs.uuid4 1) (runtime.sha256 fileBytes)
  have follows := run_follows (every_fileBlock Op.not_isControl_of_isReading runtime request
    blockchainService (inputs.monotonic 0) (inputs.uuid4 1) (hexText (runtime.sha256 fileBytes).1)
    fun _ => rfl) (flowStart store.toStore inputs)
  refine ⟨_, path, follows.1, ?_⟩
  rw [verifyByFileUpload, Program.run_bind, Program.run_perform]
  dsimp only [directHandler]
  rw [Program.run_bind, Program.run_perform]
  refine flowOutcome _ ?_ rfl
  intro exit state
  cases exit with
  | returned response => exact ⟨response, state, rfl, rfl, rfl, rfl, rfl⟩
  | completed certificate evidence processingTime => exact ⟨_, _, rfl, rfl, rfl, rfl, rfl⟩

/-- The usable QR row of a token and its certificate: the row is active and not expired
at the time it is looked at. -/
def scannedRow (database : Database) (token : String) (now : Timestamp) :
    Option (QRVerification × Certificate) :=
  ((database .qrVerifications).find? fun row => row.token = token).bind fun qr =>
    if qr.isActive && !(qr.expiresAt.any fun expiresAt => expiresAt < now) then
      (database.find? .certificates qr.certificateId).map fun certificate => (qr, certificate)
    else
      none

/-- The clock is read only for a token that expires. -/
def expiryRead (database : Database) (token : String) (direct : Direct) : Direct :=
  match (database .qrVerifications).find? fun row => row.token = token with
  | some qr => if qr.isActive && qr.expiresAt.isSome then direct.read else direct
  | none => direct

/-- `scannedCertificate` finds the certificate of an active code. -/
theorem run_scannedCertificate (opened : direct.Open) (token : String) :
    (scannedCertificate ((direct.working .qrVerifications).find? fun row =>
        row.token = token)).run directHandler direct =
      (.ok (scannedRow direct.working token (direct.inputs.wallClock direct.reads)),
        expiryRead direct.working token direct) := by
  unfold scannedRow expiryRead
  cases (direct.working .qrVerifications).find? fun row => row.token = token with
  | none => rfl
  | some qr =>
      cases active : qr.isActive with
      | false => simp [scannedCertificate, active]
      | true =>
          cases expires : qr.expiresAt with
          | none =>
              simp [scannedCertificate, active, isExpired, expires, Program.run_map, Except.map,
                CertificateRepository.getById, BaseRepository.run_getById opened]
          | some expiresAt =>
              by_cases expired : expiresAt < direct.inputs.wallClock direct.reads
              · simp [scannedCertificate, active, isExpired, expires, expired, Program.run_bind,
                  directHandler]
              · have read := BaseRepository.run_getById opened.read .certificates qr.certificateId
                simp [scannedCertificate, active, isExpired, expires, expired, Program.run_bind,
                  Program.run_map, Except.map, directHandler, CertificateRepository.getById, read]
                rfl

/-- What `increment_scan_count` sets. -/
def scanned (now : Timestamp) : List QRAssignment :=
  [.incrementScanCount, .lastScannedAt (some now)]

/-- A scan is counted as long as the counter has room. -/
theorem checkUpdated_scanned {database : Database} (valid : database.Valid) {qr : QRVerification}
    (member : qr ∈ database .qrVerifications) (now : Timestamp) :
    checkUpdated database .qrVerifications (@assignAll .qrVerifications qr (scanned now)) = .ok () ↔
      qr.totalScanCount + 1 < 2 ^ 31 := by
  have admissible := violation?_eq_none.mp (valid.admissible .qrVerifications qr member)
  simp only [constraints, QRVerification.constraints, List.forall_mem_cons] at admissible
  constructor
  · intro accepted
    have counted := (checkUpdated_ok.mp accepted).1
    have room := @Admissible.passes .qrVerifications _ counted
      ⟨"total_scan_count", fun row => Truth.certain (isInteger row.totalScanCount)⟩ (by
        simp only [constraints, QRVerification.constraints, List.mem_cons, true_or, or_true])
    have counter : isInteger (qr.totalScanCount + 1) = true := by
      rwa [Truth.passes_certain] at room
    exact of_decide_eq_true counter
  · intro room
    refine valid.accepts member rfl rfl (violation?_eq_none.mpr ?_)
    simp only [constraints, QRVerification.constraints, List.forall_mem_cons, scanned, assignAll,
      List.foldl, assign, QRAssignment.assign]
    simp [isInteger] at admissible ⊢
    grind

/-- A refused count is no violation of the log table. -/
theorem checkUpdated_table {database : Database} {table : Table} {row : Row table}
    {error : Exception} (refused : checkUpdated database table row = .error error)
    {other : String} (different : table.name ≠ other) (constraint : String) :
    error ≠ .CheckViolation other constraint := by
  rintro rfl
  unfold checkUpdated at refused
  split at refused
  · cases refused
    exact different rfl
  · split at refused <;> cases refused

/-- The scan is counted, or the counter is full. -/
theorem run_incrementScanCount (opened : direct.Open) {qr : QRVerification}
    (found : direct.working.find? .qrVerifications qr.id = some qr) :
    (qr.totalScanCount + 1 < 2 ^ 31 ∧
      (QRVerificationRepository.incrementScanCount qr.id).run directHandler direct =
        (.ok (), direct.read.write (.update .qrVerifications qr.id
          (scanned (direct.inputs.wallClock direct.reads)))) ∧
      (direct.read.write (.update .qrVerifications qr.id
          (scanned (direct.inputs.wallClock direct.reads)))).Open) ∨
    (¬ qr.totalScanCount + 1 < 2 ^ 31 ∧ ∃ error,
      (∀ constraint, error ≠ .CheckViolation Table.verificationLogs.name constraint) ∧
      (QRVerificationRepository.incrementScanCount qr.id).run directHandler direct =
        (.error error, direct.read)) := by
  have room := checkUpdated_scanned opened.valid (Database.find?_some found).1
    (direct.inputs.wallClock direct.reads)
  have readFound : direct.read.working.find? .qrVerifications qr.id = some qr := found
  have ran : (QRVerificationRepository.incrementScanCount qr.id).run directHandler direct =
      direct.read.executeUpdate .qrVerifications qr.id
        (scanned (direct.inputs.wallClock direct.reads)) := by
    rw [QRVerificationRepository.incrementScanCount, Program.run_bind, Program.run_perform]
    exact run_attempt _ _
  rw [ran, Direct.executeUpdate, readFound]
  cases accepted : checkUpdated direct.working .qrVerifications
      (@assignAll .qrVerifications qr (scanned (direct.inputs.wallClock direct.reads))) with
  | ok _ =>
      have updated : direct.read.updateRow .qrVerifications qr.id
          (scanned (direct.inputs.wallClock direct.reads)) qr =
            (.ok (), direct.read.write (.update .qrVerifications qr.id
              (scanned (direct.inputs.wallClock direct.reads)))) := by
        simp only [Direct.updateRow]
        rw [show direct.read.working = direct.working from rfl, accepted]
      exact .inl ⟨room.mp accepted, updated, opened.read.write_update readFound accepted⟩
  | error error =>
      have full : ¬ qr.totalScanCount + 1 < 2 ^ 31 := by
        intro fits
        rw [room.mpr fits] at accepted
        cases accepted
      have different : Table.qrVerifications.name ≠ Table.verificationLogs.name := by decide
      have updated : direct.read.updateRow .qrVerifications qr.id
          (scanned (direct.inputs.wallClock direct.reads)) qr = (.error error, direct.read) := by
        simp only [Direct.updateRow]
        rw [show direct.read.working = direct.working from rfl, accepted]
        exact congrArg _ opened.read.touch
      exact .inr ⟨full, error, checkUpdated_table accepted different, updated⟩

/-- The state in which a scan consults the chain. -/
def scanState (direct : Direct) (token : String) : Direct :=
  expiryRead direct.working token direct.read

/-- Looking up a code writes nothing. -/
theorem scanState_working (direct : Direct) (token : String) :
    (scanState direct token).working = direct.working := by
  unfold scanState expiryRead
  split
  · split <;> rfl
  · rfl

/-- Looking the token up does not touch the chain. -/
theorem scanState_chain (direct : Direct) (token : String) :
    (scanState direct token).chain = direct.chain ∧
      (scanState direct token).inputs = direct.inputs ∧
      (scanState direct token).rpcCalls = direct.rpcCalls := by
  unfold scanState expiryRead
  split
  · split <;> exact ⟨rfl, rfl, rfl⟩
  · exact ⟨rfl, rfl, rfl⟩

/-- A transaction stays open when a code is looked up. -/
theorem Open.scanState (opened : direct.Open) (token : String) :
    (scanState direct token).Open := by
  unfold VerificationService.scanState expiryRead
  split
  · split
    · exact opened.read.read
    · exact opened.read
  · exact opened.read

/-- The scanned row and its certificate, at the time the token is checked. -/
def scannedIn (direct : Direct) (token : String) : Option (QRVerification × Certificate) :=
  scannedRow direct.working token (direct.inputs.wallClock (direct.reads + 1))

/-- The code and the certificate of a scan are stored. -/
theorem scannedIn_found {token : String} {qr : QRVerification} {certificate : Certificate}
    (scanned : scannedIn direct token = some (qr, certificate)) :
    qr ∈ direct.working .qrVerifications ∧ certificate ∈ direct.working .certificates := by
  unfold scannedIn scannedRow at scanned
  obtain ⟨row, found, usable⟩ := Option.bind_eq_some_iff.mp scanned
  split at usable
  · obtain ⟨other, foundCertificate, same⟩ := Option.map_eq_some_iff.mp usable
    cases same
    exact ⟨List.mem_of_find?_eq_some found, (Database.find?_some foundCertificate).1⟩
  · cases usable

/-- The ways out of the transaction block of `verify_by_qr_token`. -/
inductive QrPath (runtime : Runtime) (direct : Direct) (request : ScanRequest)
    (blockchainService : Bool) : Except Exception FlowExit × Direct → Prop where
  | notFound {exit left} (absent : scannedIn direct request.token = none)
      (returns : exit.result = .NOT_FOUND)
      (unlogged : left.working .verificationLogs = direct.working .verificationLogs) :
      QrPath runtime direct request blockchainService (.ok exit, left)
  /-- The chain ends the flow with an error. -/
  | raised {qr certificate error asked} {hash : Bytes32}
      (found : scannedIn direct request.token = some (qr, certificate))
      (isHash : hexText hash.1 = certificate.sha256Hash)
      (consulted : qrConsultation runtime (scanState direct request.token) certificate hash
        blockchainService = (.error error, asked)) :
      QrPath runtime direct request blockchainService (.error error, asked)
  /-- The scan counter is full. -/
  | uncounted {qr certificate evidence asked error left} {hash : Bytes32}
      (found : scannedIn direct request.token = some (qr, certificate))
      (isHash : hexText hash.1 = certificate.sha256Hash)
      (consulted : qrConsultation runtime (scanState direct request.token) certificate hash
        blockchainService = (.ok evidence, asked))
      (full : ¬ qr.totalScanCount + 1 < 2 ^ 31)
      (elsewhere : ∀ constraint, error ≠ .CheckViolation Table.verificationLogs.name constraint) :
      QrPath runtime direct request blockchainService (.error error, left)
  /-- What is left to happen is the insertion of a log row. -/
  | counted {qr certificate evidence asked processingTime exit left} {hash : Bytes32}
      (found : scannedIn direct request.token = some (qr, certificate))
      (isHash : hexText hash.1 = certificate.sha256Hash)
      (consulted : qrConsultation runtime (scanState direct request.token) certificate hash
        blockchainService = (.ok evidence, asked))
      (room : qr.totalScanCount + 1 < 2 ^ 31)
      (returns : exit.result = evidence.result) (calls : left.rpcCalls = asked.rpcCalls)
      (reports : exit.certificateUid = some certificate.certificateUid)
      (logs : Logs direct ((request.entry qr certificate evidence
        (storeTxHash direct.working certificate.id) processingTime).rowIn asked.read.read) left) :
      QrPath runtime direct request blockchainService
        ((checkLog direct.working ((request.entry qr certificate evidence
          (storeTxHash direct.working certificate.id) processingTime).rowIn asked.read.read)).map
            fun _ => exit, left)

/-- A log is checked against the logs only. -/
theorem checkLog_congr {left right : Database}
    (same : left .verificationLogs = right .verificationLogs) (row : VerificationLog) :
    checkLog left row = checkLog right row := by
  simp only [checkLog, checkInsert, same]

/-- The hash of the submission depends on the submissions only. -/
theorem storeTxHash_congr {left right : Database}
    (same : left .blockchainTransactions = right .blockchainTransactions) (certificateId : Uuid) :
    storeTxHash left certificateId = storeTxHash right certificateId := by
  simp only [storeTxHash, storedTx?, same]

/-- The end of the QR flow, once the evidence is gathered. -/
theorem run_countAndLog {asked : Direct} (opened : asked.Open) {qr : QRVerification}
    (found : asked.working.find? .qrVerifications qr.id = some qr) (request : ScanRequest)
    (certificate : Certificate) (evidence : ChainEvidence) (processingTime : Nat) :
    (¬ qr.totalScanCount + 1 < 2 ^ 31 ∧ ∃ error left,
      (∀ constraint, error ≠ .CheckViolation Table.verificationLogs.name constraint) ∧
      (do QRVerificationRepository.incrementScanCount qr.id
          let blockchainTxHash ← getStoreTxHash certificate.id
          recordLog (request.entry qr certificate evidence blockchainTxHash processingTime)
          return .completed certificate evidence processingTime : Action FlowExit).run
        directHandler asked = (.error error, left)) ∨
    (qr.totalScanCount + 1 < 2 ^ 31 ∧ ∃ exit left, exit.result = evidence.result ∧
      exit.certificateUid = some certificate.certificateUid ∧ left.rpcCalls = asked.rpcCalls ∧
      Logs asked ((request.entry qr certificate evidence
        (storeTxHash asked.working certificate.id) processingTime).rowIn asked.read) left ∧
      (do QRVerificationRepository.incrementScanCount qr.id
          let blockchainTxHash ← getStoreTxHash certificate.id
          recordLog (request.entry qr certificate evidence blockchainTxHash processingTime)
          return .completed certificate evidence processingTime : Action FlowExit).run
        directHandler asked =
          ((checkLog asked.working ((request.entry qr certificate evidence
            (storeTxHash asked.working certificate.id) processingTime).rowIn asked.read)).map
              fun _ => exit, left)) := by
  rcases run_incrementScanCount opened found with
    ⟨room, counted, stillOpen⟩ | ⟨full, error, elsewhere, refused⟩
  · refine .inr ⟨room, ?_⟩
    obtain ⟨exit, left, ran, returns, reports, calls, logs⟩ := run_recordThen stillOpen
      (request.entry qr certificate evidence (storeTxHash asked.working certificate.id)
        processingTime) (run_completed certificate evidence processingTime)
    have elsewhere : Table.qrVerifications ≠ .blockchainTransactions ∧
        Table.qrVerifications ≠ .verificationLogs := by decide
    have notTransactions : (Write.update .qrVerifications qr.id (scanned (asked.inputs.wallClock
        asked.reads))).table ≠ .blockchainTransactions := elsewhere.1
    have notLogs : (Write.update .qrVerifications qr.id (scanned (asked.inputs.wallClock
        asked.reads))).table ≠ .verificationLogs := elsewhere.2
    have sameTransactions := storeTxHash_congr
      (Write.apply_of_ne notTransactions asked.working) certificate.id
    have logsBefore := Write.apply_of_ne notLogs asked.working
    have sameLogs := fun row => checkLog_congr logsBefore row
    have sameWorking : asked.read.working = asked.working := rfl
    refine ⟨exit, left, returns, reports, calls, ?_, ?_⟩
    · intro accepted
      rw [logs ?_]
      · rw [Direct.working_write, sameWorking, logsBefore]
        rfl
      · rw [Direct.working_write, sameWorking, sameLogs]
        exact accepted
    · rw [Program.run_bind, counted]
      dsimp only
      rw [Program.run_bind, run_getStoreTxHash stillOpen]
      dsimp only [Direct.working_write]
      rw [sameWorking, sameTransactions, ran]
      dsimp only [Direct.working_write]
      rw [sameWorking, sameLogs]
      rfl
  · refine .inl ⟨full, error, asked.read, elsewhere, ?_⟩
    rw [Program.run_bind, refused]

/-- The block of a scan takes one of the paths. -/
theorem qrBlock_path (opened : direct.Open) (runtime : Runtime) (request : ScanRequest)
    (blockchainService : Bool) (startTime : Nat) (verificationId : Uuid) :
    QrPath runtime direct request blockchainService
      ((qrBlock runtime request blockchainService startTime verificationId).run directHandler
        direct) := by
  have ranScan := run_scannedCertificate opened.read request.token
  have readToken := BaseRepository.run_findOne opened .qrVerifications
    fun row => row.token = request.token
  rw [qrBlock, Program.run_bind, QRVerificationRepository.getByToken, readToken]
  dsimp only
  rw [Program.run_bind, Program.run_perform]
  dsimp only [directHandler]
  have ranScan' : (scannedCertificate ((direct.working .qrVerifications).find? fun row =>
      row.token = request.token)).run directHandler direct.read =
        (.ok (scannedIn direct request.token), scanState direct request.token) := ranScan
  rw [Program.run_bind, ranScan']
  dsimp only
  cases found : scannedIn direct request.token with
  | none =>
      obtain ⟨exit, left, ran, returns, -, -, working⟩ := run_returned verificationId .NOT_FOUND
        none none (direct.inputs.monotonic direct.reads - startTime)
        (scanState direct request.token)
      have unlogged : left.working .verificationLogs = direct.working .verificationLogs := by
        rw [working, scanState_working]
      rw [ran]
      exact .notFound found returns unlogged
  | some both =>
      obtain ⟨qr, certificate⟩ := both
      obtain ⟨qrMember, certificateMember⟩ := scannedIn_found found
      obtain ⟨hash, -, isHash⟩ := exists_bytes_of_isSha256Text
        (Certificate.isSha256Text_sha256Hash
          (opened.valid.admissible .certificates certificate certificateMember))
      have scanOpen := Open.scanState opened request.token
      have askedOpen : (qrConsultation runtime (scanState direct request.token) certificate hash
          blockchainService).2.Open := Open.evidenceIn scanOpen ..
      have askedWorking : (qrConsultation runtime (scanState direct request.token) certificate hash
          blockchainService).2.working = direct.working :=
        (evidenceIn_working ..).trans (scanState_working direct request.token)
      dsimp only
      rw [Program.run_bind, run_qrEvidence scanOpen runtime certificate isHash blockchainService]
      rcases consulted : qrConsultation runtime (scanState direct request.token) certificate hash
        blockchainService with ⟨error | evidence, asked⟩
      · exact .raised found isHash consulted
      · rw [consulted] at askedOpen askedWorking
        have sameWorking : asked.read.working = direct.working := askedWorking
        have foundQr : asked.read.working.find? .qrVerifications qr.id = some qr := by
          rw [sameWorking]
          exact @Database.Keyed.find? direct.working opened.valid.keyed .qrVerifications qr qrMember
        dsimp only
        rw [Program.run_bind, Program.run_perform]
        dsimp only [directHandler]
        rcases run_countAndLog askedOpen.read foundQr request certificate evidence
            (asked.inputs.monotonic asked.reads - startTime) with
          ⟨full, error, left, elsewhere, ran⟩ |
            ⟨room, exit, left, returns, reports, calls, logs, ran⟩
        · rw [ran]
          exact .uncounted found isHash consulted full elsewhere
        · rw [Logs, sameWorking] at logs
          rw [ran, sameWorking]
          exact .counted found isHash consulted room returns calls reports logs

/-- A scan takes one of the paths, and answers as it says. -/
theorem verifyByQrToken_path (runtime : Runtime) (store : ValidStore) (inputs : Inputs)
    (request : ScanRequest) (blockchainService : Bool) :
    ∃ block, QrPath runtime (flowStart store.toStore inputs) request blockchainService block ∧
      block.2.database = store.database ∧
      FlowOutcome block ((verifyByQrToken runtime request blockchainService).run directHandler
        (.fresh store.toStore inputs)) := by
  have path := qrBlock_path (open_flowStart store inputs) runtime request blockchainService
    (inputs.monotonic 0) (inputs.uuid4 1)
  have follows := run_follows (every_qrBlock Op.not_isControl_of_isReading runtime request
    blockchainService (inputs.monotonic 0) (inputs.uuid4 1) (fun _ _ => rfl) fun _ => rfl)
    (flowStart store.toStore inputs)
  refine ⟨_, path, follows.1, ?_⟩
  rw [verifyByQrToken, Program.run_bind, Program.run_perform]
  dsimp only [directHandler]
  rw [Program.run_bind, Program.run_perform]
  refine flowOutcome _ ?_ rfl
  intro exit state
  cases exit with
  | returned response => exact ⟨response, state, rfl, rfl, rfl, rfl, rfl⟩
  | completed certificate evidence processingTime => exact ⟨_, _, rfl, rfl, rfl, rfl, rfl⟩

end VerificationService
end AcademicCredential
