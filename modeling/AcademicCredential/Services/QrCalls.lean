import AcademicCredential.Database.Concurrency
import AcademicCredential.Outlines
import AcademicCredential.ServiceFootprints
import AcademicCredential.Services.QrRows

/-!
# QR calls side by side

`generate_qr_for_certificate` and `verify_by_qr_token`, any number of them at the same time, each
of which may fail at any statement. `QrPhase` is how far a call has come with what it writes, and
`Orderly` says of a reachable world what every transaction has written so far.
-/

namespace AcademicCredential

open AcademicCredential.Lib
open AcademicCredential.QrVerificationService
open AcademicCredential.VerificationService

/-- A request for a code, or a scan. -/
inductive QrCall where
  | generate (certId userId : Uuid)
  | scan (request : ScanRequest) (blockchainService : Bool)

/-- The answers of the calls about codes. -/
inductive QrAnswer where
  | generated (qr : GeneratedQr)
  | verified (response : VerificationResponse)

namespace QrCall

/-- What a call runs. -/
def action (runtime : Runtime) : QrCall → Action QrAnswer
  | .generate certId userId => .generated <$> generateQrForCertificate runtime certId userId
  | .scan request blockchainService =>
      .verified <$> verifyByQrToken runtime request blockchainService

/-- The row a call may insert: an active one for its certificate, without a scan. -/
def Inserts (row : QRVerification) : QrCall → Prop
  | .generate certId _ => row.certificateId = certId ∧ row.isActive = true ∧ row.totalScanCount = 0
  | .scan _ _ => False

end QrCall

/-- A call, with the number of operations after which a statement fails, if one does. -/
structure QrRequest where
  call : QrCall
  failsAfter : Option Nat

/-- A statement that fails rolls the transaction back. -/
def failed {Value : Type} : Option Value → Action Value
  | some value => return value
  | none => do
      Program.perform .rollback
      Program.raise .DBAPIError

/-- What a request runs. -/
def QrRequest.action (runtime : Runtime) (request : QrRequest) : Action QrAnswer :=
  match request.failsAfter with
  | none => request.call.action runtime
  | some operations => (request.call.action runtime).cut operations >>= failed

/-- The calls about codes side by side, with the store they share. -/
abbrev QrWorld := Lib.World Op Exception QrAnswer QrRequest Store Session

/-- One turn of the calls about codes. -/
abbrev QrTurn := Turn QrRequest Inputs (List MinedTransaction)

/-- The calls about codes side by side, over the operations of a session. -/
def qrSystem (runtime : Runtime) :
    System Op Exception QrAnswer QrRequest Inputs (List MinedTransaction) Store Session :=
  readCommitted (QrRequest.action runtime)

/-- The attributes a scan sets. -/
def scanned (now : Timestamp) : List QRAssignment := [.incrementScanCount, .lastScannedAt (some now)]

/-- How far a call has come: it reads, has its code generated, or has ended. -/
inductive QrPhase where
  /-- Nothing but deactivations so far; the rows of `seen` were read. -/
  | reading (seen : List Uuid)
  | generated (row : QRVerification)
  | counted (id : Uuid)
  | logged
  | committed (row : QRVerification)
  | closed

namespace QrPhase

/-- The call has not generated anything yet. -/
def isReading : QrPhase → Bool
  | .reading _ => true
  | _ => false

/-- The transaction has not committed a row. -/
def isOpen : QrPhase → Bool
  | .committed _ => false
  | _ => true

/-- A selection adds to what has been read. -/
def selected (ids : List Uuid) : QrPhase → QrPhase
  | .reading seen => .reading (ids ++ seen)
  | phase => phase

/-- A generated row as it is loaded again. -/
def refreshed (loaded : Option QRVerification) : QrPhase → QrPhase
  | .generated row => .generated (loaded.getD row)
  | phase => phase

/-- The phase after the transaction has ended. -/
def ended : QrPhase → QrPhase
  | .generated row => .committed row
  | _ => .closed

/-- What an operation and its reply make of a phase. -/
def next : QrPhase → {Reply : Type} → Op Reply → Reply → QrPhase
  | phase, _, .select .qrVerifications _, rows => phase.selected (rows.map (·.id))
  | phase, _, .refresh .qrVerifications _, loaded => phase.refreshed loaded
  | _, _, .insert .qrVerifications row, .ok _ => .generated row
  | _, _, .insert .verificationLogs _, .ok _ => .logged
  | _, _, .executeUpdate _ id _, .ok _ => .counted id
  | phase, _, .commit, _ => phase.ended
  | _, _, .rollback, _ => .closed
  | phase, _, _, _ => phase

/-- Where a call may commit. -/
def commits (phase : QrPhase) : QrCall → Prop
  | .generate _ _ => ∃ row, phase = .generated row
  | .scan _ _ => phase.isReading = true ∨ phase = .logged

/-- What a call may do in a phase that is open. -/
def allows (call : QrCall) : QrPhase → {Reply : Type} → Op Reply → Prop
  | phase, _, .flush .qrVerifications _ assignments =>
      phase.isReading = true ∧ ∃ now, assignments = deactivation now
  | phase, _, .insert .qrVerifications row => phase.isReading = true ∧ call.Inserts row
  | phase, _, .executeUpdate .qrVerifications id assignments =>
      (∃ seen, phase = .reading seen ∧ id ∈ seen) ∧ ∃ now, assignments = scanned now
  | phase, _, .insert .verificationLogs log => ∃ id, phase = .counted id ∧ log.qrVerificationId =
    some id
  | phase, _, .refresh .qrVerifications id => ∀ row, phase = .generated row → id = row.id
  | phase, _, .begin => phase.isReading = true
  | phase, _, .commit => phase.commits call
  | _, _, .rollback => True
  | _, _, op => op.isReading = true

/-- What a call may do in each phase. -/
def permits (call : QrCall) (phase : QrPhase) {Reply : Type} (op : Op Reply) : Prop :=
  phase.isOpen = true ∧ phase.allows call op

end QrPhase

/-- How a call may end: one that returns has committed the row it returns, or was a scan. -/
def QrCall.Ends (call : QrCall) (phase : QrPhase) : Except Exception QrAnswer → Prop
  | .ok (.generated qr) => ∃ row, phase = .committed row ∧ qr.token = row.token
  | .ok (.verified _) => ∃ request blockchainService, call = .scan request blockchainService
  | .error _ => phase.isOpen = true

/-- The protocol that the calls about codes follow. -/
def qrOutline : System.Outline Op Exception QrAnswer QrRequest QrPhase where
  protocol request := ⟨QrPhase.permits request.call, QrPhase.next⟩
  ends request := request.call.Ends
  initial _ := .reading []

/-- Reading, or setting a row inactive. -/
def Op.deactivates : {Reply : Type} → Op Reply → Prop
  | _, .flush .qrVerifications _ assignments => ∃ now, assignments = deactivation now
  | _, op => op.isReading = true

/-- An operation that only reads deactivates, if anything. -/
theorem Op.deactivates_of_isReading (Reply : Type) (op : Op Reply) (isReading : op.isReading = true) :
    op.deactivates := by
  cases op <;> first | exact isReading | cases isReading

section outlines

variable {Value : Type} {request : QrRequest} {ends : QrPhase → Except Exception Value → Prop}

/-- A call that reads may deactivate. -/
theorem allows_reading {call : QrCall} {Reply : Type} {op : Op Reply} (deactivates : op.deactivates)
    (seen : List Uuid) : (QrPhase.reading seen).allows call op := by
  cases op with
  | flush table id assignments =>
      cases table with
      | qrVerifications => exact ⟨rfl, deactivates⟩
      | _ => cases deactivates
  | refresh table id =>
      cases table with
      | qrVerifications => exact fun row same => by cases same
      | _ => rfl
  | _ => first | exact deactivates | cases deactivates

/-- A call that deactivates goes on reading. -/
theorem next_reading {Reply : Type} {op : Op Reply} (deactivates : op.deactivates)
    (seen : List Uuid) (reply : Reply) :
    ∃ ids, (QrPhase.reading seen).next op reply = .reading (ids ++ seen) := by
  cases op with
  | select table condition =>
      cases table with
      | qrVerifications => exact ⟨_, rfl⟩
      | _ => exact ⟨[], rfl⟩
  | refresh table id => cases table <;> exact ⟨[], rfl⟩
  | flush table id assignments => exact ⟨[], rfl⟩
  | _ => first | exact ⟨[], rfl⟩ | cases deactivates

/-- Before the first other write a call may read and set rows inactive. -/
theorem obeys_while_reading {program : Action Value}
    (every : program.Every fun _ op => op.deactivates) {seen : List Uuid}
    (everyEnd : ∀ ids result, ends (.reading (ids ++ seen)) result) :
    program.Obeys (qrOutline.protocol request) ends (.reading seen) := by
  induction program generalizing seen with
  | ret value => exact everyEnd [] _
  | raise error => exact everyEnd [] _
  | step op next inductionHypothesis =>
      refine ⟨⟨rfl, allows_reading every.1 seen⟩, fun reply => ?_⟩
      · obtain ⟨ids, isNext⟩ := next_reading every.1 seen reply
        change (next reply).Obeys _ ends ((QrPhase.reading seen).next op reply)
        rw [isNext]
        refine inductionHypothesis reply (every.2 reply) fun more result => ?_
        rw [← List.append_assoc]
        exact everyEnd _ result

/-- A phase in which rows may be read and nothing else. -/
def QrPhase.isSettled : QrPhase → Bool
  | .counted _ | .logged | .closed => true
  | _ => false

/-- A settled call may go on reading. -/
theorem obeys_when_settled {program : Action Value}
    (every : program.Every fun _ op => op.isReading = true) {phase : QrPhase}
    (settled : phase.isSettled = true) (everyEnd : ∀ result, ends phase result) :
    program.Obeys (qrOutline.protocol request) ends phase := by
  refine Program.obeys_of_every (fun Reply op isReading => ?_) (fun Reply op reply isReading => ?_)
    everyEnd every
  · refine And.intro ?_ ?_
    · cases phase with
      | committed _ => cases settled
      | _ => rfl
    cases op with
    | refresh table id =>
        cases table with
        | qrVerifications =>
            rintro row rfl
            cases settled
        | _ => rfl
    | _ => first | exact isReading | cases isReading
  · cases op with
    | select table condition => cases table <;> cases phase <;> first | rfl | cases settled
    | refresh table id => cases table <;> cases phase <;> first | rfl | cases settled
    | _ => first | rfl | cases isReading

/-- The last steps of a generation commit the row they return. -/
theorem obeys_generateBlock (runtime : Runtime) {certId userId : Uuid}
    (isCall : request.call = .generate certId userId)
    {ends : QrPhase → Except Exception QRVerification → Prop}
    (committed : ∀ row, ends (.committed row) (.ok row))
    (rolledBack : ∀ error, ends .closed (.error error)) :
    (generateBlock runtime certId userId).Obeys (qrOutline.protocol request)
      (blockEnds (qrOutline.protocol request) ends) (.reading []) := by
  have reads : ∀ (Reply : Type) (op : Op Reply), op.isReading = true → op.deactivates :=
    Op.deactivates_of_isReading
  have fails : ∀ seen error, blockEnds (qrOutline.protocol request) ends (.reading seen)
      (.error error) := fun seen error => ⟨⟨rfl, trivial⟩, rolledBack error⟩
  have create : ∀ seen, (do
      let token ← Program.perform .tokenUrlsafe
      let id ← Program.perform .uuid4
      let createdAt ← Program.perform .serverNow
      QRVerificationRepository.create
        (generated runtime certId userId token id createdAt) : Action QRVerification).Obeys
          (qrOutline.protocol request) (blockEnds (qrOutline.protocol request) ends)
            (.reading seen) := by
    intro seen
    refine ⟨⟨rfl, rfl⟩, fun token => ⟨⟨rfl, rfl⟩, fun id => ⟨⟨rfl, rfl⟩, fun createdAt => ?_⟩⟩⟩
    refine BaseRepository.obeys_create ⟨rfl, rfl, ?_⟩ (fun error => fails seen error) ?_ ?_
    · rw [isCall]
      exact ⟨rfl, rfl, rfl⟩
    · refine ⟨rfl, ?_⟩
      rintro row same
      cases same
      rfl
    · refine fun loaded => ⟨⟨rfl, ?_⟩, committed _⟩
      change QrPhase.commits _ request.call
      rw [isCall]
      exact ⟨_, rfl⟩
  unfold generateBlock
  rw [Program.obeys_bind]
  refine obeys_while_reading (BaseRepository.every_getById reads _ _) fun ids found => ?_
  cases found with
  | error error => exact fails _ error
  | ok certificate =>
      cases certificate with
      | none => exact fails _ _
      | some certificate =>
          rw [Program.thenObeys]
          dsimp only
          split
          · exact fails _ _
          · rw [Program.obeys_bind]
            refine obeys_while_reading (BaseRepository.every_findOne reads _ _) fun ids looked => ?_
            cases looked with
            | error error => exact fails _ error
            | ok existing =>
                cases existing with
                | none => exact create _
                | some existing =>
                    have deactivates : (QRVerificationRepository.deactivate existing.id
                        "Replaced by new QR code").Every fun _ op => op.deactivates := by
                      refine BaseRepository.every_modify reads ?_
                      rw [bind_assoc]
                      exact Program.every_bind (every_reading reads rfl) fun now =>
                        every_attempt ⟨now, rfl⟩
                    rw [Program.thenObeys, Program.obeys_bind]
                    refine obeys_while_reading deactivates fun ids updated => ?_
                    cases updated with
                    | error error => exact fails _ error
                    | ok _ => exact create _

/-- A request for a code follows the protocol. -/
theorem obeys_generate (runtime : Runtime) {certId userId : Uuid}
    (isCall : request.call = .generate certId userId) :
    (QrCall.action runtime (.generate certId userId)).Obeys (qrOutline.protocol request)
      request.call.Ends (.reading []) := by
  rw [QrCall.action, generateQrForCertificate, ← bind_pure_comp, Program.obeys_bind,
    Program.obeys_bind]
  refine obeys_transaction ⟨rfl, rfl⟩ (fun error => rfl) ?_
  exact obeys_generateBlock runtime isCall (fun row => ⟨row, rfl, rfl⟩) fun error => rfl

/-- A scanned row is the one that was read. -/
theorem obeys_scannedCertificate {qr : Option QRVerification} {seen : List Uuid}
    {ends : QrPhase → Except Exception (Option (QRVerification × Certificate)) → Prop}
    (unusable : ends (.reading seen) (.ok none))
    (usable : ∀ row certificate, qr = some row → ends (.reading seen) (.ok (some (row, certificate)))) :
    (scannedCertificate qr).Obeys (qrOutline.protocol request) ends (.reading seen) := by
  unfold scannedCertificate
  cases qr with
  | none => exact unusable
  | some row =>
      have loads : (do
          let certificate ← CertificateRepository.getById row.certificateId
          return certificate.map fun certificate => (row, certificate) :
            Action (Option (QRVerification × Certificate))).Obeys (qrOutline.protocol request) ends
              (.reading seen) := by
        rw [Program.obeys_bind]
        refine BaseRepository.obeys_findOne.mpr ⟨⟨rfl, rfl⟩, fun rows => ?_⟩
        cases found : rows.head? with
        | none => exact unusable
        | some certificate => exact usable row certificate rfl
      dsimp only
      split
      · exact unusable
      · rw [Program.obeys_bind, isExpired]
        cases row.expiresAt with
        | none => exact loads
        | some expiresAt =>
            refine ⟨⟨rfl, rfl⟩, fun now => ?_⟩
            change Program.Obeys _ _ (if decide (expiresAt < now) = true then _ else _) _
            split
            · exact unusable
            · exact loads

/-- The scan of a row that was read counts it and logs it, or is rolled back. -/
theorem obeys_qrBlock (runtime : Runtime) {scanRequest : ScanRequest} {blockchainService : Bool}
    (isCall : request.call = .scan scanRequest blockchainService) (startTime : Nat)
    (verificationId : Uuid) {ends : QrPhase → Except Exception FlowExit → Prop}
    (everyEnd : ∀ result, ends .closed result) :
    (qrBlock runtime scanRequest blockchainService startTime verificationId).Obeys
      (qrOutline.protocol request) (blockEnds (qrOutline.protocol request) ends) (.reading []) := by
  have reads : ∀ (Reply : Type) (op : Op Reply), op.isReading = true → op.deactivates :=
    Op.deactivates_of_isReading
  have isRead : ∀ (Reply : Type) (op : Op Reply), op.isReading = true → op.isReading = true :=
    fun _ _ isReading => isReading
  -- The block may be left from every phase but that of a row that was counted and not logged.
  have leaves : ∀ {phase : QrPhase} (result : Except Exception FlowExit),
      phase.isReading = true ∨ phase = .logged →
        blockEnds (qrOutline.protocol request) ends phase result := by
    intro phase result ready
    have opened : phase.isOpen = true ∧ phase.ended = .closed := by
      cases phase <;> simp_all [QrPhase.isReading, QrPhase.isOpen, QrPhase.ended]
    cases result with
    | error error => exact ⟨⟨opened.1, trivial⟩, everyEnd _⟩
    | ok exit =>
        refine ⟨⟨opened.1, ?_⟩, ?_⟩
        · change phase.commits request.call
          rw [isCall]
          exact ready
        · change ends phase.ended _
          rw [opened.2]
          exact everyEnd _
  have readEnds : ∀ seen result, blockEnds (qrOutline.protocol request) ends (.reading seen) result :=
    fun seen result => leaves result (.inl rfl)
  have fails : ∀ id error, blockEnds (qrOutline.protocol request) ends (.counted id)
      (.error error) := fun id error => ⟨⟨rfl, trivial⟩, everyEnd _⟩
  unfold qrBlock
  rw [Program.obeys_bind]
  refine BaseRepository.obeys_findOne.mpr ⟨⟨rfl, rfl⟩, fun rows => ?_⟩
  refine ⟨⟨rfl, rfl⟩, fun time => ?_⟩
  change Program.Obeys _ _ (scannedCertificate rows.head? >>= _)
    (QrPhase.reading (rows.map (·.id) ++ []))
  rw [Program.obeys_bind]
  refine obeys_scannedCertificate ?_ fun row certificate isRow => ?_
  · rw [Program.thenObeys]
    exact obeys_while_reading (Program.every_bind (every_buildResult reads _ _ _ _ _ _ _ _)
      fun _ => Program.every_pure _) fun ids result => readEnds _ result
  · have member : row.id ∈ rows.map (·.id) ++ [] :=
      List.mem_append_left _ (List.mem_map_of_mem (List.mem_of_mem_head? isRow))
    rw [Program.thenObeys]
    dsimp only
    rw [Program.obeys_bind]
    refine obeys_while_reading (every_qrEvidence reads _ _ _) fun ids evidence => ?_
    cases evidence with
    | error error => exact readEnds _ (.error error)
    | ok evidence =>
        refine ⟨⟨rfl, rfl⟩, fun time => ⟨⟨rfl, rfl⟩, fun now => ⟨⟨rfl, ?_, now, rfl⟩, ?_⟩⟩⟩
        · exact ⟨_, rfl, List.mem_append_right _ member⟩
        · intro reply
          cases reply with
          | error error => exact readEnds _ (.error error)
          | ok _ =>
              change Program.Obeys _ _ (getStoreTxHash certificate.id >>= _) (QrPhase.counted row.id)
              rw [Program.obeys_bind]
              refine obeys_when_settled (every_getStoreTxHash isRead _) rfl fun txHash => ?_
              cases txHash with
              | error error => exact fails _ error
              | ok txHash =>
                  rw [Program.thenObeys, Program.obeys_bind, recordLog]
                  refine ⟨⟨rfl, rfl⟩, fun verifiedAt => ⟨⟨rfl, rfl⟩, fun id => ?_⟩⟩
                  change Program.Obeys _ _ (VerificationLogRepository.create _ >>= _) _
                  rw [Program.obeys_bind]
                  refine BaseRepository.obeys_create ⟨rfl, row.id, rfl, rfl⟩
                    (fun error => fails _ error) ⟨rfl, rfl⟩ fun loaded => ?_
                  exact leaves (.ok _) (.inr rfl)

/-- A scan follows the protocol. -/
theorem obeys_scan (runtime : Runtime) {scanRequest : ScanRequest} {blockchainService : Bool}
    (isCall : request.call = .scan scanRequest blockchainService) :
    (QrCall.action runtime (.scan scanRequest blockchainService)).Obeys
      (qrOutline.protocol request) request.call.Ends (.reading []) := by
  rw [QrCall.action, verifyByQrToken, ← bind_pure_comp, Program.obeys_bind]
  refine ⟨⟨rfl, rfl⟩, fun startTime => ⟨⟨rfl, rfl⟩, fun verificationId => ?_⟩⟩
  change Program.Obeys _ _ (transaction _ >>= _) _
  rw [Program.obeys_bind]
  refine obeys_transaction ⟨rfl, rfl⟩ (fun error => rfl) ?_
  refine obeys_qrBlock runtime isCall startTime verificationId fun exit => ?_
  cases exit with
  | error error => rfl
  | ok exit =>
      cases exit with
      | returned response => exact ⟨_, _, isCall⟩
      | completed certificate evidence processingTime =>
          rw [Program.thenObeys]
          refine obeys_when_settled (every_buildResult (fun _ _ isReading => isReading)
            _ _ _ _ _ _ _ _) rfl fun result => ?_
          cases result with
          | error error => rfl
          | ok response => exact ⟨_, _, isCall⟩

/-- Each call follows the protocol. -/
theorem obeys_call (runtime : Runtime) (request : QrRequest) :
    (request.call.action runtime).Obeys (qrOutline.protocol request) request.call.Ends
      (.reading []) := by
  cases isCall : request.call with
  | generate certId userId =>
      simpa only [isCall] using obeys_generate runtime isCall
  | scan scanRequest blockchainService => simpa only [isCall] using obeys_scan runtime isCall

/-- Whether or not one of its statements fails, a call follows the outline. -/
theorem obeys_request (runtime : Runtime) (request : QrRequest) :
    (request.action runtime).Obeys (qrOutline.protocol request) request.call.Ends (.reading []) := by
  unfold QrRequest.action
  cases request.failsAfter with
  | none => exact obeys_call runtime request
  | some operations =>
      rw [Program.obeys_bind]
      refine ((obeys_call runtime request).cut operations).mono fun phase result ends => ?_
      cases result with
      | error error => exact ends
      | ok value =>
          cases value with
          | none =>
              obtain ⟨Reply, op, permitted⟩ := ends
              exact ⟨⟨permitted.1, trivial⟩, fun _ => rfl⟩
          | some answer => exact ends

end outlines

/-- An UPDATE that sets a row inactive. -/
inductive Deactivates : Write → Prop
  | update (id : Uuid) {changes : List QRAssignment} (now : Timestamp)
      (among : changes.Sublist (deactivation now)) : Deactivates (.update .qrVerifications id changes)

/-- Setting a row inactive leaves what identifies it and what counts its scans. -/
theorem assignAll_deactivation {changes : List QRAssignment} {now : Timestamp}
    (among : changes.Sublist (deactivation now)) (row : QRVerification) :
    let after := @assignAll .qrVerifications row changes
    after.id = row.id ∧ after.token = row.token ∧ after.totalScanCount = row.totalScanCount ∧
      (row.isActive = false → after.isActive = false) := by
  have each : ∀ change ∈ changes, change ∈ deactivation now := fun change member => among.subset member
  clear among
  induction changes generalizing row with
  | nil => exact ⟨rfl, rfl, rfl, id⟩
  | cons first rest inductionHypothesis =>
      obtain ⟨sameId, sameToken, sameCount, stays⟩ := inductionHypothesis (first.assign row)
        fun change member => each change (List.mem_cons_of_mem _ member)
      have isFirst := each first List.mem_cons_self
      simp only [deactivation, List.mem_cons, List.not_mem_nil, or_false] at isFirst
      rcases isFirst with rfl | rfl | rfl
      · exact ⟨sameId, sameToken, sameCount, fun _ => stays rfl⟩
      · exact ⟨sameId, sameToken, sameCount, stays⟩
      · exact ⟨sameId, sameToken, sameCount, stays⟩

/-- The UPDATE that counts a scan. -/
def counts (id : Uuid) (now : Timestamp) : Write := .update .qrVerifications id (scanned now)

/-- The database holds a code of that identifier. -/
def HasQr (database : Database) (id : Uuid) : Prop := ∃ row ∈ database .qrVerifications, row.id = id

/-- What a call has written when it has come to a phase. -/
def QrPhase.Holds (call : QrCall) (database : Database) (pending : List Write) : QrPhase → Prop
  | .reading seen => (∀ id ∈ seen, HasQr database id) ∧ ∀ write ∈ pending, Deactivates write
  | .generated row => call.Inserts row ∧ ∃ earlier,
      pending = earlier ++ [.insert .qrVerifications row] ∧ ∀ write ∈ earlier, Deactivates write
  | .counted id => HasQr database id ∧ ∃ earlier now,
      pending = earlier ++ [counts id now] ∧ ∀ write ∈ earlier, Deactivates write
  | .logged => ∃ id, HasQr database id ∧ ∃ earlier now log, log.qrVerificationId = some id ∧
      pending = earlier ++ [counts id now] ++ [.insert .verificationLogs log] ∧
        ∀ write ∈ earlier, Deactivates write
  | .committed _ | .closed => pending = []

/-- The codes are held by their identifiers. -/
theorem hasQr_iff {database : Database} {id : Uuid} :
    HasQr database id ↔ id ∈ (database .qrVerifications).map rowId :=
  List.mem_map.symm

/-- Rows are never deleted. -/
theorem HasQr.applyWrites {database : Database} {id : Uuid} (has : HasQr database id)
    (writes : List Write) : HasQr (applyWrites database writes) id := by
  rw [hasQr_iff, map_rowId_applyWrites, List.mem_append]
  exact .inl (hasQr_iff.mp has)

/-- A code that is held stays held. -/
theorem HasQr.apply {database : Database} {id : Uuid} (has : HasQr database id) (write : Write) :
    HasQr (write.apply database) id :=
  has.applyWrites [write]

/-- Setting rows inactive adds none. -/
theorem hasQr_of_deactivations {database : Database} {writes : List Write}
    (deactivations : ∀ write ∈ writes, Deactivates write) {id : Uuid}
    (has : HasQr (applyWrites database writes) id) : HasQr database id := by
  have none : insertedIds .qrVerifications writes = [] := by
    refine List.filterMap_eq_nil_iff.mpr fun write member => ?_
    obtain ⟨row, now, among⟩ := deactivations write member
    rfl
  rw [hasQr_iff, map_rowId_applyWrites, none, List.append_nil] at has
  exact hasQr_iff.mpr has

/-- A SELECT loads rows that are there. -/
theorem hasQr_of_loaded {store : Store} {session : Session} {condition : QRVerification → Bool}
    {row : QRVerification}
    (member : row ∈ (sessionHandler _ (.select .qrVerifications condition) (store, session)).1) :
    HasQr (visible store session) row.id := by
  obtain ⟨stored, isStored, rfl⟩ := List.mem_map.mp member
  refine ⟨stored, (List.mem_filter.mp isStored).1, ?_⟩
  cases loaded : session.identityMap.find? .qrVerifications (@rowId .qrVerifications stored) with
  | none => rfl
  | some row => exact (Database.find?_some loaded).2.symm

/-- What others commit takes nothing away. -/
theorem QrPhase.Holds.grow {call : QrCall} {database : Database} {pending : List Write}
    {phase : QrPhase} (holds : phase.Holds call database pending) (writes : List Write) :
    phase.Holds call (AcademicCredential.applyWrites database writes) pending := by
  cases phase with
  | reading seen => exact ⟨fun id member => (holds.1 id member).applyWrites writes, holds.2⟩
  | generated row => exact holds
  | counted id => exact ⟨holds.1.applyWrites writes, holds.2⟩
  | logged =>
      obtain ⟨id, has, rest⟩ := holds
      exact ⟨id, has.applyWrites writes, rest⟩
  | committed row => exact holds
  | closed => exact holds

/-- An operation that a phase permits leaves what the next phase says. -/
theorem QrPhase.Holds.perform {call : QrCall} {store : Store} {session : Session} {phase : QrPhase}
    {Reply : Type} {op : Op Reply} (holds : phase.Holds call store.database session.pending)
    (valid : (visible store session).Valid) (permitted : phase.permits call op) :
    (phase.next op (sessionHandler Reply op (store, session)).1).Holds call
      (sessionHandler Reply op (store, session)).2.1.database
      (sessionHandler Reply op (store, session)).2.2.pending := by
  obtain ⟨opened, allowed⟩ := permitted
  cases op with
  | select table condition =>
      cases table with
      | qrVerifications =>
          cases phase with
          | reading seen =>
              refine ⟨fun id member => ?_, holds.2⟩
              rcases List.mem_append.mp member with isRead | before
              · obtain ⟨row, isRow, rfl⟩ := List.mem_map.mp isRead
                exact hasQr_of_deactivations holds.2 (hasQr_of_loaded isRow)
              · exact holds.1 id before
          | _ => exact holds
      | _ => exact holds
  | refresh table id =>
      cases table with
      | qrVerifications =>
          cases phase with
          | generated row =>
              obtain ⟨inserts, earlier, isPending, deactivations⟩ := holds
              obtain rfl := allowed row rfl
              have found : (visible store session).find? .qrVerifications row.id = some row := by
                refine @Database.Keyed.find? _ valid.keyed .qrVerifications row ?_
                rw [visible, isPending, applyWrites_snoc]
                simp [Write.apply]
              have isLoaded : (QrPhase.generated row).next (.refresh .qrVerifications row.id)
                  (sessionHandler _ (.refresh .qrVerifications row.id) (store, session)).1 =
                    .generated row := by
                change QrPhase.generated (((visible store session).find? .qrVerifications
                  row.id).getD row) = _
                rw [found]
                rfl
              rw [isLoaded]
              exact ⟨inserts, earlier, isPending, deactivations⟩
          | _ => exact holds
      | _ => exact holds
  | flush table id assignments =>
      cases table with
      | qrVerifications =>
          obtain ⟨isReading, now, rfl⟩ := allowed
          cases phase with
          | reading seen =>
              cases sessionHandler_effect (.flush .qrVerifications id (deactivation now)) store
                  session with
              | quiet database pending =>
                  rw [database, pending]
                  exact holds
              | wrote write asked accepted database pending =>
                  rw [database, pending]
                  refine ⟨holds.1, fun other member => ?_⟩
                  rcases List.mem_append.mp member with before | isNew
                  · exact holds.2 other before
                  · obtain ⟨changes, -, among, isWrite⟩ := Session.statement?_flush asked
                    rw [List.mem_singleton.mp isNew, isWrite]
                    exact .update id now among
              | committed isCommit => cases isCommit
              | rolledBack database pending =>
                  rw [database, pending]
                  exact ⟨holds.1, fun _ member => absurd member List.not_mem_nil⟩
          | _ => cases isReading
      | _ => cases allowed
  | executeUpdate table id assignments =>
      cases table with
      | qrVerifications =>
          obtain ⟨⟨seen, rfl, isSeen⟩, now, rfl⟩ := allowed
          obtain ⟨row, isRow, sameId⟩ := (holds.1 id isSeen).applyWrites session.pending
          have found : (visible store session).find? .qrVerifications id = some row := by
            rw [← sameId]
            exact @Database.Keyed.find? _ valid.keyed .qrVerifications row isRow
          simp only [sessionHandler, found, Session.updateRow]
          split
          · exact holds
          · exact ⟨holds.1 id isSeen, session.pending, now, rfl, holds.2⟩
      | _ => cases allowed
  | insert table row =>
      cases table with
      | qrVerifications =>
          obtain ⟨isReading, inserts⟩ := allowed
          cases phase with
          | reading seen =>
              simp only [sessionHandler]
              split
              · exact holds
              · exact ⟨inserts, session.pending, rfl, holds.2⟩
          | _ => cases isReading
      | verificationLogs =>
          obtain ⟨id, rfl, references⟩ := allowed
          obtain ⟨has, earlier, now, isPending, deactivations⟩ := holds
          simp only [sessionHandler]
          split
          · exact ⟨has, earlier, now, isPending, deactivations⟩
          · refine ⟨id, has, earlier, now, row, references, ?_, deactivations⟩
            rw [← isPending]
            rfl
      | _ => cases allowed
  | begin =>
      simp only [sessionHandler]
      split <;> exact holds
  | commit => cases phase <;> exact rfl
  | rollback => exact rfl
  | _ => exact holds

/-- A statement that is given up leaves the call where it is. -/
theorem next_cancelled {Reply : Type} {op : Op Reply} {reply : Reply}
    (answer : op.cancelled? = some reply) (phase : QrPhase) : phase.next op reply = phase := by
  cases op with
  | insert table row =>
      obtain rfl := Option.some.inj answer
      cases table <;> rfl
  | flush table id assignments =>
      obtain rfl := Option.some.inj answer
      rfl
  | executeUpdate table id assignments =>
      obtain rfl := Option.some.inj answer
      rfl
  | _ => cases answer

/-- The rows after an UPDATE. -/
theorem mem_update {database : Database} {id : Uuid} {assignments : List QRAssignment}
    {row : QRVerification}
    (member : row ∈ (Write.update .qrVerifications id assignments).apply database .qrVerifications) :
    ∃ old ∈ database .qrVerifications, row = old ∧ old.id ≠ id ∨
      old.id = id ∧ row = @assignAll .qrVerifications old assignments := by
  simp only [Write.apply, Function.update_self, updateRows, List.mem_map] at member
  obtain ⟨old, isOld, rfl⟩ := member
  by_cases same : @rowId .qrVerifications old = id
  · exact ⟨old, isOld, .inr ⟨same, if_pos same⟩⟩
  · exact ⟨old, isOld, .inl ⟨if_neg same, same⟩⟩

/-- The world after some turns, from a store at rest. -/
def qrWorld (runtime : Runtime) (store : Store) (run : List QrTurn) : QrWorld :=
  stateAfter (qrSystem runtime).apply ⟨store, []⟩ run

/-- Every call follows the outline, and has written what its phase says. -/
structure Orderly (world : QrWorld) (phases : Nat → QrPhase) : Prop where
  isolated : Isolated world.shared.database (pendingOf world)
  tracks : qrOutline.Tracks world phases
  holds : ∀ (index : Nat) thread, world.threads[index]? = some thread →
    (phases index).Holds thread.call.call world.shared.database thread.own.pending

namespace Orderly

variable {runtime : Runtime} {world : QrWorld} {phases : Nat → QrPhase}

/-- A valid database without calls is in order. -/
theorem idle {store : Store} (valid : store.database.Valid) :
    Orderly ⟨store, []⟩ fun _ => .reading [] := by
  have nothing : pendingOf (⟨store, []⟩ : QrWorld) = fun _ => [] := by
    ext1 index
    simp [pendingOf]
  refine ⟨?_, fun index thread found => ?_, fun index thread found => ?_⟩
  · rw [nothing]
    exact .idle valid
  · simp at found
  · simp at found

/-- What a call sees is valid. -/
theorem visible_valid (orderly : Orderly world phases) {index : Nat}
    {thread : Thread Op Exception QrAnswer QrRequest Session}
    (found : world.threads[index]? = some thread) : (visible world.shared thread.own).Valid := by
  have valid := orderly.isolated.valid index
  rw [pendingOf_of_found found] at valid
  exact valid

/-- A turn leads from one orderly world to another. -/
theorem step (orderly : Orderly world phases) (turn : QrTurn) :
    ∃ later, System.Advance (qrSystem runtime) qrOutline world phases turn
        ((qrSystem runtime).apply world turn) later ∧
      Orderly ((qrSystem runtime).apply world turn) later := by
  have starts : ∀ request, ((qrSystem runtime).program request).Obeys (qrOutline.protocol request)
      (qrOutline.ends request) (qrOutline.initial request) := obeys_request runtime
  obtain ⟨later, advance, tracks⟩ := System.exists_advance starts orderly.tracks turn
  have isolated := @isolated_apply _ _ (QrRequest.action runtime) _ orderly.isolated turn
  refine ⟨later, advance, isolated, tracks, ?_⟩
  clear isolated tracks
  generalize (qrSystem runtime).apply world turn = after at advance
  cases advance with
  | idle => exact orderly.holds
  | started request inputs =>
      intro index thread found
      simp only [System.apply, List.getElem?_append] at found
      split at found
      · rename_i before
        rw [Function.update_of_ne (Nat.ne_of_lt before)]
        exact orderly.holds index thread found
      · rename_i notBefore
        have inside := (List.getElem?_eq_some_iff.mp found).1
        obtain rfl : index = world.threads.length := by simp at inside; omega
        rw [Function.update_self, List.mem_singleton.mp (List.mem_of_getElem? found)]
        exact ⟨fun id member => absurd member List.not_mem_nil,
          fun write member => absurd member List.not_mem_nil⟩
  | @performed index thread Reply op next reaches passes permitted =>
      intro other otherThread found
      rw [System.performed, World.resume_threads reaches.found] at found
      by_cases same : other = index
      · subst same
        rw [if_pos rfl] at found
        cases found
        rw [Function.update_self]
        exact (orderly.holds other thread reaches.found).perform
          (orderly.visible_valid reaches.found) permitted
      · rw [if_neg same] at found
        rw [Function.update_of_ne same]
        obtain ⟨writes, database⟩ := database_grows op world.shared thread.own
        have grown := (orderly.holds other otherThread found).grow writes
        rw [← database] at grown
        exact grown
  | @cancelled index thread Reply op next reaches reply answer waits permitted =>
      have isNext : (qrOutline.protocol thread.call).next (phases index) op reply = phases index :=
        next_cancelled answer (phases index)
      rw [isNext, Function.update_eq_self]
      intro other otherThread found
      rw [World.resume_threads reaches.found] at found
      by_cases same : other = index
      · subst same
        rw [if_pos rfl] at found
        cases found
        exact orderly.holds other thread reaches.found
      · rw [if_neg same] at found
        exact orderly.holds other otherThread found
  | changed mined => exact orderly.holds

/-- What a turn commits, if it commits anything. -/
theorem database_advance {turn : QrTurn} {after : QrWorld} {later : Nat → QrPhase}
    (advance : System.Advance (qrSystem runtime) qrOutline world phases turn after later) :
    after.shared.database = world.shared.database ∨
      ∃ index thread next, turn = .operate index ∧ world.Reaches index thread .commit next ∧
        (phases index).permits thread.call.call .commit ∧
        after.shared.database = applyWrites world.shared.database thread.own.pending ∧
        later = Function.update phases index (phases index).ended := by
  cases advance with
  | idle => exact .inl rfl
  | started request inputs => exact .inl rfl
  | cancelled => exact .inl rfl
  | changed mined => exact .inl rfl
  | @performed index thread Reply op next reaches passes permitted =>
      by_cases isCommit : op.isCommit = true
      · right
        cases op with
        | commit => exact ⟨index, thread, next, rfl, reaches, permitted, rfl, rfl⟩
        | _ => cases isCommit
      · left
        change (sessionHandler Reply op (world.shared, thread.own)).2.1.database = _
        cases sessionHandler_effect op world.shared thread.own with
        | quiet database pending => exact database
        | wrote write asked accepted database pending => exact database
        | committed commits => exact absurd commits isCommit
        | rolledBack database pending => exact database

end Orderly
end AcademicCredential
