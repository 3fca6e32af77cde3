import AcademicCredential.Database.Runs
import AcademicCredential.Lib.Neighbours
import AcademicCredential.Outlines
import AcademicCredential.Services.GoldenRule
import AcademicCredential.Services.StatusMachine

/-!
# The trail of verifications

Any number of verifications at the same time, statement by statement, beside calls that write no
verification logs, while transactions are mined. What is committed to `verification_logs` stays, so
that it has to be right when it is inserted. `logs_of_calls`: every log row is of a call of the run
and names its caller. `authentic_logs_were_active`: every log row with the result AUTHENTIC is of a
hash that was on chain, not revoked, under the UID it names.
-/

namespace AcademicCredential

open AcademicCredential.Lib
open AcademicCredential.Contract

namespace VerificationService

/-- The two verifications. -/
inductive VerificationCall where
  | file (fileBytes : List UInt8) (request : FileRequest) (blockchainService : Bool)
  | scan (request : ScanRequest) (blockchainService : Bool)

/-- What a verification runs. -/
def VerificationCall.action (runtime : Runtime) : VerificationCall → Action VerificationResponse
  | .file fileBytes request blockchainService =>
      verifyByFileUpload runtime fileBytes request blockchainService
  | .scan request blockchainService => verifyByQrToken runtime request blockchainService

/-- Any other call of the backend: it writes no verification logs. -/
structure UnloggedCall where
  action : Action Unit
  unlogged : action.Every fun _ op => op.written? ≠ some .verificationLogs

/-- A verification, or a call that writes no log. -/
inductive TrailCall (Other : Type) where
  | verifies (call : VerificationCall)
  | elsewhere (call : Other)

/-- What a call runs. -/
def TrailCall.action {Other : Type} (runtime : Runtime) (others : Other → UnloggedCall) :
    TrailCall Other → Action (Option VerificationResponse)
  | .verifies call => some <$> call.action runtime
  | .elsewhere call => (fun _ => none) <$> (others call).action

/-- The calls side by side, with the store they share. -/
abbrev TrailWorld (Other : Type) :=
  Lib.World Op Exception (Option VerificationResponse) (TrailCall Other) Store Session

/-- One turn of the calls side by side. -/
abbrev TrailTurn (Other : Type) := Turn (TrailCall Other) Inputs (List MinedTransaction)

/-- The calls side by side, over the operations of a session. -/
def trailSystem {Other : Type} (runtime : Runtime) (others : Other → UnloggedCall) :
    System Op Exception (Option VerificationResponse) (TrailCall Other) Inputs
      (List MinedTransaction) Store Session :=
  readCommitted (TrailCall.action runtime others)

/-- The row names the caller, the file and where the request came from. -/
structure OfFile (runtime : Runtime) (fileBytes : List UInt8) (request : FileRequest)
    (row : VerificationLog) : Prop where
  method : row.verificationMethod = .FILE_UPLOAD
  verifier : row.verifierUserId = some request.currentUserId
  qr : row.qrVerificationId = none
  submittedHash : row.submittedHash = some (generateHashFromFile runtime fileBytes)
  ipAddress : row.ipAddress = request.requestIp
  userAgent : row.userAgent = request.userAgent

/-- Nobody is signed in when a token is scanned. -/
structure OfScan (request : ScanRequest) (row : VerificationLog) : Prop where
  method : row.verificationMethod = .QR_SCAN
  verifier : row.verifierUserId = none
  submittedHash : row.submittedHash = none
  ipAddress : row.ipAddress = request.requestIp
  userAgent : row.userAgent = request.userAgent

/-- The row is one that the verification may log. -/
def TrailCall.Logs {Other : Type} (runtime : Runtime) (row : VerificationLog) :
    TrailCall Other → Prop
  | .verifies (.file fileBytes request _) => OfFile runtime fileBytes request row
  | .verifies (.scan request _) => OfScan request row
  | .elsewhere _ => False

/-- The UIDs and hashes that the contract has vouched for during a call. -/
abbrev Vouched := List (String × Bytes32)

namespace Vouched

/-- What an operation and its reply add. -/
def next (vouched : Vouched) : {Reply : Type} → Op Reply → Reply → Vouched
  | _, .rpc (.verifyCertificate certUid hash), .ok (true, .ACTIVE) => (certUid, hash) :: vouched
  | _, _, _ => vouched

/-- What is vouched for stays vouched for. -/
theorem subset_next (vouched : Vouched) {Reply : Type} (op : Op Reply) (reply : Reply) :
    vouched ⊆ vouched.next op reply := by
  cases op with
  | rpc rpcCall =>
      cases rpcCall with
      | verifyCertificate certUid hash =>
          rcases reply with error | ⟨isValid, status⟩
          · exact List.Subset.refl _
          · cases isValid <;> cases status <;>
              first | exact List.Subset.refl _ | exact List.subset_cons_self _ _
      | _ => exact List.Subset.refl _
  | _ => exact List.Subset.refl _

/-- A statement that is given up vouches for nothing. -/
theorem next_cancelled {vouched : Vouched} {Reply : Type} {op : Op Reply} {reply : Reply}
    (answer : op.cancelled? = some reply) : vouched.next op reply = vouched := by
  cases op with
  | flush | executeUpdate | insert => rfl
  | _ => cases answer

/-- The hash that the text denotes was vouched for under the UID. -/
def Backs (vouched : Vouched) (certUid text : String) : Prop :=
  ∃ hash, (certUid, hash) ∈ vouched ∧ sizedBytes? 32 text.toList = some hash

/-- A verdict that is backed stays backed. -/
theorem Backs.mono {earlier later : Vouched} {certUid text : String}
    (backs : earlier.Backs certUid text) (subset : earlier ⊆ later) : later.Backs certUid text := by
  obtain ⟨hash, member, denotes⟩ := backs
  exact ⟨hash, subset member, denotes⟩

/-- The UID of the row was vouched for, with the hash of the submitted file or else of the
certificate. -/
def Proves (vouched : Vouched) (row : VerificationLog) : Prop :=
  ∃ certUid text, row.certificateUidQueried = some certUid ∧
    row.submittedHash.or row.storedHash = some text ∧ vouched.Backs certUid text

/-- What a call may do: its log rows are its own, and AUTHENTIC only on the word of the contract. -/
def permits {Other : Type} (runtime : Runtime) (call : TrailCall Other) (vouched : Vouched) :
    {Reply : Type} → Op Reply → Prop
  | _, .insert .verificationLogs row =>
      call.Logs runtime row ∧ (row.result = .AUTHENTIC → vouched.Proves row)
  | _, op => op.written? ≠ some .verificationLogs

/-- A call may do what writes no log. -/
theorem permits_of_unlogged {Other : Type} {runtime : Runtime} {call : TrailCall Other}
    {vouched : Vouched} {Reply : Type} {op : Op Reply}
    (unlogged : op.written? ≠ some .verificationLogs) : vouched.permits runtime call op := by
  cases op with
  | insert table row =>
      cases table with
      | verificationLogs => exact absurd rfl unlogged
      | _ => exact unlogged
  | _ => exact unlogged

end Vouched

/-- What a call may do with what the chain has vouched for. -/
def verdictProtocol {Other : Type} (runtime : Runtime) (call : TrailCall Other) :
    Protocol Op Vouched :=
  ⟨Vouched.permits runtime call, Vouched.next⟩

/-- The protocol that the calls side by side follow. -/
def verdictOutline (runtime : Runtime) (Other : Type) :
    System.Outline Op Exception (Option VerificationResponse) (TrailCall Other) Vouched where
  protocol := verdictProtocol runtime
  ends _ _ _ := True
  initial _ := []

section outlines

variable {Other Value : Type} {runtime : Runtime} {call : TrailCall Other} {vouched : Vouched}
variable {ends : Vouched → Except Exception Value → Prop}

/-- A program that writes no logs forgets nothing that was vouched for. -/
theorem verdict_unlogged {program : Action Value}
    (every : program.Every fun _ op => op.written? ≠ some .verificationLogs)
    (everyEnd : ∀ later result, vouched ⊆ later → ends later result) :
    program.Obeys (verdictProtocol runtime call) ends vouched :=
  @Program.obeys_of_every_among _ _ _ _ (verdictProtocol runtime call) _ _ (vouched ⊆ ·)
    (fun _ _ _ _ unlogged => Vouched.permits_of_unlogged unlogged)
    (fun _ _ op reply subset _ => List.Subset.trans subset (Vouched.subset_next _ op reply)) _
    everyEnd _ every (List.Subset.refl _)

/-- An operation that only reads writes no log. -/
theorem unlogged_of_isReading (Reply : Type) (op : Op Reply) (isReading : op.isReading = true) :
    op.written? ≠ some .verificationLogs := by
  rw [Op.unwritten_of_isReading Reply op isReading]
  exact (Option.some_ne_none _).symm

/-- The contract's answer backs the decision on it. -/
theorem verdict_verifyCertificate (certUid text : String)
    {ends : Vouched → Except Exception BlockchainVerificationResult → Prop}
    (failed : ∀ error, ends vouched (.error error))
    (answered : ∀ later answer, (decision answer = .AUTHENTIC → later.Backs certUid text) →
      ends later (.ok answer)) :
    (BlockchainService.verifyCertificate certUid text).Obeys (verdictProtocol runtime call) ends
      vouched := by
  unfold BlockchainService.verifyCertificate
  split
  · exact failed _
  cases denotes : sizedBytes? 32 text.toList with
  | none => exact failed _
  | some hash =>
      dsimp only
      rw [Program.obeys_bind, obeys_attempt]
      refine ⟨by simp [verdictProtocol, Vouched.permits, Op.written?], fun reply => ?_⟩
      cases reply with
      | error error => exact failed error
      | ok answer =>
          obtain ⟨isValid, status⟩ := answer
          refine answered _ _ fun authentic => ?_
          obtain ⟨rfl, rfl⟩ := Prod.mk.inj (decision_authentic.mp authentic)
          exact ⟨hash, List.mem_cons_self, denotes⟩

/-- Evidence for AUTHENTIC is backed by the contract. -/
def Backed (certUid text : String) (later : Vouched) (outcome : Except Exception ChainEvidence) :
    Prop :=
  ∀ evidence, outcome = .ok evidence → evidence.result = .AUTHENTIC → later.Backs certUid text

/-- An error needs no backing. -/
theorem Backed.of_error {certUid text : String} {later : Vouched} (error : Exception) :
    Backed certUid text later (.error error) := by
  intro evidence impossible
  cases impossible

/-- Evidence is backed when its AUTHENTIC verdict is. -/
theorem Backed.of_ok {certUid text : String} {later : Vouched} {evidence : ChainEvidence}
    (backs : evidence.result = .AUTHENTIC → later.Backs certUid text) :
    Backed certUid text later (.ok evidence) := by
  intro other same
  cases same
  exact backs

/-- What follows a program that only reads, when the program may have failed. -/
theorem verdict_reading {Answer : Type} {program : Action Answer} {next : Answer → Action Value}
    (every : program.Every fun _ op => op.written? ≠ some .verificationLogs)
    (failed : ∀ later error, ends later (.error error))
    (rest : ∀ later answer, vouched ⊆ later →
      (next answer).Obeys (verdictProtocol runtime call) ends later) :
    (program >>= next).Obeys (verdictProtocol runtime call) ends vouched := by
  rw [Program.obeys_bind]
  refine verdict_unlogged every fun later outcome subset => ?_
  cases outcome with
  | error error => exact failed later error
  | ok answer => exact rest later answer subset

/-- The file flow has its verdict from the chain. -/
theorem verdict_consultChainForFile (certificate : Certificate) (submittedHash : String) :
    (consultChainForFile runtime certificate submittedHash).Obeys (verdictProtocol runtime call)
      (Backed certificate.certificateUid submittedHash) vouched := by
  unfold consultChainForFile
  rw [Program.obeys_bind]
  refine verdict_verifyCertificate _ _ Backed.of_error fun later answer backs => ?_
  rw [Program.thenObeys]
  refine verdict_reading (BlockchainService.every_getCertificateRecord unlogged_of_isReading _ _)
    (fun _ => Backed.of_error) fun atRecord record toRecord => ?_
  refine verdict_reading (every_getBlockNumber unlogged_of_isReading _) (fun _ => Backed.of_error)
    fun atNumber blockNumber toNumber => ?_
  have stillBacks := fun authentic => ((backs authentic).mono toRecord).mono toNumber
  cases record with
  | none => exact Backed.of_ok stillBacks
  | some record =>
      exact verdict_reading (every_buildProof unlogged_of_isReading _ _ _)
        (fun _ => Backed.of_error) fun atProof proof toProof =>
          Backed.of_ok fun authentic => (stillBacks authentic).mono toProof

/-- Evidence of the file flow is backed by the chain. -/
theorem verdict_fileEvidence (certificate : Certificate) (submittedHash : String)
    (blockchainService : Bool) :
    (fileEvidence runtime certificate submittedHash blockchainService).Obeys
      (verdictProtocol runtime call) (Backed certificate.certificateUid submittedHash) vouched := by
  have fallback : ∀ later : Vouched, Backed certificate.certificateUid submittedHash later
      (.ok (fileFallback certificate submittedHash)) := fun later => Backed.of_ok fun authentic =>
    absurd authentic (fileFallback_not_authentic certificate submittedHash)
  unfold fileEvidence
  split
  · rw [Program.obeys_catchError]
    refine (verdict_consultChainForFile certificate submittedHash).mono
      fun later outcome backed => ?_
    cases outcome with
    | ok evidence => exact backed
    | error error =>
        rw [Program.elseObeys]
        split
        · exact fallback later
        · exact Backed.of_error _
  · exact fallback vouched

/-- A scan has its verdict from the chain. -/
theorem verdict_consultChainForQr (certificate : Certificate) :
    (consultChainForQr runtime certificate).Obeys (verdictProtocol runtime call)
      (Backed certificate.certificateUid certificate.sha256Hash) vouched := by
  unfold consultChainForQr
  rw [Program.obeys_bind]
  refine verdict_verifyCertificate _ _ Backed.of_error fun later answer backs => ?_
  rw [Program.thenObeys]
  refine verdict_reading (BlockchainService.every_getCertificateRecord unlogged_of_isReading _ _)
    (fun _ => Backed.of_error) fun atRecord record toRecord => ?_
  refine verdict_reading (every_getBlockNumber unlogged_of_isReading _) (fun _ => Backed.of_error)
    fun atNumber blockNumber toNumber => ?_
  have stillBacks := fun authentic => ((backs authentic).mono toRecord).mono toNumber
  cases record with
  | none => exact Backed.of_ok stillBacks
  | some record =>
      exact verdict_reading (Program.every_bind (every_buildProof unlogged_of_isReading _ _ _)
        fun _ => Program.every_pure _) (fun _ => Backed.of_error) fun atProof proof toProof =>
          Backed.of_ok fun authentic => (stillBacks authentic).mono toProof

/-- Evidence of a scan is backed by the chain. -/
theorem verdict_qrEvidence (certificate : Certificate) (blockchainService : Bool) :
    (qrEvidence runtime certificate blockchainService).Obeys (verdictProtocol runtime call)
      (Backed certificate.certificateUid certificate.sha256Hash) vouched := by
  have fallback : ∀ later : Vouched, Backed certificate.certificateUid certificate.sha256Hash later
      (.ok (qrFallback certificate)) := fun later => Backed.of_ok fun authentic =>
    absurd authentic (qrFallback_not_authentic certificate)
  unfold qrEvidence
  split
  · rw [Program.obeys_catchError]
    refine (verdict_consultChainForQr certificate).mono fun later outcome backed => ?_
    cases outcome with
    | ok evidence => exact backed
    | error error =>
        rw [Program.elseObeys]
        split
        · exact fallback later
        · exact Backed.of_error _
  · exact fallback vouched

/-- Recording a log row of the call, and then something that only reads. -/
theorem verdict_recordLog (entry : LogEntry)
    (logs : ∀ id verifiedAt, call.Logs runtime (entry.row id verifiedAt))
    (proves : entry.result = .AUTHENTIC → ∀ later, vouched ⊆ later → ∀ id verifiedAt,
      later.Proves (entry.row id verifiedAt))
    {next : Unit → Action Value}
    (rest : (next ()).Every fun _ op => op.written? ≠ some .verificationLogs)
    (everyEnd : ∀ later result, ends later result) :
    (recordLog entry >>= next).Obeys (verdictProtocol runtime call) ends vouched := by
  have afterwards : ∀ later, (next ()).Obeys (verdictProtocol runtime call) ends later :=
    fun later => verdict_unlogged rest fun last result _ => everyEnd last result
  have failed : ∀ later error,
      Program.thenObeys (verdictProtocol runtime call) ends next later (.error error) :=
    fun later error => everyEnd later _
  rw [Program.obeys_bind]
  unfold recordLog
  refine verdict_reading (every_reading unlogged_of_isReading rfl) failed
    fun atTime verifiedAt toTime => ?_
  refine verdict_reading (every_reading unlogged_of_isReading rfl) failed fun atId id toId => ?_
  rw [Program.obeys_bind]
  refine BaseRepository.obeys_create ⟨logs id verifiedAt, fun authentic => ?_⟩ (failed _) ?_
    fun loaded => afterwards _
  · exact proves authentic _ (List.Subset.trans toTime toId) id verifiedAt
  · exact (Option.some_ne_none Table.verificationLogs).symm

/-- An unconfirmed certificate is not AUTHENTIC. -/
theorem unconfirmedResult_not_authentic (certificate : Certificate) :
    unconfirmedResult certificate ≠ .AUTHENTIC := by
  unfold unconfirmedResult
  split <;> decide

/-- The block of the file flow logs AUTHENTIC only when the chain has said so. -/
theorem verdict_fileBlock (fileBytes : List UInt8) (request : FileRequest)
    (blockchainService : Bool) (startTime : Nat) (verificationId : Uuid)
    {ends : Vouched → Except Exception FlowExit → Prop}
    (everyEnd : ∀ later result, ends later result) :
    (fileBlock runtime request blockchainService startTime verificationId
        (generateHashFromFile runtime fileBytes)).Obeys
      (verdictProtocol runtime
        (.verifies (.file fileBytes request blockchainService) : TrailCall Other)) ends
      vouched := by
  have built : ∀ result certificate submittedHash hashMatch time proof, Program.Every
      (fun _ op => op.written? ≠ some .verificationLogs)
      (FlowExit.returned <$> buildResult verificationId result certificate submittedHash hashMatch
        time proof none) := fun _ _ _ _ _ _ =>
    Program.every_bind (every_buildResult unlogged_of_isReading _ _ _ _ _ _ _ _) fun _ =>
      Program.every_pure _
  unfold fileBlock
  refine verdict_reading (every_findCertificate unlogged_of_isReading _ _)
    (fun _ _ => everyEnd _ _) fun atCertificate certificate toCertificate => ?_
  refine verdict_reading (every_reading unlogged_of_isReading rfl) (fun _ _ => everyEnd _ _)
    fun atTime time toTime => ?_
  cases certificate with
  | none =>
      refine verdict_recordLog _ ?_ (fun authentic => by cases authentic) (built _ _ _ _ _ _)
        everyEnd
      exact fun _ _ => OfFile.mk rfl rfl rfl rfl rfl rfl
  | some certificate =>
      dsimp only
      split
      · refine verdict_recordLog _ ?_ (fun authentic => ?_) (built _ _ _ _ _ _) everyEnd
        · exact fun _ _ => OfFile.mk rfl rfl rfl rfl rfl rfl
        · exact absurd authentic (unconfirmedResult_not_authentic certificate)
      · rw [Program.obeys_bind]
        refine (verdict_fileEvidence certificate _ blockchainService).mono
          fun atEvidence outcome backed => ?_
        cases outcome with
        | error error => exact everyEnd _ _
        | ok evidence =>
            rw [Program.thenObeys]
            refine verdict_reading (every_reading unlogged_of_isReading rfl)
              (fun _ _ => everyEnd _ _) fun atEnd ended toEnd => ?_
            refine verdict_reading (every_getStoreTxHash unlogged_of_isReading _)
              (fun _ _ => everyEnd _ _) fun atTx txHash toTx => ?_
            refine verdict_recordLog _ ?_ (fun authentic later subset id verifiedAt => ?_)
              (Program.every_pure _) everyEnd
            · exact fun _ _ => OfFile.mk rfl rfl rfl rfl rfl rfl
            · have backs := backed evidence rfl authentic
              exact ⟨certificate.certificateUid, generateHashFromFile runtime fileBytes, rfl, rfl,
                ((backs.mono toEnd).mono toTx).mono subset⟩

/-- The block of a scan logs AUTHENTIC only when the chain has said so. -/
theorem verdict_qrBlock (request : ScanRequest) (blockchainService : Bool) (startTime : Nat)
    (verificationId : Uuid) {ends : Vouched → Except Exception FlowExit → Prop}
    (everyEnd : ∀ later result, ends later result) :
    (qrBlock runtime request blockchainService startTime verificationId).Obeys
      (verdictProtocol runtime (.verifies (.scan request blockchainService) : TrailCall Other)) ends
      vouched := by
  unfold qrBlock
  refine verdict_reading (BaseRepository.every_findOne unlogged_of_isReading _ _)
    (fun _ _ => everyEnd _ _) fun atToken qr toToken => ?_
  refine verdict_reading (every_reading unlogged_of_isReading rfl) (fun _ _ => everyEnd _ _)
    fun atTime time toTime => ?_
  refine verdict_reading (every_scannedCertificate unlogged_of_isReading qr)
    (fun _ _ => everyEnd _ _) fun atScan scanned toScan => ?_
  cases scanned with
  | none =>
      exact verdict_unlogged (Program.every_bind
        (every_buildResult unlogged_of_isReading _ _ _ _ _ _ _ _) fun _ => Program.every_pure _)
        fun later result _ => everyEnd later result
  | some both =>
      obtain ⟨qr, certificate⟩ := both
      dsimp only
      rw [Program.obeys_bind]
      refine (verdict_qrEvidence certificate blockchainService).mono
        fun atEvidence outcome backed => ?_
      cases outcome with
      | error error => exact everyEnd _ _
      | ok evidence =>
          rw [Program.thenObeys]
          refine verdict_reading (every_reading unlogged_of_isReading rfl)
            (fun _ _ => everyEnd _ _) fun atEnd ended toEnd => ?_
          refine verdict_reading (Program.every_bind (every_reading unlogged_of_isReading rfl)
            fun _ => every_attempt (by simp [Op.written?])) (fun _ _ => everyEnd _ _)
            fun atCount _ toCount => ?_
          refine verdict_reading (every_getStoreTxHash unlogged_of_isReading _)
            (fun _ _ => everyEnd _ _) fun atTx txHash toTx => ?_
          refine verdict_recordLog _ ?_ (fun authentic later subset id verifiedAt => ?_)
            (Program.every_pure _) everyEnd
          · exact fun _ _ => OfScan.mk rfl rfl rfl rfl rfl
          · have backs := backed evidence rfl authentic
            exact ⟨certificate.certificateUid, certificate.sha256Hash, rfl, rfl,
              (((backs.mono toEnd).mono toCount).mono toTx).mono subset⟩

/-- A transaction, and then something that writes no logs. -/
theorem verdict_transaction {Answer : Type} {body : Action Answer} {next : Answer → Action Value}
    (block : ∀ {ends : Vouched → Except Exception Answer → Prop},
      (∀ later result, ends later result) →
        body.Obeys (verdictProtocol runtime call) ends vouched)
    (rest : ∀ answer, (next answer).Every fun _ op => op.written? ≠ some .verificationLogs)
    (everyEnd : ∀ later result, ends later result) :
    (transaction body >>= next).Obeys (verdictProtocol runtime call) ends vouched := by
  have unwritten : (none : Option Table) ≠ some .verificationLogs :=
    (Option.some_ne_none Table.verificationLogs).symm
  have afterwards : ∀ later result,
      Program.thenObeys (verdictProtocol runtime call) ends next later result := by
    intro later result
    cases result with
    | error error => exact everyEnd later _
    | ok answer => exact verdict_unlogged (rest answer) fun last result _ => everyEnd last result
  rw [Program.obeys_bind]
  refine obeys_transaction unwritten (fun _ => afterwards _ _) (block fun later result => ?_)
  cases result with
  | ok answer => exact ⟨unwritten, afterwards _ _⟩
  | error error => exact ⟨unwritten, afterwards _ _⟩

/-- Each verification follows the protocol. -/
theorem verdict_verificationCall (verification : VerificationCall) :
    (verification.action runtime).Obeys
      (verdictProtocol runtime (.verifies verification : TrailCall Other)) (fun _ _ => True)
      [] := by
  cases verification with
  | file fileBytes request blockchainService =>
      change (verifyByFileUpload runtime fileBytes request blockchainService).Obeys _ _ _
      unfold verifyByFileUpload
      refine verdict_reading (every_reading unlogged_of_isReading rfl) (fun _ _ => trivial)
        fun atStart startTime _ => ?_
      refine verdict_reading (every_reading unlogged_of_isReading rfl) (fun _ _ => trivial)
        fun atId verificationId _ => ?_
      refine verdict_transaction
        (verdict_fileBlock fileBytes request blockchainService startTime verificationId)
        (fun exit => ?_) fun _ _ => trivial
      cases exit with
      | returned response => exact Program.every_pure _
      | completed certificate evidence processingTime =>
          exact every_buildResult unlogged_of_isReading _ _ _ _ _ _ _ _
  | scan request blockchainService =>
      change (verifyByQrToken runtime request blockchainService).Obeys _ _ _
      unfold verifyByQrToken
      refine verdict_reading (every_reading unlogged_of_isReading rfl) (fun _ _ => trivial)
        fun atStart startTime _ => ?_
      refine verdict_reading (every_reading unlogged_of_isReading rfl) (fun _ _ => trivial)
        fun atId verificationId _ => ?_
      refine verdict_transaction
        (verdict_qrBlock request blockchainService startTime verificationId)
        (fun exit => ?_) fun _ _ => trivial
      cases exit with
      | returned response => exact Program.every_pure _
      | completed certificate evidence processingTime =>
          exact every_buildResult unlogged_of_isReading _ _ _ _ _ _ _ _

end outlines

/-- Each call side by side follows the protocol. -/
theorem verdict_trailCall {Other : Type} (runtime : Runtime) (others : Other → UnloggedCall)
    (call : TrailCall Other) :
    (call.action runtime others).Obeys (verdictProtocol runtime call) (fun _ _ => True) [] := by
  cases call with
  | verifies verification =>
      change (verification.action runtime >>= fun response => pure (some response)).Obeys _ _ _
      rw [Program.obeys_bind]
      refine (verdict_verificationCall verification).mono fun later result _ => ?_
      cases result <;> trivial
  | elsewhere other =>
      refine verdict_unlogged (Program.every_bind (others other).unlogged fun _ =>
        Program.every_pure _) fun _ _ _ => trivial

/-- The record under the UID is active and has the hash. -/
structure ActiveOnChain (chain : Chain) (certUid : String) (hash : Bytes32) : Prop where
  «exists» : (chain.registry.certificates (solidityString certUid)).exists = true
  active : (chain.registry.certificates (solidityString certUid)).status = .ACTIVE
  sameHash : (chain.registry.certificates (solidityString certUid)).certificateHash = hash

/-- The UID of an AUTHENTIC row has had a hash on chain, the one of the submitted file or else of
the certificate that was scanned. -/
def Proven (ever : String → Bytes32 → Prop) (row : VerificationLog) : Prop :=
  row.result = .AUTHENTIC → ∃ certUid text hash, row.certificateUidQueried = some certUid ∧
    row.submittedHash.or row.storedHash = some text ∧
    sizedBytes? 32 text.toList = some hash ∧ ever certUid hash

section session

variable {Reply : Type} {op : Op Reply} {store : Store} {session : Session}

/-- What the contract vouches for is on chain, and asking the chain waits for nobody. -/
theorem activeOnChain_of_next {vouched : Vouched} {certUid : String} {hash : Bytes32}
    (member : (certUid, hash) ∈
      vouched.next op (sessionHandler Reply op (store, session)).1) :
    (certUid, hash) ∈ vouched ∨ session.statement? store op = none ∧
      ActiveOnChain (sessionHandler Reply op (store, session)).2.1.chain certUid hash := by
  cases op with
  | rpc rpcCall =>
      cases rpcCall with
      | verifyCertificate asked askedHash =>
          rcases replied : (sessionHandler _ (.rpc (.verifyCertificate asked askedHash))
            (store, session)).1 with error | ⟨isValid, status⟩
          · rw [replied] at member
            exact .inl member
          · rw [replied] at member
            cases isValid <;> cases status <;> try exact .inl member
            rcases List.mem_cons.mp member with same | before
            · cases same
              obtain ⟨-, truthful⟩ := RpcOutcome.reply_ok replied
              obtain ⟨present, active, sameHash⟩ :=
                (Registry.verifyCertificate_valid_iff ..).mp truthful.symm
              exact .inr ⟨rfl, present, active, sameHash⟩
            · exact .inl before
      | _ => exact .inl member
  | _ => exact .inl member

end session

/-- What the call of a row knows of it. -/
def Justified {Other : Type} (runtime : Runtime) (ever : String → Bytes32 → Prop)
    (call : TrailCall Other) (row : VerificationLog) : Prop :=
  call.Logs runtime row ∧ Proven ever row

/-- A justified row stays justified as the chain grows. -/
theorem Justified.mono {Other : Type} {runtime : Runtime} {ever later : String → Bytes32 → Prop}
    {call : TrailCall Other} {row : VerificationLog} (justified : Justified runtime ever call row)
    (weaker : ∀ certUid hash, ever certUid hash → later certUid hash) :
    Justified runtime later call row := by
  refine ⟨justified.1, fun authentic => ?_⟩
  obtain ⟨certUid, text, hash, isUid, isText, denotes, was⟩ := justified.2 authentic
  exact ⟨certUid, text, hash, isUid, isText, denotes, weaker certUid hash was⟩

/-- What the contract has vouched for was on chain at some time, and the log rows that a call has
pending are justified. -/
structure Holds {Other : Type} (runtime : Runtime) (ever : String → Bytes32 → Prop)
    (call : TrailCall Other) (session : Session) (vouched : Vouched) : Prop where
  vouched : ∀ certUid hash, (certUid, hash) ∈ vouched → ever certUid hash
  pending : ∀ row, .insert .verificationLogs row ∈ session.pending →
    Justified runtime ever call row

/-- What holds of a verification goes on holding as the chain grows. -/
theorem Holds.mono {Other : Type} {runtime : Runtime} {ever later : String → Bytes32 → Prop}
    {call : TrailCall Other} {session : Session} {vouched : Vouched}
    (holds : Holds runtime ever call session vouched)
    (weaker : ∀ certUid hash, ever certUid hash → later certUid hash) :
    Holds runtime later call session vouched :=
  ⟨fun certUid hash member => weaker certUid hash (holds.vouched certUid hash member),
    fun row member => (holds.pending row member).mono weaker⟩

/-- A log row that an operation asks for is justified. -/
theorem justified_of_asked {Other : Type} {runtime : Runtime} {ever : String → Bytes32 → Prop}
    {call : TrailCall Other} {vouched : Vouched}
    (known : ∀ certUid hash, (certUid, hash) ∈ vouched → ever certUid hash) {Reply : Type}
    {op : Op Reply} (permitted : vouched.permits runtime call op) {store : Store}
    {session : Session} {row : VerificationLog}
    (asked : session.statement? store op = some (.insert .verificationLogs row)) :
    Justified runtime ever call row := by
  refine @Session.statement?_insert _ _ _ _ _ _
    (fun _ op => vouched.permits runtime call op → Justified runtime ever call row) asked
    (fun inserts => ⟨inserts.1, fun authentic => ?_⟩) permitted
  obtain ⟨certUid, text, isUid, isText, hash, member, denotes⟩ := inserts.2 authentic
  exact ⟨certUid, text, hash, isUid, isText, denotes, known certUid hash member⟩

/-- A permitted operation keeps what holds of a verification. -/
theorem Holds.perform {Other : Type} {runtime : Runtime} {ever : String → Bytes32 → Prop}
    {call : TrailCall Other} {store : Store} {session : Session} {vouched : Vouched}
    (holds : Holds runtime ever call session vouched) {Reply : Type} {op : Op Reply}
    (permitted : vouched.permits runtime call op)
    (active : session.statement? store op = none → ∀ certUid hash,
      ActiveOnChain (sessionHandler Reply op (store, session)).2.1.chain certUid hash →
        ever certUid hash) :
    Holds runtime ever call (sessionHandler Reply op (store, session)).2.2
      (vouched.next op (sessionHandler Reply op (store, session)).1) := by
  refine ⟨fun certUid hash member => ?_, fun row member => ?_⟩
  · rcases activeOnChain_of_next member with before | ⟨unasked, isActive⟩
    · exact holds.vouched certUid hash before
    · exact active unasked certUid hash isActive
  · rcases mem_pending_insert member with before | asked
    · exact holds.pending row before
    · exact justified_of_asked holds.vouched permitted asked

variable {Other : Type}

/-- All log rows, committed or pending, are justified by their calls. -/
structure Trailed (runtime : Runtime) (ever : String → Bytes32 → Prop) (world : TrailWorld Other)
    (phases : Nat → Vouched) : Prop where
  tracks : (verdictOutline runtime Other).Tracks world phases
  calls : ∀ (index : Nat) thread, world.threads[index]? = some thread →
    Holds runtime ever thread.call thread.own (phases index)
  rows : ∀ row ∈ world.shared.database .verificationLogs, ∃ call ∈ world.calls,
    Justified runtime ever call row

namespace Trailed

variable {runtime : Runtime} {others : Other → UnloggedCall} {ever : String → Bytes32 → Prop}
variable {world : TrailWorld Other} {phases : Nat → Vouched}

/-- The trail stays justified as the chain grows. -/
theorem mono {later : String → Bytes32 → Prop} (trailed : Trailed runtime ever world phases)
    (weaker : ∀ certUid hash, ever certUid hash → later certUid hash) :
    Trailed runtime later world phases := by
  refine ⟨trailed.tracks, fun index thread found => (trailed.calls index thread found).mono weaker,
    fun row member => ?_⟩
  obtain ⟨call, isCall, justified⟩ := trailed.rows row member
  exact ⟨call, isCall, justified.mono weaker⟩

/-- The committed rows after a turn are justified by calls from before it. -/
theorem rows_apply (trailed : Trailed runtime ever world phases) (turn : TrailTurn Other) :
    ∀ row ∈ ((trailSystem runtime others).apply world turn).shared.database .verificationLogs,
      ∃ call ∈ world.calls, Justified runtime ever call row := by
  intro row member
  cases @moves_apply _ _ (TrailCall.action runtime others) world turn with
  | quiet database | wrote _ _ _ _ _ database | rolledBack _ _ database =>
      exact trailed.rows row (database ▸ member)
  | committed index _ database =>
      obtain ⟨source, rfl, origin⟩ := @exists_source .verificationLogs Eq (fun _ => rfl)
        (fun _ _ _ => Eq.trans) (fun _ assignments => by
          cases assignments with
          | nil => rfl
          | cons first _ => exact first.elim) _ _ row (database ▸ member)
      rcases origin with isOld | isNew
      · exact trailed.rows source isOld
      · cases found : world.threads[index]? with
        | none =>
            rw [pendingOf, found] at isNew
            exact absurd isNew List.not_mem_nil
        | some thread =>
            rw [pendingOf_of_found found] at isNew
            exact ⟨thread.call, List.mem_map_of_mem (List.mem_of_getElem? found),
              (trailed.calls index thread found).pending source isNew⟩

/-- An operation that asks for no write is performed when it is its thread's turn. -/
theorem shared_operate {index : Nat} {thread : _} {Reply : Type} {op : Op Reply}
    {next : Reply → Action (Option VerificationResponse)}
    (reaches : world.Reaches index thread op next)
    (unasked : thread.own.statement? world.shared op = none) :
    ((trailSystem runtime others).apply world (.operate index)).shared =
      (sessionHandler Reply op (world.shared, thread.own)).2.1 := by
  change ((trailSystem runtime others).operate world index).shared = _
  simp [System.operate, reaches.found, reaches.program, trailSystem, readCommitted, Session.waits,
    unasked, World.resume]

/-- A turn keeps the trail when what is active after it counts as having been on chain. -/
theorem apply (trailed : Trailed runtime ever world phases) (turn : TrailTurn Other)
    (active : ∀ certUid hash, ActiveOnChain ((trailSystem runtime others).apply world
      turn).shared.chain certUid hash → ever certUid hash) :
    ∃ later, Trailed runtime ever ((trailSystem runtime others).apply world turn) later := by
  obtain ⟨later, advance, tracks⟩ : ∃ later,
      System.Advance (trailSystem runtime others) (verdictOutline runtime Other) world phases turn
        ((trailSystem runtime others).apply world turn) later ∧
      (verdictOutline runtime Other).Tracks ((trailSystem runtime others).apply world turn) later :=
    System.exists_advance (verdict_trailCall runtime others) trailed.tracks turn
  refine ⟨later, tracks, ?_, fun row member => ?_⟩
  · refine advance.holds
      (fun call _ session vouched => Holds runtime ever call session vouched)
      ?_ ?_ ?_ ?_ ?_ trailed.calls
    · intro call inputs isTurn
      exact ⟨fun _ _ member => absurd member List.not_mem_nil,
        fun _ member => absurd member List.not_mem_nil⟩
    · intro index thread Reply op next isTurn reaches permitted holds
      refine holds.perform permitted fun unasked certUid hash isActive => active certUid hash ?_
      rw [isTurn, shared_operate reaches unasked]
      exact isActive
    · intro call own vouched other Reply op holds
      exact holds
    · intro index thread Reply op next reply isTurn reaches answer waits permitted holds
      change Holds runtime ever thread.call thread.own ((phases index).next op reply)
      rw [Vouched.next_cancelled answer]
      exact holds
    · intro call own vouched mined holds
      exact holds
  · obtain ⟨call, isCall, justified⟩ := trailed.rows_apply turn row member
    refine ⟨call, ?_, justified⟩
    rw [System.calls_apply]
    exact List.mem_append_left _ isCall

/-- The empty database has an empty trail. -/
theorem initial (deployer : Address) :
    Trailed runtime ever (⟨initialStore deployer, []⟩ : TrailWorld Other) fun _ => [] :=
  ⟨fun _ _ found => by simp at found, fun _ _ found => by simp at found,
    fun _ member => absurd member List.not_mem_nil⟩

end Trailed

/-- At some time of the run, the record under the UID was active and had the hash. -/
def WasActive (runtime : Runtime) (others : Other → UnloggedCall) (deployer : Address)
    (run : List (TrailTurn Other)) (certUid : String) (hash : Bytes32) : Prop :=
  ∃ earlier later, run = earlier ++ later ∧ ActiveOnChain (stateAfter (trailSystem runtime
    others).apply ⟨initialStore deployer, []⟩ earlier).shared.chain certUid hash

/-- After every run the calls have the verdicts they log. -/
theorem Trailed.exists_afterRun (runtime : Runtime) (others : Other → UnloggedCall)
    (deployer : Address) (run : List (TrailTurn Other)) :
    ∃ phases, Trailed runtime (WasActive runtime others deployer run)
      (stateAfter (trailSystem runtime others).apply ⟨initialStore deployer, []⟩ run) phases := by
  induction run using List.reverseRecOn with
  | nil => exact ⟨_, initial deployer⟩
  | append_singleton run turn inductionHypothesis =>
      obtain ⟨phases, trailed⟩ := inductionHypothesis
      have longer : ∀ certUid hash, WasActive runtime others deployer run certUid hash →
          WasActive runtime others deployer (run ++ [turn]) certUid hash := by
        rintro certUid hash ⟨earlier, later, rfl, isActive⟩
        exact ⟨earlier, later ++ [turn], List.append_assoc .., isActive⟩
      rw [stateAfter_snoc]
      refine (trailed.mono longer).apply turn fun certUid hash isActive => ?_
      exact ⟨run ++ [turn], [], (List.append_nil _).symm, by rw [stateAfter_snoc]; exact isActive⟩

/-- Every committed log row is of a verification of the run: it has the method, the verifier and
the origin of that call, and the hash of the file that was submitted to it. -/
def LogsOfCalls (runtime : Runtime) (run : List (TrailTurn Other)) (world : TrailWorld Other) :
    Prop :=
  ∀ row ∈ world.shared.database .verificationLogs, ∃ verification inputs,
    Turn.start (.verifies verification) inputs ∈ run ∧
      TrailCall.Logs runtime row (.verifies verification : TrailCall Other)

/-- Whatever verifications and other calls run at the same time, every committed log row is of a
verification that was started. -/
theorem logs_of_calls (runtime : Runtime) (others : Other → UnloggedCall) (deployer : Address)
    (run : List (TrailTurn Other)) :
    LogsOfCalls runtime run
      (stateAfter (trailSystem runtime others).apply ⟨initialStore deployer, []⟩ run) := by
  intro row member
  obtain ⟨phases, trailed⟩ := Trailed.exists_afterRun runtime others deployer run
  obtain ⟨call, isCall, logs, -⟩ := trailed.rows row member
  obtain ⟨inputs, started⟩ := System.exists_start isCall
  cases call with
  | verifies verification => exact ⟨verification, inputs, started, logs⟩
  | elsewhere other => exact logs.elim

/-- Every committed AUTHENTIC log row is proven. -/
def AuthenticLogsProven (ever : String → Bytes32 → Prop) (world : TrailWorld Other) : Prop :=
  ∀ row ∈ world.shared.database .verificationLogs, Proven ever row

/-- Every committed log row with the result AUTHENTIC names a UID whose record on chain was active
during the run with the hash of the submitted file, or of the certificate that was scanned. -/
theorem authentic_logs_were_active (runtime : Runtime) (others : Other → UnloggedCall)
    (deployer : Address) (run : List (TrailTurn Other)) :
    AuthenticLogsProven (WasActive runtime others deployer run)
      (stateAfter (trailSystem runtime others).apply ⟨initialStore deployer, []⟩ run) := by
  intro row member
  obtain ⟨phases, trailed⟩ := Trailed.exists_afterRun runtime others deployer run
  obtain ⟨call, isCall, -, proven⟩ := trailed.rows row member
  exact proven

end VerificationService
end AcademicCredential
