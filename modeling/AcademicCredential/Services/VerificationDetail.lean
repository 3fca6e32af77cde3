import AcademicCredential.Services.AuditTrail
import AcademicCredential.Services.LoginRuns
import AcademicCredential.Services.StudentCredentials

/-!
# Looking a verification up again

The response of a file verification carries the `verification_id` that was drawn first,
the log row of the call has a primary key of its own that was drawn last, and
`get_verification_detail` looks the first up among the second.
-/

namespace AcademicCredential

open AcademicCredential.Lib
open AcademicCredential.Contract

namespace VerificationLogRepository

/-- `get_by_id`. -/
def getById (id : Uuid) : Action (Option VerificationLog) :=
  BaseRepository.getById .verificationLogs id

end VerificationLogRepository

namespace EmployerService

/-- `get_verification_detail`. -/
def getVerificationDetail (verificationId : Uuid) (currentUser : User) :
    Action VerificationLog := do
  match ← VerificationLogRepository.getById verificationId with
  | none => Program.raise (.app .NotFoundError "Verification record not found")
  | some log =>
      if log.verifierUserId ≠ some currentUser.id then
        Program.raise ErrorClass.OwnershipViolationError.default
      else
        return log

/-- What the call answers on a session of its own. -/
def detail (store : Store) (inputs : Inputs) (verificationId : Uuid) (currentUser : User) :
    Except Exception VerificationLog :=
  ((getVerificationDetail verificationId currentUser).run sessionHandler
    (store, .fresh inputs)).1

/-- The detail is the stored row, for the one who asked for it. -/
theorem detail_eq (store : ValidStore) (inputs : Inputs) (verificationId : Uuid)
    (currentUser : User) :
    detail store.toStore inputs verificationId currentUser =
      match store.database.find? .verificationLogs verificationId with
      | none => .error (.app .NotFoundError "Verification record not found")
      | some log =>
          if log.verifierUserId ≠ some currentUser.id then
            .error ErrorClass.OwnershipViolationError.default
          else
            .ok log := by
  have looked : (VerificationLogRepository.getById verificationId).run directHandler
      (.fresh store.toStore inputs) =
        (.ok (store.database.find? .verificationLogs verificationId),
          (Direct.fresh store.toStore inputs).touch) :=
    BaseRepository.run_findOne_touch _ .verificationLogs _
  rw [detail, (store.run_eq inputs _).1, getVerificationDetail, Program.run_bind, looked]
  cases store.database.find? .verificationLogs verificationId with
  | none => rfl
  | some log =>
      dsimp only
      split <;> rfl

end EmployerService

namespace VerificationService

/-- The id of a response that is returned from inside the transaction. -/
def FlowExit.Bears (verificationId : Uuid) : FlowExit → Prop
  | .returned response => response.verificationId = verificationId
  | .completed _ _ _ => True

/-- The answer bears the identifier it was built with. -/
theorem yields_buildResult {verificationId : Uuid} {result : VerificationResult}
    {certificate : Option Certificate} {submittedHash : Option String} {hashMatch : Option Bool}
    {processingTimeMs : Nat} {blockchainProof : Option BlockchainProof}
    {tamperEvidence : Option TamperEvidence} :
    (buildResult verificationId result certificate submittedHash hashMatch processingTimeMs
      blockchainProof tamperEvidence).Yields fun response =>
        response.verificationId = verificationId :=
  fun _ => rfl

/-- A transaction yields what its body does. -/
theorem yields_transaction {Value : Type} {holds : Value → Prop} {body : Action Value}
    (yields : body.Yields holds) : (transaction body).Yields holds := by
  refine Program.yields_bind (Program.yields_true _) fun _ _ => ?_
  refine Program.yields_bind (Program.yields_catchError yields fun _ => ?_) fun value isTrue => ?_
  · exact Program.yields_bind (Program.yields_true _) fun _ _ => trivial
  · exact Program.yields_bind (Program.yields_true _) fun _ _ => isTrue

/-- The block of the file flow leaves with the identifier of the request. -/
theorem yields_fileBlock (runtime : Runtime) (request : FileRequest) (blockchainService : Bool)
    (startTime : Nat) (verificationId : Uuid) (submittedHash : String) :
    (fileBlock runtime request blockchainService startTime verificationId submittedHash).Yields
      (FlowExit.Bears verificationId) := by
  have built (result : VerificationResult) (certificate : Option Certificate)
      (submittedHash : Option String) (processingTimeMs : Nat) :
      (do return .returned (← buildResult verificationId result certificate submittedHash none
        processingTimeMs none none) : Action FlowExit).Yields (FlowExit.Bears verificationId) :=
    Program.yields_bind yields_buildResult fun _ bears => bears
  refine Program.yields_bind (Program.yields_true _) fun certificate _ => ?_
  refine Program.yields_bind (Program.yields_true _) fun now _ => ?_
  cases certificate with
  | none => exact Program.yields_bind (Program.yields_true _) fun _ _ => built _ _ _ _
  | some certificate =>
      dsimp only
      split
      · exact Program.yields_bind (Program.yields_true _) fun _ _ => built _ _ _ _
      · refine Program.yields_bind (Program.yields_true _) fun _ _ => ?_
        refine Program.yields_bind (Program.yields_true _) fun _ _ => ?_
        refine Program.yields_bind (Program.yields_true _) fun _ _ => ?_
        exact Program.yields_bind (Program.yields_true _) fun _ _ => trivial

/-- A file verification answers with the id it drew first. -/
theorem verificationId_of_returned {runtime : Runtime} {direct after : Direct}
    {fileBytes : List UInt8} {request : FileRequest} {blockchainService : Bool}
    {response : VerificationResponse}
    (returned : (verifyByFileUpload runtime fileBytes request blockchainService).run directHandler
      direct = (.ok response, after)) :
    response.verificationId = direct.inputs.uuid4 (direct.reads + 1) := by
  rw [verifyByFileUpload, Program.run_bind, Program.run_perform] at returned
  dsimp only [directHandler] at returned
  rw [Program.run_bind, Program.run_perform] at returned
  refine @Program.Yields.run _ _ _ _ directHandler (fun response : VerificationResponse =>
    response.verificationId = direct.inputs.uuid4 (direct.reads + 1)) _ ?_ _ _ _ returned
  refine Program.yields_bind (yields_transaction (yields_fileBlock ..)) fun exit bears => ?_
  cases exit with
  | returned response => exact bears
  | completed certificate evidence processingTime => exact yields_buildResult

/-- The log row a call committed: the response's result, the hash of the file that was sent,
the sender and the certificate. -/
structure RowOf (before after : Database) (request : FileRequest) (submittedHash : String)
    (response : VerificationResponse) (row : VerificationLog) : Prop where
  added : after .verificationLogs = before .verificationLogs ++ [row]
  result : row.result = response.result
  submittedHash : row.submittedHash = some submittedHash
  verifier : row.verifierUserId = some request.currentUserId
  about : AboutSame before row (response.certificate.map (·.certificateUid))

/-- Which draw of `uuid4` becomes the primary key of the log row: a confirmed certificate
has the clock read once more before it. -/
def logIdRead (database : Database) (request : FileRequest) (submittedHash : String) : Nat :=
  if (fileCertificate database request.certUidHint submittedHash).any
      fun certificate => certificate.blockchainStatus = .CONFIRMED then 5 else 4

section paths

variable {runtime : Runtime} {store : ValidStore} {inputs : Inputs} {blockchainService : Bool}
  {block : Except Exception FlowExit × Direct}
  {flow : Except Exception VerificationResponse × Direct}

/-- A flow that returned after a log row was to be inserted has committed that row. -/
theorem committed_of_logged {direct left : Direct} {row : VerificationLog} {exit : FlowExit}
    {response : VerificationResponse}
    (outcome : FlowOutcome ((checkLog direct.working row).map fun _ => exit, left) flow)
    (logs : Logs direct row left) (returned : flow.1 = .ok response) :
    flow.2.database .verificationLogs = direct.working .verificationLogs ++ [row] ∧
      response.result = exit.result ∧
      response.certificate.map (·.certificateUid) = exit.certificateUid := by
  rcases outcome.outcome with ⟨error, -, failed, -⟩ |
    ⟨other, answered, completed, isAnswer, result, uid, database⟩
  · cases failed.symm.trans returned
  · cases isAnswer.symm.trans returned
    cases checked : checkLog direct.working row with
    | error error =>
        rw [checked] at completed
        cases completed
    | ok _ =>
        rw [checked] at completed
        cases completed
        exact ⟨(congrFun database .verificationLogs).trans (logs checked), result, uid⟩

/-- An answer of the file flow has its row, under an identifier of its own. -/
theorem FilePath.logged {request : FileRequest} {hash : Bytes32} {response : VerificationResponse}
    (path : FilePath runtime (flowStart store.toStore inputs) request blockchainService hash block)
    (outcome : FlowOutcome block flow) (returned : flow.1 = .ok response) :
    ∃ row, RowOf store.database flow.2.database request (hexText hash.1) response row ∧
      row.id = inputs.uuid4 (logIdRead store.database request (hexText hash.1)) := by
  have sameLookup : fileCertificate (flowStart store.toStore inputs).working request.certUidHint
    (hexText hash.1) = fileCertificate store.database request.certUidHint (hexText hash.1) := rfl
  unfold logIdRead
  cases path with
  | raised found isConfirmed consulted =>
      rcases outcome.outcome with ⟨error, -, failed, -⟩ | ⟨exit, answered, impossible, -⟩
      · cases failed.symm.trans returned
      · cases impossible
  | notFound absent returns reports logs =>
      obtain ⟨added, result, uid⟩ := committed_of_logged outcome logs returned
      refine ⟨_, ⟨added, (result.trans returns).symm, rfl, rfl, none, by simp, rfl,
        uid.trans reports⟩, ?_⟩
      rw [← sameLookup, absent]
      rfl
  | @unconfirmed certificate _ _ _ found isUnconfirmed returns reports logs =>
      obtain ⟨added, result, uid⟩ := committed_of_logged outcome logs returned
      refine ⟨_, ⟨added, (result.trans returns).symm, rfl, rfl, ?_⟩, ?_⟩
      · rw [uid, reports]
        exact aboutSame_some (fileCertificate_mem found) rfl
      · rw [← sameLookup, found]
        simp [isUnconfirmed]
        rfl
  | @confirmed certificate evidence asked processingTime _ _ found isConfirmed consulted returns _
      reports logs =>
      obtain ⟨added, result, uid⟩ := committed_of_logged outcome logs returned
      refine ⟨_, ⟨added, (result.trans returns).symm, rfl, rfl, ?_⟩, ?_⟩
      · rw [uid, reports]
        exact aboutSame_some (fileCertificate_mem found) rfl
      · rw [← sameLookup, found]
        simp only [Option.any_some, isConfirmed, decide_true, if_true]
        exact confirmedRow_id request consulted processingTime

end paths

/-- What the round trip promises in a later store: whoever sent the file gets the log row
of the very call, anybody else an ownership violation. -/
def RoundTrip (before after : Database) (request : FileRequest) (submittedHash : String)
    (response : VerificationResponse) (later : Store) (inputs : Inputs) : Prop :=
  ∃ row, RowOf before after request submittedHash response row ∧
    (∀ user : User, user.id = request.currentUserId →
      EmployerService.detail later inputs response.verificationId user = .ok row) ∧
    ∀ other : User, other.id ≠ request.currentUserId →
      EmployerService.detail later inputs response.verificationId other =
        .error ErrorClass.OwnershipViolationError.default

/-- A returned `verification_id` leads back to the log row exactly when the id drawn for the
row happens to be the one drawn for the response. -/
theorem verification_detail_iff (runtime : Runtime) (store : ValidStore) (inputs : Inputs)
    (fileBytes : List UInt8) (request : FileRequest) (blockchainService : Bool)
    (response : VerificationResponse)
    (returned : ((verifyByFileUpload runtime fileBytes request blockchainService).run
      sessionHandler (store.toStore, .fresh inputs)).1 = .ok response)
    (later : ValidStore) (laterInputs : Inputs)
    (kept : ∀ row ∈ ((verifyByFileUpload runtime fileBytes request blockchainService).run
      sessionHandler (store.toStore, .fresh inputs)).2.1.database .verificationLogs,
      row ∈ later.database .verificationLogs) :
    RoundTrip store.database ((verifyByFileUpload runtime fileBytes request
        blockchainService).run sessionHandler (store.toStore, .fresh inputs)).2.1.database request
        (generateHashFromFile runtime fileBytes) response later.toStore laterInputs ↔
      inputs.uuid4 (logIdRead store.database request (generateHashFromFile runtime fileBytes)) =
        inputs.uuid4 1 := by
  obtain ⟨sameOutcome, described⟩ := store.run_eq inputs
    (verifyByFileUpload runtime fileBytes request blockchainService)
  have sameDatabase := congrArg Direct.database described
  obtain ⟨block, path, -, outcome⟩ :=
    verifyByFileUpload_path runtime store inputs fileBytes request blockchainService
  have returnedDirect := sameOutcome.symm.trans returned
  obtain ⟨row, isRow, rowIdIs⟩ := path.logged outcome returnedDirect
  have responseId : response.verificationId = inputs.uuid4 1 :=
    verificationId_of_returned (Prod.ext returnedDirect rfl)
  rw [show ((verifyByFileUpload runtime fileBytes request blockchainService).run sessionHandler
    (store.toStore, .fresh inputs)).2.1.database = _ from sameDatabase] at kept ⊢
  constructor
  · rintro ⟨found, isFound, sender, -⟩
    obtain rfl := List.singleton_inj.mp (List.append_cancel_left (isFound.added.symm.trans
      isRow.added))
    have answered := sender { Sample.administrator with id := request.currentUserId } rfl
    rw [EmployerService.detail_eq] at answered
    cases looked : later.database.find? .verificationLogs response.verificationId with
    | none =>
        rw [looked] at answered
        cases answered
    | some log =>
        rw [looked] at answered
        dsimp only at answered
        split at answered
        · cases answered
        · cases answered
          have sameId := (Database.find?_some looked).2
          exact rowIdIs.symm.trans (sameId.trans responseId)
  · intro sameDraw
    have member : row ∈ later.database .verificationLogs := by
      refine kept row ?_
      rw [isRow.added]
      exact List.mem_append_right _ (List.mem_singleton_self row)
    have looked := @Database.Keyed.find? _ later.valid.keyed .verificationLogs row member
    have sameId : response.verificationId = @rowId .verificationLogs row :=
      responseId.trans (sameDraw.symm.trans rowIdIs.symm)
    refine ⟨row, isRow, fun user isSender => ?_, fun other isOther => ?_⟩
    · rw [EmployerService.detail_eq, sameId, looked]
      simp [isRow.verifier, isSender]
    · rw [EmployerService.detail_eq, sameId, looked]
      simp [isRow.verifier, Ne.symm isOther]

/-- Random sources that answer with one id only. -/
def repeatingInputs : Inputs := { Sample.inputs Sample.answered with uuid4 := fun _ => 101 }

/-- With such sources the round trip works, in the store the call left. -/
theorem verification_detail_repeated :
    ∃ response, ((verifyByFileUpload Runtime.sample Sample.file sampleUpload true).run
        sessionHandler (confirmedStore.toStore, .fresh repeatingInputs)).1 = .ok response ∧
      RoundTrip confirmedStore.database ((verifyByFileUpload Runtime.sample Sample.file
          sampleUpload true).run sessionHandler
            (confirmedStore.toStore, .fresh repeatingInputs)).2.1.database sampleUpload
        (generateHashFromFile Runtime.sample Sample.file) response
        ((verifyByFileUpload Runtime.sample Sample.file sampleUpload true).run sessionHandler
          (confirmedStore.toStore, .fresh repeatingInputs)).2.1 repeatingInputs := by
  have returns : (raisedBy ((verifyByFileUpload Runtime.sample Sample.file sampleUpload true).run
      sessionHandler (confirmedStore.toStore, .fresh repeatingInputs)).1) = none := by
    decide +kernel
  cases returned : ((verifyByFileUpload Runtime.sample Sample.file sampleUpload true).run
      sessionHandler (confirmedStore.toStore, .fresh repeatingInputs)).1 with
  | error error =>
      rw [returned] at returns
      cases returns
  | ok response =>
      refine ⟨response, rfl, ?_⟩
      have valid := confirmedStore.run_valid repeatingInputs
        (verifyByFileUpload Runtime.sample Sample.file sampleUpload true)
      exact (verification_detail_iff Runtime.sample confirmedStore repeatingInputs Sample.file
        sampleUpload true response returned ⟨_, valid⟩ repeatingInputs fun _ member => member).mpr
        rfl

/-- What a response's id leads its own sender to. -/
def ownDetail (inputs : Inputs) : Option (Except Exception VerificationLog) :=
  let ended := (verifyByFileUpload Runtime.sample Sample.file sampleUpload true).run sessionHandler
    (confirmedStore.toStore, .fresh inputs)
  ended.1.toOption.map fun response => EmployerService.detail ended.2.1 inputs
    response.verificationId { Sample.administrator with id := sampleUpload.currentUserId }

/-- With ids that differ, the sender of the sample file is told that there is no record. -/
theorem own_verification_not_found :
    ownDetail (Sample.inputs Sample.answered) =
      some (.error (.app .NotFoundError "Verification record not found")) := by
  decide +kernel

end VerificationService
end AcademicCredential
