import AcademicCredential.Services.SourceOfTruth

/-!
# The audit trail of verifications

Every verification should leave one committed log row about what it returned, or raise
for invalid input and leave none. The flows are followed to the commit: a returned
result is committed together with its row except for unusable tokens, which are never
logged, and a row the table refuses or an error of the chain that is not caught turns
the verification into an exception.
-/

namespace AcademicCredential

open AcademicCredential.Lib
open AcademicCredential.Contract

namespace VerificationService

/-- The log row is about the certificate that the response reports on, if any. -/
def AboutSame (before : Database) (row : VerificationLog) (reported : Option String) : Prop :=
  ∃ certificate : Option Certificate, (∀ stored ∈ certificate, stored ∈ before .certificates) ∧
    row.certificateId = certificate.map (·.id) ∧
    reported = certificate.map (·.certificateUid)

/-- A call that returned has committed exactly one log row, with its result, method and
certificate; a call that raised has committed none, and did so for invalid input. -/
def Traced (before after : Database) (method : VerificationMethod) (invalidInput : Prop) :
    Except Exception VerificationResponse → Prop
  | .ok response => ∃ row, after .verificationLogs = before .verificationLogs ++ [row] ∧
      row.result = response.result ∧ row.verificationMethod = method ∧
      AboutSame before row (response.certificate.map (·.certificateUid))
  | .error _ => after .verificationLogs = before .verificationLogs ∧ invalidInput

/-- The only file verifications that are refused for their input: nothing matches, and
the hint is longer than any certificate UID. -/
def InvalidUpload (database : Database) (request : FileRequest) (submittedHash : String) : Prop :=
  fileCertificate database request.certUidHint submittedHash = none ∧
    ∃ hint ∈ request.certUidHint, 50 < hint.length

/-- When a file verification leaves its trace. -/
def FileTraced (runtime : Runtime) (store : Store) (inputs : Inputs) (hash : Bytes32)
    (request : FileRequest) (blockchainService : Bool) : Prop :=
  match fileCertificate store.database request.certUidHint (hexText hash.1) with
  | none => (∀ hint ∈ request.certUidHint, hint.length ≤ 50) →
      LogIdFree store.database (inputs.uuid4 4)
  | some certificate =>
      let start := flowStart store inputs
      if certificate.blockchainStatus = .CONFIRMED then
        ¬ (blockchainService = true ∧
            ChainRaises runtime start certificate.certificateUid hash) ∧
          storeTxHash store.database certificate.id ≠ "" ∧
          (blockchainService = true ∧
              ChainDecides runtime start certificate.certificateUid hash .AUTHENTIC →
            hexText hash.1 = certificate.sha256Hash) ∧
          LogIdFree store.database (inputs.uuid4 5)
      else
        LogIdFree store.database (inputs.uuid4 4)

/-- When a scan leaves its trace: never for an unusable token. -/
def ScanTraced (runtime : Runtime) (store : Store) (inputs : Inputs) (request : ScanRequest)
    (blockchainService : Bool) : Prop :=
  let start := flowStart store inputs
  ∃ qr certificate, scannedIn start request.token = some (qr, certificate) ∧
    ¬ (Consults certificate blockchainService ∧ ChainRaises runtime start
      certificate.certificateUid (certificateHash certificate)) ∧
    qr.totalScanCount + 1 < 2 ^ 31 ∧ storeTxHash store.database certificate.id ≠ "" ∧
    ¬ (Consults certificate blockchainService ∧ ChainDecides runtime start
      certificate.certificateUid (certificateHash certificate) .TAMPERED) ∧
    LogIdFree store.database (inputs.uuid4 ((scanState start request.token).reads + 3))

section paths

variable {runtime : Runtime} {store : ValidStore} {inputs : Inputs} {blockchainService : Bool}
  {block : Except Exception FlowExit × Direct}
  {flow : Except Exception VerificationResponse × Direct}

/-- A flow whose block raises has committed nothing. -/
theorem traced_of_raised {before : Database} {method : VerificationMethod} {invalidInput : Prop}
    {error : Exception} {left : Direct} (outcome : FlowOutcome (.error error, left) flow)
    (unchanged : left.database = before) :
    Traced before flow.2.database method invalidInput flow.1 ↔ invalidInput := by
  rcases outcome.outcome with ⟨other, -, failed, database⟩ | ⟨exit, response, impossible, -⟩
  · rw [failed, Traced, database, unchanged]
    simp
  · cases impossible

/-- A flow that ends with the insertion of a log row leaves its trace exactly when the
row is accepted, or refused for invalid input. -/
theorem traced_of_logged {direct left : Direct} {row : VerificationLog} {exit : FlowExit}
    {method : VerificationMethod} {invalidInput : Prop} {reported : Option String}
    (outcome : FlowOutcome ((checkLog direct.working row).map fun _ => exit, left) flow)
    (unchanged : left.database = direct.working) (logs : Logs direct row left)
    (sameResult : row.result = exit.result) (sameMethod : row.verificationMethod = method)
    (reports : exit.certificateUid = reported)
    (about : AboutSame direct.working row reported) :
    Traced direct.working flow.2.database method invalidInput flow.1 ↔
      checkLog direct.working row = .ok () ∨ invalidInput := by
  cases checked : checkLog direct.working row with
  | ok _ =>
      rw [checked] at outcome
      rcases outcome.outcome with ⟨other, impossible, -⟩ |
        ⟨exit, response, left, returned, result, uid, database⟩
      · cases impossible
      · cases left
        refine iff_of_true ?_ (.inl rfl)
        rw [returned, Traced]
        refine ⟨row, ?_, sameResult.trans result.symm, sameMethod, ?_⟩
        · rw [database]
          exact logs checked
        · rw [uid, reports]
          exact about
  | error error =>
      rw [checked] at outcome
      rw [traced_of_raised outcome unchanged]
      simp

/-- A request whose certificate is found is valid. -/
theorem not_invalidUpload {database : Database} {request : FileRequest} {submittedHash : String}
    {certificate : Certificate}
    (found : fileCertificate database request.certUidHint submittedHash = some certificate) :
    ¬ InvalidUpload database request submittedHash := by
  rintro ⟨absent, -⟩
  cases absent.symm.trans found

/-- A row about a stored certificate names its UID. -/
theorem aboutSame_some {before : Database} {row : VerificationLog} {certificate : Certificate}
    (member : certificate ∈ before .certificates) (sameId : row.certificateId = some certificate.id) :
    AboutSame before row (some certificate.certificateUid) := by
  refine ⟨some certificate, ?_, sameId, rfl⟩
  intro stored isCertificate
  cases isCertificate
  exact member

/-- The file flow leaves its trace exactly under the condition on its inputs. -/
theorem FilePath.traced {request : FileRequest} {hash : Bytes32}
    (path : FilePath runtime (flowStart store.toStore inputs) request blockchainService hash block)
    (unchanged : block.2.database = store.database) (outcome : FlowOutcome block flow) :
    Traced store.database flow.2.database .FILE_UPLOAD
        (InvalidUpload store.database request (hexText hash.1)) flow.1 ↔
      FileTraced runtime store.toStore inputs hash request blockchainService := by
  have sameLookup : fileCertificate (flowStart store.toStore inputs).working request.certUidHint
    (hexText hash.1) = fileCertificate store.database request.certUidHint (hexText hash.1) := rfl
  unfold FileTraced
  cases path with
  | @raised certificate error _ found isConfirmed consulted =>
      obtain ⟨consults, raised, reached⟩ := evidenceIn_error consulted
      have raises : ChainRaises runtime (flowStart store.toStore inputs)
          certificate.certificateUid hash := by
        refine ⟨error, ?_, reached⟩
        rw [← raised]
        exact @chainAnswers_congr runtime (flowStart store.toStore inputs)
          (flowStart store.toStore inputs).read rfl rfl rfl certificate.certificateUid hash
      rw [traced_of_raised outcome unchanged, ← sameLookup, found]
      refine iff_of_false (not_invalidUpload (sameLookup ▸ found)) ?_
      simp only [if_pos isConfirmed]
      exact fun conditions => conditions.1 ⟨consults, raises⟩
  | notFound absent returns reports logs =>
      rw [sameLookup] at absent
      have traced := @traced_of_logged flow (flowStart store.toStore inputs) _ _ _ .FILE_UPLOAD
        (InvalidUpload store.database request (hexText hash.1)) none outcome unchanged logs
        returns.symm rfl reports ⟨none, by simp, rfl, rfl⟩
      refine traced.trans ?_
      rw [absent, checkLog_ok]
      refine (or_congr_left (and_congr_left' (notFound_admissible request hash _))).trans ?_
      have free : ∀ id, (flowStart store.toStore inputs).working.find? .verificationLogs id = none ↔
        LogIdFree store.database id := fun _ => Iff.rfl
      constructor
      · rintro (⟨-, isFree⟩ | ⟨-, hint, given, tooLong⟩) fits
        · exact isFree
        · exact absurd (fits hint given) (by omega)
      · intro conditions
        by_cases fits : ∀ hint ∈ request.certUidHint, hint.length ≤ 50
        · exact .inl ⟨fits, conditions fits⟩
        · simp only [not_forall, not_le] at fits
          obtain ⟨hint, given, tooLong⟩ := fits
          exact .inr ⟨absent, hint, given, tooLong⟩
  | @unconfirmed certificate _ _ _ found isUnconfirmed returns reports logs =>
      have member := fileCertificate_mem found
      have traced := @traced_of_logged flow (flowStart store.toStore inputs) _ _ _ .FILE_UPLOAD
        (InvalidUpload store.database request (hexText hash.1)) _ outcome unchanged logs
        returns.symm rfl reports (aboutSame_some member rfl)
      refine traced.trans ?_
      rw [← sameLookup, found, checkLog_ok]
      simp only [if_neg isUnconfirmed]
      rw [or_iff_left (not_invalidUpload (sameLookup ▸ found))]
      exact and_iff_right (unconfirmed_admissible (store.valid.admissible .certificates certificate
        member) request hash _)
  | @confirmed certificate evidence _ processingTime _ _ found isConfirmed consulted returns _ reports
      logs =>
      have member := fileCertificate_mem found
      have traced := @traced_of_logged flow (flowStart store.toStore inputs) _ _ _ .FILE_UPLOAD
        (InvalidUpload store.database request (hexText hash.1)) _ outcome unchanged logs
        returns.symm rfl reports (aboutSame_some member rfl)
      have sameAnswers := @chainAnswers_congr runtime (flowStart store.toStore inputs).read
        (flowStart store.toStore inputs) rfl rfl rfl certificate.certificateUid hash
      have authentic := evidenceIn_result_iff (fun _ => rfl)
        (fileFallback_not_authentic certificate (hexText hash.1)) consulted
      have notRaised := evidenceIn_not_raises consulted
      simp only [ChainDecides, ChainRaises, sameAnswers] at authentic notRaised
      refine traced.trans ?_
      rw [← sameLookup, found, or_iff_left (not_invalidUpload (sameLookup ▸ found)),
        confirmedRow_accepted member consulted, FileLogAccepted, authentic]
      simp only [if_pos isConfirmed, ChainDecides, ChainRaises]
      constructor
      · exact fun conditions => ⟨fun both => notRaised both.1 both.2, conditions⟩
      · exact fun conditions => conditions.2

/-- A scan leaves its trace exactly under the condition on its inputs. -/
theorem QrPath.traced {request : ScanRequest}
    (path : QrPath runtime (flowStart store.toStore inputs) request blockchainService block)
    (unchanged : block.2.database = store.database) (outcome : FlowOutcome block flow) :
    Traced store.database flow.2.database .QR_SCAN False flow.1 ↔
      ScanTraced runtime store.toStore inputs request blockchainService := by
  obtain ⟨sameChain, sameInputs, sameCalls⟩ :=
    scanState_chain (flowStart store.toStore inputs) request.token
  have sameAnswers := chainAnswers_congr runtime sameChain sameInputs sameCalls
  unfold ScanTraced
  cases path with
  | notFound absent returns unlogged =>
      rcases outcome.outcome with ⟨other, impossible, -⟩ |
        ⟨exit, response, left, returned, result, uid, database⟩
      · cases impossible
      · refine iff_of_false ?_ ?_
        · rw [returned, Traced, database]
          rintro ⟨row, longer, -⟩
          have sameLength := congrArg List.length (unlogged.symm.trans longer)
          have start : (flowStart store.toStore inputs).working = store.database := rfl
          simp [start] at sameLength
        · rintro ⟨qr, certificate, found, -⟩
          cases absent.symm.trans found
  | @raised qr certificate error _ hash found isHash consulted =>
      obtain ⟨consults, raised, reached⟩ := evidenceIn_error consulted
      rw [traced_of_raised outcome unchanged]
      refine iff_of_false (fun impossible => impossible) ?_
      rintro ⟨otherQr, other, alsoFound, notRaised, -⟩
      cases found.symm.trans alsoFound
      rw [certificateHash_eq isHash] at notRaised
      refine notRaised ⟨by simpa [Consults] using consults, error, ?_, reached⟩
      rw [← raised, sameAnswers]
  | uncounted found _ _ full _ =>
      rw [traced_of_raised outcome unchanged]
      refine iff_of_false (fun impossible => impossible) ?_
      rintro ⟨otherQr, other, alsoFound, -, room, -⟩
      cases found.symm.trans alsoFound
      exact full room
  | @counted qr certificate evidence _ processingTime _ _ hash found isHash consulted room returns _
      reports logs =>
      obtain ⟨-, member⟩ := scannedIn_found found
      have traced := @traced_of_logged flow (flowStart store.toStore inputs) _ _ _ .QR_SCAN False _
        outcome unchanged logs returns.symm rfl reports (aboutSame_some member rfl)
      have accepted := (and_iff_right room).symm.trans
        (scanRow_accepted member consulted qr processingTime)
      have tampered := evidenceIn_result_iff (fun _ => rfl)
        (qrFallback_not_tampered certificate) consulted
      have notRaised := evidenceIn_not_raises consulted
      have consults_iff : (decide (certificate.blockchainStatus = .CONFIRMED) &&
          blockchainService) = true ↔ Consults certificate blockchainService := by
        simp [Consults]
      simp only [ChainDecides, ChainRaises, sameAnswers, consults_iff] at tampered notRaised
      refine traced.trans ?_
      rw [or_false, accepted, ScanLogAccepted, Ne, Ne, tampered]
      constructor
      · intro conditions
        refine ⟨qr, certificate, found, ?_, ?_⟩
        · rw [certificateHash_eq isHash]
          exact fun both => notRaised both.1 both.2
        · rw [certificateHash_eq isHash]
          exact conditions
      · rintro ⟨otherQr, other, alsoFound, -, conditions⟩
        cases found.symm.trans alsoFound
        rwa [certificateHash_eq isHash] at conditions

end paths

/-- Each verification leaves exactly one trace under exactly the conditions above. -/
theorem verification_traced_iff (runtime : Runtime) (store : ValidStore) (inputs : Inputs)
    (fileBytes : List UInt8) (fileRequest : FileRequest) (scanRequest : ScanRequest)
    (blockchainService : Bool) :
    let file := (verifyByFileUpload runtime fileBytes fileRequest blockchainService).run
      sessionHandler (store.toStore, .fresh inputs)
    let scan := (verifyByQrToken runtime scanRequest blockchainService).run sessionHandler
      (store.toStore, .fresh inputs)
    (Traced store.database file.2.1.database .FILE_UPLOAD
        (InvalidUpload store.database fileRequest (generateHashFromFile runtime fileBytes)) file.1 ↔
      FileTraced runtime store.toStore inputs (runtime.sha256 fileBytes) fileRequest
        blockchainService) ∧
    (Traced store.database scan.2.1.database .QR_SCAN False scan.1 ↔
      ScanTraced runtime store.toStore inputs scanRequest blockchainService) := by
  intro file scan
  constructor
  · obtain ⟨sameOutcome, described⟩ := store.run_eq inputs
      (verifyByFileUpload runtime fileBytes fileRequest blockchainService)
    obtain ⟨block, path, unchanged, outcome⟩ :=
      verifyByFileUpload_path runtime store inputs fileBytes fileRequest blockchainService
    have sameDatabase := congrArg Direct.database described
    rw [show file.1 = _ from sameOutcome, show file.2.1.database = _ from sameDatabase]
    exact path.traced unchanged outcome
  · obtain ⟨sameOutcome, described⟩ := store.run_eq inputs
      (verifyByQrToken runtime scanRequest blockchainService)
    obtain ⟨block, path, unchanged, outcome⟩ :=
      verifyByQrToken_path runtime store inputs scanRequest blockchainService
    have sameDatabase := congrArg Direct.database described
    rw [show scan.1 = _ from sameOutcome, show scan.2.1.database = _ from sameDatabase]
    exact path.traced unchanged outcome

/-- Nothing was ever generated for this token. -/
def unknownScan : ScanRequest where
  token := "unknown"
  requestIp := none
  userAgent := none

/-- A scan of an unknown token returns NOT_FOUND and commits no log row. -/
theorem unknown_scan_untraced :
    ¬ Traced confirmedStore.database
      ((verifyByQrToken Runtime.sample unknownScan true).run sessionHandler
        (confirmedStore.toStore, .fresh (Sample.inputs Sample.answered))).2.1.database .QR_SCAN
      False ((verifyByQrToken Runtime.sample unknownScan true).run sessionHandler
        (confirmedStore.toStore, .fresh (Sample.inputs Sample.answered))).1 := by
  have unlogged : (((verifyByQrToken Runtime.sample unknownScan true).run sessionHandler
      (confirmedStore.toStore, .fresh (Sample.inputs Sample.answered))).2.1.database
        .verificationLogs).length = 0 := by decide +kernel
  generalize (verifyByQrToken Runtime.sample unknownScan true).run sessionHandler
    (confirmedStore.toStore, .fresh (Sample.inputs Sample.answered)) = run at unlogged ⊢
  obtain ⟨error | response, store, session⟩ := run
  · exact fun traced => traced.2
  · rintro ⟨row, longer, -⟩
    rw [longer, List.length_append] at unlogged
    simp at unlogged

end VerificationService
end AcademicCredential
