import AcademicCredential.Services.GoldenRule

/-!
# Which log rows can be stored

Each flow ends with the insertion of one row into `verification_logs`, and a row the
CHECK constraints refuse aborts the whole verification. For each of the four kinds of
rows this module says when the constraints accept it, and for each flow on which states
and answers of the chain the row it hands over is accepted.
-/

namespace AcademicCredential

open AcademicCredential.Lib
open AcademicCredential.Contract

namespace VerificationService

/-- The row is accepted exactly when it is admissible and its identifier is new. -/
theorem checkLog_ok {database : Database} {row : VerificationLog} :
    checkLog database row = .ok () ↔
      @Admissible .verificationLogs row ∧ database.find? .verificationLogs row.id = none := by
  unfold checkLog checkInsert Admissible
  have sameConstraints : insertConstraints 0 .verificationLogs = constraints .verificationLogs := rfl
  rw [sameConstraints]
  cases violation? (constraints .verificationLogs) row with
  | some _ => simp
  | none =>
      simp only [true_and]
      have free : @conflict? .verificationLogs row (database .verificationLogs) = none ↔
          database.find? .verificationLogs row.id = none := by
        rw [conflict?_eq_none, Database.find?, List.find?_eq_none]
        simp [uniqueKeys, rowId, eq_comm]
      rw [← free]
      cases @conflict? .verificationLogs row (database .verificationLogs) <;> simp

/-- A row is refused by a CHECK constraint or a column length exactly when it is not
admissible. -/
theorem checkLog_violation {database : Database} {row : VerificationLog} :
    (∃ constraint, checkLog database row =
        .error (.CheckViolation Table.verificationLogs.name constraint)) ↔
      ¬ @Admissible .verificationLogs row := by
  unfold checkLog checkInsert Admissible
  have sameConstraints : insertConstraints 0 .verificationLogs = constraints .verificationLogs := rfl
  rw [sameConstraints]
  cases violation? (constraints .verificationLogs) row with
  | some constraint => simp
  | none => cases @conflict? .verificationLogs row (database .verificationLogs) <;> simp

/-- What the constraints of `certificates` say about the columns a log row copies. -/
theorem certificate_columns {certificate : Certificate}
    (admissible : @Admissible .certificates certificate) :
    certificate.certificateUid.length ≤ 50 ∧ certificate.degreeTitle.length ≤ 300 ∧
      certificate.recipientName.length ≤ 300 ∧ certificate.sha256Hash.length ≤ 64 ∧
      isSha256Text certificate.sha256Hash = true := by
  have passes := violation?_eq_none.mp admissible
  simp only [constraints, Certificate.constraints, List.forall_mem_cons] at passes
  simp [fits] at passes
  grind

/-- A hash is at most 64 characters long. -/
theorem length_hexText (hash : Bytes32) : (hexText hash.1).length ≤ 64 := by
  simp [hexText, Hex.encode_length, hash.2]

/-- The transaction hash a verification reports is empty or one the table has accepted. -/
theorem storeTxHash_columns {database : Database} (valid : database.Valid) (certificateId : Uuid) :
    storeTxHash database certificateId = "" ∨
      storeTxHash database certificateId ≠ "" ∧
        (storeTxHash database certificateId).length ≤ 66 ∧
        isTxHashText (storeTxHash database certificateId) = true := by
  unfold storeTxHash
  cases found : storedTx? database certificateId with
  | none => exact .inl rfl
  | some tx =>
      have member := List.mem_of_find?_eq_some found
      have hashed := List.find?_some found
      simp only [BlockchainTransactionRepository.bySubmission, List.mem_insertionSort,
        List.mem_filter] at member
      have passes := violation?_eq_none.mp
        (valid.admissible .blockchainTransactions tx member.1)
      simp only [constraints, BlockchainTransaction.constraints, List.forall_mem_cons] at passes
      cases given : tx.txHash with
      | none => simp [given] at hashed
      | some hash =>
          simp [given] at hashed
          simp [given, fits] at passes
          exact .inr ⟨by simpa [given] using hashed.2, by simpa [given] using passes.1,
            by simpa [given] using (by grind : isTxHashText hash = true)⟩

section rows

variable {id : Uuid} {verifiedAt : Timestamp} {certificate : Certificate}

/-- A file that matches nothing: the hint is stored as it was sent. -/
theorem notFound_admissible (request : FileRequest) (hash : Bytes32) (processingTime : Nat) :
    @Admissible .verificationLogs
        ((request.notFoundEntry (hexText hash.1) processingTime).row id verifiedAt) ↔
      ∀ hint ∈ request.certUidHint, hint.length ≤ 50 := by
  have format := isSha256Text_hexText hash
  have length := length_hexText hash
  unfold Admissible
  rw [violation?_eq_none]
  simp only [constraints, VerificationLog.constraints, List.forall_mem_cons, LogEntry.row,
    FileRequest.notFoundEntry]
  cases request.certUidHint <;> simp [fits, format, length]

/-- A certificate that is not confirmed: every column comes from a stored row. -/
theorem unconfirmed_admissible (admissible : @Admissible .certificates certificate)
    (request : FileRequest) (hash : Bytes32) (processingTime : Nat) :
    @Admissible .verificationLogs
      ((request.unconfirmedEntry certificate (hexText hash.1) processingTime).row id
        verifiedAt) := by
  have format := isSha256Text_hexText hash
  have length := length_hexText hash
  obtain ⟨uid, degree, recipient, hashLength, hashFormat⟩ := certificate_columns admissible
  have notAuthentic : unconfirmedResult certificate ≠ .AUTHENTIC := by
    unfold unconfirmedResult
    split <;> decide
  unfold Admissible
  rw [violation?_eq_none]
  simp only [constraints, VerificationLog.constraints, List.forall_mem_cons, LogEntry.row,
    FileRequest.unconfirmedEntry]
  simp [fits, format, length, uid, degree, recipient, hashLength, hashFormat, notAuthentic]

/-- A file with a confirmed certificate: there must be a transaction hash to report, and
an AUTHENTIC file must match the hash in the database too. -/
theorem confirmed_admissible (admissible : @Admissible .certificates certificate)
    {database : Database} (valid : database.Valid) (request : FileRequest) (hash : Bytes32)
    (evidence : ChainEvidence) (processingTime : Nat) :
    @Admissible .verificationLogs
        ((request.confirmedEntry certificate (hexText hash.1) evidence
          (storeTxHash database certificate.id) processingTime).row id verifiedAt) ↔
      storeTxHash database certificate.id ≠ "" ∧
        (evidence.result = .AUTHENTIC → hexText hash.1 = certificate.sha256Hash) := by
  have format := isSha256Text_hexText hash
  have length := length_hexText hash
  obtain ⟨uid, degree, recipient, hashLength, hashFormat⟩ := certificate_columns admissible
  have emptyText : isTxHashText "" = false := by decide
  unfold Admissible
  rw [violation?_eq_none]
  simp only [constraints, VerificationLog.constraints, List.forall_mem_cons, LogEntry.row,
    FileRequest.confirmedEntry]
  rcases storeTxHash_columns valid certificate.id with none | ⟨given, txLength, txFormat⟩
  · simp [none, emptyText]
  · simp [fits, format, length, uid, degree, recipient, hashLength, hashFormat, given, txLength,
      txFormat, compareHashes]
    cases evidence.result <;> simp

/-- A scan: there must be a transaction hash to report, and no file was submitted that a
TAMPERED result could be about. -/
theorem scan_admissible (admissible : @Admissible .certificates certificate)
    {database : Database} (valid : database.Valid) (request : ScanRequest) (qr : QRVerification)
    (evidence : ChainEvidence) (processingTime : Nat) :
    @Admissible .verificationLogs
        ((request.entry qr certificate evidence (storeTxHash database certificate.id)
          processingTime).row id verifiedAt) ↔
      storeTxHash database certificate.id ≠ "" ∧ evidence.result ≠ .TAMPERED := by
  obtain ⟨uid, degree, recipient, hashLength, hashFormat⟩ := certificate_columns admissible
  have emptyText : isTxHashText "" = false := by decide
  unfold Admissible
  rw [violation?_eq_none]
  simp only [constraints, VerificationLog.constraints, List.forall_mem_cons, LogEntry.row,
    ScanRequest.entry]
  rcases storeTxHash_columns valid certificate.id with none | ⟨given, txLength, txFormat⟩
  · simp [none, emptyText]
  · simp [fits, uid, degree, recipient, hashLength, hashFormat, given, txLength, txFormat]

end rows

/-- The outcome is not the refusal of a log row by a CHECK constraint or a column length. -/
def LogStorable {Value : Type} (outcome : Except Exception Value) : Prop :=
  ∀ constraint, outcome ≠ .error (.CheckViolation Table.verificationLogs.name constraint)

/-- The exit stores its row exactly when the row is admissible. -/
theorem logStorable_checkLog {database : Database} {row : VerificationLog} {exit : FlowExit} :
    LogStorable ((checkLog database row).map fun _ => exit) ↔ @Admissible .verificationLogs row := by
  rw [← not_not (a := @Admissible .verificationLogs row), ← @checkLog_violation database row]
  cases checkLog database row <;> simp [LogStorable, Except.map]

/-- The flow stores its row exactly when its block does. -/
theorem FlowOutcome.storable {block : Except Exception FlowExit × Direct}
    {flow : Except Exception VerificationResponse × Direct} (outcome : FlowOutcome block flow) :
    LogStorable flow.1 ↔ LogStorable block.1 := by
  rcases outcome.outcome with ⟨error, raised, failed, -⟩ | ⟨exit, response, left, returned, -⟩
  · simp [LogStorable, raised, failed]
  · simp [LogStorable, left, returned]

/-- The bytes of a certificate's hash. -/
def certificateHash (certificate : Certificate) : Bytes32 :=
  (sizedBytes? 32 certificate.sha256Hash.toList).getD zeroHash

/-- The hash of a certificate is read back from its text. -/
theorem certificateHash_eq {certificate : Certificate} {hash : Bytes32}
    (isHash : hexText hash.1 = certificate.sha256Hash) : certificateHash certificate = hash := by
  simp [certificateHash, ← isHash, hexText, sizedBytes?_encode]

/-- Whether a flow consults the chain about a certificate. -/
def Consults (certificate : Certificate) (blockchainService : Bool) : Prop :=
  certificate.blockchainStatus = .CONFIRMED ∧ blockchainService = true

/-- When the log row of a file verification can be stored: no hint that is too long is
recorded; and for a confirmed certificate the chain ends the flow before any row is
written, or there is a transaction hash to report and an AUTHENTIC answer is about the
hash that the database has. -/
def FileRowStorable (runtime : Runtime) (store : Store) (inputs : Inputs) (hash : Bytes32)
    (request : FileRequest) (blockchainService : Bool) : Prop :=
  match fileCertificate store.database request.certUidHint (hexText hash.1) with
  | none => ∀ hint ∈ request.certUidHint, hint.length ≤ 50
  | some certificate =>
      let start := flowStart store inputs
      certificate.blockchainStatus = .CONFIRMED →
        blockchainService = true ∧ ChainRaises runtime start certificate.certificateUid hash ∨
        storeTxHash store.database certificate.id ≠ "" ∧
          (blockchainService = true ∧
              ChainDecides runtime start certificate.certificateUid hash .AUTHENTIC →
            hexText hash.1 = certificate.sha256Hash)

/-- When the log row of a scan can be stored: for a usable token the flow ends before any
row is written, or there is a transaction hash to report and the chain does not answer
that the certificate was tampered with. -/
def ScanRowStorable (runtime : Runtime) (store : Store) (inputs : Inputs) (request : ScanRequest)
    (blockchainService : Bool) : Prop :=
  let start := flowStart store inputs
  match scannedIn start request.token with
  | none => True
  | some (qr, certificate) =>
      let hash := certificateHash certificate
      ¬ qr.totalScanCount + 1 < 2 ^ 31 ∨
        Consults certificate blockchainService ∧
          ChainRaises runtime start certificate.certificateUid hash ∨
        storeTxHash store.database certificate.id ≠ "" ∧
          ¬ (Consults certificate blockchainService ∧
            ChainDecides runtime start certificate.certificateUid hash .TAMPERED)

section flows

variable {runtime : Runtime} {inputs : Inputs} {blockchainService : Bool}
  {block : Except Exception FlowExit × Direct}

/-- The fallback of a scan is not TAMPERED. -/
theorem qrFallback_not_tampered (certificate : Certificate) :
    (qrFallback certificate).result ≠ .TAMPERED := by
  unfold qrFallback
  dsimp only
  split <;> decide

/-- A failure of the chain is no refused row. -/
theorem logStorable_of_fromChain {error : Exception} (fromChain : error.FromChain) :
    LogStorable (.error error : Except Exception FlowExit) := by
  intro constraint same
  cases same
  exact fromChain.ne_checkViolation _ _ rfl

/-- The file flow stores its row exactly under the condition on its inputs. -/
theorem FilePath.storable {store : ValidStore} {request : FileRequest} {hash : Bytes32}
    (path : FilePath runtime (flowStart store.toStore inputs) request blockchainService hash
      block) :
    LogStorable block.1 ↔
      FileRowStorable runtime store.toStore inputs hash request blockchainService := by
  have valid : (flowStart store.toStore inputs).working.Valid := store.valid
  have found_iff : fileCertificate store.database request.certUidHint (hexText hash.1) =
    fileCertificate (flowStart store.toStore inputs).working request.certUidHint
      (hexText hash.1) := rfl
  unfold FileRowStorable
  rw [found_iff]
  cases path with
  | @raised certificate error _ found isConfirmed consulted =>
      obtain ⟨consults, raised, reached⟩ := evidenceIn_error consulted
      rw [found]
      refine iff_of_true (logStorable_of_fromChain (chainAnswers_error raised)) fun _ => .inl ?_
      refine ⟨consults, error, ?_, reached⟩
      rw [← raised]
      exact @chainAnswers_congr runtime (flowStart store.toStore inputs)
        (flowStart store.toStore inputs).read rfl rfl rfl certificate.certificateUid hash
  | notFound absent _ _ _ =>
      rw [absent, logStorable_checkLog]
      exact notFound_admissible request hash _
  | @unconfirmed certificate _ _ _ found isUnconfirmed _ _ _ =>
      rw [found, logStorable_checkLog]
      have member := fileCertificate_mem found
      exact iff_of_true
        (unconfirmed_admissible (valid.admissible .certificates certificate member) request hash _)
        fun isConfirmed => absurd isConfirmed isUnconfirmed
  | @confirmed certificate evidence _ _ _ _ found isConfirmed consulted _ _ _ _ =>
      rw [found, logStorable_checkLog]
      have member := fileCertificate_mem found
      have sameAnswers := @chainAnswers_congr runtime (flowStart store.toStore inputs).read
        (flowStart store.toStore inputs) rfl rfl rfl certificate.certificateUid hash
      have authentic := evidenceIn_result_iff (fun _ => rfl)
        (fileFallback_not_authentic certificate (hexText hash.1)) consulted
      have notRaised := evidenceIn_not_raises consulted
      simp only [ChainDecides, ChainRaises, sameAnswers] at authentic notRaised ⊢
      refine (confirmed_admissible (valid.admissible .certificates certificate member) valid request
        hash evidence _).trans ?_
      rw [authentic]
      constructor
      · exact fun storable _ => .inr storable
      · intro storable
        rcases storable isConfirmed with ⟨consults, raises⟩ | stored
        · exact absurd raises (notRaised consults)
        · exact stored

/-- A scan stores its row exactly under the condition on its inputs. -/
theorem QrPath.storable {store : ValidStore} {request : ScanRequest}
    (path : QrPath runtime (flowStart store.toStore inputs) request blockchainService block) :
    LogStorable block.1 ↔
      ScanRowStorable runtime store.toStore inputs request blockchainService := by
  have valid : (flowStart store.toStore inputs).working.Valid := store.valid
  obtain ⟨sameChain, sameInputs, sameCalls⟩ :=
    scanState_chain (flowStart store.toStore inputs) request.token
  have sameAnswers := chainAnswers_congr runtime sameChain sameInputs sameCalls
  unfold ScanRowStorable
  cases path with
  | notFound absent _ _ =>
      simp only [absent]
      exact iff_of_true (by simp [LogStorable]) trivial
  | @raised qr certificate error _ hash found isHash consulted =>
      obtain ⟨consults, raised, reached⟩ := evidenceIn_error consulted
      simp only [found, certificateHash_eq isHash]
      refine iff_of_true (logStorable_of_fromChain (chainAnswers_error raised)) (.inr (.inl ?_))
      refine ⟨by simpa [Consults] using consults, error, ?_, reached⟩
      rw [← raised, sameAnswers]
  | uncounted found isHash _ full elsewhere =>
      simp only [found]
      refine iff_of_true ?_ (.inl full)
      intro constraint same
      exact elsewhere constraint (Except.error.inj same)
  | @counted qr certificate evidence _ _ _ _ hash found isHash consulted room _ _ _ _ =>
      obtain ⟨-, member⟩ := scannedIn_found found
      have tampered := evidenceIn_result_iff (fun _ => rfl)
        (qrFallback_not_tampered certificate) consulted
      have notRaised := evidenceIn_not_raises consulted
      have consults_iff : (decide (certificate.blockchainStatus = .CONFIRMED) &&
          blockchainService) = true ↔ Consults certificate blockchainService := by
        simp [Consults]
      simp only [found, certificateHash_eq isHash, logStorable_checkLog]
      simp only [ChainDecides, ChainRaises, sameAnswers, consults_iff] at tampered notRaised ⊢
      refine (scan_admissible (valid.admissible .certificates certificate member) valid request qr
        evidence _).trans ?_
      rw [Ne, Ne, tampered]
      constructor
      · exact fun storable => .inr (.inr storable)
      · rintro (full | ⟨consults, raises⟩ | storable)
        · exact absurd room full
        · exact absurd raises (notRaised consults)
        · exact storable

end flows

/-- The log row of a verification is refused by no CHECK constraint and no column length
exactly under the conditions above. -/
theorem log_row_storable_iff (runtime : Runtime) (store : ValidStore) (inputs : Inputs)
    (fileBytes : List UInt8) (fileRequest : FileRequest) (scanRequest : ScanRequest)
    (blockchainService : Bool) :
    (LogStorable ((verifyByFileUpload runtime fileBytes fileRequest blockchainService).run
        sessionHandler (store.toStore, .fresh inputs)).1 ↔
      FileRowStorable runtime store.toStore inputs (runtime.sha256 fileBytes) fileRequest
        blockchainService) ∧
    (LogStorable ((verifyByQrToken runtime scanRequest blockchainService).run
        sessionHandler (store.toStore, .fresh inputs)).1 ↔
      ScanRowStorable runtime store.toStore inputs scanRequest blockchainService) := by
  constructor
  · obtain ⟨block, path, -, outcome⟩ :=
      verifyByFileUpload_path runtime store inputs fileBytes fileRequest blockchainService
    rw [(store.run_eq inputs _).1, outcome.storable, path.storable]
  · obtain ⟨block, path, -, outcome⟩ :=
      verifyByQrToken_path runtime store inputs scanRequest blockchainService
    rw [(store.run_eq inputs _).1, outcome.storable, path.storable]

/-- A confirmed certificate whose UID holds nothing on chain. -/
def unstoredStore : ValidStore where
  database := Sample.database .CONFIRMED
    [Sample.transaction 5 .STORE_HASH .SUBMITTED (some Sample.txHash)]
  chain := Sample.chain []
  files := []
  valid := Sample.valid_submitted

/-- A scan that the chain answers with TAMPERED has no file to log, and is refused. -/
theorem tampered_scan_refused :
    ¬ LogStorable ((verifyByQrToken Runtime.sample sampleScan true).run sessionHandler
      (unstoredStore.toStore, .fresh (Sample.inputs Sample.answered))).1 := by
  intro storable
  refine storable "chk_vlog_tampered_has_both_hashes" ?_
  decide +kernel

end VerificationService
end AcademicCredential
