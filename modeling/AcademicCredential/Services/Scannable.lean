import AcademicCredential.Lib.Interruption
import AcademicCredential.Services.Provenance
import AcademicCredential.Services.QrRows
import AcademicCredential.Services.RowsEffect

/-!
# Confirmed certificates can be scanned

Runs of uploads, confirmations, QR generations and revocations, each of which may be
broken off after any of its operations. `confirm_blockchain_storage` commits CONFIRMED in
one transaction and the QR row in a second one. A certificate without a QR row comes from a
call that ended between the two, and from nothing else; and repeating that call is refused,
because the certificate is neither PENDING nor SUBMITTED any more.
-/

namespace AcademicCredential

open AcademicCredential.Lib
open AcademicCredential.Contract
open CertificateIssuanceService (confirmBlock confirmBlockchainStorage StorageExit ConfirmPath
  Confirmable)

/-- The calls on certificates and `generate_qr_for_certificate`. -/
inductive ScanCall where
  | certificate (call : CertificateCall)
  | generateQr (certId generatedByUserId : Uuid)

/-- What a call runs. -/
def ScanCall.action (runtime : Runtime) : ScanCall → Action Unit
  | .certificate call => (fun _ => ()) <$> call.action runtime
  | .generateQr certId generatedByUserId =>
      (fun _ => ()) <$> QrVerificationService.generateQrForCertificate runtime certId
        generatedByUserId

/-- A request that is broken off after some operations, or anything else that happens. -/
inductive ScanEvent where
  /-- A call on a session of its own, of which the process performs at most the given number
  of operations. -/
  | request (call : ScanCall) (inputs : Inputs) (operations : Nat)
  | mined (transactions : List MinedTransaction)
  /-- Whatever happens to the tables that these calls do not write. -/
  | elsewhere (database : Database)

/-- What is not committed when a call is broken off is lost. -/
def ScanEvent.apply (runtime : Runtime) (store : Store) : ScanEvent → Store
  | .request call inputs operations =>
      (((call.action runtime).cut operations).run sessionHandler (store, .fresh inputs)).2.1
  | .mined transactions => { store with chain := store.chain.mineAll transactions }
  | .elsewhere database =>
      if OnlyElsewhere store.database database ∧
          database .qrVerifications = store.database .qrVerifications then
        { store with database }
      else
        store

/-- The store after a run. -/
def scanStoreAfter (runtime : Runtime) (deployer : Address) (events : List ScanEvent) : Store :=
  stateAfter (ScanEvent.apply runtime) (initialStore deployer) events

/-- The certificate has an active code. -/
def HasActiveQr (database : Database) (certId : Uuid) : Prop :=
  ∃ qr ∈ database .qrVerifications, qr.certificateId = certId ∧ qr.isActive = true

instance (database : Database) (certId : Uuid) : Decidable (HasActiveQr database certId) :=
  inferInstanceAs (Decidable (∃ qr ∈ database .qrVerifications, _))

/-- Repeating a confirmation the run contains gives the certificate an active QR row. -/
def ObtainsByRetry (runtime : Runtime) (store : Store) (events : List ScanEvent)
    (certId : Uuid) : Prop :=
  ∃ txHash user inputs operations,
    .request (.certificate (.confirmStorage certId txHash user)) inputs operations ∈ events ∧
    ∀ retryInputs, HasActiveQr ((confirmBlockchainStorage runtime certId txHash user).run
      sessionHandler (store, .fresh retryInputs)).2.1.database certId

/-- The certificate has an active QR row or obtains one by a retry. -/
def Scannable (runtime : Runtime) (store : Store) (events : List ScanEvent)
    (certificate : Certificate) : Prop :=
  HasActiveQr store.database certificate.id ∨
    ObtainsByRetry runtime store events certificate.id

/-- The event is a `confirm_blockchain_storage` whose first transaction commits CONFIRMED and
which does not return: it is broken off before its QR row is committed, or that transaction
fails. -/
def EndsBetween (runtime : Runtime) (store : Store) (event : ScanEvent) : Prop :=
  ∃ certId txHash user inputs operations certificate receipt record after,
    event = .request (.certificate (.confirmStorage certId txHash user)) inputs operations ∧
    ((transaction (confirmBlock runtime certId txHash user)).cut operations).run sessionHandler
      (store, .fresh inputs) = (.ok (some (.confirmed certificate receipt record)), after) ∧
    ∀ response, (((confirmBlockchainStorage runtime certId txHash user).cut operations).run
      sessionHandler (store, .fresh inputs)).1 ≠ .ok (some response)

/-- Nobody who is CONFIRMED afterwards lacks an active QR row, unless before already. -/
structure Scans (before after : Database) : Prop where
  confirmed : ∀ certificate ∈ after .certificates, certificate.blockchainStatus = .CONFIRMED →
    HasActiveQr after certificate.id ∨
      ∃ old ∈ before .certificates, old.id = certificate.id ∧ old.blockchainStatus = .CONFIRMED
  kept : ∀ certId, HasActiveQr before certId → HasActiveQr after certId

/-- A span that confirms nothing and leaves the codes keeps the certificates scannable. -/
theorem Scans.of_same {before after : Database}
    (certificates : ∀ certificate ∈ after .certificates,
      certificate.blockchainStatus = .CONFIRMED → certificate ∈ before .certificates)
    (qrs : after .qrVerifications = before .qrVerifications) : Scans before after := by
  refine ⟨fun certificate member isConfirmed => ?_, fun certId active => ?_⟩
  · exact .inr ⟨certificate, certificates certificate member isConfirmed, rfl, isConfirmed⟩
  · unfold HasActiveQr
    rw [qrs]
    exact active

/-- A database that stays as it is stays scannable. -/
theorem Scans.refl (database : Database) : Scans database database :=
  .of_same (fun _ member _ => member) rfl

/-- Where every confirmed certificate had an active QR row, it still has. -/
theorem Scans.covers {before after : Database} (scans : Scans before after)
    (covered : ∀ certificate ∈ before .certificates, certificate.blockchainStatus = .CONFIRMED →
      HasActiveQr before certificate.id) :
    ∀ certificate ∈ after .certificates, certificate.blockchainStatus = .CONFIRMED →
      HasActiveQr after certificate.id := by
  intro certificate member isConfirmed
  rcases scans.confirmed certificate member isConfirmed with active | ⟨old, isOld, sameId, was⟩
  · exact active
  · exact scans.kept _ (sameId ▸ covered old isOld was)

/-- Without a commit the database stays as it is. -/
theorem directHandler_uncommitted (Reply : Type) (op : Op Reply) (uncommitted : op.isCommit = false)
    (direct : Direct) : (directHandler Reply op direct).2.database = direct.database := by
  cases control : op.isControl with
  | false => exact (directHandler_follows Reply op control direct).1
  | true =>
      cases op with
      | commit => cases uncommitted
      | rollback => rfl
      | begin =>
          simp only [directHandler]
          split <;> rfl
      | _ => cases control

/-- A transaction that is broken off has committed nothing. -/
theorem database_of_cut {Value : Type} {body : Action Value}
    (statements : body.Every fun _ op => op.isControl = false) {direct after : Direct}
    {operations : Nat} (ran : ((transaction body).cut operations).run directHandler direct =
      (.ok none, after)) : after.database = direct.database := by
  have uncommitted : (do
      attempt .begin
      body.catchError fun error => do
        Program.perform .rollback
        Program.raise error : Action Value).Every fun _ op => op.isCommit = false := by
    refine Program.every_bind (every_attempt rfl) fun _ => ?_
    refine Program.every_catchError (statements.mono fun _ op control => ?_) fun error => ?_
    · cases op <;> first | rfl | cases control
    · exact Program.every_bind ((Program.every_perform _).mpr rfl) fun _ => Program.every_raise _
  have same := Program.run_respects
    (fun before after : Direct => after.database = before.database) (fun _ => rfl)
    (fun earlier later => later.trans earlier) directHandler_uncommitted
    (Program.every_cut uncommitted operations) direct
  have shape : transaction body = (do
      attempt .begin
      body.catchError fun error => do
        Program.perform .rollback
        Program.raise error) >>= fun value => do
      Program.perform .commit
      return value := by
    rw [bind_assoc]
    rfl
  obtain ⟨left, split⟩ := Program.run_cut_bind directHandler _ (fun value => do
    Program.perform .commit
    return value : Value → Action Value) operations direct
  rw [shape, split] at ran
  split at ran
  · rename_i value middle prefixRan
    rw [prefixRan] at same
    cases left with
    | zero =>
        cases ran
        exact same
    | succ left => cases ran
  · rename_i middle prefixRan
    rw [prefixRan] at same
    cases ran
    exact same
  · cases ran

/-- What a transaction leaves behind, broken off or not. -/
theorem run_cut_transaction {Value : Type} {body : Action Value}
    (statements : body.Every fun _ op => op.isControl = false) {direct : Direct}
    (closed : direct.inTransaction = false) {operations : Nat}
    {outcome : Except Exception (Option Value)} {after : Direct}
    (ran : ((transaction body).cut operations).run directHandler direct = (outcome, after)) :
    after.database = direct.database ∧ (∀ value, outcome ≠ .ok (some value)) ∨
      ∃ value left, outcome = .ok (some value) ∧
        body.run directHandler direct.touch = (.ok value, left) ∧ after = left.committed := by
  rcases outcome with error | (_ | value)
  · have whole := Program.run_of_cut_error directHandler ran
    rw [run_transaction body closed] at whole
    split at whole
    · cases whole
    · rename_i raised left bodyRan
      cases whole
      have sameDatabase := (run_follows statements direct.touch).1
      rw [bodyRan] at sameDatabase
      exact .inl ⟨sameDatabase, fun _ impossible => by cases impossible⟩
  · exact .inl ⟨database_of_cut statements ran, fun _ impossible => by cases impossible⟩
  · have whole := Program.run_of_cut_ok directHandler ran
    rw [run_transaction body closed] at whole
    split at whole
    · rename_i returned left bodyRan
      cases whole
      exact .inr ⟨value, left, rfl, bodyRan, rfl⟩
    · cases whole

/-- A program that leaves a table alone leaves it as it is. -/
theorem working_of_elsewhere {Value : Type} {table : Table} {program : Action Value}
    (every : program.Every fun _ op => op.isControl = false ∧ op.written? ≠ some table)
    (direct : Direct) : (program.run directHandler direct).2.working table = direct.working table :=
  (Program.run_respects (Direct.LeavesAlone table) (Direct.LeavesAlone.refl table)
    Direct.LeavesAlone.trans
    (fun Reply op both direct => directHandler_leavesAlone table Reply op both.1 both.2 direct)
    every direct).working

section calls

variable {runtime : Runtime} {store : ValidStore} {inputs : Inputs}

/-- One transaction of its own, when its block does no harm. -/
theorem Scans.of_block {Value : Type} {body : Action Value}
    (statements : body.Every fun _ op => op.isControl = false)
    (returned : ∀ value left, body.run directHandler (.begun store.toStore inputs) =
      (.ok value, left) → Scans store.database left.working) (operations : Nat) :
    Scans store.database (((transaction body).cut operations).run directHandler
      (.fresh store.toStore inputs)).2.database := by
  rcases ran : ((transaction body).cut operations).run directHandler (.fresh store.toStore inputs)
    with ⟨outcome, after⟩
  rcases run_cut_transaction statements rfl ran with ⟨same, -⟩ | ⟨value, left, -, bodyRan, isLeft⟩
  · exact same ▸ .refl _
  · exact isLeft ▸ returned value left bodyRan

/-- Reading leaves the QR rows alone, and so do writes to other tables. -/
theorem quiet_of_isReading (Reply : Type) (op : Op Reply) (isReading : op.isReading = true) :
    op.isControl = false ∧ op.written? ≠ some .qrVerifications := by
  refine ⟨op.not_isControl_of_isReading Reply isReading, ?_⟩
  cases op <;> first | exact (Option.some_ne_none _).symm | cases isReading

/-- An upload, broken off anywhere, keeps the certificates scannable. -/
theorem upload_scans (fileBytes : List UInt8) (fileOriginalName : String)
    (metadata : CertificateIssuanceService.IssueMetadata) (user : User) (operations : Nat) :
    Scans store.database (((CertificateIssuanceService.uploadAndHashCertificate runtime fileBytes
      fileOriginalName metadata user).cut operations).run directHandler
        (.fresh store.toStore inputs)).2.database := by
  have every : (CertificateIssuanceService.uploadBlock runtime fileBytes fileOriginalName metadata
      user).Every fun _ op => op.isControl = false ∧ op.written? ≠ some .qrVerifications :=
    CertificateIssuanceService.every_uploadBlock quiet_of_isReading runtime fileBytes
      fileOriginalName metadata user (fun _ _ => ⟨rfl, by simp [Op.written?]⟩)
      (fun _ _ _ => ⟨rfl, by simp [Op.written?]⟩)
      fun _ _ _ => ⟨rfl, by simp [Op.written?]⟩
  refine .of_block (every.mono fun _ _ both => both.1) (fun draft left ran => ?_) operations
  have qrs := working_of_elsewhere every (.begun store.toStore inputs)
  rw [ran] at qrs
  obtain ⟨certificate, storeTx, isNew, -, certificates, -⟩ :=
    CertificateIssuanceService.uploadBlock_rows ran
  refine .of_same (fun row member isConfirmed => ?_) qrs
  rw [certificates] at member
  rcases List.mem_append.mp member with isOld | isLast
  · exact isOld
  · rw [List.mem_singleton.mp isLast, isNew.1] at isConfirmed
    cases isConfirmed

/-- Initiating a revocation keeps the certificates scannable, wherever it is broken off. -/
theorem initiate_scans (certId : Uuid) (reason : String) (user : User) (blockchainService : Bool)
    (operations : Nat) :
    Scans store.database (((CertificateRevocationService.initiateRevocation runtime certId reason
      user blockchainService).cut operations).run directHandler
        (.fresh store.toStore inputs)).2.database := by
  have isMap : CertificateRevocationService.initiateRevocation runtime certId reason user
      blockchainService = (fun answer : Certificate × String =>
        { certificateId := certId
          certificateUid := answer.1.certificateUid
          universityWalletAddress := answer.2
          message := "Sign the revocation transaction in MetaMask" }) <$>
      transaction (CertificateRevocationService.initiateBlock runtime certId reason user
        blockchainService) := rfl
  have every : (CertificateRevocationService.initiateBlock runtime certId reason user
      blockchainService).Every fun _ op =>
        op.isControl = false ∧ op.written? ≠ some .qrVerifications :=
    CertificateRevocationService.every_initiateBlock quiet_of_isReading runtime certId reason user
      blockchainService fun _ _ _ => ⟨rfl, by simp [Op.written?]⟩
  rw [isMap, Program.cut_map, Program.run_map]
  refine .of_block (every.mono fun _ _ both => both.1) (fun answer left ran => ?_) operations
  have qrs := working_of_elsewhere every (.begun store.toStore inputs)
  rw [ran] at qrs
  obtain ⟨certificate, revokeTx, -, -, certificates, -⟩ :=
    CertificateRevocationService.initiateBlock_rows (Direct.open_begun store inputs) ran
  refine .of_same (fun row member _ => ?_) qrs
  rw [certificates] at member
  exact member

/-- A confirmed revocation keeps the certificates scannable, wherever it is broken off. -/
theorem confirmRevocation_scans (certId : Uuid) (txHash : String) (user : User)
    (operations : Nat) :
    Scans store.database (((CertificateRevocationService.confirmRevocation runtime certId txHash
      user).cut operations).run directHandler (.fresh store.toStore inputs)).2.database := by
  have opened := Direct.open_begun store inputs
  have every : (CertificateRevocationService.confirmBlock runtime certId txHash user).Every
      fun _ op => op.isControl = false ∧ op.written? ≠ some .qrVerifications :=
    CertificateRevocationService.every_confirmBlock quiet_of_isReading runtime certId txHash user
      (fun _ _ => ⟨rfl, by simp [Op.written?]⟩) fun _ _ _ _ => ⟨rfl, by simp [Op.written?]⟩
  refine .of_block (every.mono fun _ _ both => both.1) (fun response left ran => ?_) operations
  have qrs := working_of_elsewhere every (.begun store.toStore inputs)
  have path := @CertificateRevocationService.confirmBlock_path runtime _ opened certId txHash user
  rw [ran] at qrs path
  obtain ⟨certificate, assignments, marks, revocable, -, mark, certificates, -⟩ := path.ledger
  refine .of_same (fun row member isConfirmed => ?_) qrs
  rw [certificates] at member
  cases mark with
  | submitted =>
      rw [updateRows_nil] at member
      exact member
  | revoked isRevoked reason now receipt time =>
      rcases mem_updated opened.valid.keyed revocable.found member with ⟨isOld, -⟩ | rfl
      · exact isOld
      · cases isConfirmed

/-- The transaction of a QR code, broken off or not. -/
theorem generateQr_rows {direct : Direct} (closed : direct.inTransaction = false)
    (synced : direct.working = direct.database) (valid : direct.database.Valid)
    (certId user : Uuid) (operations : Nat) {outcome : Except Exception (Option _)}
    {after : Direct}
    (ran : ((QrVerificationService.generateQrForCertificate runtime certId user).cut
      operations).run directHandler direct = (outcome, after)) :
    after.database = direct.database ∧ (∀ qr, outcome ≠ .ok (some qr)) ∨
      after.database .certificates = direct.database .certificates ∧
        HasActiveQr after.database certId ∧
        ∀ other, HasActiveQr direct.database other → HasActiveQr after.database other := by
  have isMap : QrVerificationService.generateQrForCertificate runtime certId user =
      (fun qr : QRVerification => (⟨qr.id, qr.token, qr.verificationUrl⟩ :
        QrVerificationService.GeneratedQr)) <$>
      transaction (QrVerificationService.generateBlock runtime certId user) := rfl
  have statements : (QrVerificationService.generateBlock runtime certId user).Every fun _ op =>
      op.isControl = false :=
    QrVerificationService.every_generateBlock Op.not_isControl_of_isReading runtime certId user
      (fun _ _ => rfl) fun _ => rfl
  rw [isMap, Program.cut_map, Program.run_map] at ran
  obtain ⟨isOutcome, isAfter⟩ := Prod.mk.inj ran
  rcases run_cut_transaction statements closed rfl with
    ⟨same, unreturned⟩ | ⟨qr, left, -, bodyRan, isLeft⟩
  · refine .inl ⟨isAfter ▸ same, fun qr returned => ?_⟩
    rw [returned] at isOutcome
    rcases first : (((transaction (QrVerificationService.generateBlock runtime certId user)).cut
      operations).run directHandler direct).1 with error | (_ | value)
    · rw [first] at isOutcome
      cases isOutcome
    · rw [first] at isOutcome
      cases isOutcome
    · exact unreturned value first
  · have opened : direct.touch.Open := ⟨rfl, synced ▸ valid⟩
    obtain ⟨⟨isOwn, isActive⟩, certificates, isNew, others⟩ :=
      QrVerificationService.generateBlock_rows opened bodyRan
    have sameWorking : direct.touch.working = direct.database := synced
    have active : HasActiveQr after.database certId := by
      rw [← isAfter, isLeft]
      exact ⟨qr, isNew, isOwn, isActive⟩
    refine .inr ⟨?_, active, ?_⟩
    · rw [← isAfter, isLeft, ← sameWorking]
      exact certificates
    · rintro other ⟨row, isRow, isOther, isActive⟩
      by_cases same : other = certId
      · exact same ▸ active
      · rw [← sameWorking] at isRow
        rw [← isAfter, isLeft]
        exact ⟨row, others row isRow (isOther ▸ same), isOther, isActive⟩

/-- Generating a code keeps the certificates scannable, wherever it is broken off. -/
theorem generateQr_scans (certId user : Uuid) (operations : Nat) :
    Scans store.database (((QrVerificationService.generateQrForCertificate runtime certId
      user).cut operations).run directHandler (.fresh store.toStore inputs)).2.database := by
  rcases @generateQr_rows runtime (.fresh store.toStore inputs) rfl rfl store.valid certId user
    operations _ _ rfl with ⟨same, -⟩ | ⟨certificates, active, others⟩
  · exact same ▸ .refl _
  · refine ⟨fun certificate member isConfirmed => ?_, others⟩
    rw [certificates] at member
    exact .inr ⟨certificate, member, rfl, isConfirmed⟩

/-- A confirmation of storage, broken off or not, unless it ends between its transactions. -/
theorem confirmStorage_scans (certId : Uuid) (txHash : String) (user : User) (operations : Nat)
    (goesOn : ∀ certificate receipt record after,
      ((transaction (confirmBlock runtime certId txHash user)).cut operations).run directHandler
        (.fresh store.toStore inputs) = (.ok (some (.confirmed certificate receipt record)), after) →
      ∃ response, (((confirmBlockchainStorage runtime certId txHash user).cut operations).run
        directHandler (.fresh store.toStore inputs)).1 = .ok (some response)) :
    Scans store.database (((confirmBlockchainStorage runtime certId txHash user).cut
      operations).run directHandler (.fresh store.toStore inputs)).2.database := by
  have opened := Direct.open_begun store inputs
  have every : (confirmBlock runtime certId txHash user).Every fun _ op =>
      op.isControl = false ∧ op.written? ≠ some .qrVerifications :=
    CertificateIssuanceService.every_confirmBlock quiet_of_isReading runtime certId txHash user
      (fun _ _ => ⟨rfl, by simp [Op.written?]⟩) fun _ _ => ⟨rfl, by simp [Op.written?]⟩
  have statements := every.mono fun _ _ both => both.1
  unfold confirmBlockchainStorage at goesOn ⊢
  obtain ⟨left, split⟩ := Program.run_cut_bind directHandler
    (transaction (confirmBlock runtime certId txHash user)) _ operations
    (.fresh store.toStore inputs)
  rw [split] at goesOn ⊢
  rcases first : ((transaction (confirmBlock runtime certId txHash user)).cut operations).run
    directHandler (.fresh store.toStore inputs) with ⟨outcome, middle⟩
  rw [first] at goesOn
  rcases run_cut_transaction statements rfl first with
    ⟨same, unreturned⟩ | ⟨exit, block, rfl, bodyRan, rfl⟩
  · rcases outcome with error | (_ | exit)
    · exact same ▸ .refl _
    · exact same ▸ .refl _
    · exact absurd rfl (unreturned exit)
  · have path := @CertificateIssuanceService.confirmBlock_path runtime _ opened certId txHash user
    have begun : (confirmBlock runtime certId txHash user).run directHandler
      (.begun store.toStore inputs) = (.ok exit, block) := bodyRan
    have qrs := working_of_elsewhere every (.begun store.toStore inputs)
    rw [begun] at path qrs
    obtain ⟨certificate, assignments, confirmable, -, mark, certificates, -⟩ := path.ledger opened
    have rows : ∀ row ∈ block.working .certificates,
        (row ∈ store.database .certificates ∧ row.id ≠ certId) ∨
          (row.id = certId ∧ row.blockchainStatus = exit.status) := by
      intro row member
      rw [certificates] at member
      rcases mem_updated opened.valid.keyed confirmable.found member with old | rfl
      · exact .inl old
      · exact .inr ⟨(Database.find?_some confirmable.found).2, rfl⟩
    cases exit with
    | submitted =>
        refine .of_same (fun row member isConfirmed => ?_) qrs
        rcases rows row member with ⟨isOld, -⟩ | ⟨-, isSubmitted⟩
        · exact isOld
        · rw [isSubmitted] at isConfirmed
          cases isConfirmed
    | confirmed updated receipt record =>
        obtain ⟨response, returned⟩ := goesOn updated receipt record _ rfl
        have stillValid : block.working.Valid := by
          have ran := @run_valid _ (confirmBlock runtime certId txHash user) _
            (⟨store.valid, store.valid⟩ : (Direct.begun store.toStore inputs).Valid)
          rw [begun] at ran
          exact ran.working
        dsimp only at returned ⊢
        rw [bind_pure_comp, Program.cut_map, Program.run_map] at returned ⊢
        rcases generates : ((QrVerificationService.generateQrForCertificate runtime certId
          user.id).cut left).run directHandler block.committed with ⟨outcome, after⟩
        rw [generates] at returned
        rcases generateQr_rows rfl rfl stillValid certId user.id left generates with
          ⟨-, unreturned⟩ | ⟨sameCertificates, active, others⟩
        · rcases outcome with error | (_ | qr)
          · cases returned
          · cases returned
          · exact absurd rfl (unreturned qr)
        · refine ⟨fun row member isConfirmed => ?_, fun other was => others other ?_⟩
          · change row ∈ after.database .certificates at member
            rw [sameCertificates] at member
            rcases rows row member with ⟨isOld, -⟩ | ⟨isOwn, -⟩
            · exact .inr ⟨row, isOld, rfl, isConfirmed⟩
            · exact .inl (isOwn ▸ active)
          · have sameQrs : block.committed.database .qrVerifications =
              store.database .qrVerifications := qrs
            unfold HasActiveQr
            rw [sameQrs]
            exact was

/-- No call does harm, unless it ends between its two transactions. -/
theorem call_scans (call : ScanCall) (operations : Nat)
    (goesOn : ¬ EndsBetween runtime store.toStore (.request call inputs operations)) :
    Scans store.database (((call.action runtime).cut operations).run directHandler
      (.fresh store.toStore inputs)).2.database := by
  cases call with
  | generateQr certId user =>
      rw [ScanCall.action, Program.cut_map, Program.run_map]
      exact generateQr_scans certId user operations
  | certificate call =>
      rw [ScanCall.action, Program.cut_map, Program.run_map]
      cases call with
      | upload fileBytes fileOriginalName metadata user =>
          rw [CertificateCall.action, Program.cut_map, Program.run_map]
          exact upload_scans fileBytes fileOriginalName metadata user operations
      | initiateRevocation certId reason user blockchainService =>
          rw [CertificateCall.action, Program.cut_map, Program.run_map]
          exact initiate_scans certId reason user blockchainService operations
      | confirmRevocation certId txHash user =>
          rw [CertificateCall.action, Program.cut_map, Program.run_map]
          exact confirmRevocation_scans certId txHash user operations
      | confirmStorage certId txHash user =>
          rw [CertificateCall.action, Program.cut_map, Program.run_map]
          refine confirmStorage_scans certId txHash user operations
            fun certificate receipt record after confirms => ?_
          by_contra unreturned
          have confirmsToo := (store.run_eq inputs
            ((transaction (confirmBlock runtime certId txHash user)).cut operations)).1
          rw [confirms] at confirmsToo
          refine goesOn ⟨certId, txHash, user, inputs, operations, certificate, receipt, record, _,
            rfl, Prod.ext confirmsToo rfl, fun response returned => ?_⟩
          have sameOutcome := (store.run_eq inputs
            ((confirmBlockchainStorage runtime certId txHash user).cut operations)).1
          exact unreturned ⟨response, sameOutcome.symm.trans returned⟩

end calls

/-- Every event leaves a valid database. -/
theorem ScanEvent.apply_valid (runtime : Runtime) (store : Store) (event : ScanEvent)
    (valid : store.database.Valid) : (event.apply runtime store).database.Valid := by
  cases event with
  | mined transactions => exact valid
  | elsewhere database =>
      rw [ScanEvent.apply]
      split
      · rename_i only
        exact only.1.1
      · exact valid
  | request call inputs operations =>
      have described := ((⟨store, valid⟩ : ValidStore).run_eq inputs
        ((call.action runtime).cut operations)).2
      have sameDatabase : ((ScanEvent.request call inputs operations).apply runtime store).database =
          _ := congrArg Direct.database described
      have bothValid : (Direct.fresh store inputs).Valid := ⟨valid, valid⟩
      exact sameDatabase ▸ (run_valid ((call.action runtime).cut operations) bothValid).database

/-- The store after a run is valid. -/
theorem valid_scanStoreAfter (runtime : Runtime) (deployer : Address) (events : List ScanEvent) :
    (scanStoreAfter runtime deployer events).database.Valid :=
  @stateAfter_invariant _ _ (ScanEvent.apply runtime) (fun store => store.database.Valid)
    (ScanEvent.apply_valid runtime) _ .empty events

/-- What every state of a run with the condition has. -/
structure Covered (store : Store) : Prop where
  valid : store.database.Valid
  covered : ∀ certificate ∈ store.database .certificates,
    certificate.blockchainStatus = .CONFIRMED → HasActiveQr store.database certificate.id

/-- An event that does not end between confirmation and code keeps every certificate covered. -/
theorem ScanEvent.apply_covered {runtime : Runtime} {store : Store} {event : ScanEvent}
    (covered : Covered store) (goesOn : ¬ EndsBetween runtime store event) :
    Covered (event.apply runtime store) := by
  obtain ⟨valid, covers⟩ := covered
  refine ⟨event.apply_valid runtime store valid, ?_⟩
  cases event with
  | mined transactions => exact covers
  | elsewhere database =>
      rw [ScanEvent.apply]
      split
      · rename_i only
        intro certificate member isConfirmed
        have isOld : certificate ∈ store.database .certificates := only.1.2 ▸ member
        obtain ⟨qr, isQr, isOwn⟩ := covers certificate isOld isConfirmed
        have stillQr : qr ∈ database .qrVerifications := only.2 ▸ isQr
        exact ⟨qr, stillQr, isOwn⟩
      · exact covers
  | request call inputs operations =>
      have described := ((⟨store, valid⟩ : ValidStore).run_eq inputs
        ((call.action runtime).cut operations)).2
      have sameDatabase : ((ScanEvent.request call inputs operations).apply runtime store).database =
          _ := congrArg Direct.database described
      have scans := @call_scans runtime ⟨store, valid⟩ inputs call operations goesOn
      rw [sameDatabase]
      exact scans.covers covers

/-- In every run in which no confirmation ends between the commit of CONFIRMED and that of
its QR row, every confirmed certificate can be scanned. -/
theorem confirmed_scannable (runtime : Runtime) (deployer : Address) (events : List ScanEvent)
    (goesOn : ∀ index, ¬ OccursAt (ScanEvent.apply runtime) (initialStore deployer) events
      (EndsBetween runtime) index) :
    ∀ certificate ∈ (scanStoreAfter runtime deployer events).database .certificates,
      certificate.blockchainStatus = .CONFIRMED →
        Scannable runtime (scanStoreAfter runtime deployer events) events certificate := by
  have initially : Covered (initialStore deployer) :=
    ⟨.empty, fun _ member => absurd member List.not_mem_nil⟩
  have covered := stateAfter_invariant_of_never (ScanEvent.apply runtime)
    (fun store event covered meets => ScanEvent.apply_covered covered meets) initially goesOn
  exact fun certificate member isConfirmed => .inl (covered.covered certificate member isConfirmed)

/-- A confirmed certificate is turned away: repeating its confirmation changes no row. -/
theorem retry_refused (runtime : Runtime) (store : ValidStore) (inputs : Inputs) (certId : Uuid)
    (txHash : String) (user : User) {certificate : Certificate}
    (found : store.database.find? .certificates certId = some certificate)
    (isConfirmed : certificate.blockchainStatus = .CONFIRMED) :
    ((confirmBlockchainStorage runtime certId txHash user).run sessionHandler
      (store.toStore, .fresh inputs)).2.1.database = store.database := by
  have described := (store.run_eq inputs (confirmBlockchainStorage runtime certId txHash user)).2
  refine (congrArg Direct.database described).trans ?_
  have path := @CertificateIssuanceService.confirmBlock_path runtime _
    (Direct.open_begun store inputs) certId txHash user
  have unconfirmable : ∀ other,
      ¬ Confirmable (Direct.begun store.toStore inputs).working certId user other := by
    intro other confirmable
    obtain rfl := Option.some.inj (found.symm.trans confirmable.found)
    rcases confirmable.unconfirmed with pending | submitted
    · rw [isConfirmed] at pending
      cases pending
    · rw [isConfirmed] at submitted
      cases submitted
  simp only [confirmBlockchainStorage, Program.run_bind, run_transaction_fresh]
  rcases ran : (confirmBlock runtime certId txHash user).run directHandler
    (.begun store.toStore inputs) with ⟨error | exit, left⟩ <;> rw [ran] at path
  · cases path with
    | turnedAway why => rfl
    | raised confirmable | unreachable confirmable | unreachableMarked confirmable =>
        exact absurd confirmable (unconfirmable _)
  · cases path with
    | completed confirmable => exact absurd confirmable (unconfirmable _)

/-- The event when its process performs at most the given number of operations. -/
def Event.within (operations : Nat) : Event → ScanEvent
  | .request call inputs => .request (.certificate call) inputs operations
  | .mined transactions => .mined transactions
  | .elsewhere database => .elsewhere database

namespace Sample

/-- The sample certificate, up to its confirmation with that many operations. -/
def confirmedWithin (operations : Nat) : List ScanEvent :=
  minedRun.map (Event.within 100) ++ [(confirmation txHash).within operations]

/-- A certificate is CONFIRMED and there is no QR row. -/
def Unscannable (database : Database) : Prop :=
  ∃ certificate ∈ database .certificates, certificate.blockchainStatus = .CONFIRMED ∧
    database .qrVerifications = []

instance (database : Database) : Decidable (Unscannable database) :=
  inferInstanceAs (Decidable (∃ certificate ∈ database .certificates, _))

/-- The confirmation of the run returns, and one that is broken off leaves a certificate
without a code. -/
theorem confirmation_returns :
    (((confirmBlockchainStorage Runtime.sample 101 txHash administrator).cut 100).run
        sessionHandler (scanStoreAfter Runtime.sample deployer (minedRun.map (Event.within 100)),
          .fresh (inputs answered))).1.toOption.join.isSome = true ∧
      Unscannable (scanStoreAfter Runtime.sample deployer (confirmedWithin 13)).database := by
  decide +kernel

/-- The sample confirmation is not broken off. -/
theorem confirmedWithin_goesOn (index : Nat) :
    ¬ OccursAt (ScanEvent.apply Runtime.sample) (initialStore deployer) (confirmedWithin 100)
      (EndsBetween Runtime.sample) index := by
  rw [confirmedWithin, occursAt_snoc]
  rintro (⟨event, found, endsBetween⟩ | ⟨-, endsBetween⟩)
  · obtain ⟨certId, hash, user, inputs, operations, _, _, _, _, rfl, -⟩ := endsBetween
    have member := List.mem_of_getElem? found
    simp [minedRun, upload, Event.within] at member
  · obtain ⟨certId, hash, user, inputs, operations, _, _, _, _, isEvent, -, unreturned⟩ :=
      endsBetween
    cases isEvent
    have returns := confirmation_returns.1
    rw [scanStoreAfter] at returns
    generalize (((confirmBlockchainStorage Runtime.sample 101 txHash administrator).cut 100).run
      sessionHandler _).1 = outcome at returns unreturned
    rcases outcome with error | (_ | response)
    · cases returns
    · cases returns
    · exact unreturned response rfl

end Sample

/-- The sample certificate can be scanned once its confirmation has ended. -/
theorem confirmed_scannable_whole :
    (∀ index, ¬ OccursAt (ScanEvent.apply Runtime.sample) (initialStore Sample.deployer)
      (Sample.confirmedWithin 100) (EndsBetween Runtime.sample) index) ∧
    ∀ certificate ∈ (scanStoreAfter Runtime.sample Sample.deployer
        (Sample.confirmedWithin 100)).database .certificates,
      certificate.blockchainStatus = .CONFIRMED →
        Scannable Runtime.sample (scanStoreAfter Runtime.sample Sample.deployer
          (Sample.confirmedWithin 100)) (Sample.confirmedWithin 100) certificate :=
  ⟨Sample.confirmedWithin_goesOn, confirmed_scannable Runtime.sample Sample.deployer
    (Sample.confirmedWithin 100) Sample.confirmedWithin_goesOn⟩

namespace Sample

/-- A CONFIRMED certificate without a code obtains none by a retry either. -/
theorem Unscannable.remains {runtime : Runtime} {store : Store} {events : List ScanEvent}
    (unscannable : Unscannable store.database) (valid : store.database.Valid) :
    ¬ ∀ certificate ∈ store.database .certificates, certificate.blockchainStatus = .CONFIRMED →
      Scannable runtime store events certificate := by
  obtain ⟨certificate, member, isConfirmed, noQr⟩ := unscannable
  intro scannable
  have nobody : ∀ database : Database, database .qrVerifications = [] →
      ¬ HasActiveQr database certificate.id := by
    rintro database empty ⟨qr, isQr, -⟩
    rw [empty] at isQr
    cases isQr
  rcases scannable certificate member isConfirmed with active | ⟨txHash, user, _, _, -, obtains⟩
  · exact nobody _ noQr active
  · have found := @Database.Keyed.find? _ valid.keyed .certificates certificate member
    have unchanged := retry_refused runtime ⟨store, valid⟩ (inputs answered) certificate.id txHash
      user found isConfirmed
    refine nobody _ ?_ (obtains (inputs answered))
    rw [show _ = store.database from unchanged]
    exact noQr

end Sample

/-- A process that dies right after the first commit leaves a CONFIRMED certificate that
has no QR row and obtains none by repeating the call. -/
theorem broken_off_confirmation_unscannable :
    ¬ ∀ certificate ∈ (scanStoreAfter Runtime.sample Sample.deployer
        (Sample.confirmedWithin 13)).database .certificates,
      certificate.blockchainStatus = .CONFIRMED →
        Scannable Runtime.sample (scanStoreAfter Runtime.sample Sample.deployer
          (Sample.confirmedWithin 13)) (Sample.confirmedWithin 13) certificate :=
  Sample.confirmation_returns.2.remains
    (valid_scanStoreAfter Runtime.sample Sample.deployer (Sample.confirmedWithin 13))

end AcademicCredential
