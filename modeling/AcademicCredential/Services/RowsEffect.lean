import AcademicCredential.Services.LedgerEffect

/-!
# What a call does to a certificate and its transaction rows

`RowsEffect` lists the ways a call can leave the two tables, each with the row it added or
the one it rewrote: an upload adds a certificate together with its STORE_HASH row, an
initiation one REVOKE_HASH row, and a confirmation that returns rewrites a certificate and
one of its own rows. Every raising exit leaves both tables as they were.
-/

namespace AcademicCredential

open AcademicCredential.Lib

/-- The rows of an updated table are the others as they were, and the updated one. -/
theorem mem_updated {database : Database} (keyed : database.Keyed) {certificate row : Certificate}
    {certId : Uuid} {marks : List CertificateAssignment}
    (found : database.find? .certificates certId = some certificate)
    (member : row ∈ @updateRows .certificates certId marks (database .certificates)) :
    (row ∈ database .certificates ∧ row.id ≠ certId) ∨
      row = @assignAll .certificates certificate marks := by
  obtain ⟨isStored, isId⟩ := Database.find?_some found
  obtain ⟨old, isOld, rfl⟩ := List.mem_map.mp member
  by_cases sameId : @rowId .certificates old = certId
  · obtain rfl := @Database.Keyed.eq_of_rowId database keyed .certificates _ _ isOld isStored
      (sameId.trans isId.symm)
    exact .inr (if_pos sameId)
  · rw [if_neg sameId]
    exact .inl ⟨isOld, sameId⟩

/-- The row that was updated is found with the new values. -/
theorem find?_updated {before after : Database} {table : Table} {id : Uuid} {row : Row table}
    {assignments : List (Assignment table)} (found : before.find? table id = some row)
    (rows : after table = updateRows id assignments (before table)) :
    after.find? table id = some (assignAll row assignments) := by
  have updated := Database.find?_update_of_found found assignments id
  rw [if_pos rfl] at updated
  have same : after table = ((Write.update table id assignments).apply before) table := by
    simp [Write.apply, rows]
  rw [Database.find?_congr same, updated]

namespace CertificateIssuanceService

variable {runtime : Runtime} {direct left : Direct}

/-- The STORE_HASH row that an upload adds with its certificate. -/
structure IsStoreRow (certificate : Certificate) (tx : BlockchainTransaction) : Prop where
  certificateId : tx.certificateId = some certificate.id
  txType : tx.txType = .STORE_HASH
  unstamped : Unstamped tx

/-- The two records of an upload, as they are inserted. -/
theorem createRecords_rows {fileBytes : List UInt8} {fileOriginalName walletAddress : String}
    {metadata : IssueMetadata} {currentUser studentUser : User} {university : University}
    {draft : CertificateDraft}
    (ran : (createRecords runtime fileBytes fileOriginalName metadata currentUser studentUser
      university walletAddress).run directHandler direct = (.ok draft, left)) :
    ∃ certificate storeTx,
      (certificate.blockchainStatus = .PENDING ∧ certificate.isActive = true) ∧
      IsStoreRow certificate storeTx ∧
      left.working .certificates = direct.working .certificates ++ [certificate] ∧
      left.working .blockchainTransactions =
        direct.working .blockchainTransactions ++ [storeTx] := by
  unfold createRecords at ran
  obtain ⟨today, asked, drawn, rest⟩ := (Program.run_bind_ok directHandler).mp ran
  have askedSame := working_of_reading (every_reading (fun _ _ isReading => isReading) rfl) drawn
  obtain ⟨sequence, counted, numbered, rest⟩ := (Program.run_bind_ok directHandler).mp rest
  have countedSame := working_of_reading
    (CertificateRepository.every_getNextUidSequence (fun _ _ isReading => isReading) _ _) numbered
  obtain ⟨duplicate, looked, found, rest⟩ := (Program.run_bind_ok directHandler).mp rest
  have lookedSame := working_of_reading
    (BaseRepository.every_findOne (fun _ _ isReading => isReading) _ _) found
  cases duplicate with
  | some _ => cases rest
  | none =>
      obtain ⟨certId, read, drawn, rest⟩ := (Program.run_bind_ok directHandler).mp rest
      have readSame := working_of_reading
        (every_reading (fun _ _ isReading => isReading) rfl) drawn
      obtain ⟨filePath, saved, saves, rest⟩ := (Program.run_bind_ok directHandler).mp rest
      have savedSame : saved.working = read.working := by
        cases saves
        rfl
      obtain ⟨certificate, added, creates, rest⟩ := (Program.run_bind_ok directHandler).mp rest
      obtain ⟨isCertificate, addedIs⟩ := BaseRepository.run_create_ok creates
      obtain ⟨txId, drawnId, drawn, rest⟩ := (Program.run_bind_ok directHandler).mp rest
      have drawnSame := working_of_reading
        (every_reading (fun _ _ isReading => isReading) rfl) drawn
      obtain ⟨submittedAt, timed, drawn, rest⟩ := (Program.run_bind_ok directHandler).mp rest
      have timedSame := working_of_reading
        (every_reading (fun _ _ isReading => isReading) rfl) drawn
      obtain ⟨storeTx, last, records, rest⟩ := (Program.run_bind_ok directHandler).mp rest
      obtain ⟨isStoreTx, lastIs⟩ := BaseRepository.run_create_ok records
      cases rest
      have before : saved.working = direct.working := by
        rw [savedSame, readSame, lookedSame, countedSame, askedSame]
      have between : timed.working = added.working := by rw [timedSame, drawnSame]
      refine ⟨certificate, storeTx, ?_, ?_, ?_, ?_⟩
      · rw [isCertificate]
        exact ⟨rfl, rfl⟩
      · rw [isStoreTx]
        exact ⟨rfl, rfl, rfl, rfl⟩
      · rw [lastIs, between, addedIs, before, ← isCertificate]
        simp [Write.apply]
      · rw [lastIs, between, addedIs, before, ← isStoreTx]
        simp [Write.apply]

/-- The block of an upload inserts the two records. -/
theorem uploadBlock_rows {fileBytes : List UInt8} {fileOriginalName : String}
    {metadata : IssueMetadata} {currentUser : User} {draft : CertificateDraft}
    (ran : (uploadBlock runtime fileBytes fileOriginalName metadata currentUser).run directHandler
      direct = (.ok draft, left)) :
    ∃ certificate storeTx,
      (certificate.blockchainStatus = .PENDING ∧ certificate.isActive = true) ∧
      IsStoreRow certificate storeTx ∧
      left.working .certificates = direct.working .certificates ++ [certificate] ∧
      left.working .blockchainTransactions =
        direct.working .blockchainTransactions ++ [storeTx] := by
  have looks : ∀ (table : Table) (condition : Row table → Bool),
      (BaseRepository.findOne table condition).Every fun _ op => op.isReading = true :=
    BaseRepository.every_findOne fun _ _ isReading => isReading
  unfold uploadBlock at ran
  obtain ⟨university, middle, found, rest⟩ := (Program.run_bind_ok directHandler).mp ran
  have middleSame := working_of_reading (looks _ _) found
  cases university with
  | none => cases rest
  | some university =>
      dsimp only at rest
      split at rest
      · cases rest
      cases wallet : walletOf university with
      | none =>
          rw [wallet] at rest
          cases rest
      | some walletAddress =>
          rw [wallet] at rest
          obtain ⟨student, asked, found, rest⟩ := (Program.run_bind_ok directHandler).mp rest
          have askedSame := working_of_reading (looks _ _) found
          cases student with
          | none => cases rest
          | some student =>
              obtain ⟨profile, last, found, rest⟩ := (Program.run_bind_ok directHandler).mp rest
              have lastSame := working_of_reading (looks _ _) found
              cases profile with
              | none => cases rest
              | some profile =>
                  have rows := createRecords_rows rest
                  rw [lastSame, askedSame, middleSame] at rows
                  exact rows

end CertificateIssuanceService

namespace CertificateRevocationService

open CertificateIssuanceService (universityOf walletOf)

variable {runtime : Runtime} {direct left : Direct}

/-- The REVOKE_HASH row that an initiation adds. -/
structure IsRevokeRow (certId : Uuid) (tx : BlockchainTransaction) : Prop where
  certificateId : tx.certificateId = some certId
  txType : tx.txType = .REVOKE_HASH
  unstamped : Unstamped tx

/-- The last steps of an initiation. -/
theorem recordInitiation_rows {row : Uuid → Timestamp → BlockchainTransaction}
    {Value : Type} {value answer : Value}
    (ran : (do
      let id ← Program.perform .uuid4
      let submittedAt ← Program.perform .serverNow
      let _ ← BlockchainTransactionRepository.create (row id submittedAt)
      return value : Action Value).run directHandler direct = (.ok answer, left)) :
    ∃ revokeTx, (∃ id submittedAt, revokeTx = row id submittedAt) ∧
      left.working .certificates = direct.working .certificates ∧
      left.working .blockchainTransactions =
        direct.working .blockchainTransactions ++ [revokeTx] := by
  obtain ⟨id, read, drawn, rest⟩ := (Program.run_bind_ok directHandler).mp ran
  have readSame := working_of_reading (every_reading (fun _ _ isReading => isReading) rfl) drawn
  obtain ⟨submittedAt, timed, drawn, rest⟩ := (Program.run_bind_ok directHandler).mp rest
  have timedSame := working_of_reading (every_reading (fun _ _ isReading => isReading) rfl) drawn
  obtain ⟨revokeTx, last, records, rest⟩ := (Program.run_bind_ok directHandler).mp rest
  obtain ⟨isStored, lastIs⟩ := BaseRepository.run_create_ok records
  cases rest
  have before : timed.working = direct.working := by rw [timedSame, readSame]
  refine ⟨revokeTx, ⟨id, submittedAt, isStored⟩, ?_, ?_⟩
  · rw [lastIs, before]
    simp [Write.apply]
  · rw [lastIs, before, ← isStored]
    simp [Write.apply]

/-- An initiation that goes through adds one row, with the reason as its error message. -/
theorem initiateBlock_rows {certId : Uuid} {reason : String} {currentUser : User}
    {blockchainService : Bool} {answer : Certificate × String} (opened : direct.Open)
    (ran : (initiateBlock runtime certId reason currentUser blockchainService).run directHandler
      direct = (.ok answer, left)) :
    ∃ certificate revokeTx, direct.working.find? .certificates certId = some certificate ∧
      (IsRevokeRow certId revokeTx ∧ revokeTx.errorMessage = some reason) ∧
      left.working .certificates = direct.working .certificates ∧
      left.working .blockchainTransactions =
        direct.working .blockchainTransactions ++ [revokeTx] := by
  unfold initiateBlock CertificateRepository.getById at ran
  rw [Program.run_bind, BaseRepository.run_getById opened] at ran
  cases found : direct.working.find? .certificates certId with
  | none =>
      rw [found] at ran
      cases ran
  | some certificate =>
      simp only [found] at ran
      split at ran
      · cases ran
      split at ran
      · cases ran
      split at ran
      · cases ran
      obtain ⟨university, middle, looked, rest⟩ := (Program.run_bind_ok directHandler).mp ran
      have middleSame := working_of_reading
        (BaseRepository.every_findOne (fun _ _ isReading => isReading) _ _) looked
      cases university with
      | none => cases rest
      | some university =>
          dsimp only at rest
          cases wallet : walletOf university with
          | none =>
              rw [wallet] at rest
              cases rest
          | some walletAddress =>
              rw [wallet] at rest
              dsimp only at rest
              refine ⟨certificate, ?_⟩
              split at rest
              · obtain ⟨_, checked, passes, rest⟩ := (Program.run_bind_ok directHandler).mp rest
                have checkedSame := working_of_reading
                  (every_preflight (fun _ _ isReading => isReading) _ _ _) passes
                obtain ⟨_, ⟨id, submittedAt, rfl⟩, certificates, transactions⟩ :=
                  recordInitiation_rows rest
                rw [checkedSame, middleSame] at certificates transactions
                exact ⟨_, rfl, ⟨⟨rfl, rfl, rfl, rfl⟩, rfl⟩, certificates, transactions⟩
              · obtain ⟨_, ⟨id, submittedAt, rfl⟩, certificates, transactions⟩ :=
                  recordInitiation_rows rest
                rw [middleSame] at certificates transactions
                exact ⟨_, rfl, ⟨⟨rfl, rfl, rfl, rfl⟩, rfl⟩, certificates, transactions⟩

end CertificateRevocationService

open CertificateIssuanceService (Confirmable IsStoreRow storeTx?)
open CertificateRevocationService (Revocable IsRevokeRow revokeTx?)

/-- The committed certificates and transaction rows before and after one call. -/
inductive RowsEffect (runtime : Runtime) (call : CertificateCall) (start after : Direct) :
    Prop where
  | unchanged (same : SameLedger after.database start.database)
  | uploaded {certificate : Certificate} {storeTx : BlockchainTransaction}
      (isNew : certificate.blockchainStatus = .PENDING ∧ certificate.isActive = true)
      (isStoreRow : IsStoreRow certificate storeTx)
      (certificates : after.database .certificates =
        start.database .certificates ++ [certificate])
      (transactions : after.database .blockchainTransactions =
        start.database .blockchainTransactions ++ [storeTx])
  | initiated {certId : Uuid} {certificate : Certificate} {revokeTx : BlockchainTransaction}
      (found : start.database.find? .certificates certId = some certificate)
      (isRevokeRow : IsRevokeRow certId revokeTx)
      (certificates : after.database .certificates = start.database .certificates)
      (transactions : after.database .blockchainTransactions =
        start.database .blockchainTransactions ++ [revokeTx])
  | marked {certId : Uuid} {txHash : String} {user : User} {certificate : Certificate}
      {status : BlockchainStatus} {assignments : List TransactionAssignment}
      (confirmable : Confirmable start.database certId user certificate)
      (mark : StorageMark txHash status assignments)
      (certificates : after.database .certificates =
        @updateRows .certificates certId [.blockchainStatus status]
          (start.database .certificates))
      (transactions : after.database .blockchainTransactions =
        recordedRows (storeTx? start.database certId) assignments
          (start.database .blockchainTransactions))
  | revocation {certId : Uuid} {txHash : String} {user : User} {certificate : Certificate}
      {marks : List CertificateAssignment} {assignments : List TransactionAssignment}
      (isCall : call = .confirmRevocation certId txHash user)
      (revocable : Revocable start.database certId user certificate)
      (mark : RevocationMark txHash user.id (call.Revokes runtime start certificate) marks
        assignments)
      (certificates : after.database .certificates =
        @updateRows .certificates certId marks (start.database .certificates))
      (transactions : after.database .blockchainTransactions =
        recordedRows (revokeTx? start.database certId) assignments
          (start.database .blockchainTransactions))

section calls

variable {runtime : Runtime}

/-- A transaction block leaves the committed rows alone when it raises. -/
theorem RowsEffect.of_block {call : CertificateCall} {Value : Type} {body : Action Value}
    (statements : body.Every fun _ op => op.isControl = false) {store : Store} {inputs : Inputs}
    (returned : ∀ value left, body.run directHandler (.begun store inputs) = (.ok value, left) →
      RowsEffect runtime call (.begun store inputs) left.committed) :
    RowsEffect runtime call (.begun store inputs)
      ((transaction body).run directHandler (.fresh store inputs)).2 := by
  rw [run_transaction_fresh]
  rcases ran : body.run directHandler (.begun store inputs) with ⟨error | value, left⟩
  · have sameDatabase := (run_follows statements (.begun store inputs)).1
    rw [ran] at sameDatabase
    exact .unchanged ⟨congrFun sameDatabase .certificates,
      congrFun sameDatabase .blockchainTransactions⟩
  · exact returned value left ran

/-- An upload adds a PENDING certificate with its submission, or nothing. -/
theorem upload_rows (store : Store) (inputs : Inputs) (fileBytes : List UInt8)
    (fileOriginalName : String) (metadata : CertificateIssuanceService.IssueMetadata)
    (user : User) :
    RowsEffect runtime (.upload fileBytes fileOriginalName metadata user) (.begun store inputs)
      ((CertificateIssuanceService.uploadAndHashCertificate runtime fileBytes fileOriginalName
        metadata user).run directHandler (.fresh store inputs)).2 := by
  refine .of_block ?_ fun draft left ran => ?_
  · exact CertificateIssuanceService.every_uploadBlock Op.not_isControl_of_isReading runtime
      fileBytes fileOriginalName metadata user (fun _ _ => rfl) (fun _ _ _ => rfl) fun _ _ _ => rfl
  · obtain ⟨certificate, storeTx, isNew, isStoreRow, certificates, transactions⟩ :=
      CertificateIssuanceService.uploadBlock_rows ran
    exact .uploaded isNew isStoreRow certificates transactions

/-- Initiating a revocation adds its submission, or nothing. -/
theorem initiate_rows (store : ValidStore) (inputs : Inputs) (certId : Uuid) (reason : String)
    (user : User) (blockchainService : Bool) :
    RowsEffect runtime (.initiateRevocation certId reason user blockchainService)
      (.begun store.toStore inputs)
      ((CertificateRevocationService.initiateRevocation runtime certId reason user
        blockchainService).run directHandler (.fresh store.toStore inputs)).2 := by
  have effect : RowsEffect runtime (.initiateRevocation certId reason user blockchainService)
      (.begun store.toStore inputs)
      ((transaction (CertificateRevocationService.initiateBlock runtime certId reason user
        blockchainService)).run directHandler (.fresh store.toStore inputs)).2 := by
    refine .of_block ?_ fun answer left ran => ?_
    · exact CertificateRevocationService.every_initiateBlock Op.not_isControl_of_isReading runtime
        certId reason user blockchainService fun _ _ _ => rfl
    · obtain ⟨certificate, revokeTx, found, isRevokeRow, certificates, transactions⟩ :=
        CertificateRevocationService.initiateBlock_rows (Direct.open_begun store inputs) ran
      exact .initiated found isRevokeRow.1 certificates transactions
  simp only [CertificateRevocationService.initiateRevocation, Program.run_bind]
  rcases ran : (transaction (CertificateRevocationService.initiateBlock runtime certId reason user
    blockchainService)).run directHandler (.fresh store.toStore inputs) with ⟨_ | _, after⟩ <;>
    rw [ran] at effect <;> exact effect

/-- A confirmation of storage marks certificate and submission together. -/
theorem confirmStorage_rows (store : ValidStore) (inputs : Inputs) (certId : Uuid)
    (txHash : String) (user : User) :
    RowsEffect runtime (.confirmStorage certId txHash user) (.begun store.toStore inputs)
      ((CertificateIssuanceService.confirmBlockchainStorage runtime certId txHash user).run
        directHandler (.fresh store.toStore inputs)).2 := by
  rcases @confirmStorage_settles runtime store inputs certId txHash user with
    same | ⟨exit, left, path, same, -⟩
  · exact .unchanged same
  · obtain ⟨certificate, assignments, confirmable, -, mark, certificates, transactions⟩ :=
      path.ledger (Direct.open_begun store inputs)
    exact .marked confirmable mark (same.1.trans certificates) (same.2.trans transactions)

/-- A confirmation of a revocation marks certificate and submission together. -/
theorem confirmRevocation_rows (store : ValidStore) (inputs : Inputs) (certId : Uuid)
    (txHash : String) (user : User) :
    RowsEffect runtime (.confirmRevocation certId txHash user) (.begun store.toStore inputs)
      ((CertificateRevocationService.confirmRevocation runtime certId txHash user).run
        directHandler (.fresh store.toStore inputs)).2 := by
  rcases @confirmRevocation_settles runtime store inputs certId txHash user with
    same | ⟨response, left, path, isLeft⟩
  · exact .unchanged same
  · rw [isLeft]
    obtain ⟨certificate, assignments, marks, revocable, -, mark, certificates, transactions⟩ :=
      path.ledger
    exact .revocation rfl revocable mark certificates transactions

/-- Every call has one of the five effects. -/
theorem call_rows (call : CertificateCall) (store : ValidStore) (inputs : Inputs) :
    RowsEffect runtime call (.begun store.toStore inputs)
      ((call.action runtime).run directHandler (.fresh store.toStore inputs)).2 := by
  cases call with
  | upload fileBytes fileOriginalName metadata user =>
      rw [CertificateCall.action, Program.run_map]
      exact upload_rows store.toStore inputs fileBytes fileOriginalName metadata user
  | confirmStorage certId txHash user =>
      rw [CertificateCall.action, Program.run_map]
      exact confirmStorage_rows store inputs certId txHash user
  | initiateRevocation certId reason user blockchainService =>
      rw [CertificateCall.action, Program.run_map]
      exact initiate_rows store inputs certId reason user blockchainService
  | confirmRevocation certId txHash user =>
      rw [CertificateCall.action, Program.run_map]
      exact confirmRevocation_rows store inputs certId txHash user

end calls

end AcademicCredential
