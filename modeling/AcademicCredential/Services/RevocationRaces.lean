import AcademicCredential.Database.Decide
import AcademicCredential.Database.Updates
import AcademicCredential.Outlines
import AcademicCredential.ServiceFootprints

/-!
# Revocations side by side

`confirm_revocation`, any number of calls at the same time, statement by statement. Each checks
`is_active` on the row it has read, asks the chain, and then updates the row without asking again.
`RevokingPhase` is how far a call has come. `revocations_recorded_once`: in every run in which no
UPDATE finds its certificate revoked, what a revocation has recorded stays, and no other call
reports one of the same certificate.
-/

namespace AcademicCredential

open AcademicCredential.Lib
open AcademicCredential.CertificateRevocationService

/-- A call of `confirm_revocation`. -/
structure RevokingCall where
  certId : Uuid
  blockchainTxHash : String
  currentUser : User

/-- What a revocation runs. -/
def RevokingCall.action (runtime : Runtime) (call : RevokingCall) : Action RevocationResponse :=
  confirmRevocation runtime call.certId call.blockchainTxHash call.currentUser

/-- The revocations side by side, with the store they share. -/
abbrev RevokingWorld := Lib.World Op Exception RevocationResponse RevokingCall Store Session

/-- One turn of the revocations side by side. -/
abbrev RevokingTurn := Turn RevokingCall Inputs (List MinedTransaction)

/-- The revocations side by side, over the operations of a session. -/
def revokingSystem (runtime : Runtime) :
    System Op Exception RevocationResponse RevokingCall Inputs (List MinedTransaction) Store
      Session :=
  readCommitted (RevokingCall.action runtime)

/-- The call has returned, and reports that the certificate is revoked. -/
def ReportsRevoked (world : RevokingWorld) (index : Nat) (certId : Uuid) : Prop :=
  ∃ thread revokedAt, world.threads[index]? = some thread ∧
    thread.program = .ret (.revoked certId revokedAt)

/-- What is recorded of a revocation at one point of a run, and at a later one. -/
structure RevokedOnce (earlier later : RevokingWorld) : Prop where
  final : ∀ id (row : Certificate), earlier.shared.database.find? .certificates id = some row →
    row.isActive = false → ∃ last : Certificate,
      later.shared.database.find? .certificates id = some last ∧ last.revokedAt = row.revokedAt ∧
        last.revokedBy = row.revokedBy ∧ last.revocationReason = row.revocationReason
  refused : ∀ id (row : Certificate), earlier.shared.database.find? .certificates id = some row →
    row.isActive = false →
      ∀ index, ReportsRevoked later index id → ReportsRevoked earlier index id
  unique : ∀ id left right, ReportsRevoked later left id → ReportsRevoked later right id →
    left = right

/-- The turn is an UPDATE of a certificate that is revoked already. -/
def RevokesCertificateAgain (world : RevokingWorld) (turn : RevokingTurn) : Prop :=
  ∃ index thread id assignments, turn = .operate index ∧
    Writes world index thread (.update .certificates id assignments) ∧
    ∃ row : Certificate,
      (visible world.shared thread.own).find? .certificates id = some row ∧ row.isActive = false

/-- How far a revocation has come with its certificate. -/
inductive RevokingPhase where
  | reading
  /-- The loaded certificate is active. -/
  | checked
  /-- The database answered with another certificate, or with none where there was one; this does
  not happen. -/
  | missing
  | revoked
  | settled (revoked : Bool)

namespace RevokingPhase

/-- The transaction has not ended. -/
def isOpen : RevokingPhase → Bool
  | .settled _ => false
  | _ => true

/-- The phase after the certificate was read. -/
def found (call : RevokingCall) (certificate : Certificate) : RevokingPhase :=
  if certificate.id = call.certId then
    if certificate.isActive then .checked else .reading
  else
    .missing

/-- What an operation and its reply make of a phase. -/
def next (call : RevokingCall) :
    RevokingPhase → {Reply : Type} → Op Reply → Reply → RevokingPhase
  | .missing, _, _, _ => .missing
  | .reading, _, .select .certificates _, rows =>
      match rows with
      | [] => .reading
      | certificate :: _ => found call certificate
  | .checked, _, .select .certificates _, rows => if rows.isEmpty then .missing else .checked
  | .checked, _, .flush .certificates _ _, .ok _ => .revoked
  | .revoked, _, .commit, _ => .settled true
  | _, _, .commit, _ => .settled false
  | _, _, .rollback, _ => .settled false
  | phase, _, _, _ => phase

/-- What a call may do in a phase that is open. -/
def allows (call : RevokingCall) : RevokingPhase → {Reply : Type} → Op Reply → Prop
  | .missing, _, _ => True
  | _, _, .select .certificates condition => condition = fun row => decide (rowId row = call.certId)
  | phase, _, .flush .certificates id assignments => phase = .checked ∧ id = call.certId ∧
      ∃ reason revokedBy now, assignments = CertificateRepository.revocation reason revokedBy now
  | phase, _, .refresh .certificates _ => phase = .revoked
  | _, _, .flush .blockchainTransactions _ _ => True
  | _, _, .begin | _, _, .commit | _, _, .rollback => True
  | _, _, op => op.isReading = true

/-- What a revocation may do in each phase. -/
def permits (call : RevokingCall) (phase : RevokingPhase) {Reply : Type} (op : Op Reply) : Prop :=
  phase.isOpen = true ∧ phase.allows call op

end RevokingPhase

/-- How a call may end: one that reports a revocation has committed it. -/
def RevokingCall.Ends (call : RevokingCall) :
    RevokingPhase → Except Exception RevocationResponse → Prop
  | .missing, _ => True
  | phase, .ok (.revoked certId _) => phase = .settled true ∧ certId = call.certId
  | phase, _ => phase = .settled false ∨ phase = .reading

/-- The protocol that the revocations follow. -/
def revokingOutline : System.Outline Op Exception RevocationResponse RevokingCall RevokingPhase where
  protocol call := ⟨RevokingPhase.permits call, RevokingPhase.next call⟩
  ends := RevokingCall.Ends
  initial _ := .reading

/-- Reading other tables, or an UPDATE of a transaction row. -/
def Op.besideCertificates : {Reply : Type} → Op Reply → Prop
  | _, .select .certificates _ | _, .refresh .certificates _ => False
  | _, .flush .blockchainTransactions _ _ => True
  | _, op => op.isReading = true

/-- The row of the revocation is beside the certificates. -/
theorem beside_updateRevokeTx (revokeTx : Option BlockchainTransaction) (status : TransactionStatus)
    (blockData : List TransactionAssignment) :
    (updateRevokeTx revokeTx status blockData).Every fun _ op => op.besideCertificates := by
  cases revokeTx with
  | none => exact Program.every_pure _
  | some tx =>
      refine Program.every_bind (Program.every_bind ?_ fun found => ?_) fun _ => Program.every_pure _
      · exact Program.every_bind ((Program.every_perform _).mpr rfl) fun _ => Program.every_pure _
      · cases found with
        | none => exact Program.every_pure _
        | some row =>
            refine Program.every_bind (Program.every_pure _) fun _ => ?_
            refine Program.every_bind (every_attempt trivial) fun _ => ?_
            exact Program.every_bind ((Program.every_perform _).mpr rfl) fun _ => Program.every_pure _

/-- Listing the submissions is beside the certificates. -/
theorem beside_getByCertificateId (certId : Uuid) :
    (BlockchainTransactionRepository.getByCertificateId certId).Every
      fun _ op => op.besideCertificates :=
  Program.every_bind ((Program.every_perform _).mpr rfl) fun _ => Program.every_pure _

/-- Looking up a receipt is beside the certificates. -/
theorem beside_getTransactionReceipt (runtime : Runtime) (txHash : String) :
    (BlockchainService.getTransactionReceipt runtime txHash).Every
      fun _ op => op.besideCertificates := by
  unfold BlockchainService.getTransactionReceipt
  cases runtime.transactionHashBytes txHash with
  | error text => exact Program.every_raise _
  | ok transactionHash => exact Program.every_bind (every_attempt rfl) fun _ => Program.every_pure _

/-- Looking up a record is beside the certificates. -/
theorem beside_getCertificateRecord (runtime : Runtime) (certUid : String) :
    (BlockchainService.getCertificateRecord runtime certUid).Every
      fun _ op => op.besideCertificates := by
  refine Program.every_bind (every_attempt rfl) fun record => ?_
  cases record.exists with
  | false => exact Program.every_pure _
  | true => exact Program.every_bind (Program.every_ofExcept _) fun _ => Program.every_pure _

/-- Finding the time of the revocation is beside the certificates. -/
theorem beside_revocationTime (record : ChainCertificateRecord) :
    (revocationTime record).Every fun _ op => op.besideCertificates := by
  unfold revocationTime
  cases record.revokedAt with
  | none => exact (Program.every_perform _).mpr rfl
  | some _ => exact Program.every_pure _

section outlines

variable {Value : Type} {call : RevokingCall}

/-- An open call may do what is beside the certificates. -/
theorem RevokingPhase.permits_beside {phase : RevokingPhase} (isOpen : phase.isOpen = true)
    {Reply : Type} {op : Op Reply} (beside : op.besideCertificates) : phase.permits call op := by
  refine And.intro isOpen ?_
  cases op with
  | select table condition | refresh table id | flush table id assignments =>
      cases table <;> cases phase <;> trivial
  | _ => cases phase <;> trivial

/-- What is beside the certificates leaves the phase. -/
theorem RevokingPhase.next_beside (phase : RevokingPhase) {Reply : Type} {op : Op Reply}
    (beside : op.besideCertificates) (reply : Reply) : phase.next call op reply = phase := by
  cases op with
  | select table condition | refresh table id => cases table <;> cases phase <;> trivial
  | flush table id assignments => cases table <;> cases phase <;> first | rfl | cases beside
  | _ => cases phase <;> first | rfl | cases beside

/-- What neither reads nor writes certificates leaves a call in its phase. -/
theorem obeys_beside {ends : RevokingPhase → Except Exception Value → Prop} {phase : RevokingPhase}
    (isOpen : phase.isOpen = true) {program : Action Value}
    (every : program.Every fun _ op => op.besideCertificates)
    (everyEnd : ∀ result, ends phase result) :
    program.Obeys (revokingOutline.protocol call) ends phase :=
  Program.obeys_of_every (fun _ _ beside => RevokingPhase.permits_beside isOpen beside)
    (fun _ _ reply beside => phase.next_beside beside reply) everyEnd every

/-- A call without its certificate writes nothing. -/
theorem obeys_missing {ends : RevokingPhase → Except Exception Value → Prop}
    (everyEnd : ∀ result, ends .missing result) (program : Action Value) :
    program.Obeys (revokingOutline.protocol call) ends .missing := by
  have permitted : ∀ (Reply : Type) (op : Op Reply), True →
      (revokingOutline.protocol call).permits .missing op := fun _ _ _ => ⟨rfl, trivial⟩
  have stays : ∀ (Reply : Type) (op : Op Reply) (reply : Reply), True →
      (revokingOutline.protocol call).next .missing op reply = .missing := fun _ _ _ _ => rfl
  exact Program.obeys_of_every permitted stays everyEnd (Program.every_true program)

/-- The revocation in the database: its UPDATE is made in the phase that allows it. -/
theorem obeys_revoke {reason : String} {revokedBy : Uuid}
    {ends : RevokingPhase → Except Exception (Option Certificate) → Prop}
    (revoked : ∀ result, ends .revoked result) (missing : ∀ result, ends .missing result)
    (failed : ∀ error, ends .checked (.error error)) :
    (CertificateRepository.revoke call.certId reason revokedBy).Obeys
      (revokingOutline.protocol call) ends .checked := by
  rw [CertificateRepository.revoke, BaseRepository.modify, Program.obeys_bind,
    BaseRepository.getById, BaseRepository.obeys_findOne]
  refine ⟨⟨rfl, rfl⟩, fun rows => ?_⟩
  cases rows with
  | nil => exact missing _
  | cons row rest =>
      refine ⟨⟨rfl, rfl⟩, fun now => ⟨⟨rfl, rfl, rfl, reason, revokedBy, now, rfl⟩, fun reply => ?_⟩⟩
      cases reply with
      | error error => exact failed error
      | ok _ => exact ⟨⟨rfl, rfl⟩, fun loaded => revoked _⟩

/-- How the block of a call may be left. -/
def blockEnd (call : RevokingCall) : RevokingPhase → Except Exception RevocationResponse → Prop
  | .missing, _ => True
  | phase, .ok (.revoked certId _) => phase = .revoked ∧ certId = call.certId
  | phase, .ok (.submitted _ _) => phase = .checked
  | phase, .error _ => phase.isOpen = true

/-- The end of the block is an end of the call. -/
theorem blockEnds_of_blockEnd {phase : RevokingPhase} {result : Except Exception RevocationResponse}
    (ended : blockEnd call phase result) :
    blockEnds (revokingOutline.protocol call) (revokingOutline.ends call) phase result := by
  cases phase with
  | missing =>
      cases result with
      | error error => exact ⟨⟨rfl, trivial⟩, trivial⟩
      | ok response => exact ⟨⟨rfl, trivial⟩, trivial⟩
  | settled revoked =>
      rcases result with error | (_ | _)
      · cases ended
      · cases ended
      · cases ended.1
  | reading | checked | revoked =>
      rcases result with error | (_ | _)
      · exact ⟨⟨rfl, trivial⟩, .inl rfl⟩
      · first | exact ⟨⟨rfl, trivial⟩, .inl rfl⟩ | cases ended
      · first | exact ⟨⟨rfl, trivial⟩, rfl, ended.2⟩ | cases ended.1

/-- Steps 3 to 5, of a call whose certificate is active. -/
theorem obeys_recordRevocation (currentUserId : Uuid) (revokeTx : Option BlockchainTransaction)
    (blockchainTxHash : String) (receipt : TransactionReceipt)
    (record : Option ChainCertificateRecord) :
    (recordRevocation call.certId currentUserId revokeTx blockchainTxHash receipt record).Obeys
      (revokingOutline.protocol call) (blockEnd call) .checked := by
  -- Once the UPDATE is made, or the certificate is missing, the rest stays in the phase.
  have rest : ∀ {phase : RevokingPhase} (revokedAt : Timestamp)
      (updated : Except Exception (Option Certificate)), phase.isOpen = true →
      (∀ error, blockEnd call phase (.error error)) →
      blockEnd call phase (.ok (.revoked call.certId revokedAt)) →
      Program.thenObeys (revokingOutline.protocol call) (blockEnd call) (fun _ => do
        updateRevokeTx revokeTx .CONFIRMED
          (CertificateIssuanceService.confirmationData blockchainTxHash receipt revokedAt)
        return .revoked call.certId revokedAt) phase updated := by
    intro phase revokedAt updated isOpen failed ended
    cases updated with
    | error error => exact failed error
    | ok row =>
        rw [Program.thenObeys, Program.obeys_bind]
        refine obeys_beside isOpen (beside_updateRevokeTx _ _ _) fun recorded => ?_
        cases recorded with
        | error error => exact failed error
        | ok _ => exact ended
  cases record with
  | none => exact rfl
  | some record =>
      dsimp only [recordRevocation]
      split
      · exact rfl
      · rw [Program.obeys_bind]
        refine obeys_beside rfl (beside_revocationTime record) fun timed => ?_
        cases timed with
        | error error => exact rfl
        | ok revokedAt =>
            rw [Program.thenObeys, Program.obeys_bind]
            refine obeys_revoke (fun updated => ?_) (fun updated => ?_) fun error => rfl
            · exact rest revokedAt updated rfl (fun _ => rfl) ⟨rfl, rfl⟩
            · exact rest revokedAt updated rfl (fun _ => trivial) trivial

/-- The `try` statement, of a call whose certificate is active. -/
theorem obeys_verifyRevocation (runtime : Runtime) {certificate : Certificate}
    (isCall : certificate.id = call.certId) (currentUserId : Uuid)
    (revokeTx : Option BlockchainTransaction) (blockchainTxHash : String) :
    (verifyRevocation runtime certificate currentUserId revokeTx blockchainTxHash).Obeys
      (revokingOutline.protocol call) (blockEnd call) .checked := by
  unfold verifyRevocation
  rw [Program.obeys_bind]
  refine obeys_beside rfl (beside_getTransactionReceipt runtime blockchainTxHash) fun received => ?_
  cases received with
  | error error => exact rfl
  | ok receipt =>
      cases receipt with
      | none =>
          rw [Program.thenObeys, Program.obeys_bind]
          refine obeys_beside rfl (beside_updateRevokeTx _ _ _) fun updated => ?_
          cases updated <;> exact rfl
      | some receipt =>
          rw [Program.thenObeys]
          dsimp only
          split
          · rw [Program.obeys_bind]
            refine obeys_beside rfl (beside_updateRevokeTx _ _ _) fun updated => ?_
            cases updated <;> exact rfl
          · rw [Program.obeys_bind]
            refine obeys_beside rfl (beside_getCertificateRecord runtime _) fun looked => ?_
            cases looked with
            | error error => exact rfl
            | ok record =>
                rw [Program.thenObeys, isCall]
                exact obeys_recordRevocation currentUserId revokeTx blockchainTxHash receipt record

/-- What the `except` branch does leaves a call in its phase as well. -/
theorem obeys_unreachable {phase : RevokingPhase} (isOpen : phase.isOpen = true) (error : Exception)
    (revokeTx : Option BlockchainTransaction) (blockchainTxHash : String) :
    (if error.isUnreachable then do
        updateRevokeTx revokeTx .SUBMITTED [.txHash (some blockchainTxHash)]
        Program.raise error
      else
        Program.raise error : Action RevocationResponse).Obeys (revokingOutline.protocol call)
          (blockEnd call) phase := by
  have fails : ∀ error, blockEnd call phase (.error error) := by
    intro error
    cases phase <;> first | exact trivial | exact isOpen
  split
  · rw [Program.obeys_bind]
    refine obeys_beside isOpen (beside_updateRevokeTx _ _ _) fun updated => ?_
    cases updated <;> exact fails _
  · exact fails error

/-- The block of a confirmation follows the protocol. -/
theorem obeys_confirmBlock (runtime : Runtime) (call : RevokingCall) :
    (confirmBlock runtime call.certId call.blockchainTxHash call.currentUser).Obeys
      (revokingOutline.protocol call) (blockEnd call) .reading := by
  unfold confirmBlock CertificateRepository.getById BaseRepository.getById
  rw [Program.obeys_bind]
  refine BaseRepository.obeys_findOne.mpr ⟨⟨rfl, rfl⟩, fun rows => ?_⟩
  cases rows with
  | nil => exact rfl
  | cons certificate rest =>
      change Program.thenObeys _ _ _ (RevokingPhase.found call certificate) (.ok (some certificate))
      rw [Program.thenObeys]
      dsimp only
      by_cases isCall : certificate.id = call.certId
      · cases isActive : certificate.isActive with
        | false =>
            rw [RevokingPhase.found, if_pos isCall, isActive]
            split <;> exact rfl
        | true =>
            rw [RevokingPhase.found, if_pos isCall, isActive]
            split
            · exact rfl
            · change Program.Obeys _ _ _ RevokingPhase.checked
              rw [Bool.not_true, if_neg Bool.false_ne_true, Program.obeys_bind]
              refine obeys_beside rfl (beside_getByCertificateId _) fun listed => ?_
              cases listed with
              | error error => exact rfl
              | ok txs =>
                  rw [Program.thenObeys, Program.obeys_catchError]
                  refine (obeys_verifyRevocation runtime isCall _ _ _).mono ?_
                  intro phase result ended
                  cases result with
                  | ok response => exact ended
                  | error error =>
                      refine obeys_unreachable ?_ error _ _
                      cases phase <;> first | exact rfl | exact ended
      · rw [RevokingPhase.found, if_neg isCall]
        exact obeys_missing (fun _ => trivial) _

/-- Every call follows the outline. -/
theorem obeys_action (runtime : Runtime) (call : RevokingCall) :
    (call.action runtime).Obeys (revokingOutline.protocol call) (revokingOutline.ends call)
      .reading := by
  refine obeys_transaction ⟨rfl, trivial⟩ (fun error => .inr rfl) ?_
  exact (obeys_confirmBlock runtime call).mono fun phase result ended => blockEnds_of_blockEnd ended

end outlines

/-- The writes are to other tables. -/
def BesideCertificates (writes : List Write) : Prop := ∀ write ∈ writes, write.table ≠ .certificates

/-- Of the certificates the writes update one. -/
structure UpdatesOnly (certId : Uuid) (writes : List Write) : Prop where
  updated : ∃ write ∈ writes, write.updates .certificates certId = true
  only : ∀ write ∈ writes, ∀ id, write.updates .certificates id = true → id = certId

/-- What has been written, and what has been read, when a call is in a phase. -/
def RevokingPhase.Holds (call : RevokingCall) (database : Database) (session : Session) :
    RevokingPhase → Prop
  | .reading => session.committed = [] ∧ BesideCertificates session.pending
  | .checked => session.committed = [] ∧ BesideCertificates session.pending ∧
      (∃ row : Certificate, session.identityMap.find? .certificates call.certId = some row ∧
        row.isActive = true) ∧
      ∃ row, database.find? .certificates call.certId = some row
  | .missing => False
  | .revoked => session.committed = [] ∧ UpdatesOnly call.certId session.pending
  | .settled true => session.pending = [] ∧ UpdatesOnly call.certId session.committed
  | .settled false => session.pending = [] ∧ BesideCertificates session.committed

/-- A write is to the table of the row it updates. -/
theorem Write.table_of_updates {write : Write} {table : Table} {id : Uuid}
    (updates : write.updates table id = true) : write.table = table := by
  obtain ⟨assignments, rfl⟩ := Write.of_updates updates
  rfl

/-- A further write elsewhere is beside the certificates. -/
theorem BesideCertificates.snoc {writes : List Write} {write : Write}
    (beside : BesideCertificates writes) (elsewhere : write.table ≠ .certificates) :
    BesideCertificates (writes ++ [write]) := by
  intro other member
  rcases List.mem_append.mp member with before | isNew
  · exact beside other before
  · rw [List.mem_singleton.mp isNew]
    exact elsewhere

/-- A further write elsewhere updates no other certificate. -/
theorem UpdatesOnly.snoc {certId : Uuid} {writes : List Write} {write : Write}
    (updatesOnly : UpdatesOnly certId writes) (elsewhere : write.table ≠ .certificates) :
    UpdatesOnly certId (writes ++ [write]) := by
  obtain ⟨⟨first, isFirst, updates⟩, only⟩ := updatesOnly
  refine ⟨⟨first, List.mem_append_left _ isFirst, updates⟩, fun other member id updated => ?_⟩
  rcases List.mem_append.mp member with before | isNew
  · exact only other before id updated
  · rw [List.mem_singleton.mp isNew] at updated
    exact absurd (Write.table_of_updates updated) elsewhere

/-- The update of the certificate may follow writes elsewhere. -/
theorem BesideCertificates.updatesOnly {certId : Uuid} {writes : List Write}
    (beside : BesideCertificates writes) (assignments : List CertificateAssignment) :
    UpdatesOnly certId (writes ++ [.update .certificates certId assignments]) := by
  refine ⟨⟨_, List.mem_append_right _ (List.mem_singleton_self _), decide_eq_true ⟨rfl, rfl⟩⟩,
    fun other member id updated => ?_⟩
  rcases List.mem_append.mp member with before | isNew
  · exact absurd (Write.table_of_updates updated) (beside other before)
  · rw [List.mem_singleton.mp isNew] at updated
    exact (of_decide_eq_true updated).2.symm

/-- What a session makes of an operation beside the certificates. -/
theorem sessionHandler_beside {Reply : Type} {op : Op Reply} (beside : op.besideCertificates)
    (store : Store) (session : Session) :
    (sessionHandler Reply op (store, session)).2.2.identityMap .certificates =
        session.identityMap .certificates ∧
      (sessionHandler Reply op (store, session)).2.2.committed = session.committed ∧
      (sessionHandler Reply op (store, session)).2.1.database = store.database ∧
      ((sessionHandler Reply op (store, session)).2.2.pending = session.pending ∨
        ∃ write, write.table ≠ .certificates ∧
          (sessionHandler Reply op (store, session)).2.2.pending = session.pending ++ [write]) := by
  cases op with
  | select table condition =>
      cases table with
      | certificates => cases beside
      | _ => exact ⟨rfl, rfl, rfl, .inl rfl⟩
  | refresh table id =>
      cases table with
      | certificates => cases beside
      | _ => exact ⟨rfl, rfl, rfl, .inl rfl⟩
  | flush table id assignments =>
      cases table with
      | blockchainTransactions =>
          simp only [sessionHandler]
          split
          · split
            · exact ⟨rfl, rfl, rfl, .inl rfl⟩
            · unfold Session.updateRow
              split
              · exact ⟨rfl, rfl, rfl, .inl rfl⟩
              · have elsewhere : Table.blockchainTransactions ≠ .certificates := by decide
                exact ⟨rfl, rfl, rfl, .inr ⟨.update .blockchainTransactions id _, elsewhere, rfl⟩⟩
          · exact ⟨rfl, rfl, rfl, .inl rfl⟩
      | _ => cases beside
  | _ => first | exact ⟨rfl, rfl, rfl, .inl rfl⟩ | cases beside

/-- An operation beside the certificates keeps what holds. -/
theorem RevokingPhase.Holds.beside {call : RevokingCall} {store : Store} {session : Session}
    {phase : RevokingPhase} (holds : phase.Holds call store.database session)
    {Reply : Type} {op : Op Reply} (isOpen : phase.isOpen = true) (beside : op.besideCertificates) :
    phase.Holds call (sessionHandler Reply op (store, session)).2.1.database
      (sessionHandler Reply op (store, session)).2.2 := by
  obtain ⟨identityMap, committed, database, pending⟩ := sessionHandler_beside beside store session
  generalize sessionHandler Reply op (store, session) = outcome
    at identityMap committed database pending
  rw [database]
  have stillBeside : BesideCertificates session.pending → BesideCertificates outcome.2.2.pending := by
    intro before
    rcases pending with same | ⟨write, elsewhere, same⟩
    · rw [same]
      exact before
    · rw [same]
      exact before.snoc elsewhere
  cases phase with
  | reading => exact ⟨committed.trans holds.1, stillBeside holds.2⟩
  | checked =>
      obtain ⟨nothing, before, loaded, stored⟩ := holds
      refine ⟨committed.trans nothing, stillBeside before, ?_, stored⟩
      rw [Database.find?_congr identityMap]
      exact loaded
  | missing => exact holds
  | revoked =>
      refine ⟨committed.trans holds.1, ?_⟩
      rcases pending with same | ⟨write, elsewhere, same⟩
      · rw [same]
        exact holds.2
      · rw [same]
        exact holds.2.snoc elsewhere
  | settled revoked => cases isOpen

/-- An inactive row stays so, and an UPDATE that says so makes it one. -/
theorem isActive_assignAll_revocation {reason : String} {revokedBy : Uuid} {now : Timestamp}
    {assignments : List CertificateAssignment}
    (among : ∀ assignment ∈ assignments,
      assignment ∈ CertificateRepository.revocation reason revokedBy now) {row : Certificate}
    (inactive : row.isActive = false ∨ .isActive false ∈ assignments) :
    (@assignAll .certificates row assignments).isActive = false := by
  induction assignments generalizing row with
  | nil => exact inactive.resolve_right List.not_mem_nil
  | cons first rest inductionHypothesis =>
      refine inductionHypothesis (fun assignment member =>
        among assignment (List.mem_cons_of_mem first member)) ?_
      have isOne := among first List.mem_cons_self
      simp only [CertificateRepository.revocation, List.mem_cons, List.not_mem_nil, or_false]
        at isOne
      rcases inactive with before | sets
      · left
        rcases isOne with rfl | rfl | rfl | rfl | rfl
        · rfl
        · exact before
        · exact before
        · exact before
        · exact before
      · rcases List.mem_cons.mp sets with rfl | later
        · exact .inl rfl
        · exact .inr later

/-- The flush of a revocation writes that the certificate is inactive, if it was loaded active. -/
theorem isActive_mem_netChanges {loaded : Certificate} (isActive : loaded.isActive = true)
    (reason : String) (revokedBy : Uuid) (now : Timestamp) :
    CertificateAssignment.isActive false ∈ @netChanges .certificates loaded
      (CertificateRepository.revocation reason revokedBy now) := by
  refine List.mem_filter.mpr ⟨List.mem_cons_self, decide_eq_true fun same => ?_⟩
  have sameActive := congrArg Certificate.isActive same
  rw [isActive] at sameActive
  cases sameActive

/-- What the flush of a revocation asks for, when the certificate was loaded active. -/
theorem statement?_revocation {store : Store} {session : Session} {certId : Uuid}
    {loaded : Certificate}
    (isLoaded : session.identityMap.find? .certificates certId = some loaded)
    (isActive : loaded.isActive = true) {reason : String} {revokedBy : Uuid} {now : Timestamp}
    {write : Write}
    (asked : session.statement? store (.flush .certificates certId
      (CertificateRepository.revocation reason revokedBy now)) = some write) :
    ∃ changes : List CertificateAssignment, write = .update .certificates certId changes ∧
      (∀ assignment ∈ changes,
        assignment ∈ CertificateRepository.revocation reason revokedBy now) ∧
      .isActive false ∈ changes := by
  have sets := isActive_mem_netChanges isActive reason revokedBy now
  have instance? : session.instance? store .certificates certId = some loaded := by
    rw [Session.instance?, isLoaded, Option.some_or]
  simp only [Session.statement?, instance?] at asked
  split at asked
  · rename_i _ _ same _
    obtain rfl := Option.some.inj same
    split at asked
    · cases asked
    · rename_i change changes isChanges
      refine ⟨change :: changes, (Option.some.inj asked).symm, fun assignment member => ?_, ?_⟩
      · rw [← isChanges] at member
        exact List.mem_of_mem_filter member
      · rw [← isChanges]
        exact sets
  · cases asked

/-- A flush that is answered wrote, when the certificate was loaded active. -/
theorem flush_revocation {store : Store} {session : Session} {certId : Uuid} {loaded : Certificate}
    (isLoaded : session.identityMap.find? .certificates certId = some loaded)
    (isActive : loaded.isActive = true) (reason : String) (revokedBy : Uuid) (now : Timestamp) :
    let outcome := sessionHandler _ (.flush .certificates certId
      (CertificateRepository.revocation reason revokedBy now)) (store, session)
    outcome.2.1 = store ∧ outcome.2.2.committed = session.committed ∧
      ((outcome.1 = .ok () ∧ ∃ changes : List CertificateAssignment,
          outcome.2.2.pending = session.pending ++ [.update .certificates certId changes]) ∨
        (∃ error, outcome.1 = .error error) ∧ outcome.2.2.pending = session.pending ∧
          outcome.2.2.identityMap = session.identityMap) := by
  have sets := isActive_mem_netChanges isActive reason revokedBy now
  have instance? : session.instance? store .certificates certId = some loaded := by
    rw [Session.instance?, isLoaded, Option.some_or]
  simp only [sessionHandler, instance?]
  split
  · rename_i _ _ same _
    obtain rfl := Option.some.inj same
    split
    · rename_i nothing
      rw [nothing] at sets
      exact absurd sets List.not_mem_nil
    · unfold Session.updateRow
      split
      · exact ⟨rfl, rfl, .inr ⟨⟨_, rfl⟩, rfl, rfl⟩⟩
      · exact ⟨rfl, rfl, .inl ⟨rfl, _, rfl⟩⟩
  · exact ⟨rfl, rfl, .inr ⟨⟨_, rfl⟩, rfl, rfl⟩⟩

/-- A SELECT leaves the loaded instances as they were. -/
theorem find?_loadRows_of_found {identityMap : Database} {table : Table} {id : Uuid}
    {row : Row table} (found : identityMap.find? table id = some row) (rows : List (Row table)) :
    (loadRows identityMap table rows).find? table id = some row := by
  rw [Database.find?] at found
  simp only [Database.find?, loadRows, Function.update_self, List.find?_append, found,
    Option.some_or]

/-- What a SELECT returns is in the identity map afterwards. -/
theorem find?_loadRows {identityMap : Database} {table : Table} {rows : List (Row table)}
    (keyed : (rows.map rowId).Nodup) {row : Row table}
    (member : row ∈ loadedRows identityMap table rows) :
    (loadRows identityMap table rows).find? table (rowId row) = some row := by
  obtain ⟨stored, isStored, isRow⟩ := List.mem_map.mp member
  cases loaded : identityMap.find? table (rowId stored) with
  | some known =>
      rw [loaded, Option.getD_some] at isRow
      subst isRow
      refine find?_loadRows_of_found ?_ rows
      rw [(Database.find?_some loaded).2]
      exact loaded
  | none =>
      rw [loaded, Option.getD_none] at isRow
      subst isRow
      have isNew : stored ∈ rows.filter fun row => (identityMap.find? table (rowId row)).isNone :=
        List.mem_filter.mpr ⟨isStored, by rw [loaded]; rfl⟩
      obtain ⟨first, isFirst⟩ := Option.isSome_iff_exists.mp
        (List.find?_isSome (p := fun row => decide (rowId row = rowId stored)).mpr
          ⟨stored, isNew, decide_eq_true rfl⟩)
      have sameId : rowId first = rowId stored := by simpa using List.find?_some isFirst
      have member := List.mem_of_mem_filter (List.mem_of_find?_eq_some isFirst)
      have same : first = stored := List.inj_on_of_nodup_map keyed member isStored sameId
      rw [same] at isFirst
      rw [Database.find?] at loaded
      simp only [Database.find?, loadRows, Function.update_self, List.find?_append, loaded,
        Option.none_or]
      exact isFirst

/-- The transaction sees the committed certificates as long as it has written none. -/
theorem BesideCertificates.visible {store : Store} {session : Session}
    (beside : BesideCertificates session.pending) (id : Uuid) :
    (AcademicCredential.visible store session).find? .certificates id =
      store.database.find? .certificates id := by
  refine find?_applyWrites_of_untouched ?_ store.database
  rintro ⟨write, member, inTable, -⟩
  exact beside write member inTable

/-- The SELECT of the certificate that a call is for. -/
def RevokingCall.lookup (call : RevokingCall) : Op (List (Row .certificates)) :=
  .select .certificates fun row => decide (rowId row = call.certId)

/-- The first read finds the certificate as it is. -/
theorem RevokingPhase.Holds.select_reading {call : RevokingCall} {store : Store} {session : Session}
    (holds : RevokingPhase.reading.Holds call store.database session)
    (keyed : (visible store session).Keyed) :
    (RevokingPhase.reading.next call call.lookup
        (sessionHandler _ call.lookup (store, session)).1).Holds call store.database
      (sessionHandler _ call.lookup (store, session)).2.2 := by
  cases rows : (sessionHandler _ call.lookup (store, session)).1 with
  | nil => exact holds
  | cons certificate rest =>
      have member : certificate ∈ (sessionHandler _ call.lookup (store, session)).1 := by
        rw [rows]
        exact List.mem_cons_self
      have loaded := find?_loadRows ((keyed .certificates).sublist
        (List.filter_sublist.map rowId)) member
      obtain ⟨stored, isStored, isRow⟩ := List.mem_map.mp member
      obtain ⟨sees, isLookup⟩ := List.mem_filter.mp isStored
      have sameId : rowId stored = call.certId := of_decide_eq_true isLookup
      have isCall : certificate.id = call.certId := by
        cases known : session.identityMap.find? .certificates (rowId stored) with
        | none =>
            rw [known, Option.getD_none] at isRow
            rw [← isRow]
            exact sameId
        | some row =>
            rw [known, Option.getD_some] at isRow
            rw [← isRow]
            exact (Database.find?_some known).2.trans sameId
      change (RevokingPhase.found call certificate).Holds call store.database _
      rw [RevokingPhase.found, if_pos isCall]
      cases isActive : certificate.isActive with
      | false => exact holds
      | true =>
          have isFound := keyed.find? sees
          rw [sameId, holds.2.visible] at isFound
          refine ⟨holds.1, holds.2, ⟨certificate, ?_, isActive⟩, stored, isFound⟩
          rw [← isCall]
          exact loaded

/-- The second read finds the certificate as it was. -/
theorem RevokingPhase.Holds.select_checked {call : RevokingCall} {store : Store} {session : Session}
    (holds : RevokingPhase.checked.Holds call store.database session) :
    (RevokingPhase.checked.next call call.lookup
        (sessionHandler _ call.lookup (store, session)).1).Holds call store.database
      (sessionHandler _ call.lookup (store, session)).2.2 := by
  obtain ⟨nothing, before, ⟨loaded, isLoaded, isActive⟩, stored, isStored⟩ := holds
  have sees : (visible store session).find? .certificates call.certId = some stored :=
    (before.visible call.certId).trans isStored
  obtain ⟨member, sameId⟩ := Database.find?_some sees
  have some : (sessionHandler _ call.lookup (store, session)).1.isEmpty = false := by
    rw [List.isEmpty_eq_false_iff]
    refine List.ne_nil_of_mem (List.mem_map_of_mem (a := stored) ?_)
    exact List.mem_filter.mpr ⟨member, decide_eq_true sameId⟩
  change (if (sessionHandler _ call.lookup (store, session)).1.isEmpty then
    RevokingPhase.missing else .checked).Holds call store.database _
  rw [some]
  exact ⟨nothing, before, ⟨loaded, find?_loadRows_of_found isLoaded _, isActive⟩, stored, isStored⟩

/-- A permitted operation brings what holds of a phase to the next. -/
theorem RevokingPhase.Holds.perform {call : RevokingCall} {store : Store} {session : Session}
    {phase : RevokingPhase} {Reply : Type} {op : Op Reply}
    (holds : phase.Holds call store.database session) (keyed : (visible store session).Keyed)
    (permitted : phase.permits call op) :
    (phase.next call op (sessionHandler Reply op (store, session)).1).Holds call
      (sessionHandler Reply op (store, session)).2.1.database
      (sessionHandler Reply op (store, session)).2.2 := by
  obtain ⟨isOpen, allowed⟩ := permitted
  by_cases beside : op.besideCertificates
  · rw [phase.next_beside beside]
    exact holds.beside isOpen beside
  cases op with
  | select table condition =>
      cases table with
      | certificates =>
          cases phase with
          | reading =>
              obtain rfl := allowed
              exact holds.select_reading keyed
          | checked =>
              obtain rfl := allowed
              exact holds.select_checked
          | revoked => exact holds
          | missing => exact holds
          | settled revoked => cases isOpen
      | _ => exact absurd rfl beside
  | refresh table id =>
      cases table with
      | certificates =>
          cases phase with
          | revoked => exact holds
          | missing => exact holds
          | _ => cases allowed
      | _ => exact absurd rfl beside
  | flush table id assignments =>
      cases table with
      | certificates =>
          cases phase with
          | checked =>
              obtain ⟨-, rfl, reason, revokedBy, now, rfl⟩ := allowed
              obtain ⟨nothing, before, ⟨loaded, isLoaded, isActive⟩, stored⟩ := holds
              obtain ⟨sameStore, committed, written | ⟨⟨error, failed⟩, pending, identityMap⟩⟩ :=
                @flush_revocation store session _ _ isLoaded isActive reason revokedBy now
              · obtain ⟨answered, changes, pending⟩ := written
                rw [answered]
                refine ⟨committed.trans nothing, ?_⟩
                rw [pending]
                exact before.updatesOnly changes
              · rw [failed, sameStore]
                refine ⟨committed.trans nothing, ?_, ⟨loaded, ?_, isActive⟩, stored⟩
                · rw [pending]
                  exact before
                · rw [identityMap]
                  exact isLoaded
          | missing => exact holds.elim
          | _ => cases allowed.1
      | blockchainTransactions => exact absurd trivial beside
      | _ =>
          cases phase with
          | missing => exact holds.elim
          | _ => cases allowed
  | begin =>
      simp only [sessionHandler]
      split <;> cases phase <;> exact holds
  | commit =>
      cases phase with
      | reading =>
          refine ⟨rfl, ?_⟩
          rw [sessionHandler, holds.1]
          exact holds.2
      | checked =>
          refine ⟨rfl, ?_⟩
          rw [sessionHandler, holds.1]
          exact holds.2.1
      | revoked =>
          refine ⟨rfl, ?_⟩
          rw [sessionHandler, holds.1]
          exact holds.2
      | missing => exact holds
      | settled revoked => cases isOpen
  | rollback =>
      have nothing : session.committed = [] → BesideCertificates session.committed := by
        intro empty write member
        rw [empty] at member
        exact absurd member List.not_mem_nil
      cases phase with
      | missing => exact holds
      | settled revoked => cases isOpen
      | reading | checked | revoked => exact ⟨rfl, nothing holds.1⟩
  | _ =>
      cases phase with
      | missing => exact holds.elim
      | _ => first | exact absurd rfl beside | cases allowed

/-- A statement that is given up leaves the call where it is. -/
theorem RevokingPhase.next_cancelled {call : RevokingCall} (phase : RevokingPhase) {Reply : Type}
    {op : Op Reply} {reply : Reply} (answer : op.cancelled? = some reply) :
    phase.next call op reply = phase := by
  cases op with
  | flush table id assignments =>
      obtain rfl := Option.some.inj answer
      cases table <;> cases phase <;> rfl
  | insert table row | executeUpdate table id assignments => cases phase <;> rfl
  | _ => cases answer

/-- Rows are never deleted. -/
theorem RevokingPhase.Holds.grow {call : RevokingCall} {database : Database} {session : Session}
    {phase : RevokingPhase} (holds : phase.Holds call database session) {later : Database}
    (kept : ∀ id row, database.find? .certificates id = some row →
      ∃ row, later.find? .certificates id = some row) : phase.Holds call later session := by
  cases phase with
  | checked =>
      obtain ⟨nothing, before, loaded, stored, isStored⟩ := holds
      exact ⟨nothing, before, loaded, kept _ stored isStored⟩
  | reading | missing | revoked => exact holds
  | settled revoked => cases revoked <;> exact holds

/-- A call asks only for the UPDATE of a revocation of its certificate, loaded active. -/
theorem RevokingPhase.Holds.asked {call : RevokingCall} {store : Store} {session : Session}
    {phase : RevokingPhase} {Reply : Type} {op : Op Reply}
    (holds : phase.Holds call store.database session) (permitted : phase.permits call op) {id : Uuid}
    {assignments : List CertificateAssignment}
    (asked : session.statement? store op = some (.update .certificates id assignments)) :
    ∃ reason revokedBy now, (∀ assignment ∈ assignments,
      assignment ∈ CertificateRepository.revocation reason revokedBy now) ∧
        .isActive false ∈ assignments := by
  obtain ⟨-, allowed⟩ := permitted
  cases op with
  | flush table key values =>
      obtain ⟨changes, -, -, isUpdate⟩ := Session.statement?_flush asked
      cases isUpdate
      cases phase with
      | checked =>
          obtain ⟨-, rfl, reason, revokedBy, now, rfl⟩ := allowed
          obtain ⟨-, -, ⟨loaded, isLoaded, isActive⟩, -⟩ := holds
          obtain ⟨changes, isUpdate, among, sets⟩ := statement?_revocation isLoaded isActive asked
          cases isUpdate
          exact ⟨reason, revokedBy, now, among, sets⟩
      | missing => exact holds.elim
      | _ => cases allowed.1
  | executeUpdate table key values =>
      cases phase with
      | missing => exact holds.elim
      | _ => cases allowed
  | _ => cases asked

/-- An inactive row stays as it is. -/
def RevocationKept (old new : Certificate) : Prop := old.isActive = false → new = old

/-- Certificates are revoked once, by calls that have written what their phases say. -/
structure Recording (world : RevokingWorld) (phases : Nat → RevokingPhase) : Prop where
  once : @SpentOnce .certificates _ _ (fun row : Certificate => row.isActive = false) world
  rows : @RowsFollow .certificates _ _ RevocationKept world
  tracks : revokingOutline.Tracks world phases
  holds : ∀ (index : Nat) thread, world.threads[index]? = some thread →
    (phases index).Holds thread.call world.shared.database thread.own

namespace Recording

variable {runtime : Runtime} {world : RevokingWorld} {phases : Nat → RevokingPhase}

/-- An UPDATE is one of a revocation whose certificate was loaded active. -/
theorem spends (recording : Recording world phases) {turn : RevokingTurn}
    (first : ¬ RevokesCertificateAgain world turn) {index : Nat}
    {thread : Thread Op Exception RevocationResponse RevokingCall Session} {write : Write}
    (isTurn : turn = .operate index) (writes : Writes world index thread write) {id : Uuid}
    {assignments : List CertificateAssignment}
    (isUpdate : write = .update .certificates id assignments) :
    ∃ row : Certificate, Database.find? (applyWrites world.shared.database (pendingOf world index))
        .certificates id = some row ∧
      ¬ row.isActive = false ∧ (@assignAll .certificates row assignments).isActive = false := by
  subst isUpdate
  obtain ⟨row, found, -⟩ := writes.accepted
  refine ⟨row, found, fun inactive => ?_, ?_⟩
  · rw [pendingOf_of_found writes.found] at found
    exact first ⟨index, thread, id, assignments, isTurn, writes, row, found, inactive⟩
  · obtain ⟨Reply, op, next, reaches, asked⟩ := writes.asked
    obtain ⟨reason, revokedBy, now, among, sets⟩ :=
      (recording.holds index thread writes.found).asked (recording.tracks.reached reaches).1 asked
    exact isActive_assignAll_revocation among (.inr sets)

/-- A call that has ended reports a revocation if and only if it has committed one. -/
theorem reports_iff (recording : Recording world phases) (index : Nat) (id : Uuid) :
    ReportsRevoked world index id ↔
      ∃ write ∈ committedOf world index, write.updates .certificates id = true := by
  constructor
  · rintro ⟨thread, revokedAt, found, returned⟩
    have holds := recording.holds index thread found
    have follows := recording.tracks index thread found
    rw [System.Outline.Follows, returned] at follows
    rw [committedOf_of_found found]
    generalize phases index = phase at holds follows
    cases phase with
    | missing => exact holds.elim
    | settled revoked =>
        obtain ⟨isRevoked, isCall⟩ := follows
        cases isRevoked
        rw [isCall]
        exact holds.2.updated
    | _ => cases follows.1
  · rintro ⟨write, isLogged, updates⟩
    cases found : world.threads[index]? with
    | none => simp [committedOf, found] at isLogged
    | some thread =>
        rw [committedOf_of_found found] at isLogged
        have holds := recording.holds index thread found
        have follows := recording.tracks index thread found
        have unlogged : thread.own.committed ≠ [] := List.ne_nil_of_mem isLogged
        generalize phases index = phase at holds follows
        cases phase with
        | missing => exact holds.elim
        | settled revoked =>
            cases revoked with
            | false => exact absurd (Write.table_of_updates updates) (holds.2 write isLogged)
            | true =>
                rw [System.Outline.Follows] at follows
                cases program : thread.program with
                | ret response =>
                    rw [program] at follows
                    cases response with
                    | submitted message certificateId =>
                        rcases follows with impossible | impossible <;> cases impossible
                    | revoked certId revokedAt =>
                        have isId := holds.2.only write isLogged id updates
                        have isCall : certId = thread.call.certId := follows.2
                        exact ⟨thread, revokedAt, found, by rw [program, isId, isCall]⟩
                | raise error =>
                    rw [program] at follows
                    rcases follows with impossible | impossible <;> cases impossible
                | step op next =>
                    rw [program] at follows
                    cases follows.1.1
        | reading | checked | revoked => exact absurd holds.1 unlogged

/-- A valid database without calls is recorded. -/
theorem idle {store : Store} (valid : store.database.Valid) :
    Recording ⟨store, []⟩ fun _ => .reading :=
  ⟨.idle valid, .idle (fun _ _ => rfl) valid, fun _ _ found => by simp at found,
    fun _ _ found => by simp at found⟩

/-- A turn keeps it unless it updates a certificate that is revoked already. -/
theorem step (recording : Recording world phases) {turn : RevokingTurn}
    (first : ¬ RevokesCertificateAgain world turn) :
    (∃ later, Recording ((revokingSystem runtime).apply world turn) later) ∧
      @DatabaseFollows .certificates RevocationKept world.shared.database
        ((revokingSystem runtime).apply world turn).shared.database := by
  obtain ⟨later, advance, tracks⟩ : ∃ later,
      System.Advance (revokingSystem runtime) revokingOutline world phases turn
        ((revokingSystem runtime).apply world turn) later ∧
      revokingOutline.Tracks ((revokingSystem runtime).apply world turn) later :=
    System.exists_advance (obeys_action runtime) recording.tracks turn
  obtain ⟨rows, follows⟩ := recording.rows.apply (fun _ _ => rfl)
    (fun first middle last earlier later inactive => by
      have same := earlier inactive
      rw [same] at later
      exact later inactive)
    fun index thread write isTurn writes id assignments isUpdate row found inactive => by
      obtain ⟨other, isOther, active, -⟩ := recording.spends first isTurn writes isUpdate
      obtain rfl := Option.some.inj (found.symm.trans isOther)
      exact absurd inactive active
  refine ⟨⟨later, ?_, rows, tracks, ?_⟩, follows⟩
  · exact recording.once.apply fun index thread write isTurn writes id assignments isUpdate =>
      recording.spends first isTurn writes isUpdate
  · refine advance.holds (fun call store session phase => phase.Holds call store.database session)
      ?_ ?_ ?_ ?_ ?_ recording.holds
    · exact fun call inputs _ => ⟨rfl, fun _ member => absurd member List.not_mem_nil⟩
    · intro index thread Reply op next isTurn reaches permitted holds
      refine holds.perform ?_ permitted
      have valid := recording.once.isolated.valid index
      rw [pendingOf_of_found reaches.found] at valid
      exact valid.keyed
    · intro call own phase other Reply op holds
      obtain ⟨writes, database⟩ := database_grows op world.shared other
      refine holds.grow fun id row found => ?_
      change ∃ row, Database.find? (sessionHandler Reply op (world.shared, other)).2.1.database
        .certificates id = some row
      rw [database]
      exact exists_find?_applyWrites found writes
    · intro index thread Reply op next reply isTurn reaches answer waits permitted holds
      change ((phases index).next thread.call op reply).Holds thread.call world.shared.database
        thread.own
      rw [(phases index).next_cancelled answer]
      exact holds
    · exact fun _ _ _ _ holds => holds

/-- A call that reports a revocation after a turn had reported it before, where the certificate
was revoked. -/
theorem refused (recording : Recording world phases) {turn : RevokingTurn} {later : Nat → RevokingPhase}
    (after : Recording ((revokingSystem runtime).apply world turn) later) {id : Uuid}
    {row : Certificate} (found : world.shared.database.find? .certificates id = some row)
    (inactive : row.isActive = false) {index : Nat}
    (reports : ReportsRevoked ((revokingSystem runtime).apply world turn) index id) :
    ReportsRevoked world index id := by
  obtain ⟨write, isLogged, updates⟩ := (after.reports_iff index id).mp reports
  refine (recording.reports_iff index id).mpr ⟨write, ?_, updates⟩
  have logs := @logs_apply _ _ (RevokingCall.action runtime) world turn
  change Logs world turn ((revokingSystem runtime).apply world turn) at logs
  generalize (revokingSystem runtime).apply world turn = next at logs isLogged
  cases logs with
  | quiet _ _ committed | wrote _ _ _ _ _ _ _ committed | rolledBack _ _ _ committed =>
      rw [committed] at isLogged
      exact isLogged
  | committed other _ _ committed =>
      rw [committed] at isLogged
      rcases SpentOnce.mem_logged isLogged with before | ⟨rfl, isPending⟩
      · exact before
      · exact absurd ⟨row, found, inactive⟩
          (recording.once.pending index id ⟨write, isPending, updates⟩).1

end Recording

/-- What a run without repeated revocations leaves. -/
theorem exists_recording (runtime : Runtime) (store : ValidStore) {run : List RevokingTurn}
    (inOrder : ∀ index, ¬ OccursAt (revokingSystem runtime).apply ⟨store.toStore, []⟩ run
      RevokesCertificateAgain index) :
    ∃ phases, Recording (stateAfter (revokingSystem runtime).apply ⟨store.toStore, []⟩ run) phases := by
  have preserved : ∀ world turn, (∃ phases, Recording world phases) →
      ¬ RevokesCertificateAgain world turn →
        ∃ phases, Recording ((revokingSystem runtime).apply world turn) phases := by
    rintro world turn ⟨phases, recording⟩ first
    exact (recording.step first).1
  exact stateAfter_invariant_of_never _ preserved ⟨_, Recording.idle store.valid⟩ inOrder

/-- Between two points of such a run, rows of revoked certificates stay as they are, and no call
comes to report one. -/
theorem settled_between (runtime : Runtime) (store : ValidStore) (earlier later : List RevokingTurn)
    (inOrder : ∀ index, ¬ OccursAt (revokingSystem runtime).apply ⟨store.toStore, []⟩
      (earlier ++ later) RevokesCertificateAgain index) {id : Uuid} {row : Certificate}
    (found : (stateAfter (revokingSystem runtime).apply ⟨store.toStore, []⟩
      earlier).shared.database.find? .certificates id = some row)
    (inactive : row.isActive = false) :
    (stateAfter (revokingSystem runtime).apply ⟨store.toStore, []⟩
      (earlier ++ later)).shared.database.find? .certificates id = some row ∧
    ∀ index, ReportsRevoked (stateAfter (revokingSystem runtime).apply ⟨store.toStore, []⟩
        (earlier ++ later)) index id →
      ReportsRevoked (stateAfter (revokingSystem runtime).apply ⟨store.toStore, []⟩ earlier)
        index id := by
  induction later using List.reverseRecOn with
  | nil =>
      rw [List.append_nil]
      exact ⟨found, fun _ reports => reports⟩
  | append_singleton later turn inductionHypothesis =>
      rw [← List.append_assoc] at inOrder ⊢
      obtain ⟨before, last⟩ := (never_occursAt_snoc ..).mp inOrder
      obtain ⟨stillFound, reported⟩ := inductionHypothesis before
      obtain ⟨phases, recording⟩ := exists_recording runtime store before
      obtain ⟨⟨_, after⟩, follows⟩ := @Recording.step runtime _ _ recording _ last
      rw [stateAfter_snoc]
      obtain ⟨next, isNext, same⟩ := follows id row stillFound
      rw [same inactive] at isNext
      exact ⟨isNext, fun index reports =>
        reported index (recording.refused after stillFound inactive reports)⟩

/-- In every run in which no UPDATE finds its certificate revoked, revocations are recorded once. -/
theorem revocations_recorded_once (runtime : Runtime) (store : ValidStore)
    (earlier later : List RevokingTurn)
    (inOrder : ∀ index, ¬ OccursAt (revokingSystem runtime).apply ⟨store.toStore, []⟩
      (earlier ++ later) RevokesCertificateAgain index) :
    RevokedOnce (stateAfter (revokingSystem runtime).apply ⟨store.toStore, []⟩ earlier)
      (stateAfter (revokingSystem runtime).apply ⟨store.toStore, []⟩ (earlier ++ later)) := by
  refine ⟨fun id row found inactive => ?_, fun id row found inactive => ?_,
    fun id left right leftReports rightReports => ?_⟩
  · exact ⟨row, (settled_between runtime store earlier later inOrder found inactive).1, rfl, rfl, rfl⟩
  · exact (settled_between runtime store earlier later inOrder found inactive).2
  · obtain ⟨phases, recording⟩ := exists_recording runtime store inOrder
    exact recording.once.apart left right id ((recording.reports_iff left id).mp leftReports)
      ((recording.reports_iff right id).mp rightReports)

/-- Whether the thread asks to update a certificate that it sees revoked. -/
def mayRevokeCertificateAgain (world : RevokingWorld) : RevokingTurn → Bool
  | .operate index =>
      match world.threads[index]? with
      | none => false
      | some thread =>
          match thread.program with
          | .step op _ =>
              match thread.own.statement? world.shared op with
              | some (.update .certificates id _) =>
                  ((visible world.shared thread.own).find? .certificates id).any fun row =>
                    !Certificate.isActive row
              | _ => false
          | _ => false
  | _ => false

/-- A turn that passes the check revokes nothing again. -/
theorem not_revokesCertificateAgain {world : RevokingWorld} {turn : RevokingTurn}
    (checked : mayRevokeCertificateAgain world turn = false) :
    ¬ RevokesCertificateAgain world turn := by
  rintro ⟨index, thread, id, assignments, rfl, writes, row, found, inactive⟩
  obtain ⟨Reply, op, next, reaches, asked⟩ := writes.asked
  simp only [mayRevokeCertificateAgain, writes.found, reaches.program, asked, found,
    Option.any_some, inactive, Bool.not_false] at checked
  cases checked

namespace RevocationRaces.Sample

open AcademicCredential.Sample

/-- A confirmed certificate that is revoked on chain. -/
def revocable : ValidStore where
  database := database .CONFIRMED [Sample.transaction 5 .REVOKE_HASH .PENDING none]
  chain := chain [authorization, storage "UNI-2024-00001", revocation "UNI-2024-00001"]
  files := []
  valid := valid_initiated

/-- A confirmation on a server with the given time. -/
def confirm (now : Timestamp) : RevokingTurn :=
  .start ⟨3, revocationTxHash, administrator⟩ { inputs answered with wallClock := fun _ => now }

/-- So many turns of one call. -/
def operations (thread count : Nat) : List RevokingTurn :=
  List.replicate count (.operate thread)

/-- The first of two confirmations. -/
def first : List RevokingTurn :=
  [confirm 1700000003000000, confirm 1700000005000000] ++ operations 0 13

/-- The same, after the second has read the certificate and the transactions as well. -/
def firstOfTwo : List RevokingTurn :=
  [confirm 1700000003000000, confirm 1700000005000000] ++ operations 1 3 ++ operations 0 13

/-- The world after some turns from there. -/
def worldAfter (run : List RevokingTurn) : RevokingWorld :=
  stateAfter (revokingSystem Runtime.sample).apply ⟨revocable.toStore, []⟩ run

/-- No turn of the revocations in turn revokes again. -/
theorem inTurn_checked : ∀ index < 21, ∀ turn ∈ (first ++ operations 1 6)[index]?,
    mayRevokeCertificateAgain (worldAfter ((first ++ operations 1 6).take index)) turn = false := by
  decide +kernel

/-- What the first of two confirmations records of the revocation. -/
theorem firstOfTwo_revokes : ((worldAfter firstOfTwo).shared.database.find? .certificates 3).map
    (fun row => (Certificate.isActive row, Certificate.revokedAt row)) =
      some (false, some 1700000003000000) := by decide +kernel

/-- The second revocation overwrites the first. -/
theorem secondOfTwo_revokes :
    ((worldAfter (firstOfTwo ++ operations 1 10)).shared.database.find? .certificates 3).map
      Certificate.revokedAt = some (some 1700000005000000) := by decide +kernel

end RevocationRaces.Sample

open RevocationRaces.Sample

/-- One after the other: the second is turned away. -/
theorem revocations_recorded_once_inTurn :
    RevokedOnce (worldAfter first) (worldAfter (first ++ operations 1 6)) := by
  refine revocations_recorded_once Runtime.sample revocable _ _ ?_
  intro index occurred
  have bound : index < 21 := occurred.lt_length
  obtain ⟨turn, isTurn, again⟩ := occurred
  exact not_revokesCertificateAgain (inTurn_checked index bound turn isTurn) again

/-- Two confirmations that have both read the certificate before either revokes it: the second
sets the time of the revocation again, and reports it as well. -/
theorem revocation_recorded_twice :
    ¬ RevokedOnce (worldAfter firstOfTwo) (worldAfter (firstOfTwo ++ operations 1 10)) := by
  intro once
  obtain ⟨row, found, isRow⟩ := Option.map_eq_some_iff.mp firstOfTwo_revokes
  obtain ⟨inactive, time⟩ := Prod.mk.inj isRow
  obtain ⟨last, isLast, sameTime, -⟩ := once.final 3 row found inactive
  obtain ⟨other, isOther, otherTime⟩ := Option.map_eq_some_iff.mp secondOfTwo_revokes
  have same : other = last := Option.some.inj (isOther.symm.trans isLast)
  rw [same, sameTime, time] at otherTime
  exact absurd otherTime (by decide)

end AcademicCredential
