import AcademicCredential.Database.CertificateRows
import AcademicCredential.Services.Revocation

/-!
# Status writes of the two confirmations

What both confirmation services write: a status on a blockchain transaction row, if
there is one, and a status on the certificate. `SameStatuses` compares the statuses two
databases hold.
-/

namespace AcademicCredential

open AcademicCredential.Lib

/-- The status of a stored certificate. -/
def certificateStatus (database : Database) (id : Uuid) : Option BlockchainStatus :=
  (database.find? .certificates id).map (·.blockchainStatus)

/-- The status of a transaction row and its transaction hash. -/
def transactionStatus (database : Database) (id : Uuid) :
    Option (TransactionStatus × Option String) :=
  (database.find? .blockchainTransactions id).map fun tx => (tx.status, tx.txHash)

/-- Two databases that agree on the status of every certificate and of every blockchain
transaction row. -/
structure SameStatuses (left right : Database) : Prop where
  certificates : ∀ id, certificateStatus left id = certificateStatus right id
  transactions : ∀ id, transactionStatus left id = transactionStatus right id

/-- A database has the statuses that it has. -/
theorem SameStatuses.refl (database : Database) : SameStatuses database database :=
  ⟨fun _ => rfl, fun _ => rfl⟩

/-- Having the same statuses is symmetric. -/
theorem SameStatuses.symm {left right : Database} (same : SameStatuses left right) :
    SameStatuses right left :=
  ⟨fun id => (same.certificates id).symm, fun id => (same.transactions id).symm⟩

/-- Statuses that stay the same twice stay the same. -/
theorem SameStatuses.trans {first middle last : Database} (earlier : SameStatuses first middle)
    (later : SameStatuses middle last) : SameStatuses first last :=
  ⟨fun id => (earlier.certificates id).trans (later.certificates id),
    fun id => (earlier.transactions id).trans (later.transactions id)⟩

/-- The statuses depend on two tables. -/
theorem SameStatuses.of_tables {left right : Database}
    (certificates : left .certificates = right .certificates)
    (transactions : left .blockchainTransactions = right .blockchainTransactions) :
    SameStatuses left right where
  certificates id := by simp only [certificateStatus, Database.find?_congr certificates]
  transactions id := by simp only [transactionStatus, Database.find?_congr transactions]

/-- The constraints accept the update of a transaction row, if there is one. -/
def Accepted (database : Database) (tx? : Option BlockchainTransaction)
    (assignments : List TransactionAssignment) : Prop :=
  ∀ tx ∈ tx?, checkUpdated database .blockchainTransactions
    (@assignAll .blockchainTransactions tx assignments) = .ok ()

/-- The state after a transaction row was updated, if there is one. -/
def Direct.recorded (direct : Direct) (tx? : Option BlockchainTransaction)
    (assignments : List TransactionAssignment) : Direct :=
  match tx? with
  | none => direct
  | some tx => @Direct.stored direct .blockchainTransactions tx assignments

/-- A transaction row as the database holds it. -/
def Stored (database : Database) (tx? : Option BlockchainTransaction) : Prop :=
  ∀ tx ∈ tx?, database.find? .blockchainTransactions tx.id = some tx

variable {direct : Direct} {tx? : Option BlockchainTransaction}

/-- Recording a submission leaves the certificates. -/
@[simp] theorem Direct.recorded_certificates (direct : Direct)
    (tx? : Option BlockchainTransaction) (assignments : List TransactionAssignment) :
    (direct.recorded tx? assignments).working .certificates = direct.working .certificates := by
  cases tx? with
  | none => rfl
  | some tx =>
      have elsewhere : Table.blockchainTransactions ≠ .certificates := by decide
      exact direct.stored_of_ne elsewhere tx assignments

/-- Everything outside the working copy and the journal is as before. -/
structure Direct.SameOutside (before after : Direct) : Prop where
  database : after.database = before.database
  chain : after.chain = before.chain
  inputs : after.inputs = before.inputs
  rpcCalls : after.rpcCalls = before.rpcCalls

/-- Recording a submission changes nothing outside the statuses. -/
theorem Direct.recorded_sameOutside (direct : Direct) (tx? : Option BlockchainTransaction)
    (assignments : List TransactionAssignment) :
    direct.SameOutside (direct.recorded tx? assignments) := by
  cases tx? <;> exact ⟨rfl, rfl, rfl, rfl⟩

/-- A transaction stays open when an update is recorded. -/
theorem Direct.Open.recorded (opened : direct.Open) (stored : Stored direct.working tx?)
    {assignments : List TransactionAssignment}
    (accepted : Accepted direct.working tx? assignments) :
    (direct.recorded tx? assignments).Open := by
  cases tx? with
  | none => exact opened
  | some tx => exact opened.stored (stored tx rfl) (accepted tx rfl)

/-- An accepted update is made; a refused one raises and writes nothing. -/
theorem run_updateStoreTx (opened : direct.Open) (stored : Stored direct.working tx?)
    (status : TransactionStatus) {blockData : List TransactionAssignment}
    (distinct : ((TransactionAssignment.status status :: blockData).map
      (@column .blockchainTransactions)).Nodup) :
    (Accepted direct.working tx? (.status status :: blockData) ∧
      (CertificateIssuanceService.updateStoreTx tx? status blockData).run directHandler direct =
        (.ok (), direct.recorded tx? (.status status :: blockData))) ∨
    (¬ Accepted direct.working tx? (.status status :: blockData) ∧
      ∃ error, error.isUnreachable = false ∧
        (CertificateIssuanceService.updateStoreTx tx? status blockData).run directHandler direct =
          (.error error, direct)) := by
  cases tx? with
  | none => exact .inl ⟨fun _ member => (nomatch member), rfl⟩
  | some tx =>
      have updates := BlockchainTransactionRepository.run_updateStatus opened (stored tx rfl)
        status distinct
      cases accepted : checkUpdated direct.working .blockchainTransactions
          (@assignAll .blockchainTransactions tx (.status status :: blockData)) with
      | ok _ =>
          refine .inl ⟨fun other isTx => Option.mem_some.mp isTx ▸ accepted, ?_⟩
          simp [CertificateIssuanceService.updateStoreTx, Program.run_map, updates, updateOutcome,
            accepted, Except.map, Direct.recorded]
      | error error =>
          refine .inr ⟨fun both => ?_, error, checkUpdated_error accepted, ?_⟩
          · have accepts := both tx rfl
            rw [accepted] at accepts
            cases accepts
          · simp [CertificateIssuanceService.updateStoreTx, Program.run_map, updates,
              updateOutcome, accepted, Except.map]

end AcademicCredential
