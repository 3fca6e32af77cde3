import AcademicCredential.Database.Journal
import AcademicCredential.Repositories

/-!
# What repository calls do

Inside an open transaction every repository method has a closed form: the row it
returns and the state it leaves, by whether the constraints accept what it writes.
The services' runs are computed with these equations, so no proof above this module
unfolds a repository.
-/

namespace AcademicCredential

open AcademicCredential.Lib

variable {direct : Direct}

/-- The row an UPDATE leaves in place of `row`, if it is accepted. -/
def updateOutcome {table : Table} (direct : Direct) (row : Row table)
    (assignments : List (Assignment table)) :
    Except Exception (Option (Row table)) × Direct :=
  match checkUpdated direct.working table (assignAll row assignments) with
  | .ok () => (.ok (some (assignAll row assignments)), direct.stored row assignments)
  | .error error => (.error error, direct)

/-- A row that is updated is found with its new values. -/
theorem Database.find?_update_self {database : Database} {table : Table} {row : Row table}
    (found : database.find? table (rowId row) = some row)
    (assignments : List (Assignment table)) :
    ((Write.update table (rowId row) assignments).apply database).find? table (rowId row) =
      some (assignAll row assignments) := by
  simp [Database.find?_update_of_found found]

/-- A row that is inserted is found. -/
theorem Database.find?_insert_self {database : Database} {table : Table} {row : Row table}
    {today : Date} (accepted : checkInsert today database table row = .ok ()) :
    ((Write.insert table row).apply database).find? table (rowId row) = some row := by
  have fresh : ∀ stored ∈ database table, rowId stored ≠ rowId row := by
    intro stored member sameKey
    have apart := conflict?_eq_none.mp (checkInsert_ok accepted).2 _ (primaryKey_mem row)
      stored member
    exact apart (sameKey ▸ primaryKey_mem stored)
  have absent : (database table).find? (fun stored => rowId stored = rowId row) = none := by
    refine List.find?_eq_none.mpr fun stored member => ?_
    simpa using fresh stored member
  unfold Database.find?
  simp [Write.apply, List.find?_append, absent]

namespace BaseRepository

/-- A query returns the first row that meets its condition. -/
theorem run_findOne (opened : direct.Open) (table : Table) (condition : Row table → Bool) :
    (findOne table condition).run directHandler direct =
      (.ok ((direct.working table).find? condition), direct) := by
  simp [findOne, Program.run_map, Except.map, directHandler, opened.touch, List.head?_filter]

/-- A lookup returns the row with the key. -/
theorem run_getById (opened : direct.Open) (table : Table) (id : Uuid) :
    (getById table id).run directHandler direct =
      (.ok (direct.working.find? table id), direct) := by
  rw [getById, run_findOne opened]
  rfl

/-- A row is created when its INSERT is accepted. -/
theorem run_create (opened : direct.Open) {table : Table} (row : Row table) :
    (create table row).run directHandler direct =
      match checkInsert (direct.inputs.today direct.reads) direct.working table row with
      | .ok () => (.ok row, direct.write (.insert table row))
      | .error error => (.error error, direct) := by
  cases accepted : checkInsert (direct.inputs.today direct.reads) direct.working table row with
  | error error =>
      simp [create, Program.run_bind, run_attempt, directHandler, Direct.insert, accepted,
        opened.touch]
  | ok _ =>
      have reloaded := Database.find?_insert_self accepted
      simp [create, Program.run_bind, Program.run_map, Except.map, run_attempt, directHandler,
        Direct.insert, accepted, reloaded]

/-- A `create` that returns has added its row. -/
theorem run_create_ok {after : Direct} {table : Table} {row created : Row table}
    (ran : (create table row).run directHandler direct = (.ok created, after)) :
    created = row ∧ after.working = (Write.insert table row).apply direct.working := by
  obtain ⟨_, middle, inserted, reloaded⟩ := (Program.run_bind_ok directHandler).mp ran
  rw [run_attempt] at inserted
  simp only [directHandler, Direct.insert] at inserted
  split at inserted
  · cases inserted
  · rename_i accepted
    obtain ⟨-, rfl⟩ := Prod.mk.inj inserted
    obtain ⟨found, last, looked, same⟩ := (Program.run_bind_ok directHandler).mp reloaded
    cases looked
    cases same
    have isRow := Database.find?_insert_self accepted
    exact ⟨congrArg (Option.getD · row) isRow, rfl⟩

/-- A row that exists is updated with the computed values and returned with them. -/
theorem run_modify (opened : direct.Open) {table : Table} {id : Uuid} {row : Row table}
    (found : direct.working.find? table id = some row)
    {compute : Action (List (Assignment table))} {assignments : List (Assignment table)}
    {computed : Direct} (computedOpen : computed.Open) (same : computed.working = direct.working)
    (computes : compute.run directHandler direct = (.ok assignments, computed))
    (distinct : (assignments.map column).Nodup) :
    (modify table id compute).run directHandler direct =
      updateOutcome computed row assignments := by
  have sameKey := (Database.find?_some found).2
  subst sameKey
  have stillFound : computed.working.find? table (rowId row) = some row := same ▸ found
  cases accepted : checkUpdated computed.working table (assignAll row assignments) with
  | error error =>
      simp [modify, Program.run_bind, run_getById opened, found, computes, run_attempt,
        directHandler, computedOpen.flush stillFound distinct, accepted, updateOutcome]
  | ok _ =>
      have reloaded := Database.find?_update_self stillFound assignments
      simp [modify, Program.run_bind, Program.run_map, Except.map, run_getById opened, found,
        computes, run_attempt, directHandler, computedOpen.flush stillFound distinct, accepted,
        updateOutcome, (computedOpen.stored stillFound accepted).touch, reloaded]

end BaseRepository

/-- A transaction stays open when a clock is read. -/
theorem Direct.Open.read (opened : direct.Open) : direct.read.Open :=
  ⟨opened.inTransaction, opened.valid⟩

namespace CertificateRepository

/-- The status of a stored certificate is updated, or refused. -/
theorem run_updateBlockchainStatus (opened : direct.Open) {certificate : Certificate}
    (found : direct.working.find? .certificates certificate.id = some certificate)
    (status : BlockchainStatus) :
    (updateBlockchainStatus certificate.id status).run directHandler direct =
      @updateOutcome .certificates direct certificate [.blockchainStatus status] :=
  BaseRepository.run_modify opened found opened rfl rfl (List.nodup_singleton _)

/-- A stored certificate is revoked, or the update refused. -/
theorem run_revoke (opened : direct.Open) {certificate : Certificate}
    (found : direct.working.find? .certificates certificate.id = some certificate)
    (reason : String) (revokedBy : Uuid) :
    (revoke certificate.id reason revokedBy).run directHandler direct =
      @updateOutcome .certificates direct.read certificate
        (revocation reason revokedBy (direct.inputs.wallClock direct.reads)) := by
  refine BaseRepository.run_modify opened found opened.read rfl ?_ ?_
  · simp [Program.run_map, Except.map, directHandler]
  · change [1, 2, 3, 4, 0].Nodup
    decide

end CertificateRepository

namespace BlockchainTransactionRepository

/-- `get_by_certificate_id` lists the submissions of a certificate in their order. -/
theorem run_getByCertificateId (opened : direct.Open) (certId : Uuid) :
    (getByCertificateId certId).run directHandler direct =
      (.ok (bySubmission ((direct.working .blockchainTransactions).filter fun row =>
        row.certificateId = some certId)), direct) := by
  simp [getByCertificateId, Program.run_map, Except.map, directHandler, opened.touch]

/-- The status and the block of a stored row are updated, or the update is refused. -/
theorem run_updateStatus (opened : direct.Open) {tx : BlockchainTransaction}
    (found : direct.working.find? .blockchainTransactions tx.id = some tx)
    (status : TransactionStatus) {blockData : List TransactionAssignment}
    (distinct : ((TransactionAssignment.status status :: blockData).map
      (@column .blockchainTransactions)).Nodup) :
    (updateStatus tx.id status blockData).run directHandler direct =
      @updateOutcome .blockchainTransactions direct tx (.status status :: blockData) :=
  BaseRepository.run_modify opened found opened rfl rfl distinct

end BlockchainTransactionRepository
end AcademicCredential
