import AcademicCredential.Blockchain.Service
import AcademicCredential.Database.Journal
import AcademicCredential.Repositories

/-!
# What repository calls may perform

The operations each repository method and each read of the chain may perform, whatever
the replies. `Op.isReading` is what they all may do; the lemmas reduce "every operation
of this call is allowed" to what it writes.
-/

namespace AcademicCredential

open AcademicCredential.Lib

/-- Operations that write neither a row nor a file and leave the transaction alone. -/
def Op.isReading : {Reply : Type} → Op Reply → Bool
  | _, .select _ _ | _, .selectText _ _ | _, .count _ _ | _, .refresh _ _ | _, .rpc _ => true
  | _, .now | _, .serverNow | _, .monotonic | _, .today => true
  | _, .uuid4 | _, .tokenUrlsafe | _, .fileExists _ => true
  | _, _ => false

/-- Reading controls no transaction. -/
theorem Op.not_isControl_of_isReading (Reply : Type) (op : Op Reply)
    (isReading : op.isReading = true) : op.isControl = false := by
  cases op <;> first | rfl | cases isReading

/-- Reading writes no table. -/
theorem Op.unwritten_of_isReading (Reply : Type) (op : Op Reply) (isReading : op.isReading = true) :
    op.written? = none := by
  cases op <;> first | rfl | cases isReading

/-- Reading leaves the working rows as they are. -/
theorem directHandler_reading (Reply : Type) (op : Op Reply) (isReading : op.isReading = true)
    (direct : Direct) : (directHandler Reply op direct).2.working = direct.working := by
  ext1 table
  refine (directHandler_leavesAlone table Reply op (op.not_isControl_of_isReading Reply isReading)
    ?_ direct).working
  cases op <;> first | exact (Option.some_ne_none table).symm | cases isReading

/-- A program that only reads leaves every table as it was. -/
theorem working_of_reading {Value : Type} {program : Action Value}
    (reading : program.Every fun _ op => op.isReading = true) {direct after : Direct}
    {outcome : Except Exception Value}
    (ran : program.run directHandler direct = (outcome, after)) :
    after.working = direct.working := by
  have same := Program.run_respects (fun before after : Direct => after.working = before.working)
    (fun _ => rfl) (fun earlier later => later.trans earlier) directHandler_reading reading direct
  rw [ran] at same
  exact same

variable {allowed : (Reply : Type) → Op Reply → Prop}

/-- An attempt performs its operation only. -/
theorem every_attempt {Value : Type} {op : Op (Except Exception Value)} (may : allowed _ op) :
    (attempt op).Every allowed :=
  Program.every_bind ((Program.every_perform op).mpr may) Program.every_ofExcept

/-- A transaction performs what its body does, and opens and closes itself. -/
theorem every_transaction {Value : Type} {body : Action Value} (every : body.Every allowed)
    (begin : allowed _ .begin) (commit : allowed _ .commit) (rollback : allowed _ .rollback) :
    (transaction body).Every allowed := by
  refine Program.every_bind (every_attempt begin) fun _ => ?_
  refine Program.every_bind (Program.every_catchError every fun error => ?_) fun value => ?_
  · exact Program.every_bind ((Program.every_perform _).mpr rollback) fun _ =>
      Program.every_raise _
  · exact Program.every_bind ((Program.every_perform _).mpr commit) fun _ => Program.every_pure _

variable (reading : ∀ (Reply : Type) (op : Op Reply), op.isReading = true → allowed Reply op)

include reading

/-- An operation that reads is allowed. -/
theorem every_reading {Reply : Type} {op : Op Reply} (isReading : op.isReading = true) :
    (Program.perform op : Action Reply).Every allowed :=
  (Program.every_perform op).mpr (reading Reply op isReading)

namespace BaseRepository

/-- A query only reads. -/
theorem every_findOne (table : Table) (condition : Row table → Bool) :
    (findOne table condition).Every allowed :=
  Program.every_bind (every_reading reading rfl) fun _ => Program.every_pure _

/-- A lookup by primary key only reads. -/
theorem every_getById (table : Table) (id : Uuid) : (getById table id).Every allowed :=
  every_findOne reading table _

/-- Creating a row inserts it and reads it back. -/
theorem every_create {table : Table} {row : Row table} (insert : allowed _ (.insert table row)) :
    (create table row).Every allowed :=
  Program.every_bind (every_attempt insert) fun _ =>
    Program.every_bind (every_reading reading rfl) fun _ => Program.every_pure _

/-- A modification performs what computes its values, and flushes them. -/
theorem every_modify {table : Table} {id : Uuid} {compute : Action (List (Assignment table))}
    (writes : (compute >>= fun values => attempt (.flush table id values)).Every allowed) :
    (modify table id compute).Every allowed := by
  refine Program.every_bind (every_getById reading table id) fun found => ?_
  cases found with
  | none => exact Program.every_pure _
  | some row =>
      have reload : ∀ _ : Unit, (do
          let loaded ← Program.perform (.refresh table id)
          return some (loaded.getD row) : Action (Option (Row table))).Every allowed :=
        fun _ => Program.every_bind (every_reading reading rfl) fun _ => Program.every_pure _
      simpa only [bind_assoc] using Program.every_bind writes reload

/-- The UPDATE of known values. -/
theorem every_modify_return {table : Table} {id : Uuid} {values : List (Assignment table)}
    (flush : allowed _ (.flush table id values)) :
    (modify table id (return values)).Every allowed :=
  every_modify reading (every_attempt flush)

end BaseRepository

/-- A revocation flushes its assignments. -/
theorem CertificateRepository.every_revoke {id : Uuid} {reason : String} {revokedBy : Uuid}
    (flush : ∀ now, allowed _ (.flush .certificates id (revocation reason revokedBy now))) :
    (revoke id reason revokedBy).Every allowed := by
  refine BaseRepository.every_modify reading ?_
  rw [bind_assoc]
  exact Program.every_bind (every_reading reading rfl) fun now => every_attempt (flush now)

/-- The number of the next UID is only read. -/
theorem CertificateRepository.every_getNextUidSequence (universityShortCode : String)
    (year : Int) : (getNextUidSequence universityShortCode year).Every allowed := by
  refine Program.every_bind (every_reading reading rfl) fun maxUid => ?_
  cases maxUid with
  | none => exact Program.every_pure _
  | some uid =>
      dsimp only
      cases parseInt? (afterLastDash uid) with
      | none => exact Program.every_raise _
      | some sequence => exact Program.every_pure _

/-- A lookup by short code only reads. -/
theorem UniversityRepository.every_getByShortCode (shortCode : Option String) :
    (getByShortCode shortCode).Every allowed := by
  unfold getByShortCode
  split
  · exact BaseRepository.every_findOne reading _ _
  · exact Program.every_raise _

/-- The transactions of a certificate are only read. -/
theorem BlockchainTransactionRepository.every_getByCertificateId (certId : Uuid) :
    (getByCertificateId certId).Every allowed :=
  Program.every_bind (every_reading reading rfl) fun _ => Program.every_pure _

namespace BlockchainService

/-- A read of the chain is allowed. -/
theorem every_rpc (call : RpcCall) : (attempt (.rpc call)).Every allowed :=
  every_attempt (reading _ _ rfl)

/-- A record of the contract is only read. -/
theorem every_getCertificateRecord (runtime : Runtime) (certUid : String) :
    (getCertificateRecord runtime certUid).Every allowed := by
  refine Program.every_bind (every_rpc reading _) fun record => ?_
  cases present : record.exists with
  | false => exact Program.every_pure _
  | true => exact Program.every_bind (Program.every_ofExcept _) fun _ => Program.every_pure _

/-- A receipt is only read. -/
theorem every_getTransactionReceipt (runtime : Runtime) (txHash : String) :
    (getTransactionReceipt runtime txHash).Every allowed := by
  unfold getTransactionReceipt
  cases runtime.transactionHashBytes txHash with
  | error text => exact Program.every_raise _
  | ok transactionHash =>
      exact Program.every_bind (every_rpc reading _) fun _ => Program.every_pure _

/-- Whether a wallet may issue is only read. -/
theorem every_isAuthorizedIssuer (runtime : Runtime) (walletAddress : String) :
    (isAuthorizedIssuer runtime walletAddress).Every allowed := by
  unfold isAuthorizedIssuer
  split
  · exact Program.every_raise _
  · split
    · exact Program.every_raise _
    · exact every_rpc reading _

end BlockchainService
end AcademicCredential
