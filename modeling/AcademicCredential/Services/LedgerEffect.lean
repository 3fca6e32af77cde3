import AcademicCredential.ChainHistory
import AcademicCredential.Services.StatusMachine

/-!
# What a call does to certificates and transaction rows together

Uploads and initiations add rows, and a confirmation stamps one transaction row of the
caller's own certificate with the hash it was given. `Stamp` keeps what the confirmation
had read from the chain; everything the provenance and interference results need of a
call is in `LedgerEffect`.
-/

namespace AcademicCredential

open AcademicCredential.Lib
open AcademicCredential.Contract
open CertificateIssuanceService (confirmationData)

/-- Statements that leave the rows of a table as they are and add fitting ones only. -/
def Op.AddsOnly (table : Table) (fitting : Row table → Prop) : {Reply : Type} → Op Reply → Prop
  | _, .insert written row => ∀ same : written = table, fitting (same ▸ row)
  | _, .flush written _ _ | _, .executeUpdate written _ _ => written ≠ table
  | _, _ => True

/-- The rows are the old ones and new fitting ones. -/
def Extends {R : Type} (fitting : R → Prop) (before after : List R) : Prop :=
  ∃ new, (∀ row ∈ new, fitting row) ∧ after = before ++ new

/-- Rows that stay as they are extend themselves. -/
theorem Extends.refl {R : Type} (fitting : R → Prop) (rows : List R) :
    Extends fitting rows rows :=
  ⟨[], List.forall_mem_nil _, (List.append_nil rows).symm⟩

/-- Two extensions are one. -/
theorem Extends.trans {R : Type} {fitting : R → Prop} {first middle last : List R}
    (earlier : Extends fitting first middle) (later : Extends fitting middle last) :
    Extends fitting first last := by
  obtain ⟨earlierNew, earlierFits, rfl⟩ := earlier
  obtain ⟨laterNew, laterFits, rfl⟩ := later
  refine ⟨earlierNew ++ laterNew, fun row member => ?_, List.append_assoc ..⟩
  rcases List.mem_append.mp member with inEarlier | inLater
  · exact earlierFits row inEarlier
  · exact laterFits row inLater

/-- An operation that only adds fitting rows extends the table by fitting rows. -/
theorem directHandler_extends {table : Table} {fitting : Row table → Prop} (Reply : Type)
    (op : Op Reply) (statement : op.isControl = false) (adds : op.AddsOnly table fitting)
    (direct : Direct) :
    Extends fitting (direct.working table) ((directHandler Reply op direct).2.working table) := by
  by_cases writes : op.written? = some table
  · cases op with
    | insert written row =>
        obtain rfl := Option.some.inj writes
        simp only [directHandler, Direct.insert]
        split
        · exact .refl fitting _
        · refine ⟨[row], fun other member => List.mem_singleton.mp member ▸ adds rfl, ?_⟩
          simp [Write.apply]
    | flush | executeUpdate => exact absurd (Option.some.inj writes) adds
    | _ => cases writes
  · have alone := directHandler_leavesAlone table Reply op statement writes direct
    rw [alone.working]
    exact .refl fitting _

/-- A transaction that only adds fitting rows to a table. -/
theorem transaction_extends {Value : Type} {body : Action Value} {table : Table}
    {fitting : Row table → Prop}
    (every : body.Every fun _ op => op.isControl = false ∧ op.AddsOnly table fitting)
    (store : Store) (inputs : Inputs) :
    Extends fitting (store.database table)
      (((transaction body).run directHandler (.fresh store inputs)).2.database table) := by
  have extended := Program.run_respects
    (fun before after : Direct => Extends fitting (before.working table) (after.working table))
    (fun _ => .refl fitting _) Extends.trans
    (fun Reply op both direct => directHandler_extends Reply op both.1 both.2 direct) every
    (.begun store inputs)
  have sameDatabase := (run_follows (every.mono fun _ _ both => both.1) (.begun store inputs)).1
  rw [run_transaction_fresh]
  rcases ran : body.run directHandler (.begun store inputs) with ⟨error | value, left⟩ <;>
    rw [ran] at extended sameDatabase
  · have unchanged : left.rolledBack.database table = store.database table :=
      congrFun sameDatabase table
    dsimp only
    rw [unchanged]
    exact .refl fitting _
  · exact extended

/-- A row that no confirmation has stamped. -/
def Unstamped (tx : BlockchainTransaction) : Prop :=
  tx.status = .PENDING ∧ tx.txHash = none

/-- The rows of a table after an update of one of them, if there is one. -/
def recordedRows (tx? : Option BlockchainTransaction) (assignments : List TransactionAssignment)
    (rows : List BlockchainTransaction) : List BlockchainTransaction :=
  match tx? with
  | none => rows
  | some tx => @updateRows .blockchainTransactions tx.id assignments rows

/-- The table of submissions after a recorded update. -/
theorem Direct.recorded_transactions (direct : Direct) (tx? : Option BlockchainTransaction)
    (assignments : List TransactionAssignment) :
    (direct.recorded tx? assignments).working .blockchainTransactions =
      recordedRows tx? assignments (direct.working .blockchainTransactions) := by
  cases tx? with
  | none => rfl
  | some tx => exact @stored_self direct .blockchainTransactions tx assignments

/-- The rows of a stamped table are the old ones, but for the stamped one. -/
theorem mem_recordedRows {database : Database} (keyed : database.Keyed)
    {tx? : Option BlockchainTransaction}
    (stored : ∀ tx ∈ tx?, tx ∈ database .blockchainTransactions)
    {assignments : List TransactionAssignment} {row : BlockchainTransaction}
    (member : row ∈ recordedRows tx? assignments (database .blockchainTransactions)) :
    row ∈ database .blockchainTransactions ∨
      ∃ tx ∈ tx?, row = @assignAll .blockchainTransactions tx assignments := by
  cases tx? with
  | none => exact .inl member
  | some tx =>
      have found := @Database.Keyed.find? database keyed .blockchainTransactions tx (stored tx rfl)
      rcases @mem_updateRows database keyed .blockchainTransactions tx row assignments found
        member with old | new
      · exact .inl old
      · exact .inr ⟨tx, rfl, new⟩

/-- What a confirmation that returns writes to a row of the given type, with what it had
read from the chain. -/
inductive Stamp (runtime : Runtime) (chain : Chain) (certificate : Certificate) (txHash : String)
    (type : TransactionType) : List TransactionAssignment → Prop where
  | submitted : Stamp runtime chain certificate txHash type
      [.status .SUBMITTED, .txHash (some txHash)]
  | confirmed {transactionHash : Bytes32} {receipt : Receipt} {time : Timestamp}
      (denotes : runtime.transactionHashBytes txHash = .ok transactionHash)
      (found : chain.receipt? transactionHash = some receipt) (succeeded : receipt.status ≠ 0)
      (agrees : type = .STORE_HASH → OnChain chain certificate) :
      Stamp runtime chain certificate txHash type
        (.status .CONFIRMED :: confirmationData txHash (transactionReceipt txHash receipt) time)

/-- A stamped row holds the hash the confirmation was given. -/
theorem Stamp.txHash {runtime : Runtime} {chain : Chain} {certificate : Certificate}
    {txHash : String} {type : TransactionType} {assignments : List TransactionAssignment}
    (stamp : Stamp runtime chain certificate txHash type assignments)
    (tx : BlockchainTransaction) :
    (@assignAll .blockchainTransactions tx assignments).txHash = some txHash := by
  cases stamp <;> rfl

/-- A stamp stays true of a longer chain. -/
theorem Stamp.grow {runtime : Runtime} {before after : Chain} {certificate : Certificate}
    {txHash : String} {type : TransactionType} {assignments : List TransactionAssignment}
    (stamp : Stamp runtime before certificate txHash type assignments)
    (grows : Chain.Grows before after) :
    Stamp runtime after certificate txHash type assignments := by
  cases stamp with
  | submitted => exact .submitted
  | confirmed denotes found succeeded agrees =>
      exact .confirmed denotes (grows.receipt found) succeeded
        fun isStore => (agrees isStore).grow grows

/-- The status that a confirmation of storage gives a certificate when it returns, with
what it writes to the transaction row. -/
inductive StorageMark (txHash : String) : BlockchainStatus → List TransactionAssignment → Prop where
  | submitted : StorageMark txHash .SUBMITTED [.status .SUBMITTED, .txHash (some txHash)]
  | confirmed (receipt : TransactionReceipt) (time : Timestamp) :
      StorageMark txHash .CONFIRMED (.status .CONFIRMED :: confirmationData txHash receipt time)

/-- What a confirmation of a revocation writes to the certificate and to the transaction
row when it returns. -/
inductive RevocationMark (txHash : String) (user : Uuid) (revokes : Prop) :
    List CertificateAssignment → List TransactionAssignment → Prop where
  | submitted : RevocationMark txHash user revokes [] [.status .SUBMITTED, .txHash (some txHash)]
  | revoked (isRevoked : revokes) (reason : String) (now : Timestamp) (receipt : TransactionReceipt)
      (time : Timestamp) :
      RevocationMark txHash user revokes (CertificateRepository.revocation reason user now)
        (.status .CONFIRMED :: confirmationData txHash receipt time)

/-- The certificate, the transaction hash and the user of a confirmation, with the type of
the rows it stamps. -/
def CertificateCall.confirmation? :
    CertificateCall → Option (Uuid × String × User × TransactionType)
  | .confirmStorage certId txHash user => some (certId, txHash, user, .STORE_HASH)
  | .confirmRevocation certId txHash user => some (certId, txHash, user, .REVOKE_HASH)
  | _ => none

/-- The committed certificates and transaction rows before and after one call. -/
inductive LedgerEffect (runtime : Runtime) (call : CertificateCall) (start after : Direct) :
    Prop where
  | added (certificates : Extends (fun _ => True) (start.database .certificates)
        (after.database .certificates))
      (transactions : Extends Unstamped (start.database .blockchainTransactions)
        (after.database .blockchainTransactions))
      (unconfirmed : call.confirmation? ≠ none →
        after.database .certificates = start.database .certificates ∧
          after.database .blockchainTransactions = start.database .blockchainTransactions)
  | stamped {certId : Uuid} {txHash : String} {user : User} {certificate : Certificate}
      {tx? : Option BlockchainTransaction} {type : TransactionType}
      {assignments : List TransactionAssignment} {marks : List CertificateAssignment}
      (isCall : call.confirmation? = some (certId, txHash, user, type))
      (found : start.database.find? .certificates certId = some certificate)
      (owned : some certificate.universityId = user.universityId)
      (confirmable : type = .STORE_HASH →
        CertificateIssuanceService.Confirmable start.database certId user certificate)
      (row : ∀ tx ∈ tx?, tx ∈ start.database .blockchainTransactions ∧
        tx.certificateId = some certId ∧ tx.txType = type)
      (stamp : Stamp runtime after.chain certificate txHash type assignments)
      (certificates : after.database .certificates =
        @updateRows .certificates certId marks (start.database .certificates))
      (transactions : after.database .blockchainTransactions =
        recordedRows tx? assignments (start.database .blockchainTransactions))

/-- Nothing was written. -/
theorem LedgerEffect.unchanged {runtime : Runtime} {call : CertificateCall} {start after : Direct}
    (certificates : after.database .certificates = start.database .certificates)
    (transactions : after.database .blockchainTransactions =
      start.database .blockchainTransactions) : LedgerEffect runtime call start after :=
  .added (certificates ▸ .refl _ _) (transactions ▸ .refl _ _)
    fun _ => ⟨certificates, transactions⟩

/-- A receipt the lookup returns is on the chain it leaves. -/
theorem receiptLookup_some {runtime : Runtime} {direct asked : Direct} {txHash : String}
    {receipt : TransactionReceipt}
    (received : receiptLookup runtime direct txHash = (.ok (some receipt), asked)) :
    ∃ transactionHash found, runtime.transactionHashBytes txHash = .ok transactionHash ∧
      asked.chain.receipt? transactionHash = some found ∧
      receipt = transactionReceipt txHash found := by
  unfold receiptLookup at received
  cases denotes : runtime.transactionHashBytes txHash with
  | error text =>
      rw [denotes] at received
      cases received
  | ok transactionHash =>
      rw [denotes] at received
      obtain ⟨answer, rfl⟩ := Prod.mk.inj received
      unfold receiptAnswer at answer
      cases replied : direct.nextOutcome.reply (direct.nextOutcome.chain direct.chain)
          (.getTransactionReceipt transactionHash) with
      | error error =>
          rw [replied] at answer
          cases answer
      | ok reply =>
          rw [replied] at answer
          obtain ⟨-, rfl⟩ := RpcOutcome.reply_ok replied
          obtain ⟨found, isFound, isReceipt⟩ := Option.map_eq_some_iff.mp (Except.ok.inj answer)
          exact ⟨transactionHash, found, rfl, isFound, isReceipt.symm⟩

/-- A read finds a chain that has only grown. -/
theorem recordLookup_grows {runtime : Runtime} {direct after : Direct} {certUid : String}
    {answer : Except Exception (Option ChainCertificateRecord)}
    (answered : recordLookup runtime direct certUid = (answer, after)) :
    Chain.Grows direct.chain after.chain := by
  obtain ⟨-, rfl⟩ := Prod.mk.inj answered
  exact Chain.grows_mineAll _ _

namespace CertificateIssuanceService

/-- The row a confirmation of storage stamps is one of the certificate's own. -/
theorem storeTx?_row {database : Database} {certId : Uuid} {tx : BlockchainTransaction}
    (found : storeTx? database certId = some tx) :
    tx ∈ database .blockchainTransactions ∧ tx.certificateId = some certId ∧
      tx.txType = .STORE_HASH := by
  have member := List.mem_of_find?_eq_some found
  have isStore := List.find?_some found
  simp only [BlockchainTransactionRepository.bySubmission, List.mem_insertionSort,
    List.mem_filter, decide_eq_true_eq] at member
  exact ⟨member.1, member.2, by simpa using isStore⟩

variable {runtime : Runtime} {direct left : Direct} {certId : Uuid} {txHash : String}
  {user : User} {exit : StorageExit}

/-- The status a confirmation that returns gives the certificate. -/
def StorageExit.status : StorageExit → BlockchainStatus
  | .submitted => .SUBMITTED
  | .confirmed _ _ _ => .CONFIRMED

/-- What the returning paths leave in both tables. -/
theorem ConfirmPath.ledger (opened : direct.Open)
    (path : ConfirmPath runtime direct certId txHash user (.ok exit, left)) :
    ∃ certificate assignments, Confirmable direct.working certId user certificate ∧
      Stamp runtime left.chain certificate txHash .STORE_HASH assignments ∧
      StorageMark txHash exit.status assignments ∧
      left.working .certificates =
        @updateRows .certificates certId [.blockchainStatus exit.status]
          (direct.working .certificates) ∧
      left.working .blockchainTransactions =
        recordedRows (storeTx? direct.working certId) assignments
          (direct.working .blockchainTransactions) := by
  have receiptSame := receiptLookup_working runtime direct txHash
  have elsewhere : Table.certificates ≠ .blockchainTransactions := by decide
  cases path with
  | completed confirmable path =>
      rename_i certificate
      obtain ⟨member, sameId⟩ := Database.find?_some confirmable.found
      have isId : certificate.id = certId := sameId
      have admissible := opened.valid.admissible .certificates certificate member
      cases path with
      | pending receipt accepted =>
          rw [receipt] at receiptSame
          refine ⟨certificate, _, confirmable, .submitted, .submitted, ?_, ?_⟩
          · rw [Direct.marked_certificates, Direct.recorded_certificates, receiptSame, isId]
            rfl
          · rw [Direct.marked, Direct.stored_of_ne elsewhere, Direct.recorded_transactions,
              receiptSame]
      | confirmed found succeeded answered passes accepted =>
          rename_i receipt asked record after
          rw [found] at receiptSame
          have afterSame : after.working = direct.working :=
            (congrArg (·.2.working) answered).symm.trans receiptSame
          have onChain := onChain_of_checks admissible answered passes
          obtain ⟨transactionHash, onChainReceipt, denotes, isReceipt, rfl⟩ :=
            receiptLookup_some found
          have stamp : Stamp runtime after.chain certificate txHash .STORE_HASH
              (.status .CONFIRMED :: confirmationData txHash
                (transactionReceipt txHash onChainReceipt) record.issuedAt) :=
            .confirmed denotes ((recordLookup_grows answered).receipt isReceipt) succeeded
              fun _ => onChain
          have sameChain := (after.recorded_sameOutside (storeTx? direct.working certId)
            (.status .CONFIRMED :: confirmationData txHash
              (transactionReceipt txHash onChainReceipt) record.issuedAt)).chain
          refine ⟨certificate, _, confirmable, stamp.grow (sameChain ▸ .refl _), .confirmed _ _,
            ?_, ?_⟩
          · rw [Direct.marked_certificates, Direct.recorded_certificates, afterSame, isId]
            rfl
          · rw [Direct.marked, Direct.stored_of_ne elsewhere, Direct.recorded_transactions,
              afterSame]

end CertificateIssuanceService

namespace CertificateRevocationService

/-- The row a confirmation of a revocation stamps is one of the certificate's own. -/
theorem revokeTx?_row {database : Database} {certId : Uuid} {tx : BlockchainTransaction}
    (found : revokeTx? database certId = some tx) :
    tx ∈ database .blockchainTransactions ∧ tx.certificateId = some certId ∧
      tx.txType = .REVOKE_HASH := by
  have member := List.mem_of_find?_eq_some found
  have isRevoke := List.find?_some found
  simp only [BlockchainTransactionRepository.bySubmission, List.mem_insertionSort,
    List.mem_filter, decide_eq_true_eq] at member
  simp only [Bool.and_eq_true, decide_eq_true_eq] at isRevoke
  exact ⟨member.1, member.2, isRevoke.1⟩

variable {runtime : Runtime} {direct left : Direct} {certId : Uuid} {txHash : String}
  {user : User} {response : RevocationResponse}

/-- What the returning paths leave in both tables. -/
theorem RevocationPath.ledger
    (path : RevocationPath runtime direct certId txHash user (.ok response, left)) :
    ∃ certificate assignments marks, Revocable direct.working certId user certificate ∧
      Stamp runtime left.chain certificate txHash .REVOKE_HASH assignments ∧
      RevocationMark txHash user.id (Revokes runtime direct certId txHash user certificate) marks
        assignments ∧
      left.working .certificates =
        @updateRows .certificates certId marks (direct.working .certificates) ∧
      left.working .blockchainTransactions =
        recordedRows (revokeTx? direct.working certId) assignments
          (direct.working .blockchainTransactions) := by
  have receiptSame := receiptLookup_working runtime direct txHash
  cases path with
  | completed revocable path =>
      rename_i certificate
      have isId : certificate.id = certId := (Database.find?_some revocable.found).2
      cases path with
      | pending receipt accepted =>
          rw [receipt] at receiptSame
          refine ⟨certificate, _, [], revocable, .submitted, .submitted, ?_, ?_⟩
          · rw [Direct.recorded_certificates, receiptSame, updateRows_nil]
          · rw [Direct.recorded_transactions, receiptSame]
      | revoked found succeeded answered isRevoked accepted =>
          rename_i receipt asked record after
          rw [found] at receiptSame
          have afterSame : after.working = direct.working :=
            (congrArg (·.2.working) answered).symm.trans receiptSame
          have timedSame := (timed_working after record).trans afterSame
          obtain ⟨transactionHash, onChainReceipt, denotes, isReceipt, rfl⟩ :=
            receiptLookup_some found
          have isRevocation : TransactionType.REVOKE_HASH = .STORE_HASH →
              OnChain after.chain certificate := by simp
          have stamp : Stamp runtime after.chain certificate txHash .REVOKE_HASH
              (.status .CONFIRMED :: confirmationData txHash
                (transactionReceipt txHash onChainReceipt) (confirmedAt after record)) :=
            .confirmed denotes ((recordLookup_grows answered).receipt isReceipt) succeeded
              isRevocation
          have sameChain : ((revokedState after certificate (revokeTx? direct.working certId)
              user.id record).recorded (revokeTx? direct.working certId) (.status .CONFIRMED ::
                confirmationData txHash (transactionReceipt txHash onChainReceipt)
                  (confirmedAt after record))).chain = after.chain := by
            rw [(Direct.recorded_sameOutside _ _ _).chain, revokedState]
            unfold timed
            split <;> rfl
          refine ⟨certificate, _, CertificateRepository.revocation
            (originalReason (revokeTx? direct.working certId)) user.id
              ((timed after record).inputs.wallClock (timed after record).reads), revocable,
            sameChain ▸ stamp, .revoked ?_ _ _ _ _, ?_, ?_⟩
          · exact ⟨revocable, _, asked, record, after, found, succeeded, answered, isRevoked,
              accepted⟩
          · rw [Direct.recorded_certificates, revokedState, Direct.revoked_certificates, timedSame,
              isId]
          · rw [Direct.recorded_transactions, revokedState, Direct.revoked_transactions, timedSame]

end CertificateRevocationService

section calls

variable {runtime : Runtime}

/-- A confirmation of storage stamps its submission with what the chain holds. -/
theorem confirmStorage_ledger (store : ValidStore) (inputs : Inputs) (certId : Uuid)
    (txHash : String) (user : User) :
    LedgerEffect runtime (.confirmStorage certId txHash user) (.begun store.toStore inputs)
      ((CertificateIssuanceService.confirmBlockchainStorage runtime certId txHash user).run
        directHandler (.fresh store.toStore inputs)).2 := by
  have opened := Direct.open_begun store inputs
  rcases @confirmStorage_settles runtime store inputs certId txHash user with
    same | ⟨exit, left, path, same, grows⟩
  · exact .unchanged same.1 same.2
  · obtain ⟨certificate, assignments, confirmable, stamp, -, certificates, transactions⟩ :=
      path.ledger opened
    exact .stamped rfl confirmable.found confirmable.owned (fun _ => confirmable)
      (fun tx isTx => CertificateIssuanceService.storeTx?_row isTx) (stamp.grow grows)
      (same.1.trans certificates) (same.2.trans transactions)

/-- A confirmation of a revocation stamps its submission with what the chain holds. -/
theorem confirmRevocation_ledger (store : ValidStore) (inputs : Inputs) (certId : Uuid)
    (txHash : String) (user : User) :
    LedgerEffect runtime (.confirmRevocation certId txHash user) (.begun store.toStore inputs)
      ((CertificateRevocationService.confirmRevocation runtime certId txHash user).run
        directHandler (.fresh store.toStore inputs)).2 := by
  rcases @confirmRevocation_settles runtime store inputs certId txHash user with
    same | ⟨response, left, path, isLeft⟩
  · exact .unchanged same.1 same.2
  · rw [isLeft]
    obtain ⟨certificate, assignments, marks, revocable, stamp, -, certificates, transactions⟩ :=
      path.ledger
    exact .stamped rfl revocable.found revocable.owned (fun isStore => absurd isStore (by decide))
      (fun tx isTx => CertificateRevocationService.revokeTx?_row isTx) stamp certificates
      transactions

/-- Uploads and initiations only add rows. -/
theorem LedgerEffect.of_every {call : CertificateCall} (isOther : call.confirmation? = none)
    {Value : Type} {body : Action Value} (store : Store) (inputs : Inputs)
    (certificates : body.Every fun _ op => op.isControl = false ∧
      op.AddsOnly .certificates fun _ => True)
    (transactions : body.Every fun _ op => op.isControl = false ∧
      op.AddsOnly .blockchainTransactions Unstamped) :
    LedgerEffect runtime call (.begun store inputs)
      ((transaction body).run directHandler (.fresh store inputs)).2 :=
  .added (transaction_extends certificates store inputs)
    (transaction_extends transactions store inputs) fun confirms => absurd isOther confirms

/-- An upload adds a submission without a hash. -/
theorem upload_ledger (store : Store) (inputs : Inputs) (fileBytes : List UInt8)
    (fileOriginalName : String) (metadata : CertificateIssuanceService.IssueMetadata)
    (user : User) :
    LedgerEffect runtime (.upload fileBytes fileOriginalName metadata user) (.begun store inputs)
      ((CertificateIssuanceService.uploadAndHashCertificate runtime fileBytes fileOriginalName
        metadata user).run directHandler (.fresh store inputs)).2 := by
  refine .of_every rfl store inputs ?_ ?_
  · refine CertificateIssuanceService.every_uploadBlock ?_ runtime fileBytes fileOriginalName
      metadata user (fun _ _ => ⟨rfl, trivial⟩) (fun row _ _ => ⟨rfl, fun _ => trivial⟩)
      fun row _ _ => ⟨rfl, fun same => absurd same (by decide)⟩
    intro Reply op isReading
    cases op <;> first | exact ⟨rfl, trivial⟩ | cases isReading
  · refine CertificateIssuanceService.every_uploadBlock ?_ runtime fileBytes fileOriginalName
      metadata user (fun _ _ => ⟨rfl, trivial⟩)
      (fun row _ _ => ⟨rfl, fun same => absurd same (by decide)⟩)
      fun row pending unset => ⟨rfl, fun _ => ⟨pending, unset⟩⟩
    intro Reply op isReading
    cases op <;> first | exact ⟨rfl, trivial⟩ | cases isReading

/-- An initiated revocation adds a submission without a hash. -/
theorem initiate_ledger (store : Store) (inputs : Inputs) (certId : Uuid) (reason : String)
    (user : User) (blockchainService : Bool) :
    LedgerEffect runtime (.initiateRevocation certId reason user blockchainService)
      (.begun store inputs)
      ((CertificateRevocationService.initiateRevocation runtime certId reason user
        blockchainService).run directHandler (.fresh store inputs)).2 := by
  have effect : LedgerEffect runtime (.initiateRevocation certId reason user blockchainService)
      (.begun store inputs)
      ((transaction (CertificateRevocationService.initiateBlock runtime certId reason user
        blockchainService)).run directHandler (.fresh store inputs)).2 := by
    refine .of_every rfl store inputs ?_ ?_
    · refine CertificateRevocationService.every_initiateBlock ?_ runtime certId reason user
        blockchainService fun row _ _ => ⟨rfl, fun same => absurd same (by decide)⟩
      intro Reply op isReading
      cases op <;> first | exact ⟨rfl, trivial⟩ | cases isReading
    · refine CertificateRevocationService.every_initiateBlock ?_ runtime certId reason user
        blockchainService fun row pending unset => ⟨rfl, fun _ => ⟨pending, unset⟩⟩
      intro Reply op isReading
      cases op <;> first | exact ⟨rfl, trivial⟩ | cases isReading
  simp only [CertificateRevocationService.initiateRevocation, Program.run_bind]
  rcases ran : (transaction (CertificateRevocationService.initiateBlock runtime certId reason user
    blockchainService)).run directHandler (.fresh store inputs) with ⟨_ | _, after⟩ <;>
    rw [ran] at effect <;> exact effect

/-- Every call adds rows or stamps one. -/
theorem call_ledger (call : CertificateCall) (store : ValidStore) (inputs : Inputs) :
    LedgerEffect runtime call (.begun store.toStore inputs)
      ((call.action runtime).run directHandler (.fresh store.toStore inputs)).2 := by
  cases call with
  | upload fileBytes fileOriginalName metadata user =>
      rw [CertificateCall.action, Program.run_map]
      exact upload_ledger store.toStore inputs fileBytes fileOriginalName metadata user
  | confirmStorage certId txHash user =>
      rw [CertificateCall.action, Program.run_map]
      exact confirmStorage_ledger store inputs certId txHash user
  | initiateRevocation certId reason user blockchainService =>
      rw [CertificateCall.action, Program.run_map]
      exact initiate_ledger store.toStore inputs certId reason user blockchainService
  | confirmRevocation certId txHash user =>
      rw [CertificateCall.action, Program.run_map]
      exact confirmRevocation_ledger store inputs certId txHash user

end calls

end AcademicCredential
