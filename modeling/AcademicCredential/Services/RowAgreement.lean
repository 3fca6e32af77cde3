import AcademicCredential.Services.Provenance
import AcademicCredential.Services.RetriedRevocation
import AcademicCredential.Services.RowsEffect

/-!
# Certificates and their transaction rows agree

Runs of whole calls, from an empty database. As long as `confirm_revocation` only revokes
certificates that were CONFIRMED and whose revocation was initiated, the status of a
certificate says what its transaction rows hold. Neither is checked: it revokes any active
certificate whose record on chain is revoked, and without an open REVOKE_HASH row it
writes none.
-/

namespace AcademicCredential

open AcademicCredential.Lib
open AcademicCredential.Contract
open CertificateIssuanceService (storeTx? confirmationData)
open CertificateRevocationService (revokeTx?)

/-- The rows of one type that belong to a certificate. -/
def rowsOf (rows : List BlockchainTransaction) (type : TransactionType) (certId : Uuid) :
    List BlockchainTransaction :=
  rows.filter fun tx => tx.certificateId = some certId && tx.txType = type

/-- The confirmed revocations of a certificate. -/
def confirmedRevocations (rows : List BlockchainTransaction) (certId : Uuid) :
    List BlockchainTransaction :=
  (rowsOf rows .REVOKE_HASH certId).filter fun tx => tx.status = .CONFIRMED

/-- A confirmed row with the data of its transaction. -/
structure Settled (tx : BlockchainTransaction) : Prop where
  status : tx.status = .CONFIRMED
  txHash : tx.txHash.isSome
  blockNumber : tx.blockNumber.isSome
  confirmedAt : tx.confirmedAt.isSome

/-- What a certificate's status says about its STORE_HASH row. -/
structure StatusFits (status : BlockchainStatus) (storeTx : BlockchainTransaction) : Prop where
  pending : status = .PENDING ↔ storeTx.status = .PENDING ∧ storeTx.txHash = none
  submitted : status = .SUBMITTED ↔ storeTx.status = .SUBMITTED ∧ storeTx.txHash.isSome
  confirmed : status = .CONFIRMED → Settled storeTx
  revoked : status = .REVOKED → Settled storeTx

/-- The certificate agrees with the transaction rows; `revokedWith` holds of the hash its
revocation was confirmed with. -/
structure RowsAgree (database : Database) (revokedWith : String → Prop)
    (certificate : Certificate) : Prop where
  storeRow : ∃ storeTx, rowsOf (database .blockchainTransactions) .STORE_HASH certificate.id =
    [storeTx] ∧ StatusFits certificate.blockchainStatus storeTx
  revokeRow : certificate.blockchainStatus = .REVOKED → ∃ revokeTx hash,
    confirmedRevocations (database .blockchainTransactions) certificate.id = [revokeTx] ∧
      revokeTx.txHash = some hash ∧ revokedWith hash
  inactive : certificate.isActive = false ↔ certificate.blockchainStatus = .REVOKED

section rows

variable {rows : List BlockchainTransaction} {tx : BlockchainTransaction}
  {type : TransactionType} {certId : Uuid} {assignments : List TransactionAssignment}

/-- The rows of a certificate are those of its type. -/
theorem mem_rowsOf : tx ∈ rowsOf rows type certId ↔
    tx ∈ rows ∧ tx.certificateId = some certId ∧ tx.txType = type := by
  simp [rowsOf]

/-- A new row of another certificate or type changes nothing. -/
theorem rowsOf_append_of_ne (other : ¬ (tx.certificateId = some certId ∧ tx.txType = type)) :
    rowsOf (rows ++ [tx]) type certId = rowsOf rows type certId := by
  have skipped : rowsOf [tx] type certId = [] := by
    refine List.eq_nil_iff_forall_not_mem.mpr fun row member => ?_
    obtain ⟨isRow, fits⟩ := mem_rowsOf.mp member
    exact other (List.mem_singleton.mp isRow ▸ fits)
  rw [rowsOf, List.filter_append]
  exact (congrArg (rowsOf rows type certId ++ ·) skipped).trans (List.append_nil _)

/-- Updates leave a row with its certificate and its type. -/
theorem sameOwner_assignAll (tx : BlockchainTransaction)
    (assignments : List TransactionAssignment) :
    (@assignAll .blockchainTransactions tx assignments).certificateId = tx.certificateId ∧
      (@assignAll .blockchainTransactions tx assignments).txType = tx.txType := by
  induction assignments generalizing tx with
  | nil => exact ⟨rfl, rfl⟩
  | cons first rest inductionHypothesis =>
      obtain ⟨sameCertificate, sameType⟩ := inductionHypothesis (first.assign tx)
      refine ⟨sameCertificate.trans ?_, sameType.trans ?_⟩ <;> cases first <;> rfl

/-- Taking the rows of a certificate and updating one row commute. -/
theorem rowsOf_updateRows (id : Uuid) (assignments : List TransactionAssignment)
    (rows : List BlockchainTransaction) :
    rowsOf (@updateRows .blockchainTransactions id assignments rows) type certId =
      @updateRows .blockchainTransactions id assignments (rowsOf rows type certId) := by
  unfold rowsOf updateRows
  rw [List.filter_map]
  congr 1
  refine List.filter_congr fun row _ => ?_
  simp only [Function.comp_apply]
  split
  · obtain ⟨sameCertificate, sameType⟩ := sameOwner_assignAll row assignments
    rw [sameCertificate, sameType]
  · rfl

/-- An update of an absent row changes nothing. -/
theorem updateRows_of_forall_ne {id : Uuid} (others : ∀ row ∈ rows, row.id ≠ id) :
    @updateRows .blockchainTransactions id assignments rows = rows := by
  unfold updateRows
  refine (List.map_congr_left fun row member => if_neg (others row member)).trans ?_
  exact List.map_id' rows

/-- Updating a row leaves those of another certificate or type alone. -/
theorem rowsOf_updateRows_of_ne (distinct : (rows.map (·.id)).Nodup) (member : tx ∈ rows)
    (other : ¬ (tx.certificateId = some certId ∧ tx.txType = type)) :
    rowsOf (@updateRows .blockchainTransactions tx.id assignments rows) type certId =
      rowsOf rows type certId := by
  rw [rowsOf_updateRows]
  refine updateRows_of_forall_ne fun row isRow sameId => ?_
  obtain ⟨isStored, fits⟩ := mem_rowsOf.mp isRow
  have sameRow := List.inj_on_of_nodup_map distinct isStored member sameId
  exact other (sameRow ▸ fits)

/-- An update of another row leaves the rows of a certificate. -/
theorem rowsOf_recordedRows_of_ne {tx? : Option BlockchainTransaction}
    (distinct : (rows.map (·.id)).Nodup)
    (other : ∀ tx ∈ tx?, tx ∈ rows ∧ ¬ (tx.certificateId = some certId ∧ tx.txType = type)) :
    rowsOf (recordedRows tx? assignments rows) type certId = rowsOf rows type certId := by
  cases tx? with
  | none => rfl
  | some tx =>
      obtain ⟨member, isOther⟩ := other tx rfl
      exact rowsOf_updateRows_of_ne distinct member isOther

/-- The updated row stays in its place. -/
theorem updateRows_split (distinct : (rows.map (·.id)).Nodup) (member : tx ∈ rows) :
    ∃ front back, rows = front ++ tx :: back ∧
      @updateRows .blockchainTransactions tx.id assignments rows =
        front ++ @assignAll .blockchainTransactions tx assignments :: back := by
  obtain ⟨front, back, rfl⟩ := List.append_of_mem member
  rw [List.map_append, List.map_cons] at distinct
  have apart := List.nodup_middle.mp distinct
  obtain ⟨notElsewhere, -⟩ := List.nodup_cons.mp apart
  have others : ∀ row ∈ front ++ back, row.id ≠ tx.id := fun row isRow sameId =>
    notElsewhere (List.map_append ▸ sameId ▸ List.mem_map_of_mem isRow)
  have frontKept : @updateRows .blockchainTransactions tx.id assignments front = front :=
    updateRows_of_forall_ne fun row isRow => others row (List.mem_append_left _ isRow)
  have backKept : @updateRows .blockchainTransactions tx.id assignments back = back :=
    updateRows_of_forall_ne fun row isRow => others row (List.mem_append_right _ isRow)
  refine ⟨front, back, rfl, ?_⟩
  have split : @updateRows .blockchainTransactions tx.id assignments (front ++ tx :: back) =
      @updateRows .blockchainTransactions tx.id assignments front ++
        @assignAll .blockchainTransactions tx assignments ::
          @updateRows .blockchainTransactions tx.id assignments back := by
    simp [updateRows, rowId]
  rw [split, frontKept, backKept]

/-- Where no row is as asked for, only the updated one can become so. -/
theorem filter_updateRows (distinct : (rows.map (·.id)).Nodup) (member : tx ∈ rows)
    {condition : BlockchainTransaction → Bool} (nowhere : rows.filter condition = []) :
    (@updateRows .blockchainTransactions tx.id assignments rows).filter condition =
      [@assignAll .blockchainTransactions tx assignments].filter condition := by
  obtain ⟨front, back, isSplit, updated⟩ := @updateRows_split rows tx assignments distinct member
  rw [isSplit, List.filter_append, List.append_eq_nil_iff] at nowhere
  obtain ⟨inFront, inRest⟩ := nowhere
  have inBack : back.filter condition = [] := by
    refine List.filter_eq_nil_iff.mpr fun row isRow => ?_
    exact List.filter_eq_nil_iff.mp inRest row (List.mem_cons_of_mem tx isRow)
  rw [updated, List.filter_append, inFront, List.nil_append, List.filter_cons]
  simp [List.filter_cons, inBack]

end rows
/-- What every state of a run with the condition has. -/
structure Ledger (database : Database) (revokedWith : Uuid → String → Prop) : Prop where
  belongs : ∀ tx ∈ database .blockchainTransactions, ∃ certificate ∈ database .certificates,
    tx.certificateId = some certificate.id
  agree : ∀ certificate ∈ database .certificates,
    RowsAgree database (revokedWith certificate.id) certificate
  unrevoked : ∀ certificate ∈ database .certificates, certificate.blockchainStatus ≠ .REVOKED →
    confirmedRevocations (database .blockchainTransactions) certificate.id = []

/-- A certificate agrees with the same rows, and with a longer history of revocations. -/
theorem RowsAgree.congr {before after : Database} {revokedWith later : String → Prop}
    {certificate : Certificate} (agrees : RowsAgree before revokedWith certificate)
    (kept : ∀ hash, revokedWith hash → later hash)
    (sameStore : rowsOf (after .blockchainTransactions) .STORE_HASH certificate.id =
      rowsOf (before .blockchainTransactions) .STORE_HASH certificate.id)
    (sameRevoke : confirmedRevocations (after .blockchainTransactions) certificate.id =
      confirmedRevocations (before .blockchainTransactions) certificate.id) :
    RowsAgree after later certificate := by
  refine ⟨by rw [sameStore]; exact agrees.storeRow, fun isRevoked => ?_, agrees.inactive⟩
  obtain ⟨revokeTx, hash, rows, isHash, revoked⟩ := agrees.revokeRow isRevoked
  exact ⟨revokeTx, hash, by rw [sameRevoke, rows], isHash, kept hash revoked⟩

/-- The certificate of an agreeing ledger has the row the confirmation looks for. -/
theorem Ledger.storeTx {database : Database} {revokedWith : Uuid → String → Prop}
    (ledger : Ledger database revokedWith) {certificate : Certificate}
    (member : certificate ∈ database .certificates) :
    ∃ storeTx, storeTx? database certificate.id = some storeTx ∧
      rowsOf (database .blockchainTransactions) .STORE_HASH certificate.id = [storeTx] ∧
      StatusFits certificate.blockchainStatus storeTx := by
  obtain ⟨storeTx, isRow, fits⟩ := (ledger.agree certificate member).storeRow
  refine ⟨storeTx, ?_, isRow, fits⟩
  cases found : storeTx? database certificate.id with
  | some other =>
      obtain ⟨isStored, isOwn, isStore⟩ := CertificateIssuanceService.storeTx?_row found
      have isOther := mem_rowsOf.mpr ⟨isStored, isOwn, isStore⟩
      rw [isRow] at isOther
      exact congrArg some (List.mem_singleton.mp isOther)
  | none =>
      have isStoreTx : storeTx ∈ rowsOf (database .blockchainTransactions) .STORE_HASH
          certificate.id := by simp [isRow]
      obtain ⟨isStored, isOwn, isStore⟩ := mem_rowsOf.mp isStoreTx
      have nowhere := List.find?_eq_none.mp found storeTx (by
        simp [BlockchainTransactionRepository.bySubmission, isStored, isOwn])
      simp [isStore] at nowhere

section effect

variable {runtime : Runtime} {call : CertificateCall} {start after : Direct}
  {revokedWith later : Uuid → String → Prop}

/-- New rows leave the certificates they do not belong to as they were. -/
theorem Ledger.agree_append (ledger : Ledger start.database revokedWith)
    (kept : ∀ certId hash, revokedWith certId hash → later certId hash)
    {tx : BlockchainTransaction} (transactions : after.database .blockchainTransactions =
      start.database .blockchainTransactions ++ [tx]) {certificate : Certificate}
    (member : certificate ∈ start.database .certificates)
    (otherStore : ¬ (tx.certificateId = some certificate.id ∧ tx.txType = .STORE_HASH))
    (unconfirmed : tx.status = .PENDING) :
    RowsAgree after.database (later certificate.id) certificate ∧
      confirmedRevocations (after.database .blockchainTransactions) certificate.id =
        confirmedRevocations (start.database .blockchainTransactions) certificate.id := by
  have sameRevoke : confirmedRevocations (after.database .blockchainTransactions) certificate.id =
      confirmedRevocations (start.database .blockchainTransactions) certificate.id := by
    have skipped : confirmedRevocations [tx] certificate.id = [] := by
      refine List.filter_eq_nil_iff.mpr fun row member => ?_
      obtain rfl := List.mem_singleton.mp (mem_rowsOf.mp member).1
      simp [unconfirmed]
    rw [transactions, confirmedRevocations, rowsOf, List.filter_append, List.filter_append]
    exact (congrArg (_ ++ ·) skipped).trans (List.append_nil _)
  refine ⟨(ledger.agree certificate member).congr (kept certificate.id) ?_ sameRevoke, sameRevoke⟩
  rw [transactions, rowsOf_append_of_ne otherStore]

/-- An upload keeps the ledger. -/
theorem Ledger.uploaded (ledger : Ledger start.database revokedWith)
    (kept : ∀ certId hash, revokedWith certId hash → later certId hash)
    (keyed : after.database.Keyed) {certificate : Certificate} {storeTx : BlockchainTransaction}
    (isNew : certificate.blockchainStatus = .PENDING ∧ certificate.isActive = true)
    (isStoreRow : CertificateIssuanceService.IsStoreRow certificate storeTx)
    (certificates : after.database .certificates = start.database .certificates ++ [certificate])
    (transactions : after.database .blockchainTransactions =
      start.database .blockchainTransactions ++ [storeTx]) :
    Ledger after.database later := by
  obtain ⟨isPending, isActive⟩ := isNew
  obtain ⟨rowPending, unset⟩ := isStoreRow.unstamped
  have fresh : ∀ old ∈ start.database .certificates, old.id ≠ certificate.id := by
    have distinct : ((start.database .certificates ++ [certificate]).map
        (@rowId .certificates)).Nodup := certificates ▸ keyed .certificates
    rw [List.map_append, List.nodup_append] at distinct
    exact fun old isOld => distinct.2.2 _ (List.mem_map_of_mem isOld) _
      (List.mem_singleton_self _)
  have noRows : ∀ type, rowsOf (start.database .blockchainTransactions) type certificate.id =
      [] := by
    intro type
    refine List.eq_nil_iff_forall_not_mem.mpr fun tx member => ?_
    obtain ⟨isStored, isOwn, -⟩ := mem_rowsOf.mp member
    obtain ⟨old, isOld, owner⟩ := ledger.belongs tx isStored
    exact fresh old isOld (Option.some.inj (owner.symm.trans isOwn))
  have others : ∀ old ∈ start.database .certificates, _ := fun old isOld =>
    ledger.agree_append kept transactions isOld
      (fun own => fresh old isOld (Option.some.inj (own.1.symm.trans isStoreRow.certificateId)))
      rowPending
  have newRevocations :
      confirmedRevocations (after.database .blockchainTransactions) certificate.id = [] := by
    have otherType : ¬ (storeTx.certificateId = some certificate.id ∧
        storeTx.txType = .REVOKE_HASH) := by
      rw [isStoreRow.txType]
      simp
    rw [confirmedRevocations, transactions, rowsOf_append_of_ne otherType, noRows]
    rfl
  refine ⟨fun tx member => ?_, fun row member => ?_, fun row member notRevoked => ?_⟩
  · rw [certificates]
    rw [transactions] at member
    rcases List.mem_append.mp member with isOld | isNew
    · obtain ⟨owner, isOwner, owned⟩ := ledger.belongs tx isOld
      exact ⟨owner, List.mem_append_left _ isOwner, owned⟩
    · obtain rfl := List.mem_singleton.mp isNew
      exact ⟨certificate, List.mem_append_right _ (List.mem_singleton_self _),
        isStoreRow.certificateId⟩
  · rw [certificates] at member
    rcases List.mem_append.mp member with isOld | isNew
    · exact (others row isOld).1
    · obtain rfl := List.mem_singleton.mp isNew
      refine ⟨⟨storeTx, ?_, ?_⟩, fun isRevoked => ?_, ?_⟩
      · rw [transactions, rowsOf, List.filter_append]
        refine (congrArg (· ++ _) (noRows .STORE_HASH)).trans ?_
        simp [isStoreRow.certificateId, isStoreRow.txType]
      · constructor <;> simp [isPending, rowPending, unset]
      · rw [isPending] at isRevoked
        cases isRevoked
      · simp [isPending, isActive]
  · rw [certificates] at member
    rcases List.mem_append.mp member with isOld | isNew
    · rw [(others row isOld).2]
      exact ledger.unrevoked row isOld notRevoked
    · obtain rfl := List.mem_singleton.mp isNew
      exact newRevocations

/-- An initiated revocation keeps the ledger. -/
theorem Ledger.initiated (ledger : Ledger start.database revokedWith)
    (kept : ∀ certId hash, revokedWith certId hash → later certId hash) {certId : Uuid}
    {certificate : Certificate} {revokeTx : BlockchainTransaction}
    (found : start.database.find? .certificates certId = some certificate)
    (isRevokeRow : CertificateRevocationService.IsRevokeRow certId revokeTx)
    (certificates : after.database .certificates = start.database .certificates)
    (transactions : after.database .blockchainTransactions =
      start.database .blockchainTransactions ++ [revokeTx]) :
    Ledger after.database later := by
  have others : ∀ row ∈ start.database .certificates, _ := fun row member =>
    ledger.agree_append kept transactions member
      (fun own => by simp [isRevokeRow.txType] at own) isRevokeRow.unstamped.1
  rw [← certificates] at others
  refine ⟨fun tx member => ?_, fun row member => (others row member).1,
    fun row member notRevoked => ?_⟩
  · rw [certificates]
    rw [transactions] at member
    rcases List.mem_append.mp member with isOld | isNew
    · exact ledger.belongs tx isOld
    · obtain rfl := List.mem_singleton.mp isNew
      obtain ⟨isStored, rfl⟩ := Database.find?_some found
      exact ⟨certificate, isStored, isRevokeRow.certificateId⟩
  · rw [(others row member).2]
    exact ledger.unrevoked row (certificates ▸ member) notRevoked

/-- A call that rewrites a certificate, and one of its own rows if it has found one, keeps
the agreement if this certificate agrees afterwards. -/
theorem Ledger.rewritten (ledger : Ledger start.database revokedWith)
    (kept : ∀ certId hash, revokedWith certId hash → later certId hash)
    (keyed : start.database.Keyed) {certId : Uuid} {certificate : Certificate}
    {tx? : Option BlockchainTransaction} {marks : List CertificateAssignment}
    {assignments : List TransactionAssignment}
    (found : start.database.find? .certificates certId = some certificate)
    (ownRow : ∀ tx ∈ tx?, tx ∈ start.database .blockchainTransactions ∧
      tx.certificateId = some certId)
    (certificates : after.database .certificates =
      @updateRows .certificates certId marks (start.database .certificates))
    (transactions : after.database .blockchainTransactions =
      recordedRows tx? assignments (start.database .blockchainTransactions))
    (agrees : RowsAgree after.database (later certId)
      (@assignAll .certificates certificate marks))
    (unrevoked : (@assignAll .certificates certificate marks).blockchainStatus ≠ .REVOKED →
      confirmedRevocations (after.database .blockchainTransactions) certId = []) :
    Ledger after.database later := by
  have isId : certificate.id = certId := (Database.find?_some found).2
  have assignedId : (@assignAll .certificates certificate marks).id = certId :=
    (@rowId_assignAll .certificates certificate marks).trans isId
  have sameRows : ∀ (row : Certificate) type, row.id ≠ certId →
      rowsOf (after.database .blockchainTransactions) type row.id =
        rowsOf (start.database .blockchainTransactions) type row.id := by
    intro row type other
    rw [transactions]
    refine rowsOf_recordedRows_of_ne (keyed .blockchainTransactions) fun tx isTx => ?_
    obtain ⟨isStored, isOwn⟩ := ownRow tx isTx
    exact ⟨isStored, fun own => other (Option.some.inj (own.1.symm.trans isOwn))⟩
  refine ⟨fun tx member => ?_, fun row member => ?_, fun row member notRevoked => ?_⟩
  · have owned : ∃ owner ∈ start.database .certificates, tx.certificateId = some owner.id := by
      rw [transactions] at member
      rcases mem_recordedRows keyed (fun row isRow => (ownRow row isRow).1) member with
        isOld | ⟨stamped, isTx, rfl⟩
      · exact ledger.belongs tx isOld
      · rw [(sameOwner_assignAll stamped assignments).1]
        exact ledger.belongs stamped (ownRow stamped isTx).1
    obtain ⟨owner, isOwner, owns⟩ := owned
    obtain ⟨present, isPresent, sameId, -⟩ :=
      preserves_updateRows certId marks (start.database .certificates) owner isOwner
    exact ⟨present, certificates ▸ isPresent, sameId ▸ owns⟩
  · rcases mem_updated keyed found (certificates ▸ member) with ⟨isOld, other⟩ | rfl
    · refine (ledger.agree row isOld).congr (kept row.id) (sameRows row _ other) ?_
      exact congrArg (List.filter _) (sameRows row .REVOKE_HASH other)
    · rw [assignedId]
      exact agrees
  · rcases mem_updated keyed found (certificates ▸ member) with ⟨isOld, other⟩ | rfl
    · have sameRevoke := congrArg (List.filter fun tx => tx.status = .CONFIRMED)
        (sameRows row .REVOKE_HASH other)
      exact sameRevoke.trans (ledger.unrevoked row isOld notRevoked)
    · rw [assignedId]
      exact unrevoked notRevoked

/-- The mark of a submission fits the status of its certificate. -/
theorem StorageMark.fits {txHash : String} {status : BlockchainStatus}
    {assignments : List TransactionAssignment} (mark : StorageMark txHash status assignments)
    (tx : BlockchainTransaction) :
    status ≠ .REVOKED ∧
      StatusFits status (@assignAll .blockchainTransactions tx assignments) := by
  cases mark with
  | submitted =>
      refine ⟨by simp, ?_⟩
      constructor <;> simp [assignAll, assign, TransactionAssignment.assign]
  | confirmed receipt time =>
      refine ⟨by simp, ?_⟩
      constructor
      · simp [assignAll, assign, TransactionAssignment.assign, confirmationData]
      · simp [assignAll, assign, TransactionAssignment.assign, confirmationData]
      · exact fun _ => ⟨rfl, rfl, rfl, rfl⟩
      · simp

/-- A marked certificate keeps the ledger. -/
theorem Ledger.marked (ledger : Ledger start.database revokedWith)
    (kept : ∀ certId hash, revokedWith certId hash → later certId hash)
    (keyed : start.database.Keyed) {certId : Uuid} {txHash : String} {user : User}
    {certificate : Certificate} {status : BlockchainStatus}
    {assignments : List TransactionAssignment}
    (confirmable : CertificateIssuanceService.Confirmable start.database certId user certificate)
    (mark : StorageMark txHash status assignments)
    (certificates : after.database .certificates =
      @updateRows .certificates certId [.blockchainStatus status] (start.database .certificates))
    (transactions : after.database .blockchainTransactions =
      recordedRows (storeTx? start.database certId) assignments
        (start.database .blockchainTransactions)) :
    Ledger after.database later := by
  obtain ⟨member, isId⟩ := Database.find?_some confirmable.found
  change certificate.id = certId at isId
  subst isId
  obtain ⟨storeTx, found, isRow, -⟩ := ledger.storeTx member
  obtain ⟨isStored, isOwn, isStore⟩ := CertificateIssuanceService.storeTx?_row found
  obtain ⟨notRevoked, fits⟩ := mark.fits storeTx
  have active : certificate.isActive = true := by
    by_contra inactive
    exact confirmable.notRevoked ((ledger.agree certificate member).inactive.mp (by
      simpa using inactive))
  rw [found] at transactions
  have newRow : rowsOf (after.database .blockchainTransactions) .STORE_HASH certificate.id =
      [@assignAll .blockchainTransactions storeTx assignments] := by
    rw [transactions, recordedRows, rowsOf_updateRows, isRow]
    simp [updateRows, rowId]
  have noRevocation :
      confirmedRevocations (after.database .blockchainTransactions) certificate.id = [] := by
    have sameRows := @rowsOf_updateRows_of_ne _ storeTx .REVOKE_HASH certificate.id assignments
      (keyed .blockchainTransactions) isStored fun own => by simp [isStore] at own
    rw [confirmedRevocations, transactions, recordedRows, sameRows]
    exact ledger.unrevoked certificate member confirmable.notRevoked
  refine ledger.rewritten kept keyed confirmable.found (fun tx isTx => ?_) certificates
    transactions ⟨⟨_, newRow, fits⟩, fun isRevoked => absurd isRevoked notRevoked, ?_⟩
    fun _ => noRevocation
  · obtain rfl := Option.mem_some.mp isTx
    exact ⟨isStored, isOwn⟩
  · refine iff_of_false ?_ notRevoked
    change ¬ certificate.isActive = false
    simp [active]

/-- A revocation keeps the ledger. -/
theorem Ledger.revocation (ledger : Ledger start.database revokedWith)
    (kept : ∀ certId hash, revokedWith certId hash → later certId hash)
    (keyed : start.database.Keyed) {certId : Uuid} {txHash : String} {user : User}
    {certificate : Certificate} {marks : List CertificateAssignment}
    {assignments : List TransactionAssignment} {revokes : Prop}
    (revocable : CertificateRevocationService.Revocable start.database certId user certificate)
    (mark : RevocationMark txHash user.id revokes marks assignments)
    (prepared : revokes → certificate.blockchainStatus = .CONFIRMED ∧
      revokeTx? start.database certId ≠ none)
    (isNew : revokes → later certId txHash)
    (certificates : after.database .certificates =
      @updateRows .certificates certId marks (start.database .certificates))
    (transactions : after.database .blockchainTransactions =
      recordedRows (revokeTx? start.database certId) assignments
        (start.database .blockchainTransactions)) :
    Ledger after.database later := by
  obtain ⟨member, isId⟩ := Database.find?_some revocable.found
  change certificate.id = certId at isId
  subst isId
  have agrees := ledger.agree certificate member
  have notRevoked : certificate.blockchainStatus ≠ .REVOKED := fun isRevoked => by
    have inactive := agrees.inactive.mpr isRevoked
    rw [revocable.active] at inactive
    cases inactive
  have nowhere := ledger.unrevoked certificate member notRevoked
  have ownRow : ∀ tx ∈ revokeTx? start.database certificate.id,
      tx ∈ start.database .blockchainTransactions ∧ tx.certificateId = some certificate.id :=
    fun tx isTx => ⟨(CertificateRevocationService.revokeTx?_row isTx).1,
      (CertificateRevocationService.revokeTx?_row isTx).2.1⟩
  have sameStore : rowsOf (after.database .blockchainTransactions) .STORE_HASH certificate.id =
      rowsOf (start.database .blockchainTransactions) .STORE_HASH certificate.id := by
    rw [transactions]
    refine rowsOf_recordedRows_of_ne (keyed .blockchainTransactions) fun tx isTx => ?_
    obtain ⟨isStored, isOwn, isRevoke⟩ := CertificateRevocationService.revokeTx?_row isTx
    exact ⟨isStored, fun own => by simp [isRevoke] at own⟩
  have revocations : ∀ tx, revokeTx? start.database certificate.id = some tx →
      confirmedRevocations (after.database .blockchainTransactions) certificate.id =
        [@assignAll .blockchainTransactions tx assignments].filter
          fun tx => tx.status = .CONFIRMED := by
    intro tx isTx
    have isRow := mem_rowsOf.mpr (CertificateRevocationService.revokeTx?_row isTx)
    have distinct : ((rowsOf (start.database .blockchainTransactions) .REVOKE_HASH
        certificate.id).map (·.id)).Nodup :=
      (keyed .blockchainTransactions).sublist (List.filter_sublist.map _)
    rw [confirmedRevocations, transactions, isTx, recordedRows, rowsOf_updateRows]
    exact filter_updateRows distinct isRow nowhere
  cases mark with
  | submitted =>
      have stillNone :
          confirmedRevocations (after.database .blockchainTransactions) certificate.id = [] := by
        cases isTx : revokeTx? start.database certificate.id with
        | none =>
            rw [transactions, isTx]
            exact nowhere
        | some tx => exact revocations tx isTx
      refine ledger.rewritten kept keyed revocable.found ownRow certificates transactions ?_
        fun _ => stillNone
      exact agrees.congr (kept certificate.id) sameStore (stillNone.trans nowhere.symm)
  | revoked isRevoked reason now receipt time =>
      obtain ⟨wasConfirmed, initiated⟩ := prepared isRevoked
      obtain ⟨revokeTx, isTx⟩ := Option.ne_none_iff_exists'.mp initiated
      obtain ⟨storeTx, isRow, fits⟩ := agrees.storeRow
      have settled := fits.confirmed wasConfirmed
      have sameId : (@assignAll .certificates certificate
          (CertificateRepository.revocation reason user.id now)).id = certificate.id :=
        @rowId_assignAll .certificates certificate _
      have becomes : (@assignAll .certificates certificate
          (CertificateRepository.revocation reason user.id now)).blockchainStatus = .REVOKED := rfl
      have inactive : (@assignAll .certificates certificate
          (CertificateRepository.revocation reason user.id now)).isActive = false := rfl
      have stillFits : StatusFits .REVOKED storeTx := by
        constructor <;> simp [settled.status, settled]
      have recorded : confirmedRevocations (after.database .blockchainTransactions)
          certificate.id = [@assignAll .blockchainTransactions revokeTx
            (.status .CONFIRMED :: confirmationData txHash receipt time)] :=
        revocations revokeTx isTx
      refine ledger.rewritten kept keyed revocable.found ownRow certificates transactions ?_
        fun stillActive => absurd becomes stillActive
      refine ⟨⟨storeTx, ?_, ?_⟩, fun _ => ?_, iff_of_true inactive becomes⟩
      · rw [sameId, sameStore, isRow]
      · rw [becomes]
        exact stillFits
      · rw [sameId]
        exact ⟨_, txHash, recorded, rfl, isNew isRevoked⟩

/-- One call keeps the agreement, unless it revokes a certificate that was not CONFIRMED or
whose revocation was not initiated. -/
theorem RowsEffect.keeps (effect : RowsEffect runtime call start after)
    (ledger : Ledger start.database revokedWith) (keyed : start.database.Keyed)
    (stillKeyed : after.database.Keyed)
    (kept : ∀ certId hash, revokedWith certId hash → later certId hash)
    (isNew : ∀ certId txHash user certificate, call = .confirmRevocation certId txHash user →
      call.Revokes runtime start certificate → later certId txHash)
    (prepared : ∀ certId txHash user certificate, call = .confirmRevocation certId txHash user →
      call.Revokes runtime start certificate → certificate.blockchainStatus = .CONFIRMED ∧
        revokeTx? start.database certId ≠ none) :
    Ledger after.database later := by
  cases effect with
  | unchanged same =>
      refine ⟨?_, fun row member => ?_, ?_⟩
      · rw [same.1, same.2]
        exact ledger.belongs
      · rw [same.1] at member
        exact (ledger.agree row member).congr (kept row.id) (by rw [same.2]) (by rw [same.2])
      · rw [same.1, same.2]
        exact ledger.unrevoked
  | uploaded newCertificate isStoreRow certificates transactions =>
      exact ledger.uploaded kept stillKeyed newCertificate isStoreRow certificates transactions
  | initiated found isRevokeRow certificates transactions =>
      exact ledger.initiated kept found isRevokeRow certificates transactions
  | marked confirmable mark certificates transactions =>
      exact ledger.marked kept keyed confirmable mark certificates transactions
  | @revocation certId txHash user certificate marks assignments isCall revocable mark certificates
      transactions =>
      exact ledger.revocation kept keyed revocable mark (prepared certId txHash user certificate isCall)
        (isNew certId txHash user certificate isCall) certificates transactions

end effect

/-- The event is a `confirm_revocation` that revokes the certificate, given this hash. -/
def RevokesWith (runtime : Runtime) (certId : Uuid) (txHash : String) (world : World)
    (event : Event) : Prop :=
  ∃ user inputs certificate, event = .request (.confirmRevocation certId txHash user) inputs ∧
    (CertificateCall.confirmRevocation certId txHash user).Revokes runtime
      (.begun world.store inputs) certificate

/-- The event is a `confirm_revocation` that revokes a certificate which is not CONFIRMED or
has no open REVOKE_HASH row: nobody has initiated its revocation. -/
def RevokesUnprepared (runtime : Runtime) (world : World) (event : Event) : Prop :=
  ∃ certId txHash user inputs certificate,
    event = .request (.confirmRevocation certId txHash user) inputs ∧
    (CertificateCall.confirmRevocation certId txHash user).Revokes runtime
      (.begun world.store inputs) certificate ∧
    (certificate.blockchainStatus ≠ .CONFIRMED ∨ revokeTx? world.store.database certId = none)

/-- The certificate was revoked with this hash in the course of the run. -/
def RevokedWith (runtime : Runtime) (deployer : Address) (events : List Event) (certId : Uuid)
    (txHash : String) : Prop :=
  ∃ index, OccursAt (World.apply runtime) (initialWorld deployer) events
    (RevokesWith runtime certId txHash) index

/-- One event that meets the condition keeps the agreement. -/
theorem World.apply_ledger {runtime : Runtime} {world : World} {event : Event}
    {revokedWith later : Uuid → String → Prop} (valid : world.store.database.Valid)
    (ledger : Ledger world.store.database revokedWith)
    (kept : ∀ certId hash, revokedWith certId hash → later certId hash)
    (isNew : ∀ certId txHash, RevokesWith runtime certId txHash world event → later certId txHash)
    (prepared : ¬ RevokesUnprepared runtime world event) :
    (world.apply runtime event).store.database.Valid ∧
      Ledger (world.apply runtime event).store.database later := by
  have same : Ledger world.store.database later :=
    ⟨ledger.belongs, fun row member => (ledger.agree row member).congr (kept row.id) rfl rfl,
      ledger.unrevoked⟩
  cases event with
  | mined transactions => exact ⟨valid, same⟩
  | elsewhere database =>
      rw [World.apply]
      split
      · rename_i sameTransactions
        rw [Event.apply]
        split
        · rename_i only
          refine ⟨only.1, ?_, fun row member => ?_, ?_⟩
          · change ∀ tx ∈ database .blockchainTransactions, _
            rw [sameTransactions]
            intro tx member
            obtain ⟨owner, isOwner, owned⟩ := same.belongs tx member
            have isStill : owner ∈ database .certificates := only.2 ▸ isOwner
            exact ⟨owner, isStill, owned⟩
          · have isOld : row ∈ world.store.database .certificates := only.2 ▸ member
            exact (same.agree row isOld).congr (fun _ revoked => revoked)
              (congrArg (fun rows => rowsOf rows _ _) sameTransactions)
              (congrArg (fun rows => confirmedRevocations rows _) sameTransactions)
          · change ∀ row ∈ database .certificates, _ →
              confirmedRevocations (database .blockchainTransactions) _ = []
            rw [sameTransactions, only.2]
            exact same.unrevoked
        · exact ⟨valid, same⟩
      · exact ⟨valid, same⟩
  | request call inputs =>
      obtain ⟨sameDatabase, -⟩ := world.apply_request runtime valid call inputs
      have bothValid : (Direct.fresh world.store inputs).Valid := ⟨valid, valid⟩
      have stillValid := (run_valid (call.action runtime) bothValid).database
      have effect := @call_rows runtime call ⟨world.store, valid⟩ inputs
      rw [sameDatabase]
      refine ⟨stillValid, effect.keeps ledger valid.keyed stillValid.keyed kept ?_ ?_⟩
      · rintro certId txHash user certificate rfl revokes
        exact isNew certId txHash ⟨user, inputs, certificate, rfl, revokes⟩
      · rintro certId txHash user certificate rfl revokes
        by_contra unprepared
        refine prepared ⟨certId, txHash, user, inputs, certificate, rfl, revokes, ?_⟩
        by_cases isConfirmed : certificate.blockchainStatus = .CONFIRMED
        · exact .inr (Decidable.not_not.mp fun initiated => unprepared ⟨isConfirmed, initiated⟩)
        · exact .inl isConfirmed

/-- After every run whose revocations are prepared the ledger holds. -/
theorem ledger_worldAfter {runtime : Runtime} {deployer : Address} {events : List Event}
    (prepared : ∀ index, ¬ OccursAt (World.apply runtime) (initialWorld deployer) events
      (RevokesUnprepared runtime) index) :
    (worldAfter runtime deployer events).store.database.Valid ∧
      Ledger (worldAfter runtime deployer events).store.database
        (RevokedWith runtime deployer events) := by
  induction events using List.reverseRecOn with
  | nil =>
      refine ⟨.empty, ?_, ?_, ?_⟩ <;> exact fun _ member => absurd member List.not_mem_nil
  | append_singleton events event inductionHypothesis =>
      obtain ⟨before, last⟩ := (never_occursAt_snoc ..).mp prepared
      obtain ⟨valid, ledger⟩ := inductionHypothesis before
      rw [worldAfter, stateAfter_snoc]
      refine World.apply_ledger valid ledger ?_ ?_ last
      · rintro certId hash ⟨index, occurred⟩
        exact ⟨index, (occursAt_snoc ..).mpr (.inl occurred)⟩
      · intro certId txHash revokes
        exact ⟨events.length, (occursAt_snoc ..).mpr (.inr ⟨rfl, revokes⟩)⟩

/-- In every run in which `confirm_revocation` revokes only CONFIRMED certificates whose
revocation was initiated, each certificate agrees with its transaction rows. -/
theorem rows_agree (runtime : Runtime) (deployer : Address) (events : List Event)
    (prepared : ∀ index, ¬ OccursAt (World.apply runtime) (initialWorld deployer) events
      (RevokesUnprepared runtime) index) :
    ∀ certificate ∈ (worldAfter runtime deployer events).store.database .certificates,
      RowsAgree (worldAfter runtime deployer events).store.database
        (RevokedWith runtime deployer events certificate.id) certificate :=
  (ledger_worldAfter prepared).2.agree

/-- The condition holds of a confirmation when the certificate is CONFIRMED and has an open
REVOKE_HASH row. -/
theorem not_revokesUnprepared {runtime : Runtime} {world : World} {certId : Uuid}
    {txHash : String} {user : User} {inputs : Inputs} {certificate : Certificate}
    (found : world.store.database.find? .certificates certId = some certificate)
    (isConfirmed : certificate.blockchainStatus = .CONFIRMED)
    (initiated : revokeTx? world.store.database certId ≠ none) :
    ¬ RevokesUnprepared runtime world
      (.request (.confirmRevocation certId txHash user) inputs) := by
  rintro ⟨_, _, _, _, revoked, isEvent, revokes, unprepared⟩
  cases isEvent
  have isFound : world.store.database.find? .certificates certId = some revoked :=
    revokes.revocable.found
  obtain rfl := Option.some.inj (found.symm.trans isFound)
  rcases unprepared with unconfirmed | uninitiated
  · exact unconfirmed isConfirmed
  · exact initiated uninitiated

namespace Sample

/-- The sample certificate has the status, and its STORE_HASH rows the other one. -/
def Statuses (database : Database) (status : BlockchainStatus) (rowStatus : TransactionStatus) :
    Prop :=
  ∃ certificate ∈ database.find? .certificates 101, certificate.blockchainStatus = status ∧
    (rowsOf (database .blockchainTransactions) .STORE_HASH 101).map (·.status) = [rowStatus]

instance (database : Database) (status : BlockchainStatus) (rowStatus : TransactionStatus) :
    Decidable (Statuses database status rowStatus) :=
  inferInstanceAs (Decidable (∃ certificate ∈ database.find? .certificates 101, _))

/-- The revocation of one run is prepared, and that of the other leaves its submission
PENDING. -/
theorem revocations_statuses :
    (Statuses (worldAfter Runtime.sample deployer initiatedRun).store.database .CONFIRMED
          .CONFIRMED ∧
        revokeTx? (worldAfter Runtime.sample deployer initiatedRun).store.database 101 ≠ none) ∧
      Statuses (worldAfter Runtime.sample deployer
        (unconfirmedRun ++ [confirmRevocation])).store.database .REVOKED .PENDING := by
  decide +kernel

/-- The sample revocation was initiated, and nothing before it confirms one. -/
theorem initiatedRun_meets (index : Nat) :
    ¬ OccursAt (World.apply Runtime.sample) (initialWorld deployer)
      (initiatedRun ++ [confirmRevocation]) (RevokesUnprepared Runtime.sample) index := by
  rw [occursAt_snoc]
  rintro (⟨event, found, unprepared⟩ | ⟨-, unprepared⟩)
  · have others : ∀ other ∈ initiatedRun, other.confirmsRevocation = false := by
      simp [initiatedRun, initiation, upload, Event.confirmsRevocation]
    obtain ⟨certId, hash, user, inputs, certificate, rfl, -⟩ := unprepared
    have impossible := others _ (List.mem_of_getElem? found)
    cases impossible
  · obtain ⟨⟨certificate, found, isConfirmed, -⟩, initiated⟩ := revocations_statuses.1
    exact not_revokesUnprepared found isConfirmed initiated unprepared

end Sample

/-- The sample certificate agrees with its rows once its revocation is confirmed. -/
theorem rows_agree_revocation :
    (∀ index, ¬ OccursAt (World.apply Runtime.sample) (initialWorld Sample.deployer)
      (Sample.initiatedRun ++ [Sample.confirmRevocation]) (RevokesUnprepared Runtime.sample)
      index) ∧
    ∀ certificate ∈ (worldAfter Runtime.sample Sample.deployer
        (Sample.initiatedRun ++ [Sample.confirmRevocation])).store.database .certificates,
      RowsAgree (worldAfter Runtime.sample Sample.deployer
          (Sample.initiatedRun ++ [Sample.confirmRevocation])).store.database
        (RevokedWith Runtime.sample Sample.deployer
          (Sample.initiatedRun ++ [Sample.confirmRevocation]) certificate.id) certificate :=
  ⟨Sample.initiatedRun_meets, rows_agree Runtime.sample Sample.deployer
    (Sample.initiatedRun ++ [Sample.confirmRevocation]) Sample.initiatedRun_meets⟩

/-- A certificate whose storage was never confirmed is revoked and keeps its PENDING row. -/
theorem revoked_with_pending_row :
    ¬ ∀ certificate ∈ (worldAfter Runtime.sample Sample.deployer
        (Sample.unconfirmedRun ++ [Sample.confirmRevocation])).store.database .certificates,
      RowsAgree (worldAfter Runtime.sample Sample.deployer
          (Sample.unconfirmedRun ++ [Sample.confirmRevocation])).store.database
        (RevokedWith Runtime.sample Sample.deployer
          (Sample.unconfirmedRun ++ [Sample.confirmRevocation]) certificate.id) certificate := by
  intro agree
  obtain ⟨certificate, found, isRevoked, statuses⟩ := Sample.revocations_statuses.2
  obtain ⟨member, isId⟩ := Database.find?_some found
  change certificate.id = 101 at isId
  obtain ⟨storeTx, isRow, fits⟩ := (agree certificate member).storeRow
  rw [isId] at isRow
  rw [isRow] at statuses
  have isPending : storeTx.status = .PENDING := List.singleton_inj.mp statuses
  have settled := (fits.revoked isRevoked).status
  rw [isPending] at settled
  cases settled

end AcademicCredential
