import AcademicCredential.Database.Companions
import AcademicCredential.ServiceFootprints
import AcademicCredential.Services.Lifecycle
import AcademicCredential.Services.StatusMachine

/-!
# Transactions of certificates

An upload inserts a certificate and the row of the transaction that is to store its hash; the
confirmation looks that row up again. `store_rows_paired`: in every run of uploads, confirmations,
revocations and other calls, whatever the order of the statements, every committed certificate has
exactly one STORE_HASH row, and every STORE_HASH row is of a committed certificate.
-/

namespace AcademicCredential

open AcademicCredential.Lib

/-- Certificates and their submissions to the chain. -/
def storeRows : Pairing where
  owners := .certificates
  companions := .blockchainTransactions
  needs _ := true
  serves tx := if BlockchainTransaction.txType tx = .STORE_HASH then
    BlockchainTransaction.certificateId tx else none
  needs_assign _ _ := rfl
  serves_assign _ assignment := by cases assignment <;> rfl

/-- Every certificate has one STORE_HASH row, and these rows are of certificates. -/
structure StoreRowsPaired (database : Database) : Prop where
  once : ∀ certificate ∈ database .certificates, (database .blockchainTransactions).countP
    (fun tx => BlockchainTransaction.txType tx = .STORE_HASH ∧
      BlockchainTransaction.certificateId tx = some (Certificate.id certificate)) = 1
  ofCertificate : ∀ tx ∈ database .blockchainTransactions,
    BlockchainTransaction.txType tx = .STORE_HASH → ∀ id, tx.certificateId = some id →
      ∃ certificate ∈ database .certificates, Certificate.id certificate = id

/-- The pairing gives every certificate its submission. -/
theorem StoreRowsPaired.of_paired {database : Database} (keyed : database.Keyed)
    (paired : storeRows.Paired database) : StoreRowsPaired database := by
  constructor
  · intro certificate member
    refine Eq.trans (List.countP_congr fun tx _ => ?_) (paired.countP_companions keyed member)
    simp [storeRows, rowId, Option.ite_none_right_eq_some]
  · intro tx member isStore id ofId
    have serves : storeRows.serves tx = some id := (if_pos isStore).trans ofId
    obtain ⟨certificate, isCertificate, sameId, _⟩ := paired.exists_owner member serves
    exact ⟨certificate, isCertificate, sameId⟩

/-- Any other call of the backend: it inserts no certificates and no transactions. -/
structure RowlessCall where
  action : Action Unit
  rowless : action.Every fun _ op => op.insertsInto ≠ some .certificates ∧
    op.insertsInto ≠ some .blockchainTransactions

/-- A call about certificates, or one that writes neither. -/
inductive LedgerCall (Other : Type) where
  | certificates (call : CertificateCall)
  | elsewhere (call : Other)

/-- What a call runs. -/
def LedgerCall.action {Other : Type} (runtime : Runtime) (others : Other → RowlessCall) :
    LedgerCall Other → Action (Option CertificateAnswer)
  | .certificates call => some <$> call.action runtime
  | .elsewhere call => (fun _ => none) <$> (others call).action

section protocol

/-- An operation that only reads adds nothing to the pairing. -/
theorem storeRows_reading (Reply : Type) (op : Op Reply) (isReading : op.isReading = true) :
    storeRows.Unpaired op :=
  Pairing.unpaired_of_isReading Reply op isReading

/-- Transactions of another type are nobody's companions. -/
theorem unpaired_insert_of_txType {tx : BlockchainTransaction} (other : tx.txType ≠ .STORE_HASH) :
    storeRows.Unpaired (Op.insert .blockchainTransactions tx) :=
  ⟨rfl, if_neg other⟩

namespace CertificateIssuanceService

variable {runtime : Runtime}

/-- The certificate and, with its id, the row of its transaction. -/
theorem closed_createRecords (fileBytes : List UInt8) (fileOriginalName : String)
    (metadata : IssueMetadata) (currentUser studentUser : User) (university : University)
    (walletAddress : String) :
    (createRecords runtime fileBytes fileOriginalName metadata currentUser studentUser university
      walletAddress).Obeys storeRows.protocol Pairing.Closed .settled := by
  have reading := storeRows_reading
  refine Pairing.closed_bind (every_reading reading rfl) fun today => ?_
  refine Pairing.closed_bind (CertificateRepository.every_getNextUidSequence reading _ _)
    fun sequence => ?_
  refine Pairing.closed_bind (BaseRepository.every_findOne reading _ _) fun duplicate => ?_
  cases duplicate with
  | some _ => trivial
  | none =>
      refine Pairing.closed_bind (every_reading reading rfl) fun certId => ?_
      refine Pairing.closed_bind (every_saveCertificate _ _ _ fun _ _ => trivial) fun filePath => ?_
      rw [Program.obeys_bind]
      refine Pairing.obeys_create_owner rfl rfl (@Pairing.closed_error CertificateDraft .settled)
        (fun certificate sameId => ?_) fun _ => Pairing.obeys_impossible _ Pairing.closed_impossible
      refine ⟨trivial, fun txId => ⟨trivial, fun submittedAt => ?_⟩⟩
      change Program.Obeys _ _ (BlockchainTransactionRepository.create _ >>= fun _ => pure _)
        (PairingPhase.opened certId)
      rw [Program.obeys_bind]
      exact Pairing.obeys_create_companion rfl (congrArg some sameId)
        (@Pairing.closed_error CertificateDraft (.opened certId)) fun _ => trivial

/-- An upload adds both rows of the pairing. -/
theorem closed_uploadBlock (fileBytes : List UInt8) (fileOriginalName : String)
    (metadata : IssueMetadata) (currentUser : User) :
    (uploadBlock runtime fileBytes fileOriginalName metadata currentUser).Obeys
      storeRows.protocol Pairing.Closed .settled := by
  have reading := storeRows_reading
  refine Pairing.closed_bind (BaseRepository.every_findOne reading _ _) fun university => ?_
  cases university with
  | none => trivial
  | some university =>
      dsimp only
      split
      · trivial
      cases walletOf university with
      | none => trivial
      | some walletAddress =>
          refine Pairing.closed_bind (BaseRepository.every_findOne reading _ _) fun studentUser => ?_
          cases studentUser with
          | none => trivial
          | some studentUser =>
              refine Pairing.closed_bind (BaseRepository.every_findOne reading _ _) fun student => ?_
              cases student with
              | none => trivial
              | some _ => exact closed_createRecords _ _ _ _ _ _ _

/-- A confirmation adds to neither table. -/
theorem unpaired_confirmStorage (certId : Uuid) (txHash : String) (user : User) :
    (confirmBlockchainStorage runtime certId txHash user).Every fun _ op =>
      storeRows.Unpaired op := by
  have reading := storeRows_reading
  refine Program.every_bind (every_transaction ?_ trivial trivial trivial) fun exit => ?_
  · exact every_confirmBlock reading runtime certId txHash user (fun _ _ => trivial)
      fun _ _ => trivial
  · cases exit with
    | submitted => trivial
    | confirmed certificate receipt record =>
        refine Program.every_bind ?_ fun _ => Program.every_pure _
        refine Program.every_bind (every_transaction ?_ trivial trivial trivial)
          fun _ => Program.every_pure _
        exact QrVerificationService.every_generateBlock reading runtime certId user.id
          (fun _ _ => trivial) fun _ => ⟨rfl, rfl⟩

end CertificateIssuanceService

namespace CertificateRevocationService

open CertificateIssuanceService

variable {runtime : Runtime}

/-- A revocation inserts a row of type REVOKE_HASH. -/
theorem unpaired_initiateBlock (certId : Uuid) (reason : String) (currentUser : User)
    (blockchainService : Bool) :
    (initiateBlock runtime certId reason currentUser blockchainService).Every fun _ op =>
      storeRows.Unpaired op := by
  have reading := storeRows_reading
  refine Program.every_bind (BaseRepository.every_getById reading _ _) fun certificate => ?_
  cases certificate with
  | none => trivial
  | some certificate =>
      dsimp only
      split
      · trivial
      split
      · trivial
      split
      · trivial
      refine Program.every_bind (BaseRepository.every_findOne reading _ _) fun university => ?_
      cases university with
      | none => trivial
      | some university =>
          dsimp only
          cases walletOf university with
          | none => trivial
          | some walletAddress =>
              have create : ∀ row : Uuid → Timestamp → BlockchainTransaction,
                  (∀ id submittedAt, (row id submittedAt).txType = .REVOKE_HASH) →
                  (do
                    let id ← Program.perform .uuid4
                    let submittedAt ← Program.perform .serverNow
                    let _ ← BlockchainTransactionRepository.create (row id submittedAt)
                    return (certificate, walletAddress) :
                      Action (Certificate × String)).Every fun _ op => storeRows.Unpaired op :=
                fun row isRevoke => Program.every_bind (every_reading reading rfl) fun id =>
                  Program.every_bind (every_reading reading rfl) fun submittedAt =>
                    Program.every_bind (BaseRepository.every_create reading
                      (unpaired_insert_of_txType (by rw [isRevoke]; decide)))
                      fun _ => Program.every_pure _
              dsimp only
              split
              · exact Program.every_bind (every_preflight reading _ _ _)
                  fun _ => create _ fun _ _ => rfl
              · exact create _ fun _ _ => rfl

end CertificateRevocationService

/-- Each call side by side follows the protocol. -/
theorem LedgerCall.obeys {Other : Type} {runtime : Runtime} {others : Other → RowlessCall}
    (call : LedgerCall Other) :
    (call.action runtime others).Obeys storeRows.protocol (fun _ _ => True) .settled := by
  have reading := storeRows_reading
  have ofUnpaired : ∀ {Value : Type} {program : Action Value},
      (program.Every fun _ op => storeRows.Unpaired op) →
        program.Obeys storeRows.protocol (fun _ _ => True) .settled :=
    fun every => Pairing.obeys_of_unpaired every fun _ => trivial
  cases call with
  | elsewhere call =>
      exact Pairing.obeys_map (ofUnpaired ((others call).rowless.mono fun _ _ rowless =>
        Pairing.unpaired_of_insertsInto rowless.1 rowless.2))
  | certificates call =>
      refine Pairing.obeys_map ?_
      cases call with
      | upload fileBytes fileOriginalName metadata user =>
          exact Pairing.obeys_map (Pairing.obeys_transaction_of_closed
            (CertificateIssuanceService.closed_uploadBlock _ _ _ _) fun _ _ => trivial)
      | confirmStorage certId txHash user =>
          exact Pairing.obeys_map (ofUnpaired
            (CertificateIssuanceService.unpaired_confirmStorage certId txHash user))
      | initiateRevocation certId reason user blockchainService =>
          refine Pairing.obeys_map (ofUnpaired (Program.every_bind (every_transaction
            (CertificateRevocationService.unpaired_initiateBlock _ _ _ _) trivial trivial trivial)
            fun _ => Program.every_pure _))
      | confirmRevocation certId txHash user =>
          refine Pairing.obeys_map (ofUnpaired (every_transaction
            (CertificateRevocationService.every_confirmBlock reading runtime certId txHash user
              (fun _ _ => trivial) fun _ _ _ _ => trivial) trivial trivial trivial))

end protocol

/-- The calls side by side, over the operations of a session. -/
def ledgerSystem {Other : Type} (runtime : Runtime) (others : Other → RowlessCall) :
    System Op Exception (Option CertificateAnswer) (LedgerCall Other) Inputs
      (List MinedTransaction) Store Session :=
  readCommitted (LedgerCall.action runtime others)

/-- In every run of certificate calls and other calls, from the database as it is deployed, every
certificate has exactly one STORE_HASH row. -/
theorem store_rows_paired {Other : Type} (runtime : Runtime) (others : Other → RowlessCall)
    (deployer : Contract.Address)
    (run : List (Turn (LedgerCall Other) Inputs (List MinedTransaction))) :
    StoreRowsPaired (stateAfter (ledgerSystem runtime others).apply ⟨initialStore deployer, []⟩
      run).shared.database := by
  have valid : (initialStore deployer).database.Valid := Database.Valid.empty
  have paired : storeRows.Paired (initialStore deployer).database := List.Perm.nil
  exact .of_paired (isolated_run _ valid run).committed.keyed
    (Pairing.paired_run LedgerCall.obeys paired run)

end AcademicCredential
