import AcademicCredential.ChainHistory
import AcademicCredential.Services.TransactionRows

/-!
# Recording a revocation that took place

`initiate_revocation` adds a row on every retry, `confirm_revocation` stamps the newest
open one, and `tx_hash` is UNIQUE. So a mined revocation is recorded exactly when no
other row was stamped with its hash before and the receipt fits the columns.
-/

namespace AcademicCredential

open AcademicCredential.Lib
open AcademicCredential.Contract

/-- A run keeps the database valid, whatever the calls revoke. -/
theorem valid_stateAfter (runtime : Runtime) {store : Store} (valid : store.database.Valid)
    (events : List Event) :
    (stateAfter (Event.apply runtime) store events).database.Valid := by
  refine @stateAfter_invariant _ _ (Event.apply runtime) (fun store => store.database.Valid) ?_
    store valid events
  intro store event valid
  cases event with
  | request call inputs =>
      have isLater := apply_request runtime ⟨store, valid⟩ call inputs
      have bothValid : (Direct.fresh store inputs).Valid := ⟨valid, valid⟩
      rw [isLater.1]
      exact (run_valid (call.action runtime) bothValid).database
  | mined transactions => exact valid
  | elsewhere database =>
      rw [Event.apply]
      split
      · rename_i only
        exact only.1
      · exact valid

/-- The store after a run is valid. -/
theorem valid_storeAfter (runtime : Runtime) (deployer : Address) (events : List Event) :
    (storeAfter runtime deployer events).database.Valid :=
  valid_stateAfter runtime .empty events

namespace CertificateRevocationService

/-- A revocation that took place: its transaction was mined with status 1, the chain shows
the certificate REVOKED, the database still has it active with an open revocation row,
and the node answers the two reads of the call. -/
structure GenuineRevocation (runtime : Runtime) (store : Store) (inputs : Inputs)
    (certId : Uuid) (txHash : String) (user : User) (certificate : Certificate)
    (tx : BlockchainTransaction) (receipt : Receipt) : Prop where
  revocable : Revocable store.database certId user certificate
  openRow : revokeTx? store.database certId = some tx
  mined : ∃ transactionHash, runtime.transactionHashBytes txHash = .ok transactionHash ∧
    store.chain.receipt? transactionHash = some receipt
  succeeded : receipt.status = 1
  revokedOnChain : RevokedOnChain store.chain certificate
  answered : (inputs.rpc 0).failure = none ∧ (inputs.rpc 1).failure = none

/-- `confirm_revocation` reports the revocation and leaves the certificate REVOKED. -/
def RevocationRecorded (runtime : Runtime) (store : Store) (inputs : Inputs) (certId : Uuid)
    (txHash : String) (user : User) : Prop :=
  let outcome := (confirmRevocation runtime certId txHash user).run sessionHandler
    (store, .fresh inputs)
  (∃ revokedAt, outcome.1 = .ok (.revoked certId revokedAt)) ∧
    certificateStatus outcome.2.1.database certId = some .REVOKED

/-- What it takes: the hash is in no other row, and the columns can hold the receipt and
the times of the record. -/
structure RecordableRevocation (store : Store) (txHash : String) (certificate : Certificate)
    (tx : BlockchainTransaction) (receipt : Receipt) : Prop where
  free : ¬ HeldElsewhere store.database tx.id txHash
  recordable : Recordable txHash (transactionReceipt txHash receipt)
  representable : Representable (chainRecordOf store.chain certificate)

variable {runtime : Runtime} {store : ValidStore} {inputs : Inputs} {certId : Uuid}
  {txHash : String} {user : User} {certificate : Certificate} {tx : BlockchainTransaction}
  {receipt : Receipt}

namespace GenuineRevocation

variable (genuine : GenuineRevocation runtime store.toStore inputs certId txHash user certificate
  tx receipt)

include genuine

/-- The row of the retried revocation is stored. -/
theorem stored : store.database.find? .blockchainTransactions tx.id = some tx :=
  stored_revokeTx? store.valid.keyed certId tx genuine.openRow

/-- The receipt lookup finds the receipt. -/
theorem received : ∃ call, receiptLookup runtime (.begun store.toStore inputs) txHash =
    (.ok (some (transactionReceipt txHash receipt)),
      (Direct.begun store.toStore inputs).asked call) := by
  obtain ⟨transactionHash, denotes, found⟩ := genuine.mined
  have atStart : (Direct.begun store.toStore inputs).chain.receipt? transactionHash =
      some receipt := found
  have answered : (Direct.begun store.toStore inputs).nextOutcome.failure = none :=
    genuine.answered.1
  exact ⟨_, receiptLookup_mined denotes atStart answered⟩

/-- The record on chain does not change any more. -/
theorem nextRecord_eq (call : RpcCall) :
    ((Direct.begun store.toStore inputs).asked call).nextRecord certificate.certificateUid =
      chainRecordOf store.chain certificate := by
  have grows : Chain.Grows store.chain
      ((Direct.begun store.toStore inputs).asked call).nextChain :=
    (Chain.grows_mineAll store.chain (inputs.rpc 0).mined).trans (Chain.grows_mineAll _ _)
  exact (grows.record (solidityString certificate.certificateUid)).revoked
    genuine.revokedOnChain.exists genuine.revokedOnChain.status

/-- The record lookup finds the revoked record, unless its times have no `datetime`. -/
theorem answer (call : RpcCall) :
    (Representable (chainRecordOf store.chain certificate) ∧ ∃ record after,
      recordLookup runtime ((Direct.begun store.toStore inputs).asked call)
        certificate.certificateUid = (.ok (some record), after) ∧ record.status = "REVOKED") ∨
    (¬ Representable (chainRecordOf store.chain certificate) ∧ ∃ after,
      recordLookup runtime ((Direct.begun store.toStore inputs).asked call)
        certificate.certificateUid = (.error .ValueError, after)) := by
  have same := genuine.nextRecord_eq call
  have answered : ((Direct.begun store.toStore inputs).asked call).nextOutcome.failure = none :=
    genuine.answered.2
  have present : (((Direct.begun store.toStore inputs).asked call).nextRecord
      certificate.certificateUid).exists = true := same ▸ genuine.revokedOnChain.exists
  have looked := recordLookup_present runtime answered present
  rw [same] at looked
  rcases looked with ⟨representable, record, looked, -, -, status⟩ | ⟨beyond, looked⟩
  · refine .inl ⟨representable, record, _, looked, ?_⟩
    rw [status, genuine.revokedOnChain.status]
    rfl
  · exact .inr ⟨beyond, _, looked⟩

/-- The update of the row is accepted exactly when the hash is recordable and held by no other
row. -/
theorem accepted_iff (confirmedAt : Timestamp) :
    Accepted store.database (some tx) (.status .CONFIRMED ::
      CertificateIssuanceService.confirmationData txHash (transactionReceipt txHash receipt)
        confirmedAt) ↔
      Recordable txHash (transactionReceipt txHash receipt) ∧
        ¬ HeldElsewhere store.database tx.id txHash :=
  accepted_confirmation_iff store.valid genuine.stored (fits_blockHash txHash receipt) confirmedAt

end GenuineRevocation

/-- The status after the paths that revoke. -/
theorem certificateStatus_revoked {direct : Direct} (revokeTx : Option BlockchainTransaction)
    (record : ChainCertificateRecord) (userId : Uuid) (assignments : List TransactionAssignment)
    (found : direct.working.find? .certificates certificate.id = some certificate) :
    certificateStatus ((revokedState direct certificate revokeTx userId record).recorded revokeTx
      assignments).working certificate.id = some .REVOKED := by
  have timedFound : (timed direct record).working.find? .certificates certificate.id =
      some certificate := by rw [timed_working, found]
  have updated := Database.find?_update_of_found timedFound
    (CertificateRepository.revocation (originalReason revokeTx) userId
      ((timed direct record).inputs.wallClock (timed direct record).reads)) certificate.id
  rw [if_pos rfl] at updated
  have rows : ((revokedState direct certificate revokeTx userId record).recorded revokeTx
      assignments).working .certificates = ((Write.update .certificates certificate.id
        (CertificateRepository.revocation (originalReason revokeTx) userId
          ((timed direct record).inputs.wallClock (timed direct record).reads))).apply
            (timed direct record).working) .certificates := by
    rw [Direct.recorded_certificates]
    rfl
  rw [certificateStatus, Database.find?_congr rows, updated]
  rfl

/-- The `try` statement revokes the certificate when the revocation can be recorded, and
raises otherwise. -/
theorem RevokePath.genuine
    (genuine : GenuineRevocation runtime store.toStore inputs certId txHash user certificate tx
      receipt) {outcome : Except Exception RevocationResponse} {after : Direct}
    (path : RevokePath runtime (.begun store.toStore inputs) certificate user.id (some tx) txHash
      (outcome, after)) :
    (RecordableRevocation store.toStore txHash certificate tx receipt ∧
      (∃ revokedAt, outcome = .ok (.revoked certificate.id revokedAt)) ∧
      certificateStatus after.working certificate.id = some .REVOKED) ∨
    (¬ RecordableRevocation store.toStore txHash certificate tx receipt ∧
      ∃ error, outcome = .error error) := by
  obtain ⟨call, received⟩ := genuine.received
  have asOne : (transactionReceipt txHash receipt).status = 1 := genuine.succeeded
  have lookups : ∀ {other asked}, receiptLookup runtime (.begun store.toStore inputs) txHash =
      (.ok (some other), asked) → other = transactionReceipt txHash receipt ∧
        asked = (Direct.begun store.toStore inputs).asked call := by
    intro other asked found
    rw [received] at found
    obtain ⟨sameReceipt, rfl⟩ := Prod.mk.inj found
    exact ⟨(Option.some.inj (Except.ok.inj sameReceipt)).symm, rfl⟩
  cases path with
  | receiptFailed found =>
      rw [received] at found
      cases found
  | refused _ _ why =>
      rcases why with ⟨asked, found, -⟩ | ⟨other, asked, found, failed, -⟩ |
        ⟨other, asked, record, found, -, looked, notRevoked⟩
      · rw [received] at found
        cases found
      · obtain ⟨rfl, -⟩ := lookups found
        omega
      · obtain ⟨-, rfl⟩ := lookups found
        rcases genuine.answer call with ⟨-, present, after, answered, revoked⟩ |
          ⟨beyond, after, answered⟩
        · rw [answered] at looked
          exact absurd revoked (notRevoked present (Except.ok.inj looked).symm)
        · rw [answered] at looked
          cases looked
  | pending found _ =>
      rw [received] at found
      cases found
  | reverted found failed _ =>
      obtain ⟨rfl, -⟩ := lookups found
      omega
  | recordFailed found _ looked =>
      obtain ⟨-, rfl⟩ := lookups found
      refine .inr ⟨fun recordable => ?_, _, rfl⟩
      rcases genuine.answer call with ⟨-, present, _, answered, -⟩ | ⟨beyond, _, answered⟩
      · rw [answered] at looked
        cases looked
      · exact beyond recordable.representable
  | halfRevoked found _ answered _ _ refused =>
      obtain ⟨rfl, -⟩ := lookups found
      refine .inr ⟨fun recordable => refused ?_, _, rfl⟩
      exact (genuine.accepted_iff _).mpr ⟨recordable.recordable, recordable.free⟩
  | revoked found _ answered _ accepted =>
      obtain ⟨rfl, rfl⟩ := lookups found
      obtain ⟨recordable, free⟩ := (genuine.accepted_iff _).mp accepted
      refine .inl ⟨⟨free, recordable, ?_⟩, ⟨_, rfl⟩, ?_⟩
      · rcases genuine.answer call with ⟨representable, -⟩ | ⟨-, _, failed⟩
        · exact representable
        · rw [failed] at answered
          cases answered
      · refine certificateStatus_revoked _ _ _ _ ?_
        obtain ⟨-, rfl⟩ := Prod.mk.inj answered
        exact genuine.revocable.foundById

/-- So does the whole transaction block. -/
theorem RevocationPath.genuine
    (genuine : GenuineRevocation runtime store.toStore inputs certId txHash user certificate tx
      receipt) {outcome : Except Exception RevocationResponse} {after : Direct}
    (path : RevocationPath runtime (.begun store.toStore inputs) certId txHash user
      (outcome, after)) :
    (RecordableRevocation store.toStore txHash certificate tx receipt ∧
      (∃ revokedAt, outcome = .ok (.revoked certificate.id revokedAt)) ∧
      certificateStatus after.working certificate.id = some .REVOKED) ∨
    (¬ RecordableRevocation store.toStore txHash certificate tx receipt ∧
      ∃ error, outcome = .error error) := by
  have only : ∀ {other}, Revocable (Direct.begun store.toStore inputs).working certId user other →
      other = certificate := fun revocable =>
    Option.some.inj (revocable.found.symm.trans genuine.revocable.found)
  have isOpen : revokeTx? (Direct.begun store.toStore inputs).working certId = some tx :=
    genuine.openRow
  -- Whatever the `except` branch does, the request ends in an exception.
  have raises : ∀ {other error after}, Revocable (Direct.begun store.toStore inputs).working certId
      user other → PathOf runtime (.begun store.toStore inputs) certId txHash user other
        (.error error, after) → ¬ RecordableRevocation store.toStore txHash certificate tx receipt := by
    intro other error after revocable path
    obtain rfl := only revocable
    rw [PathOf, isOpen] at path
    rcases path.genuine genuine with ⟨-, ⟨_, impossible⟩, -⟩ | ⟨unrecordable, -⟩
    · cases impossible
    · exact unrecordable
  cases path with
  | turnedAway why => exact absurd genuine.revocable (why certificate)
  | completed revocable path =>
      obtain rfl := only revocable
      rw [PathOf, isOpen] at path
      exact path.genuine genuine
  | raised revocable path _ => exact .inr ⟨raises revocable path, _, rfl⟩
  | unreachable revocable path _ _ => exact .inr ⟨raises revocable path, _, rfl⟩
  | unreachableRecorded revocable path _ _ => exact .inr ⟨raises revocable path, _, rfl⟩

/-- A genuine revocation is recorded exactly when no row but the newest open one holds its
transaction hash and the columns can hold what the chain says. -/
theorem genuine_recorded_iff
    (genuine : GenuineRevocation runtime store.toStore inputs certId txHash user certificate tx
      receipt) :
    RevocationRecorded runtime store.toStore inputs certId txHash user ↔
      RecordableRevocation store.toStore txHash certificate tx receipt := by
  have described := store.run_eq inputs (confirmRevocation runtime certId txHash user)
  have sameDatabase := congrArg Direct.database described.2
  have sameId : certificate.id = certId := (Database.find?_some genuine.revocable.found).2
  have path := @confirmBlock_path runtime _ (Direct.open_begun store inputs) certId txHash user
  simp only [Direct.of] at sameDatabase
  dsimp only [RevocationRecorded]
  rw [described.1, sameDatabase, confirmRevocation, run_transaction_fresh]
  rcases ran : (confirmBlock runtime certId txHash user).run directHandler
    (.begun store.toStore inputs) with ⟨error | response, left⟩
  · rw [ran] at path
    rcases path.genuine genuine with ⟨-, ⟨_, impossible⟩, -⟩ | ⟨unrecordable, -⟩
    · cases impossible
    · refine iff_of_false ?_ unrecordable
      rintro ⟨⟨_, impossible⟩, -⟩
      cases impossible
  · rw [ran] at path
    rcases path.genuine genuine with ⟨recordable, answer, status⟩ | ⟨-, _, impossible⟩
    · exact iff_of_true ⟨sameId ▸ answer, sameId ▸ status⟩ recordable
    · cases impossible

/-- After every run, a genuine revocation is recorded exactly when no row but the newest
open one holds its transaction hash and the columns can hold what the chain says. -/
theorem genuine_revocation_recorded_iff (runtime : Runtime) (deployer : Address)
    (events : List Event) (inputs : Inputs) (certId : Uuid) (txHash : String) (user : User)
    (certificate : Certificate) (tx : BlockchainTransaction) (receipt : Receipt)
    (genuine : GenuineRevocation runtime (storeAfter runtime deployer events) inputs certId txHash
      user certificate tx receipt) :
    RevocationRecorded runtime (storeAfter runtime deployer events) inputs certId txHash user ↔
      RecordableRevocation (storeAfter runtime deployer events) txHash certificate tx receipt :=
  @genuine_recorded_iff runtime ⟨_, valid_storeAfter runtime deployer events⟩ inputs certId txHash
    user certificate tx receipt genuine

end CertificateRevocationService

namespace Sample

open CertificateRevocationService

/-- The hash of the revocation. -/
def revocationHash : Bytes32 := ⟨List.replicate 32 0x22, rfl⟩

/-- A retry, with UUIDs and a clock of its own. -/
def initiation (uuid : Uuid) : Event :=
  .request (.initiateRevocation 101 "Issued in error" administrator true)
    { inputs answered with
      uuid4 := fun read => uuid + read
      databaseClock := fun _ => 1700000000000000 + uuid }

/-- A confirmed certificate whose revocation was initiated once and mined. -/
def initiatedRun : List Event :=
  [.elsewhere accounts, upload, .mined [authorization, storage certUid],
    .request (.confirmStorage 101 txHash administrator) (inputs answered), initiation 200,
    .mined [revocation certUid]]

/-- The same with a confirmation before the transaction was mined, and a retry after it. -/
def retriedRun : List Event :=
  [.elsewhere accounts, upload, .mined [authorization, storage certUid],
    .request (.confirmStorage 101 txHash administrator) (inputs answered), initiation 200,
    confirmRevocation, initiation 300, .mined [revocation certUid]]

/-- The sample revocation took place, and the hash is in another row or not. -/
def RevocationFacts (store : Store) (held : Bool) : Prop :=
  ∃ certificate ∈ store.database.find? .certificates 101,
    ∃ tx ∈ revokeTx? store.database 101,
      ∃ receipt ∈ store.chain.receipt? revocationHash,
        ((some certificate.universityId = administrator.universityId ∧
          certificate.isActive = true) ∧ receipt.status = 1 ∧
        (chainRecordOf store.chain certificate).exists = true ∧
        (chainRecordOf store.chain certificate).status = .REVOKED) ∧
        decide (HeldElsewhere store.database tx.id revocationTxHash) = held ∧
        receipt = Chain.receiptOf (revocation certUid) true ∧
        Representable (chainRecordOf store.chain certificate)

instance (store : Store) (held : Bool) : Decidable (RevocationFacts store held) :=
  inferInstanceAs (Decidable (∃ certificate ∈ store.database.find? .certificates 101, _))

/-- The facts of the run say that the revocation is genuine. -/
theorem RevocationFacts.genuine {store : Store} {held : Bool} (facts : RevocationFacts store held) :
    ∃ certificate tx receipt,
      GenuineRevocation Runtime.sample store (inputs answered) 101 revocationTxHash administrator
        certificate tx receipt ∧
      (HeldElsewhere store.database tx.id revocationTxHash ↔ held = true) ∧
      receipt = Chain.receiptOf (revocation certUid) true ∧
      Representable (chainRecordOf store.chain certificate) := by
  obtain ⟨certificate, found, tx, isOpen, receipt, mined, ⟨⟨owned, active⟩, succeeded, present,
    revoked⟩, elsewhere, isReceipt, representable⟩ := facts
  have denotes : Runtime.sample.transactionHashBytes revocationTxHash = .ok revocationHash := by
    decide
  refine ⟨certificate, tx, receipt, ⟨⟨found, owned, active⟩, isOpen, ⟨_, denotes, mined⟩,
    succeeded, ⟨present, revoked⟩, rfl, rfl⟩, ?_, isReceipt, representable⟩
  rw [← elsewhere, decide_eq_true_iff]

/-- The facts of the run of one revocation and of the run with a retried one, which share
the upload and its confirmation. -/
theorem revocationRuns_facts :
    RevocationFacts (storeAfter Runtime.sample deployer initiatedRun) false ∧
      RevocationFacts (storeAfter Runtime.sample deployer retriedRun) true := by
  decide +kernel

end Sample

open CertificateRevocationService

/-- The sample revocation is recorded when it was initiated once. -/
theorem initiated_revocation_recorded :
    RevocationRecorded Runtime.sample
      (storeAfter Runtime.sample Sample.deployer Sample.initiatedRun)
      (Sample.inputs Sample.answered) 101 Sample.revocationTxHash Sample.administrator := by
  obtain ⟨certificate, tx, receipt, genuine, elsewhere, rfl, representable⟩ :=
    Sample.revocationRuns_facts.1.genuine
  have recordable : Recordable Sample.revocationTxHash (transactionReceipt Sample.revocationTxHash
      (Chain.receiptOf (Sample.revocation Sample.certUid) true)) :=
    ⟨by decide +kernel, by decide, by decide, by decide, by decide⟩
  have free : ¬ HeldElsewhere (storeAfter Runtime.sample Sample.deployer
      Sample.initiatedRun).database tx.id Sample.revocationTxHash := by simp [elsewhere]
  exact (genuine_revocation_recorded_iff Runtime.sample Sample.deployer Sample.initiatedRun _ 101 _
    _ certificate tx _ genuine).mpr ⟨free, recordable, representable⟩

/-- A confirmation before the transaction was mined stamps the first row with its hash; the
row of the retry cannot take it any more, and the revocation stays unrecorded. -/
theorem retried_revocation_unrecorded :
    (∃ certificate tx receipt, GenuineRevocation Runtime.sample
      (storeAfter Runtime.sample Sample.deployer Sample.retriedRun) (Sample.inputs Sample.answered)
      101 Sample.revocationTxHash Sample.administrator certificate tx receipt) ∧
    ¬ RevocationRecorded Runtime.sample
      (storeAfter Runtime.sample Sample.deployer Sample.retriedRun)
      (Sample.inputs Sample.answered) 101 Sample.revocationTxHash Sample.administrator := by
  obtain ⟨certificate, tx, receipt, genuine, elsewhere, -⟩ := Sample.revocationRuns_facts.2.genuine
  refine ⟨⟨certificate, tx, receipt, genuine⟩, fun recorded => ?_⟩
  have valid := valid_storeAfter Runtime.sample Sample.deployer Sample.retriedRun
  have recordable := (@genuine_recorded_iff Runtime.sample ⟨_, valid⟩ _ _ _ _ _ _ _ genuine).mp
    recorded
  exact recordable.free (elsewhere.mpr rfl)

end AcademicCredential
