import AcademicCredential.Services.LedgerEffect
import AcademicCredential.Services.QrRows
import AcademicCredential.Services.RetriedRevocation

/-!
# Universities and each other's confirmations

What a university needs to confirm its own pending certificate, and what of it the calls
of other universities can take away: nothing but the transaction hash, which a foreign
row may hold already. The hash is stored before anything about the transaction is checked.
-/

namespace AcademicCredential

open AcademicCredential.Lib
open AcademicCredential.Contract
open CertificateIssuanceService

/-- A pending certificate of the user's university whose storage took place: the
transaction was mined with status 1, and the record on chain has the row's hash and the
university's wallet. -/
structure GenuineStorage (runtime : Runtime) (store : Store) (certId : Uuid) (txHash : String)
    (user : User) (certificate : Certificate) (receipt : Receipt) : Prop where
  found : store.database.find? .certificates certId = some certificate
  owned : some certificate.universityId = user.universityId
  pending : certificate.blockchainStatus = .PENDING
  mined : ∃ transactionHash, runtime.transactionHashBytes txHash = .ok transactionHash ∧
    store.chain.receipt? transactionHash = some receipt
  succeeded : receipt.status = 1
  onChain : OnChain store.chain certificate
  issuer : ∀ wallet, (university? store.database user).bind walletOf = some wallet →
    lower (runtime.toChecksumAddress
      (chainRecordOf store.chain certificate).issuingUniversity) = lower wallet

/-- The record under the certificate's UID when the call looks it up. -/
def seenRecord (store : Store) (inputs : Inputs) (certificate : Certificate) :
    CertificateRecord :=
  chainRecordOf (((inputs.rpc 0).chain store.chain).mineAll (inputs.rpc 1).mined) certificate

/-- Nothing outside stands in the way of the call: the node answers, the record's times
have a `datetime`, and the random values of the new QR row are new. -/
structure Served (runtime : Runtime) (store : Store) (inputs : Inputs) (certificate : Certificate) :
    Prop where
  answered : (inputs.rpc 0).failure = none ∧ (inputs.rpc 1).failure = none
  representable : Representable (seenRecord store inputs certificate)
  qr : FreshQr runtime store.database inputs

/-- `confirm_blockchain_storage` reports the confirmation and leaves the certificate
CONFIRMED. -/
def StorageConfirmed (runtime : Runtime) (store : Store) (inputs : Inputs) (certId : Uuid)
    (txHash : String) (user : User) : Prop :=
  let outcome := (confirmBlockchainStorage runtime certId txHash user).run sessionHandler
    (store, .fresh inputs)
  (∃ summary block issuedAt issuer token url image,
    outcome.1 = .ok (.confirmed summary txHash block issuedAt issuer token url image)) ∧
    certificateStatus outcome.2.1.database certId = some .CONFIRMED

/-- The certificate's STORE_HASH row can take the transaction hash. -/
def Unclaimed (database : Database) (certId : Uuid) (txHash : String) : Prop :=
  ∀ tx ∈ storeTx? database certId, ¬ HeldElsewhere database tx.id txHash

/-- The certificate's STORE_HASH row can take the numbers of the receipt. -/
def RecordableIn (database : Database) (certId : Uuid) (txHash : String) (receipt : Receipt) :
    Prop :=
  ∀ tx ∈ storeTx? database certId, Recordable txHash (transactionReceipt txHash receipt)

section runs

variable {runtime : Runtime} {store : ValidStore} {inputs : Inputs} {certId : Uuid}
  {txHash : String} {user : User} {certificate : Certificate} {receipt : Receipt}

section lookups

variable (genuine : GenuineStorage runtime store.toStore certId txHash user certificate receipt)
  (served : Served runtime store.toStore inputs certificate)

include genuine served

/-- The receipt lookup finds the receipt. -/
theorem GenuineStorage.received :
    ∃ call, receiptLookup runtime (.begun store.toStore inputs) txHash =
      (.ok (some (transactionReceipt txHash receipt)),
        (Direct.begun store.toStore inputs).asked call) := by
  obtain ⟨transactionHash, denotes, found⟩ := genuine.mined
  have atStart : (Direct.begun store.toStore inputs).chain.receipt? transactionHash =
      some receipt := found
  have answered : (Direct.begun store.toStore inputs).nextOutcome.failure = none :=
    served.answered.1
  exact ⟨_, receiptLookup_mined denotes atStart answered⟩

/-- The record lookup finds a record that passes the cross-checks. -/
theorem GenuineStorage.answer (call : RpcCall) :
    ∃ record after, recordLookup runtime ((Direct.begun store.toStore inputs).asked call)
        certificate.certificateUid = (.ok (some record), after) ∧
      crossCheckFails certificate (university? store.database user) (some record) = false := by
  have answered : ((Direct.begun store.toStore inputs).asked call).nextOutcome.failure = none :=
    served.answered.2
  have grows : Chain.Grows store.chain
      (((inputs.rpc 0).chain store.chain).mineAll (inputs.rpc 1).mined) :=
    (Chain.grows_mineAll _ _).trans (Chain.grows_mineAll _ _)
  have kept := grows.record (solidityString certificate.certificateUid)
  have isSeen : ((Direct.begun store.toStore inputs).asked call).nextRecord
      certificate.certificateUid = seenRecord store.toStore inputs certificate := rfl
  have present : (seenRecord store.toStore inputs certificate).exists = true :=
    kept.exists genuine.onChain.exists
  rcases recordLookup_present runtime answered (isSeen ▸ present) with
    ⟨-, record, looked, hash, issuer, -⟩ | ⟨beyond, -⟩
  · refine ⟨record, _, looked, ?_⟩
    have sameHash : record.certificateHash = certificate.sha256Hash := by
      rw [hash, isSeen]
      have unchanged : (seenRecord store.toStore inputs certificate).certificateHash =
          (chainRecordOf store.chain certificate).certificateHash :=
        kept.certificateHash genuine.onChain.exists
      rw [unchanged]
      exact genuine.onChain.sameHash
    have sameIssuer : record.issuingUniversity = runtime.toChecksumAddress
        (chainRecordOf store.chain certificate).issuingUniversity := by
      rw [issuer, isSeen]
      exact congrArg runtime.toChecksumAddress (kept.issuingUniversity genuine.onChain.exists)
    have matching : issuerMismatch (university? store.database user) record = false := by
      unfold issuerMismatch
      split
      · rename_i wallet isWallet
        simp [sameIssuer, genuine.issuer wallet isWallet]
      · rfl
    simp [crossCheckFails, sameHash, matching]
  · exact absurd (isSeen ▸ served.representable) beyond

end lookups

/-- The row of a genuine submission is updated exactly when the hash fits and is unclaimed. -/
theorem accepted_confirmation_storeTx?_iff {database : Database} (valid : database.Valid)
    (confirmedAt : Timestamp) :
    Accepted database (storeTx? database certId) (.status .CONFIRMED ::
        confirmationData txHash (transactionReceipt txHash receipt) confirmedAt) ↔
      RecordableIn database certId txHash receipt ∧ Unclaimed database certId txHash := by
  have stored := stored_storeTx? valid.keyed certId
  simp only [RecordableIn, Unclaimed]
  generalize storeTx? database certId = storeTx at stored ⊢
  cases storeTx with
  | none => simp [Accepted]
  | some tx =>
      rw [accepted_confirmation_iff valid (stored tx rfl) (fits_blockHash txHash receipt)]
      simp

/-- The state in which a confirmation is committed. -/
theorem confirmedState {asked : Direct} (opened : asked.Open) {tx? : Option BlockchainTransaction}
    (stored : Stored asked.working tx?)
    (found : asked.working.find? .certificates certificate.id = some certificate)
    (notRevoked : certificate.blockchainStatus ≠ .REVOKED)
    {assignments : List TransactionAssignment} (accepted : Accepted asked.working tx? assignments) :
    let after := (asked.recorded tx? assignments).marked certificate .CONFIRMED
    after.Open ∧ after.inputs = asked.inputs ∧
      after.working .qrVerifications = asked.working .qrVerifications ∧
      after.working.find? .certificates certificate.id =
        some { certificate with blockchainStatus := .CONFIRMED } := by
  have stillFound : (asked.recorded tx? assignments).working.find? .certificates certificate.id =
      some certificate := by
    rw [Database.find?_congr (asked.recorded_certificates tx? assignments), found]
  have marks := (opened.recorded stored accepted).mark stillFound notRevoked .CONFIRMED
  refine ⟨marks.1, (asked.recorded_sameOutside tx? assignments).inputs, ?_, ?_⟩
  · have fromCertificates : Table.certificates ≠ .qrVerifications := by decide
    have fromTransactions : Table.blockchainTransactions ≠ .qrVerifications := by decide
    rw [Direct.marked, Direct.stored_of_ne fromCertificates]
    cases tx? with
    | none => rfl
    | some tx => exact asked.stored_of_ne fromTransactions tx assignments
  · have updated := Database.find?_update_of_found stillFound [.blockchainStatus .CONFIRMED]
      certificate.id
    rw [if_pos rfl] at updated
    exact updated

/-- The `try` statement confirms the certificate when the row can take the hash and the
numbers of the receipt, and raises otherwise. -/
theorem GenuineStorage.path
    (genuine : GenuineStorage runtime store.toStore certId txHash user certificate receipt)
    (served : Served runtime store.toStore inputs certificate)
    {outcome : Except Exception StorageExit} {after : Direct}
    (path : PathOf runtime (.begun store.toStore inputs) certId txHash user certificate
      (outcome, after)) :
    (∃ record, outcome = .ok (.confirmed { certificate with blockchainStatus := .CONFIRMED }
        (transactionReceipt txHash receipt) record) ∧ after.Open ∧ after.inputs = inputs ∧
      after.working .qrVerifications = store.database .qrVerifications ∧
      after.working.find? .certificates certId =
        some { certificate with blockchainStatus := .CONFIRMED } ∧
      RecordableIn store.database certId txHash receipt ∧
      Unclaimed store.database certId txHash) ∨
    (∃ error, outcome = .error error) ∧
      ¬ (RecordableIn store.database certId txHash receipt ∧
        Unclaimed store.database certId txHash) := by
  obtain ⟨call, received⟩ := genuine.received served
  obtain ⟨record, answeredState, answer, passes⟩ := genuine.answer served call
  have isId : certificate.id = certId := (Database.find?_some genuine.found).2
  have opened := Direct.open_begun store inputs
  have asOne : (transactionReceipt txHash receipt).status = 1 := genuine.succeeded
  have lookups : ∀ {other asked}, receiptLookup runtime (.begun store.toStore inputs) txHash =
      (.ok (some other), asked) → other = transactionReceipt txHash receipt ∧
        asked = (Direct.begun store.toStore inputs).asked call := by
    intro other asked found
    rw [received] at found
    obtain ⟨sameReceipt, rfl⟩ := Prod.mk.inj found
    exact ⟨(Option.some.inj (Except.ok.inj sameReceipt)).symm, rfl⟩
  cases path with
  | receiptFailed found =>
      rw [received] at found
      cases found
  | refused _ _ why =>
      refine .inr ⟨⟨_, rfl⟩, fun both => ?_⟩
      rcases why with ⟨asked, found, -⟩ | ⟨other, asked, found, failed, -⟩ |
        ⟨other, asked, looked, found, -, isAnswer, -, refused⟩
      · rw [received] at found
        cases found
      · obtain ⟨rfl, -⟩ := lookups found
        omega
      · obtain ⟨rfl, rfl⟩ := lookups found
        rw [answer] at isAnswer
        obtain rfl := Except.ok.inj isAnswer
        exact refused passes record rfl
          ((accepted_confirmation_storeTx?_iff store.valid record.issuedAt).mpr both)
  | pending found _ =>
      rw [received] at found
      cases found
  | reverted found failed _ =>
      obtain ⟨rfl, -⟩ := lookups found
      omega
  | recordFailed found _ looked =>
      obtain ⟨-, rfl⟩ := lookups found
      rw [answer] at looked
      cases looked
  | crossChecked found _ answered fails _ =>
      obtain ⟨-, rfl⟩ := lookups found
      rw [answer] at answered
      cases answered
      have contradiction := passes.symm.trans fails
      cases contradiction
  | confirmed found _ answered _ accepted =>
      obtain ⟨rfl, rfl⟩ := lookups found
      rw [answer] at answered
      cases answered
      obtain ⟨recordable, unclaimed⟩ := (accepted_confirmation_storeTx?_iff store.valid _).mp accepted
      refine .inl ⟨record, rfl, ?_⟩
      obtain ⟨-, rfl⟩ := Prod.mk.inj answer
      have notRevoked : certificate.blockchainStatus ≠ .REVOKED := by
        rw [genuine.pending]
        decide
      have askedOpen := (opened.asked call).asked (.getCertificateRecord certificate.certificateUid)
      obtain ⟨afterOpen, sameInputs, sameQr, found⟩ := confirmedState askedOpen
        (stored_storeTx? store.valid.keyed certId) (isId ▸ genuine.found) notRevoked accepted
      exact ⟨afterOpen, sameInputs, sameQr, isId ▸ found, recordable, unclaimed⟩

/-- So does the whole transaction block. -/
theorem GenuineStorage.block
    (genuine : GenuineStorage runtime store.toStore certId txHash user certificate receipt)
    (served : Served runtime store.toStore inputs certificate)
    {outcome : Except Exception StorageExit} {after : Direct}
    (path : ConfirmPath runtime (.begun store.toStore inputs) certId txHash user
      (outcome, after)) :
    (∃ record, outcome = .ok (.confirmed { certificate with blockchainStatus := .CONFIRMED }
        (transactionReceipt txHash receipt) record) ∧ after.Open ∧ after.inputs = inputs ∧
      after.working .qrVerifications = store.database .qrVerifications ∧
      after.working.find? .certificates certId =
        some { certificate with blockchainStatus := .CONFIRMED } ∧
      RecordableIn store.database certId txHash receipt ∧
      Unclaimed store.database certId txHash) ∨
    (∃ error, outcome = .error error) ∧
      ¬ (RecordableIn store.database certId txHash receipt ∧
        Unclaimed store.database certId txHash) := by
  have only : ∀ {other}, Confirmable (Direct.begun store.toStore inputs).working certId user other →
      other = certificate := fun confirmable =>
    Option.some.inj (confirmable.found.symm.trans genuine.found)
  -- Whatever the `except` branch does, the request ends in an exception.
  have raises : ∀ {other error after}, Confirmable (Direct.begun store.toStore inputs).working certId
      user other → PathOf runtime (.begun store.toStore inputs) certId txHash user other
        (.error error, after) → ¬ (RecordableIn store.database certId txHash receipt ∧
          Unclaimed store.database certId txHash) := by
    intro other error after confirmable path
    obtain rfl := only confirmable
    rcases genuine.path served path with ⟨_, impossible, -⟩ | ⟨-, refused⟩
    · cases impossible
    · exact refused
  cases path with
  | turnedAway why =>
      exact absurd ⟨genuine.found, genuine.owned, .inl genuine.pending⟩ (why certificate)
  | completed confirmable path =>
      obtain rfl := only confirmable
      exact genuine.path served path
  | raised confirmable path _ => exact .inr ⟨⟨_, rfl⟩, raises confirmable path⟩
  | unreachable confirmable path _ _ => exact .inr ⟨⟨_, rfl⟩, raises confirmable path⟩
  | unreachableMarked confirmable path _ _ => exact .inr ⟨⟨_, rfl⟩, raises confirmable path⟩

/-- With nothing outside in the way, a genuine storage is confirmed exactly when the row of
the certificate can take the transaction hash and the numbers of the receipt. -/
theorem GenuineStorage.confirmed_iff
    (genuine : GenuineStorage runtime store.toStore certId txHash user certificate receipt)
    (served : Served runtime store.toStore inputs certificate) :
    StorageConfirmed runtime store.toStore inputs certId txHash user ↔
      RecordableIn store.database certId txHash receipt ∧
        Unclaimed store.database certId txHash := by
  have described := store.run_eq inputs (confirmBlockchainStorage runtime certId txHash user)
  have sameDatabase := congrArg Direct.database described.2
  have path := @confirmBlock_path runtime _ (Direct.open_begun store inputs) certId txHash user
  simp only [Direct.of] at sameDatabase
  dsimp only [StorageConfirmed]
  rw [described.1, sameDatabase, confirmBlockchainStorage]
  simp only [Program.run_bind, run_transaction_fresh]
  rcases ran : (confirmBlock runtime certId txHash user).run directHandler
    (.begun store.toStore inputs) with ⟨error | exit, left⟩ <;> rw [ran] at path
  · rcases genuine.block served path with ⟨_, impossible, -⟩ | ⟨-, refused⟩
    · cases impossible
    · refine iff_of_false ?_ refused
      rintro ⟨⟨_, _, _, _, _, _, _, impossible⟩, -⟩
      cases impossible
  · rcases genuine.block served path with
      ⟨record, isExit, leftOpen, sameInputs, sameQr, found, both⟩ | ⟨⟨_, impossible⟩, -⟩
    · cases isExit
      have fresh : FreshQr runtime left.committed.working left.committed.inputs := by
        rw [show left.committed.inputs = inputs from sameInputs]
        exact served.qr.congr sameQr
      have elsewhere : Table.certificates ≠ .qrVerifications := by decide
      obtain ⟨qr, after, generates⟩ := @QrVerificationService.run_generateQr left.committed runtime
        rfl leftOpen.valid _ certId found rfl fresh user.id
      have kept := run_keeps (generateBlock_elsewhere runtime certId user.id elsewhere)
        left.committed rfl
      rw [generates] at kept
      simp only [Program.run_bind, generates, Program.run_pure]
      refine iff_of_true ⟨⟨_, _, _, _, _, _, _, rfl⟩, ?_⟩ both
      rw [certificateStatus, Database.find?_congr kept.database]
      exact congrArg (Option.map (·.blockchainStatus)) found
    · cases impossible

/-- A confirmation by a user of another university, or something mined. -/
def Event.isForeign (universityId : Uuid) : Event → Bool
  | .request call _ =>
      match call.confirmation? with
      | some (_, _, user, _) => user.universityId ≠ some universityId
      | none => false
  | .mined _ => true
  | .elsewhere _ => false

/-- What a university's next confirmation reads is as it was; only the chain may have grown
and other rows may hold other hashes. -/
structure Untouched (certId : Uuid) (before after : Store) : Prop where
  valid : after.database.Valid
  certificate : after.database.find? .certificates certId =
    before.database.find? .certificates certId
  universities : after.database .universities = before.database .universities
  rows : (after.database .blockchainTransactions).filter (fun row => row.certificateId = some certId) =
    (before.database .blockchainTransactions).filter fun row => row.certificateId = some certId

/-- A store is untouched by nothing. -/
theorem Untouched.refl {certId : Uuid} {store : Store} (valid : store.database.Valid) :
    Untouched certId store store :=
  ⟨valid, rfl, rfl, rfl⟩

/-- Two spans that leave a certificate untouched leave it so together. -/
theorem Untouched.trans {certId : Uuid} {first middle last : Store}
    (earlier : Untouched certId first middle) (later : Untouched certId middle last) :
    Untouched certId first last :=
  ⟨later.valid, later.certificate.trans earlier.certificate,
    later.universities.trans earlier.universities, later.rows.trans earlier.rows⟩

/-- The row of the submission of an untouched certificate stays the one found. -/
theorem Untouched.storeTx? {certId : Uuid} {before after : Store}
    (untouched : Untouched certId before after) :
    storeTx? after.database certId = storeTx? before.database certId := by
  rw [CertificateIssuanceService.storeTx?, untouched.rows]
  rfl

/-- A map that moves only rows outside a filter, and not into it, leaves the filtered rows
as they are. -/
theorem filter_map_of_fixed {R : Type} {selected : R → Bool} {change : R → R} {rows : List R}
    (fixed : ∀ row ∈ rows, change row = row ∨
      selected row = false ∧ selected (change row) = false) :
    (rows.map change).filter selected = rows.filter selected := by
  induction rows with
  | nil => rfl
  | cons first rest inductionHypothesis =>
      have tail := inductionHypothesis fun row member => fixed row (List.mem_cons_of_mem _ member)
      rcases fixed first List.mem_cons_self with same | ⟨outside, stillOutside⟩
      · rw [List.map_cons, same, List.filter_cons, List.filter_cons, tail]
      · simp [outside, stillOutside, tail]

/-- No assignment moves a submission to another certificate. -/
theorem certificateId_assignAll (tx : BlockchainTransaction)
    (assignments : List TransactionAssignment) :
    (@assignAll .blockchainTransactions tx assignments).certificateId = tx.certificateId := by
  induction assignments generalizing tx with
  | nil => rfl
  | cons first rest inductionHypothesis =>
      refine (inductionHypothesis (first.assign tx)).trans ?_
      cases first <;> rfl

/-- Stamping a row of another certificate leaves a certificate's own rows alone. -/
theorem filter_recordedRows {database : Database} (keyed : database.Keyed) {certId other : Uuid}
    (different : other ≠ certId) {tx? : Option BlockchainTransaction}
    (row : ∀ tx ∈ tx?, tx ∈ database .blockchainTransactions ∧ tx.certificateId = some other)
    (assignments : List TransactionAssignment) :
    (recordedRows tx? assignments (database .blockchainTransactions)).filter
        (fun row => row.certificateId = some certId) =
      (database .blockchainTransactions).filter fun row => row.certificateId = some certId := by
  cases tx? with
  | none => rfl
  | some tx =>
      obtain ⟨member, isOther⟩ := row tx rfl
      refine filter_map_of_fixed fun stored isStored => ?_
      by_cases sameKey : @rowId .blockchainTransactions stored = tx.id
      · obtain rfl := @Database.Keyed.eq_of_rowId _ keyed .blockchainTransactions _ _ isStored member
          sameKey
        rw [if_pos sameKey]
        exact .inr ⟨by simp [isOther, different],
          by simp [certificateId_assignAll, isOther, different]⟩
      · exact .inl (if_neg sameKey)

/-- A foreign event leaves what a university's confirmation reads. -/
theorem Event.foreign_step {universityId : Uuid} (event : Event)
    (foreign : event.isForeign universityId = true)
    (found : store.database.find? .certificates certId = some certificate)
    (owned : certificate.universityId = universityId) :
    Untouched certId store.toStore (event.apply runtime store.toStore) := by
  cases event with
  | mined transactions => exact ⟨store.valid, rfl, rfl, rfl⟩
  | elsewhere database => cases foreign
  | request call inputs =>
      obtain ⟨sameDatabase, -⟩ := apply_request runtime store call inputs
      have bothValid : (Direct.fresh store.toStore inputs).Valid := ⟨store.valid, store.valid⟩
      have stillValid := (run_valid (call.action runtime) bothValid).database
      have effect := @call_ledger runtime call store inputs
      have confirms : call.confirmation? ≠ none := by
        intro absent
        simp [Event.isForeign, absent] at foreign
      have elsewhere := @CertificateCall.every_elsewhere .universities (by decide) runtime call
      have universities := (run_keeps elsewhere (.fresh store.toStore inputs) rfl).database
      generalize ((call.action runtime).run directHandler (.fresh store.toStore inputs)).2 = after
        at sameDatabase stillValid effect universities
      rw [← sameDatabase] at universities stillValid
      have same : ∀ table, (Event.apply runtime store.toStore (.request call inputs)).database table =
          after.database table := fun table => congrFun sameDatabase table
      cases effect with
      | added _ _ unconfirmed =>
          obtain ⟨certificates, transactions⟩ := unconfirmed confirms
          refine ⟨stillValid, ?_, universities, ?_⟩
          · exact Database.find?_congr ((same .certificates).trans certificates) certId
          · rw [same, transactions]
            rfl
      | @stamped otherId hash user other tx? type assignments marks isCall foundOther ownedOther _
          row _ certificates transactions =>
          have different : otherId ≠ certId := by
            rintro rfl
            obtain rfl := Option.some.inj (foundOther.symm.trans found)
            simp [Event.isForeign, isCall, ← ownedOther, owned] at foreign
          refine ⟨stillValid, ?_, universities, ?_⟩
          · have updated := Database.find?_update store.database .certificates otherId marks certId
            rw [found, Option.map_some] at updated
            have otherKey : ¬ @rowId .certificates certificate = otherId := fun isOther =>
              different (isOther.symm.trans (Database.find?_some found).2)
            rw [if_neg otherKey] at updated
            rw [found, ← updated]
            refine Database.find?_congr ((same .certificates).trans (certificates.trans ?_)) certId
            rw [Write.apply, Function.update_self]
            rfl
          · rw [same, transactions]
            exact filter_recordedRows store.valid.keyed different
              (fun tx isTx => ⟨(row tx isTx).1, (row tx isTx).2.1⟩) assignments

/-- The event is a confirmation that was given the transaction hash. -/
def Event.submits (txHash : String) : Event → Prop
  | .request call _ => ∃ certId user type, call.confirmation? = some (certId, txHash, user, type)
  | _ => False

/-- A row that holds a hash after a foreign event held it before, or the call was given it. -/
theorem Event.foreign_holder {universityId id : Uuid} (event : Event)
    (foreign : event.isForeign universityId = true)
    (held : HeldElsewhere (event.apply runtime store.toStore).database id txHash) :
    HeldElsewhere store.database id txHash ∨ event.submits txHash := by
  cases event with
  | mined transactions => exact .inl held
  | elsewhere database => cases foreign
  | request call inputs =>
      obtain ⟨sameDatabase, -⟩ := apply_request runtime store call inputs
      have effect := @call_ledger runtime call store inputs
      have confirms : call.confirmation? ≠ none := by
        intro absent
        simp [Event.isForeign, absent] at foreign
      rw [sameDatabase] at held
      obtain ⟨other, member, different, holds⟩ := held
      generalize ((call.action runtime).run directHandler (.fresh store.toStore inputs)).2 = after
        at effect member
      cases effect with
      | added _ _ unconfirmed =>
          rw [(unconfirmed confirms).2] at member
          exact .inl ⟨other, member, different, holds⟩
      | @stamped otherId hash user certificate tx? type assignments marks isCall _ _ _ row stamp _
          transactions =>
          rw [transactions] at member
          rcases mem_recordedRows store.valid.keyed (fun tx isTx => (row tx isTx).1) member with
            old | ⟨tx, -, rfl⟩
          · exact .inl ⟨other, old, different, holds⟩
          · rw [stamp.txHash tx] at holds
            obtain rfl := Option.some.inj holds
            exact .inr ⟨otherId, user, type, isCall⟩

/-- Every sequence of foreign events leaves what the confirmation reads. -/
theorem untouched_run {universityId : Uuid} {store : Store} (valid : store.database.Valid)
    (found : store.database.find? .certificates certId = some certificate)
    (owned : certificate.universityId = universityId) (foreign : List Event)
    (isForeign : ∀ event ∈ foreign, event.isForeign universityId = true) :
    Untouched certId store (stateAfter (Event.apply runtime) store foreign) := by
  induction foreign using List.reverseRecOn with
  | nil => exact .refl valid
  | append_singleton foreign event inductionHypothesis =>
      have earlier := inductionHypothesis fun other member => isForeign other (by simp [member])
      rw [stateAfter_snoc]
      exact earlier.trans (@Event.foreign_step runtime ⟨_, earlier.valid⟩ certId certificate
        universityId event (isForeign event (by simp)) (earlier.certificate.trans found) owned)

/-- A hash that only foreign events put into another row was given to one of them. -/
theorem foreign_run_holder {universityId id : Uuid} {store : Store} (valid : store.database.Valid)
    (foreign : List Event) (isForeign : ∀ event ∈ foreign, event.isForeign universityId = true)
    (held : HeldElsewhere (stateAfter (Event.apply runtime) store foreign).database id txHash) :
    HeldElsewhere store.database id txHash ∨ ∃ event ∈ foreign, event.submits txHash := by
  induction foreign using List.reverseRecOn with
  | nil => exact .inl held
  | append_singleton foreign event inductionHypothesis =>
      have stillValid := valid_stateAfter runtime valid foreign
      rw [stateAfter_snoc] at held
      rcases @Event.foreign_holder runtime ⟨_, stillValid⟩ txHash universityId id event
        (isForeign event (by simp)) held with before | submits
      · rcases inductionHypothesis (fun other member => isForeign other (by simp [member])) before
          with earlier | ⟨other, member, submits⟩
        · exact .inl earlier
        · exact .inr ⟨other, by simp [member], submits⟩
      · exact .inr ⟨event, by simp, submits⟩

/-- The store as the calls of a run would have left it had they not happened: only what
was mined meanwhile remains. -/
def withoutCalls (before after : Store) : Store :=
  { before with chain := after.chain }

/-- The confirmation succeeds both after the foreign calls and without them. -/
def Unaffected (runtime : Runtime) (before after : Store) (inputs laterInputs : Inputs)
    (certId : Uuid) (txHash : String) (user : User) : Prop :=
  StorageConfirmed runtime (withoutCalls before after) inputs certId txHash user ∧
    StorageConfirmed runtime after laterInputs certId txHash user

/-- After a run of foreign events the storage is as genuine as it was without them. -/
theorem GenuineStorage.of_untouched {before after : Store} (untouched : Untouched certId before after)
    (genuine : GenuineStorage runtime (withoutCalls before after) certId txHash user certificate
      receipt) :
    GenuineStorage runtime after certId txHash user certificate receipt := by
  refine ⟨untouched.certificate.trans genuine.found, genuine.owned, genuine.pending, genuine.mined,
    genuine.succeeded, genuine.onChain, fun wallet isWallet => genuine.issuer wallet ?_⟩
  rw [university?, untouched.universities] at isWallet
  exact isWallet

/-- The calls of another university leave a certificate untouched. -/
theorem untouched_storeAfter {deployer : Address} {events foreign : List Event}
    (found : (storeAfter runtime deployer events).database.find? .certificates certId =
      some certificate)
    (isForeign : ∀ event ∈ foreign, event.isForeign certificate.universityId = true) :
    Untouched certId (storeAfter runtime deployer events)
      (storeAfter runtime deployer (events ++ foreign)) := by
  have untouched := @untouched_run runtime certId certificate _ _
    (valid_storeAfter runtime deployer events) found rfl foreign isForeign
  have isAfter : stateAfter (Event.apply runtime) (storeAfter runtime deployer events) foreign =
      storeAfter runtime deployer (events ++ foreign) := by
    simp [storeAfter, stateAfter, List.foldl_append]
  rwa [isAfter] at untouched

/-- What decides the confirmation without the foreign calls, and what decides it after them. -/
theorem GenuineStorage.confirmed_around {deployer : Address} {events foreign : List Event}
    {laterInputs : Inputs}
    (isForeign : ∀ event ∈ foreign, event.isForeign certificate.universityId = true)
    (genuine : GenuineStorage runtime
      (withoutCalls (storeAfter runtime deployer events)
        (storeAfter runtime deployer (events ++ foreign))) certId txHash user certificate receipt)
    (served : Served runtime
      (withoutCalls (storeAfter runtime deployer events)
        (storeAfter runtime deployer (events ++ foreign))) inputs certificate)
    (servedLater : Served runtime (storeAfter runtime deployer (events ++ foreign)) laterInputs
      certificate) :
    (StorageConfirmed runtime (withoutCalls (storeAfter runtime deployer events)
        (storeAfter runtime deployer (events ++ foreign))) inputs certId txHash user ↔
      RecordableIn (storeAfter runtime deployer events).database certId txHash receipt ∧
        Unclaimed (storeAfter runtime deployer events).database certId txHash) ∧
    (StorageConfirmed runtime (storeAfter runtime deployer (events ++ foreign)) laterInputs certId
        txHash user ↔
      RecordableIn (storeAfter runtime deployer events).database certId txHash receipt ∧
        Unclaimed (storeAfter runtime deployer (events ++ foreign)).database certId txHash) := by
  have valid := valid_storeAfter runtime deployer events
  have untouched := untouched_storeAfter genuine.found isForeign
  have genuineLater := genuine.of_untouched untouched
  generalize storeAfter runtime deployer events = before at *
  generalize storeAfter runtime deployer (events ++ foreign) = after at *
  have sameRecordable : RecordableIn after.database certId txHash receipt ↔
      RecordableIn before.database certId txHash receipt := by
    rw [RecordableIn, untouched.storeTx?]
    rfl
  constructor
  · exact @GenuineStorage.confirmed_iff runtime ⟨withoutCalls before after, valid⟩ _ _ _ _ _ _
      genuine served
  · rw [@GenuineStorage.confirmed_iff runtime ⟨after, untouched.valid⟩ _ _ _ _ _ _ genuineLater
      servedLater, sameRecordable]

/-- Confirmations of other universities leave a genuine confirmation its success exactly
when, with them as without them, no other row holds its transaction hash, and the
numbers of the receipt fit the columns. -/
theorem genuine_confirmation_unaffected_iff (runtime : Runtime) (deployer : Address)
    (events foreign : List Event) (inputs laterInputs : Inputs) (certId : Uuid) (txHash : String)
    (user : User) (certificate : Certificate) (receipt : Receipt)
    (isForeign : ∀ event ∈ foreign, event.isForeign certificate.universityId = true)
    (genuine : GenuineStorage runtime
      (withoutCalls (storeAfter runtime deployer events)
        (storeAfter runtime deployer (events ++ foreign))) certId txHash user certificate receipt)
    (served : Served runtime
      (withoutCalls (storeAfter runtime deployer events)
        (storeAfter runtime deployer (events ++ foreign))) inputs certificate)
    (servedLater : Served runtime (storeAfter runtime deployer (events ++ foreign)) laterInputs
      certificate) :
    Unaffected runtime (storeAfter runtime deployer events)
        (storeAfter runtime deployer (events ++ foreign)) inputs laterInputs certId txHash user ↔
      RecordableIn (storeAfter runtime deployer events).database certId txHash receipt ∧
        Unclaimed (storeAfter runtime deployer events).database certId txHash ∧
        Unclaimed (storeAfter runtime deployer (events ++ foreign)).database certId txHash := by
  obtain ⟨without, afterwards⟩ := genuine.confirmed_around isForeign served servedLater
  rw [Unaffected, without, afterwards]
  constructor
  · rintro ⟨⟨recordable, unclaimed⟩, -, stillUnclaimed⟩
    exact ⟨recordable, unclaimed, stillUnclaimed⟩
  · rintro ⟨recordable, unclaimed, stillUnclaimed⟩
    exact ⟨⟨recordable, unclaimed⟩, recordable, stillUnclaimed⟩

end runs

namespace Sample

/-- The text `abcd`. -/
def otherFile : List UInt8 := [97, 98, 99, 100]

/-- The sample settings, with a SHA-256 that also answers for the second file. -/
def twoFiles : Runtime :=
  { Runtime.sample with
    sha256 := fun content =>
      if content = otherFile then
        ⟨[0x88, 0xd4, 0x26, 0x6f, 0xd4, 0xe6, 0x33, 0x8d, 0x13, 0xb8, 0x45, 0xfc, 0xf2, 0x89, 0x57,
          0x9d, 0x20, 0x9c, 0x89, 0x78, 0x23, 0xb9, 0x21, 0x7d, 0xa3, 0xe1, 0x61, 0x93, 0x6f, 0x03,
          0x15, 0x89], rfl⟩
      else Runtime.sample.sha256 content }

/-- A second university. -/
def otherUniversity : University where
  id := 11
  shortCode := "COL"
  walletAddress := some "0xfB6916095ca1df60bB79Ce92cE3Ea74c37c5d359"
  isVerified := true
  verifiedAt := some 1

/-- The administrator of the second university. -/
def otherAdministrator : User where
  id := 12
  email := "admin@college.example"
  passwordHash := passwordHash
  role := .UNIVERSITY_ADMIN
  universityId := some 11
  firstName := "Other"
  lastName := "Admin"
  isActive := true
  lastLoginAt := none
  lastLoginIp := none
  failedLoginAttempts := 0
  lockedUntil := none
  createdAt := 1

/-- A database of two universities. -/
def twoUniversities : Database
  | .universities => [university, otherUniversity]
  | .users => [administrator, graduate, otherAdministrator]
  | .students => [{ id := 5, userId := 4 }]
  | _ => []

/-- The other university uploads the second file; its certificate has id 201. -/
def otherUpload : Event :=
  .request (.upload otherFile "diploma.pdf"
    { recipientEmail := "graduate@uni.example"
      degreeTitle := "MSc"
      fieldOfStudy := "Physics"
      issueDate := 19000
      expiryDate := none
      gradeClassification := none
      honors := none } otherAdministrator) { inputs answered with uuid4 := fun read => 200 + read }

/-- Both universities have a pending certificate. -/
def pendingRun : List Event :=
  [.elsewhere twoUniversities, upload, otherUpload, .mined [authorization]]

/-- The other university submits a hash for its certificate, before the transaction that
stores the first certificate is mined. -/
def foreignCalls (hash : String) : List Event :=
  [.request (.confirmStorage 201 hash otherAdministrator) (inputs answered),
    .mined [storage certUid]]

/-- The sample storage took place, and the hash is in another row or not. -/
def StorageFacts (before after : Store) (held : Bool) : Prop :=
  ∃ certificate ∈ before.database.find? .certificates 101,
    ∃ tx ∈ storeTx? before.database 101,
      ∃ receipt ∈ after.chain.receipt? transactionHash,
        (((certificate.universityId = 1 ∧ certificate.blockchainStatus = .PENDING) ∧
          receipt.status = 1) ∧
        ((chainRecordOf after.chain certificate).exists = true ∧
          hexText (chainRecordOf after.chain certificate).certificateHash.1 =
            certificate.sha256Hash) ∧
        Representable (chainRecordOf after.chain certificate)) ∧
        ((university? before.database administrator).bind walletOf = some wallet ∧
          before.database .qrVerifications = [] ∧ after.database .qrVerifications = []) ∧
        storeTx? after.database 101 = some tx ∧
        receipt = Chain.receiptOf (storage certUid) true ∧
        ¬ HeldElsewhere before.database tx.id txHash ∧
        decide (HeldElsewhere after.database tx.id txHash) = held

instance (before after : Store) (held : Bool) : Decidable (StorageFacts before after held) :=
  inferInstanceAs (Decidable (∃ certificate ∈ before.database.find? .certificates 101, _))

/-- The facts of the run say that the submission is genuine in both stores. -/
theorem StorageFacts.genuine {before after : Store} {held : Bool}
    (facts : StorageFacts before after held) :
    ∃ certificate receipt,
      (certificate.universityId = 1 ∧
        GenuineStorage twoFiles (withoutCalls before after) 101 txHash administrator certificate
          receipt) ∧
      (Served twoFiles (withoutCalls before after) (inputs answered) certificate ∧
        Served twoFiles after (inputs answered) certificate) ∧
      receipt = Chain.receiptOf (storage certUid) true ∧
      Unclaimed before.database 101 txHash ∧
      (Unclaimed after.database 101 txHash ↔ held = false) := by
  obtain ⟨certificate, found, tx, isOpen, receipt, mined, ⟨⟨⟨owned, pending⟩, succeeded⟩,
    ⟨present, sameHash⟩, representable⟩, ⟨isWallet, noQr, stillNoQr⟩, stillOpen, isReceipt, free,
    elsewhere⟩ := facts
  have denotes : twoFiles.transactionHashBytes txHash = .ok transactionHash := by decide
  have fresh : ∀ database : Database, database .qrVerifications = [] →
      FreshQr twoFiles database (inputs answered) := by
    intro database empty
    refine ⟨by simp [empty], by simp [empty], fun _ => ?_, fun _ => ?_⟩
    · exact (by decide : 32 ≤ "abcdefghijklmnopqrstuvwxyzabcdefghijklmnopq".length ∧
        "abcdefghijklmnopqrstuvwxyzabcdefghijklmnopq".length ≤ 128)
    · exact (by decide : isWebUrl (Runtime.sample.verificationBaseUrl ++ "/" ++
          "abcdefghijklmnopqrstuvwxyzabcdefghijklmnopq") = true ∧
        fits 1000 (Runtime.sample.verificationBaseUrl ++ "/" ++
          "abcdefghijklmnopqrstuvwxyzabcdefghijklmnopq") = true)
  have issuer : ∀ issuerWallet, (university? before.database administrator).bind walletOf =
      some issuerWallet → lower (twoFiles.toChecksumAddress
        (chainRecordOf after.chain certificate).issuingUniversity) = lower issuerWallet := by
    intro issuerWallet isIssuer
    obtain rfl := Option.some.inj (isWallet.symm.trans isIssuer)
    rfl
  refine ⟨certificate, receipt, ⟨owned, ?_⟩, ⟨?_, ?_⟩, isReceipt, ?_, ?_⟩
  · exact ⟨found, congrArg some owned, pending, ⟨_, denotes, mined⟩, succeeded,
      ⟨present, sameHash⟩, issuer⟩
  · exact ⟨⟨rfl, rfl⟩, representable, fresh _ noQr⟩
  · exact ⟨⟨rfl, rfl⟩, representable, fresh _ stillNoQr⟩
  · intro other isOther
    obtain rfl := Option.some.inj (isOpen.symm.trans isOther)
    exact free
  · rw [← elsewhere, decide_eq_false_iff_not, Unclaimed, stillOpen]
    simp

/-- The facts of the run in which the other university takes the hash, and of the one in
which it takes another hash. -/
theorem submitted_elsewhere :
    StorageFacts (storeAfter twoFiles deployer pendingRun)
        (storeAfter twoFiles deployer (pendingRun ++ foreignCalls txHash)) true ∧
      StorageFacts (storeAfter twoFiles deployer pendingRun)
        (storeAfter twoFiles deployer (pendingRun ++ foreignCalls revocationTxHash)) false := by
  decide +kernel

/-- The receipt of the storage can be recorded. -/
theorem recordable_storage :
    Recordable txHash (transactionReceipt txHash (Chain.receiptOf (storage certUid) true)) :=
  ⟨by decide +kernel, by decide, by decide, by decide, by decide⟩

/-- The calls of the second university are foreign to the first. -/
theorem foreignCalls_isForeign (hash : String) :
    ∀ event ∈ foreignCalls hash, event.isForeign 1 = true := by
  simp [foreignCalls, Event.isForeign, CertificateCall.confirmation?, otherAdministrator]

end Sample

/-- A foreign university that submits another hash leaves the confirmation its success. -/
theorem confirmation_unaffected_by_other_hash :
    Unaffected Sample.twoFiles (storeAfter Sample.twoFiles Sample.deployer Sample.pendingRun)
      (storeAfter Sample.twoFiles Sample.deployer
        (Sample.pendingRun ++ Sample.foreignCalls Sample.revocationTxHash))
      (Sample.inputs Sample.answered) (Sample.inputs Sample.answered) 101 Sample.txHash
      Sample.administrator := by
  obtain ⟨certificate, receipt, ⟨owned, genuine⟩, ⟨served, servedLater⟩, rfl, free, stillFree⟩ :=
    Sample.submitted_elsewhere.2.genuine
  have isForeign := owned.symm ▸ Sample.foreignCalls_isForeign Sample.revocationTxHash
  exact (genuine_confirmation_unaffected_iff Sample.twoFiles Sample.deployer Sample.pendingRun
    (Sample.foreignCalls Sample.revocationTxHash) _ _ 101 _ _ certificate _ isForeign genuine served
    servedLater).mpr ⟨fun _ _ => Sample.recordable_storage, free, stillFree.mpr rfl⟩

/-- A foreign confirmation that finds no receipt yet stores the hash it was given, whatever
it is the hash of; the university whose certificate that transaction stores cannot confirm
it any more. -/
theorem foreign_submission_blocks_confirmation :
    (∃ certificate receipt,
      (∀ event ∈ Sample.foreignCalls Sample.txHash,
        event.isForeign certificate.universityId = true) ∧
      GenuineStorage Sample.twoFiles
        (withoutCalls (storeAfter Sample.twoFiles Sample.deployer Sample.pendingRun)
          (storeAfter Sample.twoFiles Sample.deployer
            (Sample.pendingRun ++ Sample.foreignCalls Sample.txHash)))
        101 Sample.txHash Sample.administrator certificate receipt) ∧
    StorageConfirmed Sample.twoFiles
      (withoutCalls (storeAfter Sample.twoFiles Sample.deployer Sample.pendingRun)
        (storeAfter Sample.twoFiles Sample.deployer
          (Sample.pendingRun ++ Sample.foreignCalls Sample.txHash)))
      (Sample.inputs Sample.answered) 101 Sample.txHash Sample.administrator ∧
    ¬ StorageConfirmed Sample.twoFiles
      (storeAfter Sample.twoFiles Sample.deployer
        (Sample.pendingRun ++ Sample.foreignCalls Sample.txHash))
      (Sample.inputs Sample.answered) 101 Sample.txHash Sample.administrator := by
  obtain ⟨certificate, receipt, ⟨owned, genuine⟩, ⟨served, servedLater⟩, rfl, free, stillFree⟩ :=
    Sample.submitted_elsewhere.1.genuine
  have isForeign := owned.symm ▸ Sample.foreignCalls_isForeign Sample.txHash
  obtain ⟨without, afterwards⟩ := genuine.confirmed_around isForeign served servedLater
  refine ⟨⟨certificate, _, isForeign, genuine⟩, ?_, fun confirmed => ?_⟩
  · exact without.mpr ⟨fun _ _ => Sample.recordable_storage, free⟩
  · have impossible := stillFree.mp (afterwards.mp confirmed).2
    cases impossible

end AcademicCredential
