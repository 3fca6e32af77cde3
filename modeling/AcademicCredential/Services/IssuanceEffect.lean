import AcademicCredential.Blockchain.Answers
import AcademicCredential.Services.StatusWrites

/-!
# What a confirmation of storage does

`VerifyPath` lists the paths through the `try` statement of `confirm_blockchain_storage`
with what each raises or returns and the state it leaves. `confirmBlock_cases` adds the
checks before the statement and the `except` branch after it. Everything proved about
the confirmation is a case analysis on these paths.
-/

namespace AcademicCredential

open AcademicCredential.Lib

namespace CertificateIssuanceService

/-- The row of the certificate's STORE_HASH transaction. -/
def storeTx? (database : Database) (certId : Uuid) : Option BlockchainTransaction :=
  (BlockchainTransactionRepository.bySubmission
    ((database .blockchainTransactions).filter fun row => row.certificateId = some certId)).find?
    fun tx => tx.txType = .STORE_HASH

/-- The row found for a submission is stored. -/
theorem stored_storeTx? {database : Database} (keyed : database.Keyed) (certId : Uuid) :
    Stored database (storeTx? database certId) := by
  intro tx found
  have member := List.mem_of_find?_eq_some found
  simp only [BlockchainTransactionRepository.bySubmission, List.mem_insertionSort,
    List.mem_filter] at member
  exact @Database.Keyed.find? database keyed .blockchainTransactions tx member.1

/-- Checks A, B and C fail for what `get_certificate_record` answered. -/
def crossCheckFails (certificate : Certificate) (university : Option University) :
    Option ChainCertificateRecord → Bool
  | none => true
  | some record =>
      lower record.certificateHash ≠ lower certificate.sha256Hash ||
        issuerMismatch university record

/-- What a status 0 receipt makes the service write to the STORE_HASH row. -/
def revertedData (txHash : String) (receipt : TransactionReceipt) : List TransactionAssignment :=
  [.status .FAILED, .txHash (some txHash), .blockNumber (some receipt.blockNumber),
    .blockHash (some receipt.blockHash)]

/-- The paths through the `try` statement. The certificate is PENDING or SUBMITTED. -/
inductive VerifyPath (runtime : Runtime) (direct : Direct) (certificate : Certificate)
    (university : Option University) (storeTx : Option BlockchainTransaction)
    (txHash : String) : Except Exception StorageExit × Direct → Prop where
  /-- The receipt lookup raises. -/
  | receiptFailed {error after}
      (receipt : receiptLookup runtime direct txHash = (.error error, after)) :
      VerifyPath runtime direct certificate university storeTx txHash (.error error, after)
  /-- A status update of the STORE_HASH row is refused before anything was written. -/
  | refused {error after} (reason : error.isUnreachable = false)
      (untouched : after.working = direct.working)
      (why :
        (∃ asked, receiptLookup runtime direct txHash = (.ok none, asked) ∧
          ¬ Accepted direct.working storeTx [.status .SUBMITTED, .txHash (some txHash)]) ∨
        (∃ receipt asked, receiptLookup runtime direct txHash = (.ok (some receipt), asked) ∧
          receipt.status = 0 ∧ ¬ Accepted direct.working storeTx (revertedData txHash receipt)) ∨
        (∃ receipt asked record, receiptLookup runtime direct txHash = (.ok (some receipt), asked) ∧
          receipt.status ≠ 0 ∧
          (recordLookup runtime asked certificate.certificateUid).1 = .ok record ∧
          (crossCheckFails certificate university record = true →
            ¬ Accepted direct.working storeTx [.status .FAILED, .txHash (some txHash)]) ∧
          (crossCheckFails certificate university record = false →
            ∀ present, record = some present → ¬ Accepted direct.working storeTx
              (.status .CONFIRMED :: confirmationData txHash receipt present.issuedAt)))) :
      VerifyPath runtime direct certificate university storeTx txHash (.error error, after)
  /-- No receipt yet. -/
  | pending {after} (receipt : receiptLookup runtime direct txHash = (.ok none, after))
      (accepted : Accepted direct.working storeTx [.status .SUBMITTED, .txHash (some txHash)]) :
      VerifyPath runtime direct certificate university storeTx txHash
        (.ok .submitted,
          (after.recorded storeTx [.status .SUBMITTED, .txHash (some txHash)]).marked certificate
            .SUBMITTED)
  /-- The transaction reverted. -/
  | reverted {receipt after message}
      (found : receiptLookup runtime direct txHash = (.ok (some receipt), after))
      (failed : receipt.status = 0)
      (accepted : Accepted direct.working storeTx (revertedData txHash receipt)) :
      VerifyPath runtime direct certificate university storeTx txHash
        (.error (.app .ServiceError message),
          (after.recorded storeTx (revertedData txHash receipt)).marked certificate .FAILED)
  /-- The record lookup raises. -/
  | recordFailed {receipt asked error after}
      (found : receiptLookup runtime direct txHash = (.ok (some receipt), asked))
      (succeeded : receipt.status ≠ 0)
      (record : recordLookup runtime asked certificate.certificateUid = (.error error, after)) :
      VerifyPath runtime direct certificate university storeTx txHash (.error error, after)
  /-- A cross-check fails. -/
  | crossChecked {receipt asked record after message}
      (found : receiptLookup runtime direct txHash = (.ok (some receipt), asked))
      (succeeded : receipt.status ≠ 0)
      (answered : recordLookup runtime asked certificate.certificateUid = (.ok record, after))
      (fails : crossCheckFails certificate university record = true)
      (accepted : Accepted direct.working storeTx [.status .FAILED, .txHash (some txHash)]) :
      VerifyPath runtime direct certificate university storeTx txHash
        (.error (.app .ServiceError message),
          after.recorded storeTx [.status .FAILED, .txHash (some txHash)])
  /-- Everything agrees. -/
  | confirmed {receipt asked record after}
      (found : receiptLookup runtime direct txHash = (.ok (some receipt), asked))
      (succeeded : receipt.status ≠ 0)
      (answered : recordLookup runtime asked certificate.certificateUid = (.ok (some record), after))
      (passes : crossCheckFails certificate university (some record) = false)
      (accepted : Accepted direct.working storeTx
        (.status .CONFIRMED :: confirmationData txHash receipt record.issuedAt)) :
      VerifyPath runtime direct certificate university storeTx txHash
        (.ok (.confirmed { certificate with blockchainStatus := .CONFIRMED } receipt record),
          (after.recorded storeTx
            (.status .CONFIRMED :: confirmationData txHash receipt record.issuedAt)).marked
            certificate .CONFIRMED)

section paths

variable {runtime : Runtime} {direct : Direct} {certificate : Certificate}
  {university : Option University} {storeTx : Option BlockchainTransaction} {txHash : String}

/-- The two status writes of one path, after the reads of the chain. -/
theorem run_statusWrites (opened : direct.Open)
    (found : direct.working.find? .certificates certificate.id = some certificate)
    (notRevoked : certificate.blockchainStatus ≠ .REVOKED) (stored : Stored direct.working storeTx)
    (status : TransactionStatus) {blockData : List TransactionAssignment}
    (distinct : ((TransactionAssignment.status status :: blockData).map
      (@column .blockchainTransactions)).Nodup) (mark : BlockchainStatus) {Value : Type}
    (next : Option Certificate → Action Value) :
    (Accepted direct.working storeTx (.status status :: blockData) ∧
      (do updateStoreTx storeTx status blockData
          next (← CertificateRepository.updateBlockchainStatus certificate.id mark)).run
            directHandler direct =
        (next (some { certificate with blockchainStatus := mark })).run directHandler
          ((direct.recorded storeTx (.status status :: blockData)).marked certificate mark)) ∨
    (¬ Accepted direct.working storeTx (.status status :: blockData) ∧
      ∃ error, error.isUnreachable = false ∧
        (do updateStoreTx storeTx status blockData
            next (← CertificateRepository.updateBlockchainStatus certificate.id mark)).run
              directHandler direct = (.error error, direct)) := by
  rcases run_updateStoreTx opened stored status distinct with
    ⟨accepted, ran⟩ | ⟨refused, error, reason, ran⟩
  · refine .inl ⟨accepted, ?_⟩
    have stillFound : (direct.recorded storeTx (.status status :: blockData)).working.find?
        .certificates certificate.id = some certificate := by
      rw [Database.find?_congr (direct.recorded_certificates storeTx _), found]
    have marks := ((opened.recorded stored accepted).mark stillFound notRevoked mark).2
    rw [Program.run_bind, ran]
    simp only [Program.run_bind, marks]
  · refine .inr ⟨refused, error, reason, ?_⟩
    rw [Program.run_bind, ran]

/-- A failed cross-check writes the row of the submission and raises, or its update is refused. -/
theorem crossCheckFailed_run (opened : direct.Open) (stored : Stored direct.working storeTx)
    (txHash message : String) :
    (Accepted direct.working storeTx [.status .FAILED, .txHash (some txHash)] ∧
      (crossCheckFailed storeTx txHash message : Action StorageExit).run directHandler direct =
        (.error (.app .ServiceError message),
          direct.recorded storeTx [.status .FAILED, .txHash (some txHash)])) ∨
    (¬ Accepted direct.working storeTx [.status .FAILED, .txHash (some txHash)] ∧
      ∃ error, error.isUnreachable = false ∧
        (crossCheckFailed storeTx txHash message : Action StorageExit).run directHandler direct =
          (.error error, direct)) := by
  have distinct : ([TransactionAssignment.status .FAILED, .txHash (some txHash)].map
      (@column .blockchainTransactions)).Nodup := by
    change [0, 1].Nodup
    decide
  rcases run_updateStoreTx opened stored .FAILED distinct with
    ⟨accepted, ran⟩ | ⟨refused, error, reason, ran⟩
  · exact .inl ⟨accepted, by simp [crossCheckFailed, Program.run_bind, ran]⟩
  · exact .inr ⟨refused, error, reason, by simp [crossCheckFailed, Program.run_bind, ran]⟩

/-- The cross-checks and what follows them, after both reads. -/
theorem crossValidate_path {asked after : Direct} {receipt : TransactionReceipt}
    {record : Option ChainCertificateRecord} (opened : after.Open)
    (same : after.working = direct.working)
    (found : direct.working.find? .certificates certificate.id = some certificate)
    (notRevoked : certificate.blockchainStatus ≠ .REVOKED) (stored : Stored direct.working storeTx)
    (received : receiptLookup runtime direct txHash = (.ok (some receipt), asked))
    (succeeded : receipt.status ≠ 0)
    (answered : recordLookup runtime asked certificate.certificateUid = (.ok record, after)) :
    VerifyPath runtime direct certificate university storeTx txHash
      ((crossValidate certificate university storeTx txHash receipt record).run
        directHandler after) := by
  have answer : (recordLookup runtime asked certificate.certificateUid).1 = .ok record := by
    rw [answered]
  rw [← same] at found stored
  cases failing : crossCheckFails certificate university record with
  | true =>
      have failed : ∃ message, crossValidate certificate university storeTx txHash receipt record =
          crossCheckFailed storeTx txHash message := by
        cases record with
        | none => exact ⟨_, rfl⟩
        | some record =>
            simp only [crossCheckFails, Bool.or_eq_true, decide_eq_true_eq] at failing
            by_cases hashes : lower record.certificateHash ≠ lower certificate.sha256Hash
            · exact ⟨_, if_pos hashes⟩
            · have issuer := failing.resolve_left hashes
              refine ⟨"Issuing wallet on blockchain does not match university wallet", ?_⟩
              simp only [crossValidate, if_neg hashes, issuer, if_true]
      obtain ⟨message, runs⟩ := failed
      rw [runs]
      rcases crossCheckFailed_run opened stored txHash message with
        ⟨accepted, ran⟩ | ⟨refused, error, reason, ran⟩
      · rw [ran]
        exact .crossChecked received succeeded answered failing (same ▸ accepted)
      · rw [ran]
        refine .refused reason same (.inr (.inr ⟨receipt, asked, record, received, succeeded, answer,
          fun _ => same ▸ refused, fun passes => ?_⟩))
        rw [failing] at passes
        cases passes
  | false =>
      cases record with
      | none => cases failing
      | some record =>
          have passes := failing
          simp only [crossCheckFails, Bool.or_eq_false_iff, decide_eq_false_iff_not, ne_eq,
            Decidable.not_not] at passes
          have hashes : ¬ lower record.certificateHash ≠ lower certificate.sha256Hash :=
            fun different => different passes.1
          have distinct : ((TransactionAssignment.status .CONFIRMED ::
              confirmationData txHash receipt record.issuedAt).map
                (@column .blockchainTransactions)).Nodup := by
            change [0, 1, 2, 3, 4, 5, 6, 7].Nodup
            decide
          simp only [crossValidate, if_neg hashes, passes.2, Bool.false_eq_true, if_false]
          rcases run_statusWrites opened found notRevoked stored .CONFIRMED distinct .CONFIRMED
              fun updated =>
                return StorageExit.confirmed (updated.getD certificate) receipt record with
            ⟨accepted, ran⟩ | ⟨refused, error, reason, ran⟩
          · rw [ran]
            exact .confirmed received succeeded answered failing (same ▸ accepted)
          · rw [ran]
            refine .refused reason same (.inr (.inr ⟨receipt, asked, some record, received,
              succeeded, answer, fun fails => ?_, fun _ present isRecord => ?_⟩))
            · rw [failing] at fails
              cases fails
            · obtain rfl := Option.some.inj isRecord
              exact same ▸ refused

/-- Every run of the `try` statement takes one of the paths. -/
theorem verifyStorage_path (opened : direct.Open)
    (found : direct.working.find? .certificates certificate.id = some certificate)
    (notRevoked : certificate.blockchainStatus ≠ .REVOKED)
    (stored : Stored direct.working storeTx) :
    VerifyPath runtime direct certificate university storeTx txHash
      ((verifyStorage runtime certificate university storeTx txHash).run directHandler direct) := by
  have askedOpen := opened.receiptLookup runtime txHash
  have same := receiptLookup_working runtime direct txHash
  simp only [verifyStorage, Program.run_bind, BlockchainService.run_getTransactionReceipt]
  rcases received : receiptLookup runtime direct txHash with ⟨error | (_ | receipt), asked⟩
  · exact .receiptFailed received
  · rw [received] at askedOpen same
    have distinct : ([TransactionAssignment.status .SUBMITTED, .txHash (some txHash)].map
        (@column .blockchainTransactions)).Nodup := by
      change [0, 1].Nodup
      decide
    dsimp only at askedOpen same ⊢
    rcases run_statusWrites askedOpen (same ▸ found) notRevoked (same ▸ stored) .SUBMITTED distinct
        .SUBMITTED (fun _ => return StorageExit.submitted) with
      ⟨accepted, ran⟩ | ⟨refused, error, reason, ran⟩
    · rw [ran]
      exact .pending received (same ▸ accepted)
    · rw [ran]
      exact .refused reason same (.inl ⟨asked, received, same ▸ refused⟩)
  · rw [received] at askedOpen same
    dsimp only at askedOpen same ⊢
    by_cases failed : receipt.status = 0
    · rw [if_pos failed]
      have distinct : ((revertedData txHash receipt).map (@column .blockchainTransactions)).Nodup := by
        change [0, 1, 2, 3].Nodup
        decide
      rcases run_statusWrites askedOpen (same ▸ found) notRevoked (same ▸ stored) .FAILED distinct
          .FAILED (fun _ => Program.raise (.app .ServiceError
            "Transaction failed on blockchain (reverted)")) with
        ⟨accepted, ran⟩ | ⟨refused, error, reason, ran⟩
      · rw [ran]
        exact .reverted received failed (same ▸ accepted)
      · rw [ran]
        exact .refused reason same (.inr (.inl ⟨receipt, asked, received, failed, same ▸ refused⟩))
    · rw [if_neg failed, Program.run_bind, BlockchainService.run_getCertificateRecord]
      rcases record : recordLookup runtime asked certificate.certificateUid with
        ⟨error | answer, after⟩
      · exact .recordFailed received failed record
      · have afterIs : after = asked.asked (.getCertificateRecord certificate.certificateUid) :=
          (congrArg Prod.snd record).symm
        have afterOpen : after.Open := afterIs ▸ askedOpen.asked _
        have afterSame : after.working = direct.working := afterIs ▸ same
        exact crossValidate_path afterOpen afterSame found notRevoked stored received failed record

/-- An error that makes the service treat the chain as unreachable leaves before any
write. -/
theorem VerifyPath.untouched {error : Exception} {after : Direct} (opened : direct.Open)
    (path : VerifyPath runtime direct certificate university storeTx txHash (.error error, after))
    (unreachable : error.isUnreachable = true) :
    after.Open ∧ after.working = direct.working := by
  have askedOpen := opened.receiptLookup runtime txHash
  have same := receiptLookup_working runtime direct txHash
  cases path with
  | receiptFailed receipt =>
      rw [receipt] at askedOpen same
      exact ⟨askedOpen, same⟩
  | refused reason _ _ =>
      rw [reason] at unreachable
      cases unreachable
  | recordFailed found _ record =>
      rw [found] at askedOpen same
      have afterIs := (congrArg Prod.snd record).symm
      dsimp only at afterIs
      exact ⟨afterIs ▸ askedOpen.asked _, afterIs ▸ same⟩
  | reverted _ _ _ | crossChecked _ _ _ _ _ => cases unreachable

end paths

/-- A certificate of the user's university that can still be confirmed. -/
structure Confirmable (database : Database) (certId : Uuid) (user : User)
    (certificate : Certificate) : Prop where
  found : database.find? .certificates certId = some certificate
  owned : some certificate.universityId = user.universityId
  unconfirmed : certificate.blockchainStatus = .PENDING ∨ certificate.blockchainStatus = .SUBMITTED

/-- The certificate of a confirmation is the one with its own id. -/
theorem Confirmable.foundById {database : Database} {certId : Uuid} {user : User}
    {certificate : Certificate} (confirmable : Confirmable database certId user certificate) :
    database.find? .certificates certificate.id = some certificate := by
  have sameId := (Database.find?_some confirmable.found).2
  rw [← confirmable.found, ← sameId]
  rfl

/-- A certificate that can be confirmed is not REVOKED. -/
theorem Confirmable.notRevoked {database : Database} {certId : Uuid} {user : User}
    {certificate : Certificate} (confirmable : Confirmable database certId user certificate) :
    certificate.blockchainStatus ≠ .REVOKED := by
  rcases confirmable.unconfirmed with pending | submitted
  · rw [pending]
    nofun
  · rw [submitted]
    nofun

/-- The university of the user. -/
def university? (database : Database) (user : User) : Option University :=
  (database .universities).find? fun row => some row.id = user.universityId

/-- `universityOf` finds the university of the user. -/
theorem run_universityOf {direct : Direct} (opened : direct.Open) (user : User) :
    (universityOf user).run directHandler direct =
      (.ok (university? direct.working user), direct) :=
  BaseRepository.run_findOne opened _ _

/-- What the `except` branch writes, if anything. -/
def UnreachableWrites (database : Database) (certificate : Certificate)
    (storeTx : Option BlockchainTransaction) (txHash : String) : Prop :=
  storeTx.isSome = true ∧ certificate.blockchainStatus = .PENDING ∧
    Accepted database storeTx [.status .SUBMITTED, .txHash (some txHash)]

/-- The path a confirmation takes through the `try` statement. -/
abbrev PathOf (runtime : Runtime) (direct : Direct) (certId : Uuid) (txHash : String)
    (user : User) (certificate : Certificate) : Except Exception StorageExit × Direct → Prop :=
  VerifyPath runtime direct certificate (university? direct.working user)
    (storeTx? direct.working certId) txHash

/-- The ways out of the transaction block of `confirm_blockchain_storage`. -/
inductive ConfirmPath (runtime : Runtime) (direct : Direct) (certId : Uuid) (txHash : String)
    (user : User) : Except Exception StorageExit × Direct → Prop where
  /-- A check before the `try` statement raises. -/
  | turnedAway {error} (why : ∀ certificate, ¬ Confirmable direct.working certId user certificate) :
      ConfirmPath runtime direct certId txHash user (.error error, direct)
  /-- The `try` statement returns. -/
  | completed {certificate exit after}
      (confirmable : Confirmable direct.working certId user certificate)
      (path : PathOf runtime direct certId txHash user certificate (.ok exit, after)) :
      ConfirmPath runtime direct certId txHash user (.ok exit, after)
  /-- It raises, and the `except` branch does not apply. -/
  | raised {certificate error after}
      (confirmable : Confirmable direct.working certId user certificate)
      (path : PathOf runtime direct certId txHash user certificate (.error error, after))
      (reached : error.isUnreachable = false) :
      ConfirmPath runtime direct certId txHash user (.error error, after)
  /-- The chain is unreachable and the `except` branch writes nothing. -/
  | unreachable {certificate error raised after}
      (confirmable : Confirmable direct.working certId user certificate)
      (path : PathOf runtime direct certId txHash user certificate (.error error, after))
      (unreached : error.isUnreachable = true)
      (nothing : ¬ UnreachableWrites direct.working certificate (storeTx? direct.working certId)
        txHash) :
      ConfirmPath runtime direct certId txHash user (.error raised, after)
  /-- The chain is unreachable and the `except` branch marks the certificate. -/
  | unreachableMarked {certificate error after}
      (confirmable : Confirmable direct.working certId user certificate)
      (path : PathOf runtime direct certId txHash user certificate (.error error, after))
      (unreached : error.isUnreachable = true)
      (writes : UnreachableWrites direct.working certificate (storeTx? direct.working certId)
        txHash) :
      ConfirmPath runtime direct certId txHash user
        (.error error,
          (after.recorded (storeTx? direct.working certId)
            [.status .SUBMITTED, .txHash (some txHash)]).marked certificate .SUBMITTED)

/-- A chain that cannot be reached leaves a trace, or the trace is refused. -/
theorem run_unreachableWrites {runtime : Runtime} {direct after : Direct} {certId : Uuid}
    {txHash : String} {user : User} {certificate : Certificate} {error : Exception}
    (opened : direct.Open) (confirmable : Confirmable direct.working certId user certificate)
    (path : PathOf runtime direct certId txHash user certificate (.error error, after))
    (unreached : error.isUnreachable = true) :
    ConfirmPath runtime direct certId txHash user
      ((do unreachableWrites certificate (storeTx? direct.working certId) txHash
           Program.raise error : Action StorageExit).run directHandler after) := by
  obtain ⟨afterOpen, same⟩ := path.untouched opened unreached
  have sameId := (Database.find?_some confirmable.found).2
  have found : after.working.find? .certificates certificate.id = some certificate := by
    rw [same, ← confirmable.found, ← sameId]
    rfl
  have stored : Stored after.working (storeTx? direct.working certId) :=
    same ▸ stored_storeTx? opened.valid.keyed certId
  by_cases applies :
      (storeTx? direct.working certId).isSome = true ∧ certificate.blockchainStatus = .PENDING
  · have distinct : ([TransactionAssignment.status .SUBMITTED, .txHash (some txHash)].map
        (@column .blockchainTransactions)).Nodup := by
      change [0, 1].Nodup
      decide
    simp only [unreachableWrites, applies, decide_true, Bool.and_self, if_true, bind_assoc,
      pure_bind]
    rcases run_statusWrites afterOpen found confirmable.notRevoked stored .SUBMITTED distinct
        .SUBMITTED (fun _ => (Program.raise error : Action StorageExit)) with
      ⟨accepted, ran⟩ | ⟨refused, raised, reason, ran⟩
    · rw [ran]
      exact .unreachableMarked confirmable path unreached ⟨applies.1, applies.2, same ▸ accepted⟩
    · rw [ran]
      exact .unreachable confirmable path unreached fun writes => refused (same ▸ writes.2.2)
  · have skipped : ((storeTx? direct.working certId).isSome &&
        decide (certificate.blockchainStatus = .PENDING)) = false := by
      simpa using applies
    simp only [unreachableWrites, skipped, Bool.false_eq_true, if_false, pure_bind, Program.run_raise]
    exact .unreachable confirmable path unreached fun writes => applies ⟨writes.1, writes.2.1⟩

/-- A confirmation takes one of the paths. -/
theorem confirmBlock_path {runtime : Runtime} {direct : Direct} (opened : direct.Open)
    (certId : Uuid) (txHash : String) (user : User) :
    ConfirmPath runtime direct certId txHash user
      ((confirmBlock runtime certId txHash user).run directHandler direct) := by
  simp only [confirmBlock, Program.run_bind, CertificateRepository.getById,
    BaseRepository.run_getById opened]
  cases found : direct.working.find? .certificates certId with
  | none =>
      refine .turnedAway fun certificate confirmable => ?_
      have contradiction := confirmable.found
      rw [found] at contradiction
      cases contradiction
  | some certificate =>
      have only : ∀ other, Confirmable direct.working certId user other → other = certificate :=
        fun other confirmable => Option.some.inj (confirmable.found.symm.trans found)
      by_cases foreign : some certificate.universityId ≠ user.universityId
      · simp only [if_pos foreign, Program.run_raise]
        exact .turnedAway fun other confirmable => foreign (only other confirmable ▸ confirmable.owned)
      by_cases settled : certificate.blockchainStatus ≠ .PENDING ∧
          certificate.blockchainStatus ≠ .SUBMITTED
      · simp only [if_neg foreign, if_pos settled, Program.run_raise]
        refine .turnedAway fun other confirmable => ?_
        rcases only other confirmable ▸ confirmable.unconfirmed with pending | submitted
        · exact settled.1 pending
        · exact settled.2 submitted
      have unconfirmed : certificate.blockchainStatus = .PENDING ∨
          certificate.blockchainStatus = .SUBMITTED := by
        by_cases pending : certificate.blockchainStatus = .PENDING
        · exact .inl pending
        · exact .inr (Decidable.not_not.mp fun other => settled ⟨pending, other⟩)
      have confirmable : Confirmable direct.working certId user certificate :=
        ⟨found, Decidable.not_not.mp foreign, unconfirmed⟩
      have path : PathOf runtime direct certId txHash user certificate _ :=
        verifyStorage_path opened confirmable.foundById confirmable.notRevoked
          (stored_storeTx? opened.valid.keyed certId)
      have storeTxIs : (BlockchainTransactionRepository.bySubmission
          ((direct.working .blockchainTransactions).filter fun row =>
            row.certificateId = some certId)).find? (fun tx => tx.txType = .STORE_HASH) =
          storeTx? direct.working certId := rfl
      simp only [if_neg foreign, if_neg settled, Program.run_bind, run_universityOf opened,
        BlockchainTransactionRepository.run_getByCertificateId opened, storeTxIs,
        Program.run_catchError]
      rcases ran : (verifyStorage runtime certificate (university? direct.working user)
        (storeTx? direct.working certId) txHash).run directHandler direct with
        ⟨error | exit, after⟩ <;> rw [ran] at path
      · dsimp only
        by_cases unreached : error.isUnreachable = true
        · rw [if_pos unreached]
          exact run_unreachableWrites opened confirmable path unreached
        · rw [if_neg unreached, Program.run_raise]
          exact .raised confirmable path (by simpa using unreached)
      · exact .completed confirmable path

end CertificateIssuanceService
end AcademicCredential
