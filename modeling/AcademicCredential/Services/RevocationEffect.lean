import AcademicCredential.Services.IssuanceEffect

/-!
# What a confirmation of a revocation does

The counterpart of the issuance module: `RevokePath` lists the paths through the `try`
statement of `confirm_revocation`, and `RevocationPath` adds the checks before it and
the `except` branch.
-/

namespace AcademicCredential

open AcademicCredential.Lib

/-- A check of an update looks at its own table only. -/
theorem checkUpdated_congr {left right : Database} {table : Table}
    (same : left table = right table) (row : Row table) :
    checkUpdated left table row = checkUpdated right table row := by
  simp only [checkUpdated, same]

/-- An update is accepted or not by its own table only. -/
theorem Accepted.congr {left right : Database} {tx? : Option BlockchainTransaction}
    {assignments : List TransactionAssignment}
    (same : left .blockchainTransactions = right .blockchainTransactions) :
    Accepted left tx? assignments ↔ Accepted right tx? assignments := by
  simp only [Accepted, checkUpdated_congr same]

namespace CertificateRevocationService

open CertificateIssuanceService (updateStoreTx confirmationData)

/-- The open REVOKE_HASH row of the certificate. -/
def revokeTx? (database : Database) (certId : Uuid) : Option BlockchainTransaction :=
  (BlockchainTransactionRepository.bySubmission
    ((database .blockchainTransactions).filter fun row => row.certificateId = some certId)).find?
    fun tx => tx.txType = .REVOKE_HASH && (tx.status = .PENDING || tx.status = .SUBMITTED)

/-- The row found for a revocation is stored. -/
theorem stored_revokeTx? {database : Database} (keyed : database.Keyed) (certId : Uuid) :
    Stored database (revokeTx? database certId) := by
  intro tx found
  have member := List.mem_of_find?_eq_some found
  simp only [BlockchainTransactionRepository.bySubmission, List.mem_insertionSort,
    List.mem_filter] at member
  exact @Database.Keyed.find? database keyed .blockchainTransactions tx member.1

/-- What a status 0 receipt makes the service write to the REVOKE_HASH row. -/
def revertedData (txHash : String) (receipt : TransactionReceipt) : List TransactionAssignment :=
  [.status .FAILED, .txHash (some txHash), .blockNumber (some receipt.blockNumber)]

/-- `confirmed_at`: the time on chain, or now. -/
def confirmedAt (direct : Direct) (record : ChainCertificateRecord) : Timestamp :=
  record.revokedAt.getD (direct.inputs.wallClock direct.reads)

/-- The state in which the revocation is written. -/
def timed (direct : Direct) (record : ChainCertificateRecord) : Direct :=
  if record.revokedAt.isSome then direct else direct.read

/-- The state after the certificate was revoked. -/
def revokedState (direct : Direct) (certificate : Certificate)
    (revokeTx : Option BlockchainTransaction) (user : Uuid) (record : ChainCertificateRecord) :
    Direct :=
  (timed direct record).revoked certificate (originalReason revokeTx) user

/-- The paths through the `try` statement. The certificate is active. -/
inductive RevokePath (runtime : Runtime) (direct : Direct) (certificate : Certificate)
    (user : Uuid) (revokeTx : Option BlockchainTransaction) (txHash : String) :
    Except Exception RevocationResponse × Direct → Prop where
  /-- The receipt lookup raises. -/
  | receiptFailed {error after}
      (receipt : receiptLookup runtime direct txHash = (.error error, after)) :
      RevokePath runtime direct certificate user revokeTx txHash (.error error, after)
  /-- The update of the REVOKE_HASH row is refused before anything was written, or the
  record on chain does not show a revocation. -/
  | refused {error after} (reason : error.isUnreachable = false)
      (untouched : after.working = direct.working)
      (why :
        (∃ asked, receiptLookup runtime direct txHash = (.ok none, asked) ∧
          ¬ Accepted direct.working revokeTx [.status .SUBMITTED, .txHash (some txHash)]) ∨
        (∃ receipt asked, receiptLookup runtime direct txHash = (.ok (some receipt), asked) ∧
          receipt.status = 0 ∧ ¬ Accepted direct.working revokeTx (revertedData txHash receipt)) ∨
        (∃ receipt asked record, receiptLookup runtime direct txHash = (.ok (some receipt), asked) ∧
          receipt.status ≠ 0 ∧
          (recordLookup runtime asked certificate.certificateUid).1 = .ok record ∧
          ∀ present, record = some present → present.status ≠ "REVOKED")) :
      RevokePath runtime direct certificate user revokeTx txHash (.error error, after)
  /-- No receipt yet. -/
  | pending {after message} (receipt : receiptLookup runtime direct txHash = (.ok none, after))
      (accepted : Accepted direct.working revokeTx [.status .SUBMITTED, .txHash (some txHash)]) :
      RevokePath runtime direct certificate user revokeTx txHash
        (.ok (.submitted message certificate.id),
          after.recorded revokeTx [.status .SUBMITTED, .txHash (some txHash)])
  /-- The transaction reverted. -/
  | reverted {receipt after message}
      (found : receiptLookup runtime direct txHash = (.ok (some receipt), after))
      (failed : receipt.status = 0)
      (accepted : Accepted direct.working revokeTx (revertedData txHash receipt)) :
      RevokePath runtime direct certificate user revokeTx txHash
        (.error (.app .ServiceError message),
          after.recorded revokeTx (revertedData txHash receipt))
  /-- The record lookup raises. -/
  | recordFailed {receipt asked error after}
      (found : receiptLookup runtime direct txHash = (.ok (some receipt), asked))
      (succeeded : receipt.status ≠ 0)
      (record : recordLookup runtime asked certificate.certificateUid = (.error error, after)) :
      RevokePath runtime direct certificate user revokeTx txHash (.error error, after)
  /-- The certificate was revoked, and then the update of the REVOKE_HASH row refused. -/
  | halfRevoked {receipt asked record after error}
      (found : receiptLookup runtime direct txHash = (.ok (some receipt), asked))
      (succeeded : receipt.status ≠ 0)
      (answered : recordLookup runtime asked certificate.certificateUid = (.ok (some record), after))
      (isRevoked : record.status = "REVOKED") (reason : error.isUnreachable = false)
      (refused : ¬ Accepted direct.working revokeTx
        (.status .CONFIRMED :: confirmationData txHash receipt (confirmedAt after record))) :
      RevokePath runtime direct certificate user revokeTx txHash
        (.error error, revokedState after certificate revokeTx user record)
  /-- Everything agrees. -/
  | revoked {receipt asked record after}
      (found : receiptLookup runtime direct txHash = (.ok (some receipt), asked))
      (succeeded : receipt.status ≠ 0)
      (answered : recordLookup runtime asked certificate.certificateUid = (.ok (some record), after))
      (isRevoked : record.status = "REVOKED")
      (accepted : Accepted direct.working revokeTx
        (.status .CONFIRMED :: confirmationData txHash receipt (confirmedAt after record))) :
      RevokePath runtime direct certificate user revokeTx txHash
        (.ok (.revoked certificate.id (confirmedAt after record)),
          (revokedState after certificate revokeTx user record).recorded revokeTx
            (.status .CONFIRMED :: confirmationData txHash receipt (confirmedAt after record)))

section paths

variable {runtime : Runtime} {direct : Direct} {certificate : Certificate} {user : Uuid}
  {revokeTx : Option BlockchainTransaction} {txHash : String}

/-- The time of the revocation is the record's, or the clock's. -/
theorem run_revocationTime (direct : Direct) (record : ChainCertificateRecord) :
    (revocationTime record).run directHandler direct =
      (.ok (confirmedAt direct record), timed direct record) := by
  cases revokedAt : record.revokedAt <;>
    simp [revocationTime, confirmedAt, timed, revokedAt, directHandler]

/-- Finding the time of the revocation writes nothing. -/
theorem timed_working (direct : Direct) (record : ChainCertificateRecord) :
    (timed direct record).working = direct.working := by
  unfold timed
  split <;> rfl

/-- Finding the time of the revocation leaves the transaction open. -/
theorem Open.timed (opened : direct.Open) (record : ChainCertificateRecord) :
    (timed direct record).Open := by
  unfold CertificateRevocationService.timed
  split
  · exact opened
  · exact opened.read

/-- The check of the on-chain status and what follows it, after both reads. -/
theorem recordRevocation_path {asked after : Direct} {receipt : TransactionReceipt}
    {record : Option ChainCertificateRecord} (opened : after.Open)
    (same : after.working = direct.working)
    (found : direct.working.find? .certificates certificate.id = some certificate)
    (stored : Stored direct.working revokeTx)
    (received : receiptLookup runtime direct txHash = (.ok (some receipt), asked))
    (succeeded : receipt.status ≠ 0)
    (answered : recordLookup runtime asked certificate.certificateUid = (.ok record, after)) :
    RevokePath runtime direct certificate user revokeTx txHash
      ((recordRevocation certificate.id user revokeTx txHash receipt record).run
        directHandler after) := by
  have answer : (recordLookup runtime asked certificate.certificateUid).1 = .ok record := by
    rw [answered]
  cases record with
  | none =>
      refine .refused rfl same (.inr (.inr ⟨receipt, asked, none, received, succeeded, answer, ?_⟩))
      nofun
  | some record =>
      by_cases isRevoked : record.status = "REVOKED"
      · have timedFound : (timed after record).working.find? .certificates certificate.id =
            some certificate := by rw [timed_working, same, found]
        obtain ⟨revokedOpen, revokes⟩ :=
          (Open.timed opened record).revoke timedFound (originalReason revokeTx) user
        have transactions : (revokedState after certificate revokeTx user record).working
            .blockchainTransactions = direct.working .blockchainTransactions := by
          rw [revokedState, Direct.revoked_transactions, timed_working, same]
        have stillStored : Stored (revokedState after certificate revokeTx user record).working
            revokeTx := fun tx isTx =>
          (Database.find?_congr transactions tx.id).trans (stored tx isTx)
        have distinct : ((TransactionAssignment.status .CONFIRMED ::
            confirmationData txHash receipt (confirmedAt after record)).map
              (@column .blockchainTransactions)).Nodup := by
          change [0, 1, 2, 3, 4, 5, 6, 7].Nodup
          decide
        simp only [recordRevocation, ne_eq, isRevoked, not_true_eq_false, if_false]
        simp only [Program.run_bind, run_revocationTime, revokes]
        rcases run_updateStoreTx revokedOpen stillStored .CONFIRMED distinct with
          ⟨accepted, ran⟩ | ⟨refused, error, reason, ran⟩
        · simp only [updateRevokeTx, ran]
          exact .revoked received succeeded answered isRevoked
            ((Accepted.congr transactions).mp accepted)
        · simp only [updateRevokeTx, ran]
          exact .halfRevoked received succeeded answered isRevoked reason
            fun accepted => refused ((Accepted.congr transactions).mpr accepted)
      · simp only [recordRevocation, ne_eq, isRevoked, not_false_eq_true, if_true, Program.run_raise]
        refine .refused rfl same (.inr (.inr ⟨receipt, asked, some record, received, succeeded,
          answer, ?_⟩))
        rintro _ ⟨⟩
        exact isRevoked

/-- Every run of the `try` statement takes one of the paths. -/
theorem verifyRevocation_path (opened : direct.Open)
    (found : direct.working.find? .certificates certificate.id = some certificate)
    (stored : Stored direct.working revokeTx) :
    RevokePath runtime direct certificate user revokeTx txHash
      ((verifyRevocation runtime certificate user revokeTx txHash).run directHandler direct) := by
  have askedOpen := opened.receiptLookup runtime txHash
  have same := receiptLookup_working runtime direct txHash
  simp only [verifyRevocation, Program.run_bind, BlockchainService.run_getTransactionReceipt]
  rcases received : receiptLookup runtime direct txHash with ⟨error | (_ | receipt), asked⟩
  · exact .receiptFailed received
  · rw [received] at askedOpen same
    have distinct : ([TransactionAssignment.status .SUBMITTED, .txHash (some txHash)].map
        (@column .blockchainTransactions)).Nodup := by
      change [0, 1].Nodup
      decide
    dsimp only at askedOpen same ⊢
    rw [Program.run_bind, updateRevokeTx]
    rcases run_updateStoreTx askedOpen (same ▸ stored) .SUBMITTED distinct with
      ⟨accepted, ran⟩ | ⟨refused, error, reason, ran⟩
    · rw [ran]
      exact .pending received (same ▸ accepted)
    · rw [ran]
      exact .refused reason same (.inl ⟨asked, received, same ▸ refused⟩)
  · rw [received] at askedOpen same
    dsimp only at askedOpen same ⊢
    by_cases failed : receipt.status = 0
    · rw [if_pos failed, Program.run_bind, updateRevokeTx]
      have distinct : ((revertedData txHash receipt).map (@column .blockchainTransactions)).Nodup := by
        change [0, 1, 2].Nodup
        decide
      rcases run_updateStoreTx askedOpen (same ▸ stored) .FAILED distinct with
        ⟨accepted, ran⟩ | ⟨refused, error, reason, ran⟩
      · rw [ran]
        exact .reverted received failed (same ▸ accepted)
      · rw [ran]
        exact .refused reason same (.inr (.inl ⟨receipt, asked, received, failed, same ▸ refused⟩))
    · rw [if_neg failed, Program.run_bind, BlockchainService.run_getCertificateRecord]
      rcases record : recordLookup runtime asked certificate.certificateUid with
        ⟨error | answer, after⟩
      · exact .recordFailed received failed record
      · have afterIs : after = asked.asked (.getCertificateRecord certificate.certificateUid) :=
          (congrArg Prod.snd record).symm
        have afterOpen : after.Open := afterIs ▸ askedOpen.asked _
        have afterSame : after.working = direct.working := afterIs ▸ same
        exact recordRevocation_path afterOpen afterSame found stored received failed record

/-- An error that makes the service treat the chain as unreachable leaves before any
write. -/
theorem RevokePath.untouched {error : Exception} {after : Direct} (opened : direct.Open)
    (path : RevokePath runtime direct certificate user revokeTx txHash (.error error, after))
    (unreachable : error.isUnreachable = true) :
    after.Open ∧ after.working = direct.working := by
  have askedOpen := opened.receiptLookup runtime txHash
  have same := receiptLookup_working runtime direct txHash
  cases path with
  | receiptFailed receipt =>
      rw [receipt] at askedOpen same
      exact ⟨askedOpen, same⟩
  | refused reason _ _ | halfRevoked _ _ _ _ reason _ =>
      rw [reason] at unreachable
      cases unreachable
  | recordFailed found _ record =>
      rw [found] at askedOpen same
      have afterIs := (congrArg Prod.snd record).symm
      dsimp only at afterIs
      exact ⟨afterIs ▸ askedOpen.asked _, afterIs ▸ same⟩
  | reverted _ _ _ => cases unreachable

end paths

/-- A certificate of the user's university that `confirm_revocation` goes on with: its
status is not looked at. -/
structure Revocable (database : Database) (certId : Uuid) (user : User)
    (certificate : Certificate) : Prop where
  found : database.find? .certificates certId = some certificate
  owned : some certificate.universityId = user.universityId
  active : certificate.isActive = true

/-- The certificate of a revocation is the one with its own id. -/
theorem Revocable.foundById {database : Database} {certId : Uuid} {user : User}
    {certificate : Certificate} (revocable : Revocable database certId user certificate) :
    database.find? .certificates certificate.id = some certificate := by
  have sameId := (Database.find?_some revocable.found).2
  rw [← revocable.found, ← sameId]
  rfl

/-- The path a confirmation takes through the `try` statement. -/
abbrev PathOf (runtime : Runtime) (direct : Direct) (certId : Uuid) (txHash : String)
    (user : User) (certificate : Certificate) :
    Except Exception RevocationResponse × Direct → Prop :=
  RevokePath runtime direct certificate user.id (revokeTx? direct.working certId) txHash

/-- The ways out of the transaction block of `confirm_revocation`. -/
inductive RevocationPath (runtime : Runtime) (direct : Direct) (certId : Uuid) (txHash : String)
    (user : User) : Except Exception RevocationResponse × Direct → Prop where
  /-- A check before the `try` statement raises. -/
  | turnedAway {error} (why : ∀ certificate, ¬ Revocable direct.working certId user certificate) :
      RevocationPath runtime direct certId txHash user (.error error, direct)
  /-- The `try` statement returns. -/
  | completed {certificate response after}
      (revocable : Revocable direct.working certId user certificate)
      (path : PathOf runtime direct certId txHash user certificate (.ok response, after)) :
      RevocationPath runtime direct certId txHash user (.ok response, after)
  /-- It raises, and the `except` branch does not apply. -/
  | raised {certificate error after}
      (revocable : Revocable direct.working certId user certificate)
      (path : PathOf runtime direct certId txHash user certificate (.error error, after))
      (reached : error.isUnreachable = false) :
      RevocationPath runtime direct certId txHash user (.error error, after)
  /-- The chain is unreachable and the update of the REVOKE_HASH row refused. -/
  | unreachable {certificate error raised after}
      (revocable : Revocable direct.working certId user certificate)
      (path : PathOf runtime direct certId txHash user certificate (.error error, after))
      (unreached : error.isUnreachable = true)
      (refused : ¬ Accepted direct.working (revokeTx? direct.working certId)
        [.status .SUBMITTED, .txHash (some txHash)]) :
      RevocationPath runtime direct certId txHash user (.error raised, after)
  /-- The chain is unreachable and the REVOKE_HASH row, if any, is updated. -/
  | unreachableRecorded {certificate error after}
      (revocable : Revocable direct.working certId user certificate)
      (path : PathOf runtime direct certId txHash user certificate (.error error, after))
      (unreached : error.isUnreachable = true)
      (accepted : Accepted direct.working (revokeTx? direct.working certId)
        [.status .SUBMITTED, .txHash (some txHash)]) :
      RevocationPath runtime direct certId txHash user
        (.error error,
          after.recorded (revokeTx? direct.working certId)
            [.status .SUBMITTED, .txHash (some txHash)])

/-- A confirmation takes one of the paths. -/
theorem confirmBlock_path {runtime : Runtime} {direct : Direct} (opened : direct.Open)
    (certId : Uuid) (txHash : String) (user : User) :
    RevocationPath runtime direct certId txHash user
      ((confirmBlock runtime certId txHash user).run directHandler direct) := by
  simp only [confirmBlock, Program.run_bind, CertificateRepository.getById,
    BaseRepository.run_getById opened]
  cases found : direct.working.find? .certificates certId with
  | none =>
      refine .turnedAway fun certificate revocable => ?_
      have contradiction := revocable.found
      rw [found] at contradiction
      cases contradiction
  | some certificate =>
      have only : ∀ other, Revocable direct.working certId user other → other = certificate :=
        fun other revocable => Option.some.inj (revocable.found.symm.trans found)
      by_cases foreign : some certificate.universityId ≠ user.universityId
      · simp only [if_pos foreign, Program.run_raise]
        exact .turnedAway fun other revocable => foreign (only other revocable ▸ revocable.owned)
      by_cases inactive : (!certificate.isActive) = true
      · simp only [if_neg foreign, if_pos inactive]
        refine .turnedAway fun other revocable => ?_
        have active := only other revocable ▸ revocable.active
        simp [active] at inactive
      have revocable : Revocable direct.working certId user certificate :=
        ⟨found, Decidable.not_not.mp foreign, by simpa using inactive⟩
      have stored := stored_revokeTx? opened.valid.keyed certId
      have path : PathOf runtime direct certId txHash user certificate _ :=
        verifyRevocation_path opened revocable.foundById stored
      have revokeTxIs : (BlockchainTransactionRepository.bySubmission
          ((direct.working .blockchainTransactions).filter fun row =>
            row.certificateId = some certId)).find? (fun tx => tx.txType = .REVOKE_HASH &&
              (tx.status = .PENDING || tx.status = .SUBMITTED)) =
          revokeTx? direct.working certId := rfl
      simp only [if_neg foreign, if_neg inactive, Program.run_bind,
        BlockchainTransactionRepository.run_getByCertificateId opened, revokeTxIs,
        Program.run_catchError]
      rcases ran : (verifyRevocation runtime certificate user.id
        (revokeTx? direct.working certId) txHash).run directHandler direct with
        ⟨error | response, after⟩ <;> rw [ran] at path
      · dsimp only
        by_cases unreached : error.isUnreachable = true
        · obtain ⟨afterOpen, same⟩ := path.untouched opened unreached
          have distinct : ([TransactionAssignment.status .SUBMITTED, .txHash (some txHash)].map
              (@column .blockchainTransactions)).Nodup := by
            change [0, 1].Nodup
            decide
          rw [if_pos unreached, Program.run_bind, updateRevokeTx]
          have stillStored : Stored after.working (revokeTx? direct.working certId) := by
            rw [same]
            exact stored
          have sameRows := congrFun same .blockchainTransactions
          rcases run_updateStoreTx afterOpen stillStored .SUBMITTED distinct with
            ⟨accepted, ran⟩ | ⟨refused, raised, reason, ran⟩
          · rw [ran]
            exact .unreachableRecorded revocable path unreached
              ((Accepted.congr sameRows).mp accepted)
          · rw [ran]
            exact .unreachable revocable path unreached
              fun accepted => refused ((Accepted.congr sameRows).mpr accepted)
        · rw [if_neg unreached, Program.run_raise]
          exact .raised revocable path (by simpa using unreached)
      · exact .completed revocable path

end CertificateRevocationService
end AcademicCredential
