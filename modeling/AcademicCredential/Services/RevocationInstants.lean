import AcademicCredential.Blockchain.Views
import AcademicCredential.Services.RevocationReason

/-!
# When a certificate was revoked

The chain dates a revocation by its block, the answer of `confirm_revocation` and the
transaction row repeat that date, and `CertificateRepository.revoke` reads the clock of the
server for the certificate row. `revocation_instants_agree_iff` says when all are the same.
-/

namespace AcademicCredential

open AcademicCredential.Lib
open AcademicCredential.Contract

namespace CertificateRevocationService

/-- The instant of a revocation on chain, in the microseconds of a `datetime`. -/
def instantOnChain (chain : Chain) (certUid : String) : Timestamp :=
  (chain.registry.certificates (solidityString certUid)).revokedAt * 1000000

/-- The records of a revocation that was confirmed, with the answer's `revoked_at`: the
certificate row, the record on chain, and the transaction row if there was an open one. -/
structure InstantsAgree (before : Database) (after : Store) (certId : Uuid)
    (revokedAt : Timestamp) : Prop where
  certificate : ∃ certificate, after.database.find? .certificates certId = some certificate ∧
    certificate.revokedAt = some revokedAt ∧
    instantOnChain after.chain certificate.certificateUid = revokedAt
  transaction : ∀ tx, revokeTx? before certId = some tx →
    ∃ row, after.database.find? .blockchainTransactions tx.id = some row ∧
      row.confirmedAt = some revokedAt

/-- The clock of the server shows the instant of the chain when the certificate row is
written. A record without a date makes the answer read the clock as well. -/
def ClockAgrees (inputs : Inputs) (instant : Timestamp) : Prop :=
  inputs.wallClock 0 = instant ∧ (instant = 0 → inputs.wallClock 1 = instant)

instance (inputs : Inputs) (instant : Timestamp) : Decidable (ClockAgrees inputs instant) :=
  inferInstanceAs (Decidable (_ ∧ _))

/-- A record is dated as the contract dates it, or not at all. -/
theorem chainRecord_revokedAt_eq {runtime : Runtime} {stored : CertificateRecord}
    {record : ChainCertificateRecord} (read : chainRecord runtime stored = .ok record) :
    record.revokedAt =
      if stored.revokedAt * 1000000 = 0 then none else some (stored.revokedAt * 1000000) := by
  unfold chainRecord fromTimestamp at read
  by_cases issued : stored.issuedAt ≤ 253402300799
  · by_cases never : stored.revokedAt > 0
    · by_cases revoked : stored.revokedAt ≤ 253402300799
      · simp only [issued, never, revoked, if_true] at read
        cases read
        simp only [if_neg (show ¬ stored.revokedAt * 1000000 = 0 by omega)]
      · simp only [issued, never, revoked, if_true, if_false] at read
        cases read
    · simp only [issued, never, if_true, if_false] at read
      cases read
      simp [Nat.eq_zero_of_not_pos never]
  · simp only [issued, if_false] at read
    cases read

/-- The record holds the instant at which the chain has revoked. -/
theorem recordLookup_revokedAt {runtime : Runtime} {asked after : Direct} {certUid : String}
    {record : ChainCertificateRecord}
    (answered : recordLookup runtime asked certUid = (.ok (some record), after)) :
    record.revokedAt =
      if instantOnChain after.chain certUid = 0 then none
      else some (instantOnChain after.chain certUid) := by
  obtain ⟨outcome, rfl⟩ := Prod.mk.inj answered
  unfold recordAnswer at outcome
  cases replied : asked.nextOutcome.reply (asked.nextOutcome.chain asked.chain)
      (.getCertificateRecord certUid) with
  | error error =>
      rw [replied] at outcome
      cases outcome
  | ok stored =>
      rw [replied] at outcome
      obtain ⟨-, rfl⟩ := RpcOutcome.reply_ok replied
      simp only [Except.bind, recordOf] at outcome
      split at outcome
      · cases made : chainRecord runtime ((asked.nextOutcome.chain asked.chain).answer
            (.getCertificateRecord certUid)) with
        | error error =>
            rw [made] at outcome
            cases outcome
        | ok read =>
            rw [made] at outcome
            cases outcome
            exact chainRecord_revokedAt_eq made
      · cases outcome

/-- A revocation leaves the UID and sets the instant. -/
theorem assignAll_revocation (certificate : Certificate) (reason : String) (user : Uuid)
    (time : Timestamp) :
    (@assignAll .certificates certificate
        (CertificateRepository.revocation reason user time)).certificateUid =
      certificate.certificateUid ∧
    (@assignAll .certificates certificate
        (CertificateRepository.revocation reason user time)).revokedAt = some time := by
  simp [CertificateRepository.revocation, assignAll, assign, CertificateAssignment.assign]

section committed

variable {runtime : Runtime} {store : ValidStore} {inputs : Inputs} {certId : Uuid}
  {txHash : String} {user : User} {revokedAt : Timestamp} {ended : Direct}
  {certificate : Certificate} {record : ChainCertificateRecord} {asked after : Direct}

/-- A confirmation looks at the chain twice before it reads any clock. -/
theorem Revocation.reads (committed : Revocation runtime store.toStore inputs certId txHash user
    revokedAt ended certificate record asked after) :
    after.reads = 0 ∧ after.inputs = inputs ∧ after.chain = store.chainAtRead inputs 1 := by
  obtain ⟨receipt, received⟩ := committed.received
  obtain ⟨-, rfl⟩ := Prod.mk.inj committed.answered
  unfold receiptLookup at received
  split at received
  · cases received
  · obtain ⟨-, rfl⟩ := Prod.mk.inj received
    exact ⟨rfl, rfl, rfl⟩

/-- The transaction row shows the instant of the answer, whatever that is. -/
theorem Revocation.transaction (committed : Revocation runtime store.toStore inputs certId txHash
    user revokedAt ended certificate record asked after) {tx : BlockchainTransaction}
    (isTx : revokeTx? store.database certId = some tx) :
    ∃ row, ended.database.find? .blockchainTransactions tx.id = some row ∧
      row.confirmedAt = some revokedAt := by
  obtain ⟨receipt, transactions⟩ := committed.transactions
  rw [isTx] at transactions
  have stored := stored_revokeTx? store.valid.keyed certId tx isTx
  exact ⟨_, @find?_updated store.database ended.database .blockchainTransactions tx.id tx _ stored
    transactions, rfl⟩

/-- The instants of the answer and of the certificate row. -/
theorem Revocation.instants (committed : Revocation runtime store.toStore inputs certId txHash
    user revokedAt ended certificate record asked after) :
    let instant := instantOnChain (store.chainAtRead inputs 1) certificate.certificateUid
    revokedAt = (if instant = 0 then inputs.wallClock 0 else instant) ∧
      ∃ row, ended.database.find? .certificates certId = some row ∧
        row.certificateUid = certificate.certificateUid ∧
        row.revokedAt = some (inputs.wallClock (if instant = 0 then 1 else 0)) := by
  obtain ⟨reads, isInputs, isChain⟩ := committed.reads
  have dated := recordLookup_revokedAt committed.answered
  rw [isChain] at dated
  have found := @find?_updated store.database ended.database .certificates certId certificate _
    committed.revocable.found committed.certificates
  obtain ⟨sameUid, time⟩ := assignAll_revocation certificate
    (originalReason (revokeTx? store.database certId)) user.id
    ((timed after record).inputs.wallClock (timed after record).reads)
  dsimp only
  split at dated
  · rename_i never
    refine ⟨?_, _, found, sameUid, time.trans ?_⟩
    · rw [committed.returned, confirmedAt, dated, reads, isInputs, if_pos never]
      rfl
    · rw [timed, dated, if_neg (by simp), if_pos never, ← isInputs]
      change some (after.inputs.wallClock (after.reads + 1)) = _
      rw [reads]
  · rename_i once
    refine ⟨?_, _, found, sameUid, time.trans ?_⟩
    · rw [committed.returned, confirmedAt, dated, if_neg once]
      rfl
    · rw [timed, dated, if_pos (by simp), if_neg once, reads, isInputs]

end committed

/-- After a successful confirmation all records of the revocation show the same instant exactly
when the clock of the server shows that of the chain. -/
theorem revocation_instants_agree_iff (runtime : Runtime) (store : ValidStore) (inputs : Inputs)
    (certId : Uuid) (txHash : String) (user : User) (id : Uuid) (revokedAt : Timestamp)
    (certificate : Certificate)
    (stored : store.database.find? .certificates certId = some certificate)
    (confirmed : ((confirmRevocation runtime certId txHash user).run sessionHandler
      (store.toStore, .fresh inputs)).1 = .ok (.revoked id revokedAt)) :
    InstantsAgree store.database ((confirmRevocation runtime certId txHash user).run
        sessionHandler (store.toStore, .fresh inputs)).2.1 certId revokedAt ↔
      ClockAgrees inputs (instantOnChain (store.chainAtRead inputs 1)
        certificate.certificateUid) := by
  obtain ⟨sameOutcome, described⟩ := store.run_eq inputs
    (confirmRevocation runtime certId txHash user)
  have sameDatabase := congrArg Direct.database described
  have sameChain := congrArg Direct.chain described
  rw [sameOutcome] at confirmed
  obtain ⟨found, record, asked, after, committed⟩ := confirmRevocation_revoked confirmed
  obtain rfl : found = certificate := by
    have same := committed.revocable.found.symm.trans stored
    simpa using same
  obtain ⟨answer, row, isRow, sameUid, rowTime⟩ := committed.instants
  have chain : ((confirmRevocation runtime certId txHash user).run sessionHandler
      (store.toStore, .fresh inputs)).2.1.chain = store.chainAtRead inputs 1 :=
    sameChain.trans (committed.chain.trans committed.reads.2.2)
  have foundRow : ((confirmRevocation runtime certId txHash user).run sessionHandler
      (store.toStore, .fresh inputs)).2.1.database.find? .certificates certId = some row := by
    rw [show ((confirmRevocation runtime certId txHash user).run sessionHandler
      (store.toStore, .fresh inputs)).2.1.database = _ from sameDatabase]
    exact isRow
  constructor
  · rintro ⟨⟨other, isOther, otherTime, onChain⟩, -⟩
    obtain rfl : row = other := by
      have same := foundRow.symm.trans isOther
      simpa using same
    rw [chain, sameUid] at onChain
    rw [rowTime] at otherTime
    have times := Option.some.inj otherTime
    by_cases never : instantOnChain (store.chainAtRead inputs 1) found.certificateUid = 0
    · simp only [never, if_true] at answer times onChain
      exact ⟨by rw [never, ← answer, onChain], fun _ => by rw [never, times, onChain]⟩
    · simp only [never, if_false] at answer times onChain
      exact ⟨times.trans answer, fun impossible => absurd impossible never⟩
  · rintro ⟨first, second⟩
    refine ⟨⟨row, foundRow, ?_, ?_⟩, fun tx isTx => ?_⟩
    · rw [rowTime]
      by_cases never : instantOnChain (store.chainAtRead inputs 1) found.certificateUid = 0
      · simp only [never, if_true] at answer ⊢
        rw [second never, answer, first]
      · simp only [never, if_false] at answer ⊢
        rw [first, answer]
    · rw [chain, sameUid]
      by_cases never : instantOnChain (store.chainAtRead inputs 1) found.certificateUid = 0
      · simp only [never, if_true] at answer
        rw [answer, first]
      · simp only [never, if_false] at answer
        exact answer.symm
    · obtain ⟨stamped, isStamped, time⟩ := committed.transaction isTx
      refine ⟨stamped, ?_, time⟩
      rw [show ((confirmRevocation runtime certId txHash user).run sessionHandler
        (store.toStore, .fresh inputs)).2.1.database = _ from sameDatabase]
      exact isStamped

end CertificateRevocationService

namespace Sample

/-- A certificate on chain whose revocation was initiated. -/
def initiated : ValidStore where
  database := database .CONFIRMED [transaction 5 .REVOKE_HASH .PENDING none]
  chain := chain [authorization, storage "UNI-2024-00001"]
  files := []
  valid := valid_initiated

/-- The revocation is mined meanwhile, and the server has the given time. -/
def revokedAtTime (time : Timestamp) : Inputs :=
  { inputs minedMeanwhile with wallClock := fun _ => time }

/-- What the sample confirmation answers and leaves in the certificate row. -/
def confirmedRevocation (time : Timestamp) :
    Option CertificateRevocationService.RevocationResponse × Option (Option Timestamp) :=
  let ended := (CertificateRevocationService.confirmRevocation Runtime.sample 3 revocationTxHash
    administrator).run sessionHandler (initiated.toStore, .fresh (revokedAtTime time))
  (ended.1.toOption, (ended.2.1.database.find? .certificates 3).map (·.revokedAt))

/-- What returned a value ended with it. -/
theorem ok_of_toOption {Value : Type} {outcome : Except Exception Value} {value : Value}
    (returned : outcome.toOption = some value) : outcome = .ok value := by
  cases outcome with
  | error error => cases returned
  | ok other => exact congrArg Except.ok (Option.some.inj returned)

/-- The clock agrees with the block. -/
theorem confirmed_inTime : confirmedRevocation 1700000003000000 =
    (some (.revoked 3 1700000003000000), some (some 1700000003000000)) := by decide +kernel

/-- The clock is behind the block. -/
theorem confirmed_behind : confirmedRevocation 1700000000000000 =
    (some (.revoked 3 1700000003000000), some (some 1700000000000000)) := by decide +kernel

end Sample

namespace CertificateRevocationService

/-- A server whose clock shows the time of the block records the same instant everywhere. -/
theorem revocation_instants_agree_sample :
    InstantsAgree Sample.initiated.database ((confirmRevocation Runtime.sample 3
        Sample.revocationTxHash Sample.administrator).run sessionHandler (Sample.initiated.toStore,
          .fresh (Sample.revokedAtTime 1700000003000000))).2.1 3 1700000003000000 :=
  (revocation_instants_agree_iff Runtime.sample Sample.initiated
    (Sample.revokedAtTime 1700000003000000) 3 Sample.revocationTxHash Sample.administrator 3
    1700000003000000 (Sample.certificate .CONFIRMED) (by decide +kernel)
    (Sample.ok_of_toOption (congrArg Prod.fst Sample.confirmed_inTime))).mpr (by decide +kernel)

/-- The answer has the time of the block, and the certificate row that of a server whose clock
is three seconds behind. -/
theorem revocation_instants_differ :
    ((confirmRevocation Runtime.sample 3 Sample.revocationTxHash Sample.administrator).run
        sessionHandler (Sample.initiated.toStore,
          .fresh (Sample.revokedAtTime 1700000000000000))).1 =
            .ok (.revoked 3 1700000003000000) ∧
      ¬ InstantsAgree Sample.initiated.database ((confirmRevocation Runtime.sample 3
        Sample.revocationTxHash Sample.administrator).run sessionHandler (Sample.initiated.toStore,
          .fresh (Sample.revokedAtTime 1700000000000000))).2.1 3 1700000003000000 := by
  have times := congrArg Prod.snd Sample.confirmed_behind
  refine ⟨Sample.ok_of_toOption (congrArg Prod.fst Sample.confirmed_behind), ?_⟩
  rintro ⟨⟨certificate, found, time, -⟩, -⟩
  simp only [Sample.confirmedRevocation, found, Option.map_some, time] at times
  cases times

end CertificateRevocationService
end AcademicCredential
