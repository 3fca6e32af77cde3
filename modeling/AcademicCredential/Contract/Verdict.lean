import AcademicCredential.Contract.Registry
import AcademicCredential.Lib.History

/-!
# The on-chain verdict and the history behind it

What a transaction does to the record under one UID is said once, in
`apply_certificates`. From it follow the two step facts about what the contract
answers: the verdict for a hash is switched on by storing exactly that hash and
switched off by a revocation, and a record turns `REVOKED` by a revocation only. The
history library turns them into statements about whole runs, reverted transactions
included.
-/

namespace AcademicCredential.Contract
namespace Registry

open AcademicCredential.Lib

/-- The storage after deployment by `deployer` and a list of transactions. -/
def afterTransactions (deployer : Address) (transactions : List Transaction) : Registry :=
  stateAfter apply (deploy deployer) transactions

/-- In this storage the transaction stores `certHash` under `certUid`. -/
def Stores (certUid : SolidityString) (certHash : Bytes32) (registry : Registry)
    (transaction : Transaction) : Prop :=
  transaction.call = .storeCertificate certUid certHash ∧ registry.Accepts transaction

/-- In this storage the transaction revokes `certUid`. -/
def Revokes (certUid : SolidityString) (registry : Registry) (transaction : Transaction) : Prop :=
  transaction.call = .revokeCertificate certUid ∧ registry.Accepts transaction

/-- Transaction number `index` of the run is a successful `storeCertificate`. -/
def StoreSucceeds (deployer : Address) (transactions : List Transaction)
    (certUid : SolidityString) (certHash : Bytes32) (index : Nat) : Prop :=
  OccursAt apply (deploy deployer) transactions (Stores certUid certHash) index

/-- Transaction number `index` of the run is a successful `revokeCertificate`. -/
def RevokeSucceeds (deployer : Address) (transactions : List Transaction)
    (certUid : SolidityString) (index : Nat) : Prop :=
  OccursAt apply (deploy deployer) transactions (Revokes certUid) index

/-- A call that stores found nothing under the UID, and leaves the record there. -/
theorem storeCertificate_ok {registry next : Registry} {message : Message} {event : Event}
    {certUid : SolidityString} {certHash : Bytes32}
    (success : registry.storeCertificate message certUid certHash = .ok (next, event)) :
    (registry.certificates certUid).exists = false ∧
      next.certificates =
        Function.update registry.certificates certUid (freshRecord message certHash) := by
  simp only [storeCertificate, onlyAuthorizedIssuer, validCertUid, validCertHash,
    require_bind_ok, checkedIncrement_bind_ok, Bool.not_eq_true'] at success
  obtain ⟨-, -, -, absent, -, result⟩ := success
  cases result
  exact ⟨absent, rfl⟩

/-- A call that revokes found an active record, and changes its status and time only. -/
theorem revokeCertificate_ok {registry next : Registry} {message : Message} {event : Event}
    {certUid : SolidityString}
    (success : registry.revokeCertificate message certUid = .ok (next, event)) :
    (registry.certificates certUid).exists = true ∧
      (registry.certificates certUid).status = .ACTIVE ∧
      next.certificates = Function.update registry.certificates certUid
        { registry.certificates certUid with
          status := .REVOKED, revokedAt := message.timestamp } := by
  simp only [revokeCertificate, onlyAuthorizedIssuer, certificateMustExist,
    certificateMustBeActive, onlyOriginalIssuer, require_bind_ok, checkedIncrement_bind_ok,
    decide_eq_true_eq] at success
  obtain ⟨-, present, active, -, -, result⟩ := success
  cases result
  exact ⟨present, active, rfl⟩

/-- An authorization leaves the records alone. -/
theorem authorizeIssuer_ok {registry next : Registry} {message : Message} {event : Event}
    {issuerAddress : Address}
    (success : registry.authorizeIssuer message issuerAddress = .ok (next, event)) :
    next.certificates = registry.certificates := by
  simp only [authorizeIssuer, onlyOwner, require_bind_ok] at success
  obtain ⟨-, -, -, -, result⟩ := success
  cases result
  rfl

/-- A deauthorization leaves the records alone. -/
theorem deauthorizeIssuer_ok {registry next : Registry} {message : Message} {event : Event}
    {issuerAddress : Address} {reason : SolidityString}
    (success : registry.deauthorizeIssuer message issuerAddress reason = .ok (next, event)) :
    next.certificates = registry.certificates := by
  simp only [deauthorizeIssuer, onlyOwner, require_bind_ok] at success
  obtain ⟨-, -, result⟩ := success
  cases result
  rfl

/-- A transfer of the ownership leaves the records alone. -/
theorem transferOwnership_ok {registry next : Registry} {message : Message} {event : Event}
    {newOwner : Address}
    (success : registry.transferOwnership message newOwner = .ok (next, event)) :
    next.certificates = registry.certificates := by
  simp only [transferOwnership, onlyOwner, require_bind_ok] at success
  obtain ⟨-, -, -, result⟩ := success
  cases result
  rfl

/-- A transaction stores a record where none was, revokes an active one, or leaves
every record alone. -/
theorem apply_certificates (registry : Registry) (transaction : Transaction) :
    (∃ certUid certHash, Stores certUid certHash registry transaction ∧
      (registry.certificates certUid).exists = false ∧
      (registry.apply transaction).certificates = Function.update registry.certificates certUid
        (freshRecord transaction.message certHash)) ∨
    (∃ certUid, Revokes certUid registry transaction ∧
      (registry.certificates certUid).exists = true ∧
      (registry.certificates certUid).status = .ACTIVE ∧
      (registry.apply transaction).certificates = Function.update registry.certificates certUid
        { registry.certificates certUid with
          status := .REVOKED, revokedAt := transaction.message.timestamp }) ∨
    ((∀ certUid certHash, ¬ Stores certUid certHash registry transaction) ∧
      (∀ certUid, ¬ Revokes certUid registry transaction) ∧
      (registry.apply transaction).certificates = registry.certificates) := by
  obtain ⟨message, call⟩ := transaction
  cases outcome : registry.execute ⟨message, call⟩ with
  | error error =>
      refine .inr (.inr ⟨?_, ?_, by simp [apply, outcome]⟩)
      · rintro certUid certHash ⟨-, result, accepted⟩
        simp [outcome] at accepted
      · rintro certUid ⟨-, result, accepted⟩
        simp [outcome] at accepted
  | ok result =>
      obtain ⟨next, event⟩ := result
      have accepted : registry.Accepts ⟨message, call⟩ := ⟨_, outcome⟩
      have applied : registry.apply ⟨message, call⟩ = next := by simp [apply, outcome]
      rw [applied]
      cases call with
      | storeCertificate certUid certHash =>
          obtain ⟨absent, written⟩ := storeCertificate_ok outcome
          exact .inl ⟨certUid, certHash, ⟨rfl, accepted⟩, absent, written⟩
      | revokeCertificate certUid =>
          obtain ⟨present, active, written⟩ := revokeCertificate_ok outcome
          exact .inr (.inl ⟨certUid, ⟨rfl, accepted⟩, present, active, written⟩)
      | authorizeIssuer _ =>
          exact .inr (.inr ⟨by simp [Stores], by simp [Revokes], authorizeIssuer_ok outcome⟩)
      | deauthorizeIssuer _ _ =>
          exact .inr (.inr ⟨by simp [Stores], by simp [Revokes], deauthorizeIssuer_ok outcome⟩)
      | transferOwnership _ =>
          exact .inr (.inr ⟨by simp [Stores], by simp [Revokes], transferOwnership_ok outcome⟩)

/-- A transaction stores at most one record. -/
theorem Stores.unique {registry : Registry} {transaction : Transaction}
    {certUid otherUid : SolidityString} {certHash otherHash : Bytes32}
    (first : Stores certUid certHash registry transaction)
    (second : Stores otherUid otherHash registry transaction) :
    otherUid = certUid ∧ otherHash = certHash := by
  have sameCall := second.1.symm.trans first.1
  exact ⟨by injection sameCall, by injection sameCall⟩

/-- A transaction revokes at most one record. -/
theorem Revokes.unique {registry : Registry} {transaction : Transaction}
    {certUid otherUid : SolidityString}
    (first : Revokes certUid registry transaction)
    (second : Revokes otherUid registry transaction) : otherUid = certUid := by
  have sameCall := second.1.symm.trans first.1
  injection sameCall

/-- No transaction stores and revokes. -/
theorem Stores.not_revokes {registry : Registry} {transaction : Transaction}
    {certUid otherUid : SolidityString} {certHash : Bytes32}
    (stores : Stores certUid certHash registry transaction) :
    ¬ Revokes otherUid registry transaction := by
  rintro ⟨sameCall, -⟩
  have impossible := sameCall.symm.trans stores.1
  cases impossible

/-- The verdict is positive for an active record with the same hash, and for no other. -/
theorem verifyCertificate_valid_iff (registry : Registry) (certUid : SolidityString)
    (certHash : Bytes32) :
    registry.verifyCertificate certUid certHash = (true, .ACTIVE) ↔
      (registry.certificates certUid).exists = true ∧
        (registry.certificates certUid).status = .ACTIVE ∧
        (registry.certificates certUid).certificateHash = certHash := by
  cases present : (registry.certificates certUid).exists <;>
    cases status : (registry.certificates certUid).status <;>
    simp [verifyCertificate, present, status]

/-- Storing a hash switches its verdict on; only a revocation switches it off. -/
theorem verdict_step (registry : Registry) (transaction : Transaction)
    (certUid : SolidityString) (certHash : Bytes32) :
    (registry.apply transaction).verifyCertificate certUid certHash = (true, .ACTIVE) ↔
      Stores certUid certHash registry transaction ∨
        registry.verifyCertificate certUid certHash = (true, .ACTIVE) ∧
          ¬ Revokes certUid registry transaction := by
  simp only [verifyCertificate_valid_iff]
  rcases apply_certificates registry transaction with
    ⟨uid, hash, stores, absent, written⟩ | ⟨uid, revokes, present, active, written⟩ |
      ⟨noStore, noRevoke, unchanged⟩
  · rw [written]
    by_cases sameUid : certUid = uid
    · subst sameUid
      have storesIff : Stores certUid certHash registry transaction ↔ hash = certHash :=
        ⟨fun other => (Stores.unique other stores).2, fun same => same ▸ stores⟩
      simp [freshRecord, absent, storesIff]
    · have storesOther : ¬ Stores certUid certHash registry transaction :=
        fun other => sameUid (stores.unique other).1
      simp [Function.update_of_ne sameUid, storesOther, stores.not_revokes]
  · rw [written]
    have noStore : ¬ Stores certUid certHash registry transaction :=
      fun stores => stores.not_revokes revokes
    by_cases sameUid : certUid = uid
    · subst sameUid
      simp [noStore, revokes]
    · have revokesOther : ¬ Revokes certUid registry transaction :=
        fun other => sameUid (revokes.unique other)
      simp [Function.update_of_ne sameUid, noStore, revokesOther]
  · simp [unchanged, noStore, noRevoke]

/-- An absent record reads as `ACTIVE`, the zero value of the status. -/
def AbsentActive (registry : Registry) : Prop :=
  ∀ certUid, (registry.certificates certUid).exists = false →
    (registry.certificates certUid).status = .ACTIVE

/-- Absent records stay as they are by default. -/
theorem absentActive_step (registry : Registry) (transaction : Transaction)
    (absentActive : AbsentActive registry) : AbsentActive (registry.apply transaction) := by
  intro certUid
  rcases apply_certificates registry transaction with
    ⟨uid, hash, -, -, written⟩ | ⟨uid, -, present, -, written⟩ | ⟨-, -, unchanged⟩
  · rw [written]
    by_cases sameUid : certUid = uid
    · simp [sameUid, freshRecord]
    · simpa [Function.update_of_ne sameUid] using absentActive certUid
  · rw [written]
    by_cases sameUid : certUid = uid
    · simp [sameUid, present]
    · simpa [Function.update_of_ne sameUid] using absentActive certUid
  · rw [unchanged]
    exact absentActive certUid

/-- A record turns `REVOKED` by a revocation and stays so. -/
theorem revoked_step (registry : Registry) (transaction : Transaction)
    (absentActive : AbsentActive registry) (certUid : SolidityString) :
    ((registry.apply transaction).getCertificateRecord certUid).status = .REVOKED ↔
      Revokes certUid registry transaction ∨
        (registry.getCertificateRecord certUid).status = .REVOKED ∧ ¬ False := by
  simp only [getCertificateRecord, not_false_eq_true, and_true]
  rcases apply_certificates registry transaction with
    ⟨uid, hash, stores, absent, written⟩ | ⟨uid, revokes, -, -, written⟩ |
      ⟨-, noRevoke, unchanged⟩
  · rw [written]
    by_cases sameUid : certUid = uid
    · subst sameUid
      simp [freshRecord, stores.not_revokes, absentActive certUid absent]
    · simp [Function.update_of_ne sameUid, stores.not_revokes]
  · rw [written]
    by_cases sameUid : certUid = uid
    · subst sameUid
      simp [revokes]
    · have revokesOther : ¬ Revokes certUid registry transaction :=
        fun other => sameUid (revokes.unique other)
      simp [Function.update_of_ne sameUid, revokesOther]
  · simp [unchanged, noRevoke]

/-- After any run, the contract vouches for a hash under a UID exactly when that hash
was stored there and the UID was not revoked since, and a record is `REVOKED` exactly
when a revocation of its UID succeeded. -/
theorem verdict_refines_history (deployer : Address) (transactions : List Transaction)
    (certUid : SolidityString) (certHash : Bytes32) :
    ((afterTransactions deployer transactions).verifyCertificate certUid certHash =
        (true, .ACTIVE) ↔
      ∃ index, StoreSucceeds deployer transactions certUid certHash index ∧
        ∀ later, index < later → ¬ RevokeSucceeds deployer transactions certUid later) ∧
    (((afterTransactions deployer transactions).getCertificateRecord certUid).status =
        .REVOKED ↔
      ∃ index, RevokeSucceeds deployer transactions certUid index) := by
  have initiallyAbsent : AbsentActive (deploy deployer) := fun _ _ => rfl
  constructor
  · have verdict := observed_iff_since apply
      (fun registry : Registry =>
        registry.verifyCertificate certUid certHash = (true, .ACTIVE))
      absentActive_step (fun registry transaction _ =>
        verdict_step registry transaction certUid certHash)
      initiallyAbsent (by simp [verifyCertificate, deploy, CertificateRecord.empty])
      transactions
    exact verdict
  · have revoked := observed_iff_since apply
      (fun registry : Registry => (registry.getCertificateRecord certUid).status = .REVOKED)
      absentActive_step (fun registry transaction absentActive =>
        revoked_step registry transaction absentActive certUid)
      initiallyAbsent (by simp [getCertificateRecord, deploy, CertificateRecord.empty])
      transactions
    exact revoked.trans (since_never_cleared ..)

end Registry
end AcademicCredential.Contract
