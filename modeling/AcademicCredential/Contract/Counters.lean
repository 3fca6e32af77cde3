import AcademicCredential.Contract.Access
import Mathlib.Data.Set.Card

/-!
# The counters of the registry

`totalCertificates` and `totalRevocations` are incremented apart from the mapping they
count. Every accepted store adds a UID that had no record and every accepted
revocation adds one whose record was active, so over any run the counters are the
sizes of the two sets of UIDs, and the second set lies in the first.
-/

namespace AcademicCredential.Contract
namespace Registry

open AcademicCredential.Lib

/-- The UIDs under which a record exists. -/
def existingUids (registry : Registry) : Set SolidityString :=
  {certUid | (registry.certificates certUid).exists = true}

/-- The UIDs whose record exists with status `REVOKED`. -/
def revokedUids (registry : Registry) : Set SolidityString :=
  {certUid | (registry.certificates certUid).exists = true ∧
    (registry.certificates certUid).status = .REVOKED}

/-- What is revoked exists. -/
theorem revokedUids_subset (registry : Registry) :
    registry.revokedUids ⊆ registry.existingUids :=
  fun _ revoked => revoked.1

/-- The counters are the sizes of the sets they count, which are finite. -/
structure Counted (registry : Registry) : Prop where
  finite : registry.existingUids.Finite
  certificates : registry.totalCertificates = registry.existingUids.ncard
  revocations : registry.totalRevocations = registry.revokedUids.ncard

/-- Counters depend on records and counts only. -/
theorem Counted.congr {registry next : Registry} (counted : Counted registry)
    (sameRecords : next.certificates = registry.certificates)
    (sameCertificates : next.totalCertificates = registry.totalCertificates)
    (sameRevocations : next.totalRevocations = registry.totalRevocations) : Counted next := by
  have sameExisting : next.existingUids = registry.existingUids := by
    simp [existingUids, sameRecords]
  have sameRevoked : next.revokedUids = registry.revokedUids := by
    simp [revokedUids, sameRecords]
  constructor
  · rw [sameExisting]
    exact counted.finite
  · rw [sameCertificates, sameExisting]
    exact counted.certificates
  · rw [sameRevocations, sameRevoked]
    exact counted.revocations

/-- A store adds a UID that was not counted and revokes nothing. -/
theorem Counted.store {registry next : Registry} {message : Message}
    {certUid : SolidityString} {certHash : Bytes32} (counted : Counted registry)
    (absent : (registry.certificates certUid).exists = false)
    (written : next.certificates =
      Function.update registry.certificates certUid (freshRecord message certHash))
    (incremented : next.totalCertificates = registry.totalCertificates + 1)
    (sameRevocations : next.totalRevocations = registry.totalRevocations) : Counted next := by
  have notCounted : certUid ∉ registry.existingUids := by simp [existingUids, absent]
  have grown : next.existingUids = insert certUid registry.existingUids := by
    ext other
    by_cases same : other = certUid
    · simp [same, existingUids, written, freshRecord]
    · simp [existingUids, written, same]
  have sameRevoked : next.revokedUids = registry.revokedUids := by
    ext other
    by_cases same : other = certUid
    · simp [same, revokedUids, written, freshRecord, absent]
    · simp [revokedUids, written, same]
  constructor
  · rw [grown]
    exact counted.finite.insert certUid
  · rw [grown, Set.ncard_insert_of_notMem notCounted counted.finite, incremented,
      counted.certificates]
  · rw [sameRevoked, sameRevocations, counted.revocations]

/-- A revocation adds an active UID to the revoked ones and keeps the existing ones. -/
theorem Counted.revoke {registry next : Registry} {certUid : SolidityString} {revokedAt : Nat}
    (counted : Counted registry) (present : (registry.certificates certUid).exists = true)
    (active : (registry.certificates certUid).status = .ACTIVE)
    (written : next.certificates = Function.update registry.certificates certUid
      { registry.certificates certUid with status := .REVOKED, revokedAt })
    (sameCertificates : next.totalCertificates = registry.totalCertificates)
    (incremented : next.totalRevocations = registry.totalRevocations + 1) : Counted next := by
  have notRevoked : certUid ∉ registry.revokedUids := by simp [revokedUids, active]
  have revokedFinite : registry.revokedUids.Finite :=
    counted.finite.subset registry.revokedUids_subset
  have sameExisting : next.existingUids = registry.existingUids := by
    ext other
    by_cases same : other = certUid
    · simp [same, existingUids, written, present]
    · simp [existingUids, written, same]
  have grown : next.revokedUids = insert certUid registry.revokedUids := by
    ext other
    by_cases same : other = certUid
    · simp [same, revokedUids, written, present]
    · simp [revokedUids, written, same]
  constructor
  · rw [sameExisting]
    exact counted.finite
  · rw [sameExisting, sameCertificates, counted.certificates]
  · rw [grown, Set.ncard_insert_of_notMem notRevoked revokedFinite, incremented,
      counted.revocations]

/-- A transaction keeps the counters true. -/
theorem counted_step (registry : Registry) (transaction : Transaction)
    (counted : Counted registry) : Counted (registry.apply transaction) := by
  rcases apply_effect registry transaction with ⟨unchanged, -⟩ | ⟨-, effect⟩
  · rw [unchanged]
    exact counted
  · generalize registry.apply transaction = next at effect ⊢
    obtain ⟨message, call⟩ := transaction
    cases effect with
    | authorizeIssuer _ _ _ => exact counted.congr rfl rfl rfl
    | deauthorizeIssuer _ => exact counted.congr rfl rfl rfl
    | transferOwnership _ _ _ => exact counted.congr rfl rfl rfl
    | storeCertificate _ _ _ absent => exact counted.store absent rfl rfl rfl
    | revokeCertificate _ present active _ => exact counted.revoke present active rfl rfl rfl

/-- A transaction lowers no counter. -/
theorem counters_monotone (registry : Registry) (transaction : Transaction) :
    registry.totalCertificates ≤ (registry.apply transaction).totalCertificates ∧
      registry.totalRevocations ≤ (registry.apply transaction).totalRevocations := by
  rcases apply_effect registry transaction with ⟨unchanged, -⟩ | ⟨-, effect⟩
  · rw [unchanged]
    exact ⟨Nat.le_refl _, Nat.le_refl _⟩
  · generalize registry.apply transaction = next at effect ⊢
    obtain ⟨message, call⟩ := transaction
    cases effect <;> constructor <;> simp

/-- After any run the counters are the numbers of existing and of revoked records, so
no more records are revoked than exist, and no transaction decreases a counter. -/
theorem counters_count (deployer : Address) (transactions : List Transaction) :
    let registry := afterTransactions deployer transactions
    registry.existingUids.Finite ∧
      registry.totalCertificates = registry.existingUids.ncard ∧
      registry.totalRevocations = registry.revokedUids.ncard ∧
      registry.totalRevocations ≤ registry.totalCertificates ∧
      ∀ transaction,
        registry.totalCertificates ≤ (registry.apply transaction).totalCertificates ∧
          registry.totalRevocations ≤ (registry.apply transaction).totalRevocations := by
  intro registry
  have initially : Counted (deploy deployer) := by
    have noRecords : (deploy deployer).existingUids = ∅ := by
      simp [existingUids, deploy, CertificateRecord.empty]
    have noneRevoked : (deploy deployer).revokedUids = ∅ := by
      simp [revokedUids, deploy, CertificateRecord.empty]
    constructor <;> simp [noRecords, noneRevoked] <;> rfl
  have counted : Counted registry := stateAfter_invariant apply counted_step initially transactions
  refine ⟨counted.finite, counted.certificates, counted.revocations, ?_, ?_⟩
  · rw [counted.certificates, counted.revocations]
    exact Set.ncard_le_ncard registry.revokedUids_subset counted.finite
  · exact fun transaction => counters_monotone registry transaction

end Registry
end AcademicCredential.Contract
