import AcademicCredential.Contract.Verdict

/-!
# Who may change what on chain

`Effect` lists what an accepted transaction does, with every guard it passed, and
`execute_ok` is the only place where the entry points are unfolded for it. Two
statements over whole runs follow: the record under a UID changes by an authorized
store or by the original issuer's revocation only, and the owner stays outside the
issuer whitelist exactly until ownership is handed to a whitelisted wallet, which
`transferOwnership` does not refuse.
-/

namespace AcademicCredential.Contract
namespace Registry

open AcademicCredential.Lib

/-- The guards an accepted call passed, and the storage it leaves. -/
inductive Effect (registry : Registry) (message : Message) : Call → Registry → Prop where
  | authorizeIssuer {issuerAddress : Address} (byOwner : message.sender = registry.owner)
      (notZero : issuerAddress ≠ zeroAddress) (notOwner : issuerAddress ≠ registry.owner) :
      Effect registry message (.authorizeIssuer issuerAddress) { registry with
        authorizedIssuers := Function.update registry.authorizedIssuers issuerAddress true }
  | deauthorizeIssuer {issuerAddress : Address} {reason : SolidityString}
      (byOwner : message.sender = registry.owner) :
      Effect registry message (.deauthorizeIssuer issuerAddress reason) { registry with
        authorizedIssuers := Function.update registry.authorizedIssuers issuerAddress false }
  | transferOwnership {newOwner : Address} (byOwner : message.sender = registry.owner)
      (notZero : newOwner ≠ zeroAddress) (notOwner : newOwner ≠ registry.owner) :
      Effect registry message (.transferOwnership newOwner) { registry with owner := newOwner }
  | storeCertificate {certUid : SolidityString} {certHash : Bytes32}
      (byIssuer : registry.authorizedIssuers message.sender = true)
      (uidLength : certUid.length ≠ 0 ∧ certUid.length ≤ 50) (notZero : certHash ≠ zeroHash)
      (absent : (registry.certificates certUid).exists = false) :
      Effect registry message (.storeCertificate certUid certHash) { registry with
        certificates :=
          Function.update registry.certificates certUid (freshRecord message certHash)
        totalCertificates := registry.totalCertificates + 1 }
  | revokeCertificate {certUid : SolidityString}
      (byIssuer : registry.authorizedIssuers message.sender = true)
      (present : (registry.certificates certUid).exists = true)
      (active : (registry.certificates certUid).status = .ACTIVE)
      (original : (registry.certificates certUid).issuingUniversity = message.sender) :
      Effect registry message (.revokeCertificate certUid) { registry with
        certificates := Function.update registry.certificates certUid
          { registry.certificates certUid with
            status := .REVOKED, revokedAt := message.timestamp }
        totalRevocations := registry.totalRevocations + 1 }

/-- A call that succeeds does what `Effect` says of it. -/
theorem execute_ok {registry next : Registry} {message : Message} {call : Call} {event : Event}
    (success : registry.execute ⟨message, call⟩ = .ok (next, event)) :
    Effect registry message call next := by
  cases call with
  | authorizeIssuer issuerAddress =>
      simp only [execute, authorizeIssuer, onlyOwner, require_bind_ok, decide_eq_true_eq]
        at success
      obtain ⟨byOwner, notZero, notOwner, -, result⟩ := success
      cases result
      exact .authorizeIssuer byOwner notZero notOwner
  | deauthorizeIssuer issuerAddress reason =>
      simp only [execute, deauthorizeIssuer, onlyOwner, require_bind_ok, decide_eq_true_eq]
        at success
      obtain ⟨byOwner, -, result⟩ := success
      cases result
      exact .deauthorizeIssuer byOwner
  | transferOwnership newOwner =>
      simp only [execute, transferOwnership, onlyOwner, require_bind_ok, decide_eq_true_eq]
        at success
      obtain ⟨byOwner, notZero, notOwner, result⟩ := success
      cases result
      exact .transferOwnership byOwner notZero notOwner
  | storeCertificate certUid certHash =>
      simp only [execute, storeCertificate, onlyAuthorizedIssuer, validCertUid, validCertHash,
        require_bind_ok, checkedIncrement_bind_ok, Bool.not_eq_true', decide_eq_true_eq]
        at success
      obtain ⟨byIssuer, uidLength, notZero, absent, -, result⟩ := success
      cases result
      exact .storeCertificate byIssuer uidLength notZero absent
  | revokeCertificate certUid =>
      simp only [execute, revokeCertificate, onlyAuthorizedIssuer, certificateMustExist,
        certificateMustBeActive, onlyOriginalIssuer, require_bind_ok,
        checkedIncrement_bind_ok, decide_eq_true_eq] at success
      obtain ⟨byIssuer, present, active, original, -, result⟩ := success
      cases result
      exact .revokeCertificate byIssuer present active original

/-- A reverted transaction changes no state. -/
theorem apply_reverted {registry : Registry} {transaction : Transaction}
    (reverted : ¬ registry.Accepts transaction) : registry.apply transaction = registry := by
  cases outcome : registry.execute transaction with
  | error error => simp [apply, outcome]
  | ok result => exact absurd ⟨result, outcome⟩ reverted

/-- A transaction reverts and changes nothing, or it is accepted and has its effect. -/
theorem apply_effect (registry : Registry) (transaction : Transaction) :
    registry.apply transaction = registry ∧ ¬ registry.Accepts transaction ∨
      registry.Accepts transaction ∧
        Effect registry transaction.message transaction.call (registry.apply transaction) := by
  by_cases accepted : registry.Accepts transaction
  · obtain ⟨⟨next, event⟩, outcome⟩ := accepted
    have applied : registry.apply transaction = next := by simp [apply, outcome]
    refine .inr ⟨⟨_, outcome⟩, ?_⟩
    rw [applied]
    exact execute_ok outcome
  · exact .inl ⟨apply_reverted accepted, accepted⟩

/-- The guards of `storeCertificate` and the record it leaves under `certUid`. -/
def StoredBy (registry : Registry) (transaction : Transaction) (certUid : SolidityString)
    (record : CertificateRecord) : Prop :=
  ∃ certHash, transaction.call = .storeCertificate certUid certHash ∧
    (registry.certificates certUid).exists = false ∧
    registry.authorizedIssuers transaction.message.sender = true ∧
    certHash ≠ zeroHash ∧ 1 ≤ certUid.length ∧ certUid.length ≤ 50 ∧
    record.exists = true ∧ record.status = .ACTIVE ∧
    record.issuingUniversity = transaction.message.sender ∧
    record.certificateHash = certHash

/-- The guards of `revokeCertificate`, and that only `status` and `revokedAt` differ. -/
def RevokedBy (registry : Registry) (transaction : Transaction) (certUid : SolidityString)
    (record : CertificateRecord) : Prop :=
  transaction.call = .revokeCertificate certUid ∧
    (registry.certificates certUid).exists = true ∧
    (registry.certificates certUid).status = .ACTIVE ∧
    (registry.certificates certUid).issuingUniversity = transaction.message.sender ∧
    registry.authorizedIssuers transaction.message.sender = true ∧
    record = { registry.certificates certUid with
      status := .REVOKED, revokedAt := record.revokedAt }

/-- What one transaction does to the record under one UID. -/
theorem record_step (registry : Registry) (transaction : Transaction)
    (certUid : SolidityString) :
    (registry.apply transaction).certificates certUid = registry.certificates certUid ∨
      StoredBy registry transaction certUid
        ((registry.apply transaction).certificates certUid) ∨
      RevokedBy registry transaction certUid
        ((registry.apply transaction).certificates certUid) := by
  rcases apply_effect registry transaction with ⟨unchanged, -⟩ | ⟨-, effect⟩
  · exact .inl (by rw [unchanged])
  · generalize applied : registry.apply transaction = next at effect ⊢
    obtain ⟨message, call⟩ := transaction
    cases effect with
    | authorizeIssuer _ _ _ => exact .inl rfl
    | deauthorizeIssuer _ => exact .inl rfl
    | transferOwnership _ _ _ => exact .inl rfl
    | @storeCertificate uid certHash byIssuer uidLength notZero absent =>
        by_cases sameUid : certUid = uid
        · subst sameUid
          refine .inr (.inl ⟨certHash, rfl, absent, byIssuer, notZero, ?_, uidLength.2, ?_⟩)
          · omega
          · simp [freshRecord]
        · exact .inl (Function.update_of_ne sameUid ..)
    | @revokeCertificate uid byIssuer present active original =>
        by_cases sameUid : certUid = uid
        · subst sameUid
          refine .inr (.inr ⟨rfl, present, active, original, byIssuer, ?_⟩)
          simp
        · exact .inl (Function.update_of_ne sameUid ..)

/-- Block timestamps are positive and never go back. -/
def Chronological (transactions : List Transaction) : Prop :=
  (∀ transaction ∈ transactions, 0 < transaction.message.timestamp) ∧
    transactions.Pairwise fun earlier later =>
      earlier.message.timestamp ≤ later.message.timestamp

/-- `revokedAt` is set exactly on revoked records, and not before `issuedAt`. -/
def Timely (record : CertificateRecord) : Prop :=
  (record.status = .REVOKED → record.issuedAt ≤ record.revokedAt) ∧
    (record.revokedAt = 0 ↔ record.status = .ACTIVE)

/-- The invariant behind `Timely`: a record was issued at the time of some
transaction of the run, so no later revocation precedes it. -/
def IssuedWithin (transactions : List Transaction) (registry : Registry) : Prop :=
  ∀ certUid, (registry.certificates certUid).exists = true →
    Timely (registry.certificates certUid) ∧
      ∃ transaction ∈ transactions,
        (registry.certificates certUid).issuedAt = transaction.message.timestamp

/-- A transaction issues within the authorizations of a longer history. -/
theorem issuedWithin_step {transactions : List Transaction} {registry : Registry}
    {transaction : Transaction} (chronological : Chronological (transactions ++ [transaction]))
    (issued : IssuedWithin transactions registry) :
    IssuedWithin (transactions ++ [transaction]) (registry.apply transaction) := by
  obtain ⟨positive, ordered⟩ := chronological
  have now : 0 < transaction.message.timestamp := positive transaction (by simp)
  have notBefore : ∀ earlier ∈ transactions,
      earlier.message.timestamp ≤ transaction.message.timestamp := fun earlier member =>
    (List.pairwise_append.mp ordered).2.2 earlier member transaction (by simp)
  intro certUid present
  rcases apply_certificates registry transaction with
    ⟨uid, certHash, -, -, written⟩ | ⟨uid, -, existed, -, written⟩ | ⟨-, -, unchanged⟩
  · rw [written] at present ⊢
    by_cases sameUid : certUid = uid
    · subst sameUid
      refine ⟨by simp [Timely, freshRecord], transaction, by simp, ?_⟩
      simp [freshRecord]
    · rw [Function.update_of_ne sameUid] at present ⊢
      obtain ⟨timely, earlier, member, issuedAt⟩ := issued certUid present
      exact ⟨timely, earlier, by simp [member], issuedAt⟩
  · rw [written] at present ⊢
    by_cases sameUid : certUid = uid
    · subst sameUid
      obtain ⟨-, earlier, member, issuedAt⟩ := issued certUid existed
      have ordered := notBefore earlier member
      refine ⟨⟨fun _ => ?_, ?_⟩, earlier, by simp [member], by simp [issuedAt]⟩
      · simp only [Function.update_self]
        omega
      · simp only [Function.update_self, reduceCtorEq, iff_false]
        omega
    · rw [Function.update_of_ne sameUid] at present ⊢
      obtain ⟨timely, earlier, member, issuedAt⟩ := issued certUid present
      exact ⟨timely, earlier, by simp [member], issuedAt⟩
  · rw [unchanged] at present ⊢
    obtain ⟨timely, earlier, member, issuedAt⟩ := issued certUid present
    exact ⟨timely, earlier, by simp [member], issuedAt⟩

/-- In every history certificates are issued within the authorizations. -/
theorem issuedWithin_afterTransactions (deployer : Address) (transactions : List Transaction)
    (chronological : Chronological transactions) :
    IssuedWithin transactions (afterTransactions deployer transactions) := by
  induction transactions using List.reverseRecOn with
  | nil =>
      intro certUid present
      simp [afterTransactions, deploy, CertificateRecord.empty] at present
  | append_singleton transactions transaction inductionHypothesis =>
      have earlier : Chronological transactions :=
        ⟨fun other member => chronological.1 other (by simp [member]),
          (List.pairwise_append.mp chronological.2).1⟩
      rw [afterTransactions, stateAfter_snoc]
      exact issuedWithin_step chronological (inductionHypothesis earlier)

/-- The wallet of a deployer. -/
def ownerWallet : Address := ⟨List.replicate 20 0xd0, rfl⟩

/-- The wallet of a university. -/
def universityWallet : Address := ⟨List.replicate 20 0x5a, rfl⟩

/-- A university is authorized, stores a certificate and revokes it. -/
def issuedAndRevoked : List Transaction :=
  [⟨⟨ownerWallet, 1⟩, .authorizeIssuer universityWallet⟩,
    ⟨⟨universityWallet, 2⟩, .storeCertificate [0x43] ⟨List.replicate 32 0x77, rfl⟩⟩,
    ⟨⟨universityWallet, 3⟩, .revokeCertificate [0x43]⟩]

/-- A university is authorized and becomes the owner. -/
def handedOver : List Transaction :=
  [⟨⟨ownerWallet, 1⟩, .authorizeIssuer universityWallet⟩,
    ⟨⟨ownerWallet, 2⟩, .transferOwnership universityWallet⟩]

/-- In every reachable storage a transaction changes the record under a UID only as an
authorized store of an absent one or as its original, still authorized issuer's
revocation; a reverted transaction changes nothing; and under positive nondecreasing
timestamps every existing record carries consistent times. -/
theorem records_immutable (deployer : Address) (transactions : List Transaction) :
    (∀ transaction certUid,
      let registry := afterTransactions deployer transactions
      let record := (registry.apply transaction).certificates certUid
      record = registry.certificates certUid ∨ StoredBy registry transaction certUid record ∨
        RevokedBy registry transaction certUid record) ∧
    (∀ transaction, ¬ (afterTransactions deployer transactions).Accepts transaction →
      (afterTransactions deployer transactions).apply transaction =
        afterTransactions deployer transactions) ∧
    (Chronological transactions → ∀ certUid,
      ((afterTransactions deployer transactions).certificates certUid).exists = true →
        Timely ((afterTransactions deployer transactions).certificates certUid)) := by
  refine ⟨fun transaction certUid => record_step _ transaction certUid,
    fun transaction reverted => apply_reverted reverted, ?_⟩
  intro chronological certUid present
  exact (issuedWithin_afterTransactions deployer transactions chronological certUid present).1

/-- The records of the sample history are kept. -/
theorem records_immutable_revoked :
    (afterTransactions ownerWallet issuedAndRevoked).certificates [0x43] =
        ⟨⟨List.replicate 32 0x77, rfl⟩, universityWallet, .REVOKED, true, 2, 3⟩ ∧
      Timely ((afterTransactions ownerWallet issuedAndRevoked).certificates [0x43]) := by
  have chronological : Chronological issuedAndRevoked := by
    unfold Chronological
    decide
  exact ⟨by decide, (records_immutable ownerWallet issuedAndRevoked).2.2 chronological [0x43]
    (by decide)⟩

/-- The owner is not an authorized issuer and can neither store nor revoke. -/
def OwnerSeparated (registry : Registry) : Prop :=
  registry.authorizedIssuers registry.owner = false ∧
    ∀ message certUid certHash, message.sender = registry.owner →
      ¬ registry.Accepts ⟨message, .storeCertificate certUid certHash⟩ ∧
        ¬ registry.Accepts ⟨message, .revokeCertificate certUid⟩

/-- The owner hands the contract to a wallet that is an authorized issuer. -/
def HandsToIssuer (registry : Registry) (transaction : Transaction) : Prop :=
  ∃ newOwner, transaction.call = .transferOwnership newOwner ∧
    transaction.message.sender = registry.owner ∧
    registry.authorizedIssuers newOwner = true

/-- Owner and issuers are separate when the owner is no issuer. -/
theorem ownerSeparated_iff (registry : Registry) :
    OwnerSeparated registry ↔ registry.authorizedIssuers registry.owner = false := by
  constructor
  · exact fun separated => separated.1
  · intro notIssuer
    refine ⟨notIssuer, fun message certUid certHash byOwner => ⟨?_, ?_⟩⟩
    · rintro ⟨⟨next, event⟩, success⟩
      cases execute_ok success with
      | storeCertificate byIssuer _ _ _ => simp [byOwner, notIssuer] at byIssuer
    · rintro ⟨⟨next, event⟩, success⟩
      cases execute_ok success with
      | revokeCertificate byIssuer _ _ _ => simp [byOwner, notIssuer] at byIssuer

/-- The zero address is never whitelisted: `authorizeIssuer` refuses it. -/
theorem zeroAddress_not_issuer_step {registry : Registry} {transaction : Transaction}
    (notIssuer : registry.authorizedIssuers zeroAddress = false) :
    (registry.apply transaction).authorizedIssuers zeroAddress = false := by
  rcases apply_effect registry transaction with ⟨unchanged, -⟩ | ⟨-, effect⟩
  · rw [unchanged]
    exact notIssuer
  · generalize registry.apply transaction = next at effect ⊢
    obtain ⟨message, call⟩ := transaction
    cases effect with
    | authorizeIssuer _ notZero _ =>
        exact (Function.update_of_ne (Ne.symm notZero) ..).trans notIssuer
    | @deauthorizeIssuer issuerAddress _ _ =>
        by_cases zero : zeroAddress = issuerAddress
        · simp [← zero]
        · exact (Function.update_of_ne zero ..).trans notIssuer
    | transferOwnership _ _ _ => exact notIssuer
    | storeCertificate _ _ _ _ => exact notIssuer
    | revokeCertificate _ _ _ _ => exact notIssuer

/-- The zero address is never an issuer. -/
theorem zeroAddress_not_issuer (deployer : Address) (transactions : List Transaction) :
    (afterTransactions deployer transactions).authorizedIssuers zeroAddress = false :=
  @stateAfter_invariant _ _ apply (fun registry => registry.authorizedIssuers zeroAddress = false)
    (fun _ _ notIssuer => zeroAddress_not_issuer_step notIssuer) (deploy deployer) rfl transactions

/-- The owner stays no issuer unless the contract is handed to one. -/
theorem notIssuer_step {registry : Registry} {transaction : Transaction}
    (notIssuer : registry.authorizedIssuers registry.owner = false)
    (notHanded : ¬ HandsToIssuer registry transaction) :
    (registry.apply transaction).authorizedIssuers (registry.apply transaction).owner =
      false := by
  rcases apply_effect registry transaction with ⟨unchanged, -⟩ | ⟨-, effect⟩
  · rw [unchanged]
    exact notIssuer
  · generalize registry.apply transaction = next at effect ⊢
    obtain ⟨message, call⟩ := transaction
    cases effect with
    | authorizeIssuer _ _ notOwner =>
        exact (Function.update_of_ne (Ne.symm notOwner) ..).trans notIssuer
    | @deauthorizeIssuer issuerAddress _ _ =>
        by_cases ofOwner : registry.owner = issuerAddress
        · simp [← ofOwner]
        · exact (Function.update_of_ne ofOwner ..).trans notIssuer
    | @transferOwnership newOwner byOwner _ _ =>
        refine Bool.eq_false_iff.mpr fun issuer => notHanded ?_
        exact ⟨newOwner, rfl, byOwner, issuer⟩
    | storeCertificate _ _ _ _ => exact notIssuer
    | revokeCertificate _ _ _ _ => exact notIssuer

/-- Handing the contract to an issuer is accepted, and the new owner is an issuer. -/
theorem issuer_of_handsToIssuer {registry : Registry} {transaction : Transaction}
    (zeroNotIssuer : registry.authorizedIssuers zeroAddress = false)
    (notIssuer : registry.authorizedIssuers registry.owner = false)
    (handed : HandsToIssuer registry transaction) :
    (registry.apply transaction).authorizedIssuers (registry.apply transaction).owner =
      true := by
  obtain ⟨newOwner, call, byOwner, issuer⟩ := handed
  obtain ⟨message, _⟩ := transaction
  subst call
  have notZero : newOwner ≠ zeroAddress := by
    intro zero
    simp [← zero, issuer] at zeroNotIssuer
  have notOwner : newOwner ≠ registry.owner := by
    intro same
    simp [← same, issuer] at notIssuer
  have success : registry.execute ⟨message, .transferOwnership newOwner⟩ =
      .ok ({ registry with owner := newOwner },
        .OwnershipTransferred registry.owner newOwner message.timestamp) := by
    simp only [execute, transferOwnership, onlyOwner, require_bind_ok, decide_eq_true_eq]
    exact ⟨byOwner, notZero, notOwner, rfl⟩
  simp [apply, success, issuer]

/-- Along a run the owner stays separated from the issuers exactly when ownership is
never handed to an authorized issuer. -/
theorem owner_separated_iff_never_handed (deployer : Address) (transactions : List Transaction) :
    (∀ moment, OwnerSeparated (afterTransactions deployer (transactions.take moment))) ↔
      ∀ index, ¬ OccursAt apply (deploy deployer) transactions HandsToIssuer index := by
  constructor
  · rintro separated index ⟨transaction, found, handed⟩
    have before := (ownerSeparated_iff _).mp (separated index)
    have after := (ownerSeparated_iff _).mp (separated (index + 1))
    have issuer := issuer_of_handsToIssuer (zeroAddress_not_issuer ..) before handed
    rw [List.take_add_one, found, Option.toList_some, afterTransactions, stateAfter_snoc] at after
    exact absurd issuer (by simpa [afterTransactions] using after)
  · intro never moment
    refine (ownerSeparated_iff _).mpr ?_
    refine @stateAfter_invariant_of_never _ _ apply
      (fun registry => registry.authorizedIssuers registry.owner = false) HandsToIssuer
      (fun registry transaction notIssuer => notIssuer_step notIssuer) (deploy deployer) rfl
      (transactions.take moment) (fun index => ?_)
    rintro ⟨transaction, found, handed⟩
    have bound : index < moment := by
      have := (List.getElem?_eq_some_iff.mp found).1
      simp only [List.length_take] at this
      omega
    refine never index ⟨transaction, ?_, ?_⟩
    · rwa [List.getElem?_take_of_lt bound] at found
    · rwa [List.take_take, Nat.min_eq_left (Nat.le_of_lt bound)] at handed

/-- The university that was handed the contract is its owner and can still store. -/
theorem issuer_becomes_owner :
    ¬ OwnerSeparated (afterTransactions ownerWallet handedOver) ∧
      (afterTransactions ownerWallet handedOver).owner = universityWallet ∧
      (afterTransactions ownerWallet handedOver).Accepts
        ⟨⟨universityWallet, 3⟩, .storeCertificate [0x43] ⟨List.replicate 32 0x77, rfl⟩⟩ := by
  refine ⟨fun separated => ?_, rfl, ⟨_, rfl⟩⟩
  have notIssuer := separated.1
  revert notIssuer
  decide

end Registry
end AcademicCredential.Contract
