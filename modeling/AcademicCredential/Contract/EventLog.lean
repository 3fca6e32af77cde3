import AcademicCredential.Contract.Access

/-!
# The event log

What the logs of the contract tell to a reader who sees nothing else. The UID of a certificate is
an indexed `string`: on chain there is only its hash. `Index` is what the reader keeps, one entry
read after the other. `log_shows_storage`: after every run the index shows the storage of the
contract, and the record under every UID that shares its hash with no other stored one.
-/

namespace AcademicCredential.Contract

open AcademicCredential.Lib

/-- An event as it is in the log. -/
inductive Log where
  | CertificateStored (certUid certificateHash : Bytes32) (issuingUniversity : Address)
      (issuedAt totalCertificatesOnChain : Nat)
  | CertificateRevoked (certUid : Bytes32) (revokedByUniversity : Address)
      (revokedAt totalRevocationsOnChain : Nat)
  | IssuerAuthorized (issuerAddress authorizedBy : Address) (authorizedAt : Nat)
  | IssuerDeauthorized (issuerAddress deauthorizedBy : Address) (deauthorizedAt : Nat)
      (reason : SolidityString)
  | OwnershipTransferred (previousOwner newOwner : Address) (transferredAt : Nat)
  deriving DecidableEq, Repr

/-- The log entry of an event. -/
def Event.log (keccak256 : SolidityString → Bytes32) : Event → Log
  | .CertificateStored certUid certificateHash issuingUniversity issuedAt total =>
      .CertificateStored (keccak256 certUid) certificateHash issuingUniversity issuedAt total
  | .CertificateRevoked certUid revokedByUniversity revokedAt total =>
      .CertificateRevoked (keccak256 certUid) revokedByUniversity revokedAt total
  | .IssuerAuthorized issuerAddress authorizedBy authorizedAt =>
      .IssuerAuthorized issuerAddress authorizedBy authorizedAt
  | .IssuerDeauthorized issuerAddress deauthorizedBy deauthorizedAt reason =>
      .IssuerDeauthorized issuerAddress deauthorizedBy deauthorizedAt reason
  | .OwnershipTransferred previousOwner newOwner transferredAt =>
      .OwnershipTransferred previousOwner newOwner transferredAt

/-- The contract with the log it has written. -/
structure Deployment where
  registry : Registry
  events : List Event

namespace Deployment

/-- The constructor emits the first event. -/
def deploy (message : Message) : Deployment where
  registry := .deploy message.sender
  events := [.OwnershipTransferred zeroAddress message.sender message.timestamp]

/-- A transaction that reverts leaves no event. -/
def apply (deployment : Deployment) (transaction : Transaction) : Deployment :=
  match deployment.registry.execute transaction with
  | .ok (registry, event) => ⟨registry, deployment.events ++ [event]⟩
  | .error _ => deployment

/-- The log does not change what the contract does. -/
theorem registry_apply (deployment : Deployment) (transaction : Transaction) :
    (deployment.apply transaction).registry = deployment.registry.apply transaction := by
  cases outcome : deployment.registry.execute transaction with
  | ok result => simp [apply, Registry.apply, outcome]
  | error error => simp [apply, Registry.apply, outcome]

/-- The contract after a run, with what it has emitted. -/
def afterTransactions (message : Message) (transactions : List Transaction) : Deployment :=
  stateAfter apply (deploy message) transactions

/-- A deployment runs its contract. -/
theorem registry_afterTransactions (message : Message) (transactions : List Transaction) :
    (afterTransactions message transactions).registry =
      Registry.afterTransactions message.sender transactions := by
  induction transactions using List.reverseRecOn with
  | nil => rfl
  | append_singleton transactions transaction inductionHypothesis =>
      rw [afterTransactions, stateAfter_snoc, registry_apply, Registry.afterTransactions,
        stateAfter_snoc]
      exact congrArg (·.apply transaction) inductionHypothesis

end Deployment

/-- What a reader of the log knows: certificates by the hash of their UID. -/
structure Index where
  owner : Address
  totalCertificates : Nat
  totalRevocations : Nat
  authorizedIssuers : Address → Bool
  certificates : Bytes32 → CertificateRecord

namespace Index

/-- Before the first entry. -/
def blank : Index where
  owner := zeroAddress
  totalCertificates := 0
  totalRevocations := 0
  authorizedIssuers := fun _ => false
  certificates := fun _ => .empty

/-- What a reader of the log takes from one entry. -/
def read (index : Index) : Log → Index
  | .CertificateStored certUid certificateHash issuingUniversity issuedAt total =>
      { index with
        totalCertificates := total
        certificates := Function.update index.certificates certUid {
          certificateHash, issuingUniversity, issuedAt
          status := .ACTIVE
          «exists» := true
          revokedAt := 0 } }
  | .CertificateRevoked certUid _ revokedAt total =>
      { index with
        totalRevocations := total
        certificates := Function.update index.certificates certUid
          { index.certificates certUid with status := .REVOKED, revokedAt } }
  | .IssuerAuthorized issuerAddress _ _ =>
      { index with
        authorizedIssuers := Function.update index.authorizedIssuers issuerAddress true }
  | .IssuerDeauthorized issuerAddress _ _ _ =>
      { index with
        authorizedIssuers := Function.update index.authorizedIssuers issuerAddress false }
  | .OwnershipTransferred _ newOwner _ => { index with owner := newOwner }

/-- What the whole log tells. -/
def ofLogs (logs : List Log) : Index := logs.foldl read blank

/-- The log is read entry by entry. -/
theorem ofLogs_snoc (logs : List Log) (log : Log) :
    ofLogs (logs ++ [log]) = (ofLogs logs).read log := by
  simp [ofLogs]

end Index

/-- No other stored UID has the hash of this one. -/
def Distinguished (keccak256 : SolidityString → Bytes32)
    (certificates : SolidityString → CertificateRecord) (certUid : SolidityString) : Prop :=
  ∀ other, (certificates other).exists = true → keccak256 other = keccak256 certUid →
    other = certUid

/-- The index is as the storage of the contract. -/
structure Index.Shows (keccak256 : SolidityString → Bytes32) (index : Index)
    (registry : Registry) : Prop where
  owner : index.owner = registry.owner
  totalCertificates : index.totalCertificates = registry.totalCertificates
  totalRevocations : index.totalRevocations = registry.totalRevocations
  authorizedIssuers : index.authorizedIssuers = registry.authorizedIssuers
  certificates : ∀ certUid, Distinguished keccak256 registry.certificates certUid →
    index.certificates (keccak256 certUid) = registry.certificates certUid

namespace Index.Shows

variable {keccak256 : SolidityString → Bytes32} {index : Index} {registry : Registry}

/-- Where a record is written under a UID, the index shows what it showed before and the record. -/
theorem update (shows : index.Shows keccak256 registry) {certUid queried : SolidityString}
    {record shown : CertificateRecord} (present : record.exists = true)
    (isShown : certUid = queried → shown = record)
    (distinguished : Distinguished keccak256
      (Function.update registry.certificates certUid record) queried) :
    Function.update index.certificates (keccak256 certUid) shown (keccak256 queried) =
      Function.update registry.certificates certUid record queried := by
  by_cases same : certUid = queried
  · rw [isShown same]
    subst same
    rw [Function.update_self, Function.update_self]
  · have written :
        (Function.update registry.certificates certUid record certUid).exists = true := by
      rw [Function.update_self]
      exact present
    have apart : keccak256 queried ≠ keccak256 certUid := fun collide =>
      same (distinguished certUid written collide.symm)
    rw [Function.update_of_ne apart, Function.update_of_ne (Ne.symm same)]
    refine shows.certificates queried fun other stored collide => ?_
    by_cases isWritten : other = certUid
    · exact absurd (isWritten ▸ collide).symm apart
    · refine distinguished other ?_ collide
      rw [Function.update_of_ne isWritten]
      exact stored

/-- A UID that is told apart after a write to it was so before. -/
theorem distinguished_before {certUid : SolidityString} {record : CertificateRecord}
    (distinguished : Distinguished keccak256
      (Function.update registry.certificates certUid record) certUid) :
    Distinguished keccak256 registry.certificates certUid := by
  intro other stored collide
  by_cases same : other = certUid
  · exact same
  · refine distinguished other ?_ collide
    rw [Function.update_of_ne same]
    exact stored

/-- One transaction: what it emits tells what it does. -/
theorem step (shows : index.Shows keccak256 registry) {message : Message} {call : Call}
    {next : Registry} {event : Event}
    (success : registry.execute ⟨message, call⟩ = .ok (next, event)) :
    (index.read (event.log keccak256)).Shows keccak256 next := by
  obtain ⟨owner, totalCertificates, totalRevocations, authorizedIssuers, certificates⟩ := shows
  cases call with
  | authorizeIssuer issuerAddress =>
      simp only [Registry.execute, Registry.authorizeIssuer, Registry.onlyOwner, require_bind_ok]
        at success
      obtain ⟨-, -, -, -, result⟩ := success
      cases result
      refine ⟨owner, totalCertificates, totalRevocations, ?_, certificates⟩
      exact congrArg (Function.update · issuerAddress true) authorizedIssuers
  | deauthorizeIssuer issuerAddress reason =>
      simp only [Registry.execute, Registry.deauthorizeIssuer, Registry.onlyOwner,
        require_bind_ok] at success
      obtain ⟨-, -, result⟩ := success
      cases result
      refine ⟨owner, totalCertificates, totalRevocations, ?_, certificates⟩
      exact congrArg (Function.update · issuerAddress false) authorizedIssuers
  | transferOwnership newOwner =>
      simp only [Registry.execute, Registry.transferOwnership, Registry.onlyOwner,
        require_bind_ok] at success
      obtain ⟨-, -, -, result⟩ := success
      cases result
      exact ⟨rfl, totalCertificates, totalRevocations, authorizedIssuers, certificates⟩
  | storeCertificate certUid certHash =>
      simp only [Registry.execute, Registry.storeCertificate, Registry.onlyAuthorizedIssuer,
        Registry.validCertUid, Registry.validCertHash, require_bind_ok, checkedIncrement_bind_ok]
        at success
      obtain ⟨-, -, -, -, -, result⟩ := success
      cases result
      refine ⟨owner, rfl, totalRevocations, authorizedIssuers, fun queried distinguished => ?_⟩
      exact update ⟨owner, totalCertificates, totalRevocations, authorizedIssuers, certificates⟩
        rfl (fun _ => rfl) distinguished
  | revokeCertificate certUid =>
      simp only [Registry.execute, Registry.revokeCertificate, Registry.onlyAuthorizedIssuer,
        Registry.certificateMustExist, Registry.certificateMustBeActive,
        Registry.onlyOriginalIssuer, require_bind_ok, checkedIncrement_bind_ok] at success
      obtain ⟨-, present, -, -, -, result⟩ := success
      cases result
      refine ⟨owner, totalCertificates, rfl, authorizedIssuers, fun queried distinguished => ?_⟩
      refine update ⟨owner, totalCertificates, totalRevocations, authorizedIssuers, certificates⟩
        present (fun same => ?_) distinguished
      subst same
      rw [certificates certUid (distinguished_before distinguished)]

end Index.Shows

/-- After every run of transactions, reverted ones included, a reader of the log knows the owner,
the issuers and the counters, and the record under every UID that is told apart by its hash. -/
theorem log_shows_storage (keccak256 : SolidityString → Bytes32) (message : Message)
    (transactions : List Transaction) :
    (Index.ofLogs ((Deployment.afterTransactions message transactions).events.map
      (Event.log keccak256))).Shows keccak256
        (Registry.afterTransactions message.sender transactions) := by
  rw [← Deployment.registry_afterTransactions]
  induction transactions using List.reverseRecOn with
  | nil => exact ⟨rfl, rfl, rfl, rfl, fun _ _ => rfl⟩
  | append_singleton transactions transaction inductionHypothesis =>
      have before := inductionHypothesis
      rw [Deployment.afterTransactions] at before
      rw [Deployment.afterTransactions, stateAfter_snoc]
      generalize stateAfter Deployment.apply (.deploy message) transactions = deployment at before ⊢
      cases outcome : deployment.registry.execute transaction with
      | error error =>
          have unchanged : deployment.apply transaction = deployment := by
            simp [Deployment.apply, outcome]
          rw [unchanged]
          exact before
      | ok result =>
          obtain ⟨next, event⟩ := result
          have emitted : deployment.apply transaction = ⟨next, deployment.events ++ [event]⟩ := by
            simp [Deployment.apply, outcome]
          rw [emitted, List.map_append, List.map_singleton, Index.ofLogs_snoc]
          exact before.step outcome

end AcademicCredential.Contract
