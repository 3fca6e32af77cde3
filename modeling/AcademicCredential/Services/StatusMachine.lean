import AcademicCredential.Database.Decide
import AcademicCredential.Lib.History
import AcademicCredential.Services.Lifecycle

/-!
# The status machine of certificates

Runs of whole calls from an empty database and a freshly deployed contract. Between
two calls anything may be mined and the other tables may change. A run in which every
certificate a call revokes was CONFIRMED takes legal transitions only; without that
condition `confirm_revocation` revokes certificates in any status.
-/

namespace AcademicCredential

open AcademicCredential.Lib
open AcademicCredential.Contract

/-- The edges of the documented machine. -/
def BlockchainStatus.mayBecome : BlockchainStatus → BlockchainStatus → Bool
  | .PENDING, .SUBMITTED | .PENDING, .CONFIRMED | .PENDING, .FAILED => true
  | .SUBMITTED, .CONFIRMED | .SUBMITTED, .FAILED => true
  | .CONFIRMED, .REVOKED => true
  | _, _ => false

/-- What may happen to a stored certificate, on the chain as it is afterwards. -/
structure LegalChange (chain : Chain) (before after : Certificate) : Prop where
  certificateUid : after.certificateUid = before.certificateUid
  sha256Hash : after.sha256Hash = before.sha256Hash
  status : after.blockchainStatus = before.blockchainStatus ∨
    before.blockchainStatus.mayBecome after.blockchainStatus = true
  revocation : after.blockchainStatus = .REVOKED → before.blockchainStatus ≠ .REVOKED →
    RevokedOnChain chain after ∧ OnChain chain after

/-- Every stored certificate changes legally and new ones start as PENDING. -/
structure LegalStep (before after : Store) : Prop where
  kept : ∀ id row, before.database.find? .certificates id = some row →
    ∃ later, after.database.find? .certificates id = some later ∧
      LegalChange after.chain row later
  new : ∀ id row, before.database.find? .certificates id = none →
    after.database.find? .certificates id = some row → row.blockchainStatus = .PENDING

/-- Every CONFIRMED certificate is on chain with its own hash. -/
def Agreement (database : Database) (chain : Chain) : Prop :=
  ∀ row ∈ database .certificates, row.blockchainStatus = .CONFIRMED → OnChain chain row

/-- A row that stays as it is changes legally. -/
theorem LegalChange.refl (chain : Chain) (row : Certificate) : LegalChange chain row row :=
  ⟨rfl, rfl, .inl rfl, fun revoked notRevoked => absurd revoked notRevoked⟩

/-- A step that leaves the certificates alone is legal. -/
theorem LegalStep.of_eq {before after : Store}
    (same : after.database .certificates = before.database .certificates) :
    LegalStep before after := by
  have find := Database.find?_congr same
  refine ⟨fun id row found => ⟨row, (find id).trans found, .refl _ row⟩, ?_⟩
  intro id row absent found
  rw [find, absent] at found
  cases found

/-- Adding PENDING certificates is legal. -/
theorem LegalStep.of_append {before after : Store} {new : List Certificate}
    (pending : ∀ row ∈ new, row.blockchainStatus = .PENDING)
    (rows : after.database .certificates = before.database .certificates ++ new) :
    LegalStep before after := by
  have find : ∀ id, after.database.find? .certificates id =
      (before.database.find? .certificates id).or
        (new.find? fun row => @rowId .certificates row = id) := by
    intro id
    simp only [Database.find?, rows, List.find?_append]
  refine ⟨fun id row found => ⟨row, by rw [find, found]; rfl, .refl _ row⟩, ?_⟩
  intro id row absent found
  rw [find, absent, Option.none_or] at found
  exact pending row (List.mem_of_find?_eq_some found)

/-- Updating one certificate is legal when the row changes legally. -/
theorem LegalStep.of_update {before after : Store} {certificate : Certificate}
    {assignments : List CertificateAssignment}
    (found : before.database.find? .certificates certificate.id = some certificate)
    (rows : after.database .certificates =
      @updateRows .certificates certificate.id assignments (before.database .certificates))
    (legal : LegalChange after.chain certificate
      (@assignAll .certificates certificate assignments)) :
    LegalStep before after := by
  have find : ∀ id, after.database.find? .certificates id =
      if id = certificate.id then some (@assignAll .certificates certificate assignments)
      else before.database.find? .certificates id := by
    intro id
    rw [← Database.find?_update_of_found found assignments id]
    refine Database.find?_congr ?_ id
    rw [rows, Write.apply, Function.update_self]
  constructor
  · intro id row isRow
    by_cases same : id = certificate.id
    · subst same
      obtain rfl := Option.some.inj (found.symm.trans isRow)
      exact ⟨_, by rw [find, if_pos rfl], legal⟩
    · exact ⟨row, by rw [find, if_neg same, isRow], .refl _ row⟩
  · intro id row absent isRow
    have different : id ≠ certificate.id := by
      rintro rfl
      rw [found] at absent
      cases absent
    rw [find, if_neg different, absent] at isRow
    cases isRow

/-- The rows of an updated table are the old ones, but for the updated one. -/
theorem mem_updateRows {database : Database} (keyed : database.Keyed) {table : Table}
    {row stored : Row table} {assignments : List (Assignment table)}
    (found : database.find? table (rowId row) = some row)
    (member : stored ∈ updateRows (rowId row) assignments (database table)) :
    stored ∈ database table ∨ stored = assignAll row assignments := by
  obtain ⟨old, isOld, rfl⟩ := List.mem_map.mp member
  by_cases sameKey : rowId old = rowId row
  · obtain rfl := keyed.eq_of_rowId isOld (Database.find?_some found).1 sameKey
    exact .inr (if_pos rfl)
  · rw [if_neg sameKey]
    exact .inl isOld

/-- The updated row keeps its UID and its hash. -/
theorem sameContent_assignAll (certificate : Certificate)
    (assignments : List CertificateAssignment) :
    (@assignAll .certificates certificate assignments).certificateUid =
        certificate.certificateUid ∧
      (@assignAll .certificates certificate assignments).sha256Hash = certificate.sha256Hash := by
  induction assignments generalizing certificate with
  | nil => exact ⟨rfl, rfl⟩
  | cons first rest inductionHypothesis =>
      obtain ⟨sameUid, sameHash⟩ := inductionHypothesis (first.assign certificate)
      refine ⟨sameUid.trans ?_, sameHash.trans ?_⟩ <;> cases first <;> rfl

/-- An update changes the status legally when the status may become the new one. -/
theorem LegalChange.of_assignAll {chain : Chain} {certificate : Certificate}
    (assignments : List CertificateAssignment) (status : BlockchainStatus)
    (becomes : (@assignAll .certificates certificate assignments).blockchainStatus = status)
    (legal : status = certificate.blockchainStatus ∨
      certificate.blockchainStatus.mayBecome status = true)
    (revocation : status = .REVOKED →
      RevokedOnChain chain certificate ∧ OnChain chain certificate) :
    LegalChange chain certificate (@assignAll .certificates certificate assignments) := by
  obtain ⟨sameUid, sameHash⟩ := sameContent_assignAll certificate assignments
  refine ⟨sameUid, sameHash, becomes ▸ legal, fun revoked _ => ?_⟩
  obtain ⟨revokedOnChain, onChain⟩ := revocation (becomes.symm.trans revoked)
  exact ⟨revokedOnChain.congr sameUid, onChain.congr sameUid sameHash⟩

/-- What a call leaves is a legal step that keeps the agreement, provided every
certificate it revokes was CONFIRMED. -/
theorem CertificateEffect.legal {runtime : Runtime} {call : CertificateCall}
    {start after : Direct} {before later : Store}
    (effect : CertificateEffect runtime call start after)
    (isBefore : before.database = start.database ∧ before.chain = start.chain)
    (isLater : later.database = after.database ∧ later.chain = after.chain)
    (grows : Chain.Grows before.chain later.chain) (keyed : before.database.Keyed)
    (agreement : Agreement before.database before.chain)
    (confirmed : ∀ certificate, call.Revokes runtime start certificate →
      certificate.blockchainStatus = .CONFIRMED) :
    LegalStep before later ∧ Agreement later.database later.chain := by
  have stillAgrees : ∀ row ∈ before.database .certificates,
      row.blockchainStatus = .CONFIRMED → OnChain later.chain row :=
    fun row member isConfirmed => (agreement row member isConfirmed).grow grows
  cases effect with
  | added new pending rows =>
      rw [← isLater.1, ← isBefore.1] at rows
      refine ⟨.of_append pending rows, fun row member isConfirmed => ?_⟩
      rw [rows] at member
      rcases List.mem_append.mp member with old | isNew
      · exact stillAgrees row old isConfirmed
      · rw [pending row isNew] at isConfirmed
        cases isConfirmed
  | marked certificate status found unconfirmed target rows =>
      rw [← isBefore.1] at found
      rw [← isLater.1, ← isBefore.1] at rows
      rw [← isLater.2] at target
      constructor
      · refine .of_update found rows (.of_assignAll _ status rfl ?_ ?_)
        · rcases unconfirmed with pending | submitted <;> rcases target with rfl | ⟨rfl, -⟩
          · exact .inr (pending ▸ rfl)
          · exact .inr (pending ▸ rfl)
          · exact .inl submitted.symm
          · exact .inr (submitted ▸ rfl)
        · rintro rfl
          rcases target with impossible | ⟨impossible, -⟩ <;> cases impossible
      · intro row member isConfirmed
        rw [rows] at member
        rcases mem_updateRows keyed found member with old | rfl
        · exact stillAgrees row old isConfirmed
        · rcases target with rfl | ⟨rfl, onChain⟩
          · cases isConfirmed
          · exact onChain.congr rfl rfl
  | revoked certificate reason user time found revokes revokedOnChain rows =>
      rw [← isBefore.1] at found
      rw [← isLater.1, ← isBefore.1] at rows
      rw [← isLater.2] at revokedOnChain
      have wasConfirmed := confirmed certificate revokes
      have onChain := stillAgrees certificate (Database.find?_some found).1 wasConfirmed
      have becomes : (@assignAll .certificates certificate
          (CertificateRepository.revocation reason user time)).blockchainStatus = .REVOKED := rfl
      constructor
      · refine .of_update found rows (.of_assignAll _ .REVOKED becomes ?_ ?_)
        · exact .inr (wasConfirmed ▸ rfl)
        · exact fun _ => ⟨revokedOnChain, onChain⟩
      · intro row member isConfirmed
        rw [rows] at member
        rcases mem_updateRows keyed found member with old | rfl
        · exact stillAgrees row old isConfirmed
        · rw [becomes] at isConfirmed
          cases isConfirmed

/-- The other tables may hold anything that is valid. -/
def OnlyElsewhere (before after : Database) : Prop :=
  after.Valid ∧ after .certificates = before .certificates

instance (before after : Database) : Decidable (OnlyElsewhere before after) :=
  inferInstanceAs (Decidable (_ ∧ _))

/-- A request, mined transactions, or a step elsewhere. -/
inductive Event where
  /-- A whole call on a session of its own. -/
  | request (call : CertificateCall) (inputs : Inputs)
  | mined (transactions : List MinedTransaction)
  /-- Whatever else the application does to its database. -/
  | elsewhere (database : Database)

/-- A step of the store. -/
def Event.apply (runtime : Runtime) (store : Store) : Event → Store
  | .request call inputs =>
      ((call.action runtime).run sessionHandler (store, .fresh inputs)).2.1
  | .mined transactions => { store with chain := store.chain.mineAll transactions }
  | .elsewhere database =>
      if OnlyElsewhere store.database database then { store with database } else store

/-- An empty database and a contract that was just deployed. -/
def initialStore (deployer : Address) : Store where
  database := .empty
  chain := .deployed deployer
  files := []

/-- The store after a run. -/
def storeAfter (runtime : Runtime) (deployer : Address) (events : List Event) : Store :=
  stateAfter (Event.apply runtime) (initialStore deployer) events

/-- The event is a call that revokes a certificate which is not CONFIRMED. -/
def RevokesUnconfirmed (runtime : Runtime) (store : Store) : Event → Prop
  | .request call inputs => ∃ certificate, call.Revokes runtime (.begun store inputs) certificate ∧
      certificate.blockchainStatus ≠ .CONFIRMED
  | _ => False

/-- What every state of a run with the condition has. -/
structure Consistent (store : Store) : Prop where
  valid : store.database.Valid
  agreement : Agreement store.database store.chain

/-- The empty store is consistent. -/
theorem Consistent.initial (deployer : Address) : Consistent (initialStore deployer) :=
  ⟨.empty, fun _ member => nomatch member⟩

/-- The database and the chain after a request, computed on the direct state. -/
theorem apply_request (runtime : Runtime) (store : ValidStore) (call : CertificateCall)
    (inputs : Inputs) :
    let after := ((call.action runtime).run directHandler (.fresh store.toStore inputs)).2
    ((Event.request call inputs).apply runtime store.toStore).database = after.database ∧
      ((Event.request call inputs).apply runtime store.toStore).chain = after.chain := by
  have described := (store.run_eq inputs (call.action runtime)).2
  exact ⟨congrArg Direct.database described, congrArg Direct.chain described⟩

/-- One event that meets the condition is a legal step and keeps the store consistent. -/
theorem Event.apply_legal {runtime : Runtime} {store : Store} (consistent : Consistent store)
    (event : Event) (confirmedOnly : ¬ RevokesUnconfirmed runtime store event) :
    LegalStep store (event.apply runtime store) ∧ Consistent (event.apply runtime store) := by
  obtain ⟨valid, agreement⟩ := consistent
  cases event with
  | request call inputs =>
      have isLater := apply_request runtime ⟨store, valid⟩ call inputs
      have grows := run_grows (call.action runtime) (.fresh store inputs)
      have bothValid : (Direct.fresh store inputs).Valid := ⟨valid, valid⟩
      have stillValid := (run_valid (call.action runtime) bothValid).database
      rw [← isLater.1] at stillValid
      rw [← isLater.2] at grows
      have confirmed : ∀ certificate, call.Revokes runtime (.begun store inputs) certificate →
          certificate.blockchainStatus = .CONFIRMED := by
        intro certificate revokes
        by_contra unconfirmed
        exact confirmedOnly ⟨certificate, revokes, unconfirmed⟩
      have effect : CertificateEffect runtime call (.begun store inputs) _ :=
        call_effect call ⟨store, valid⟩ inputs
      have isBefore : store.database = (Direct.begun store inputs).database ∧
          store.chain = (Direct.begun store inputs).chain := ⟨rfl, rfl⟩
      obtain ⟨legal, stillAgrees⟩ := effect.legal isBefore isLater grows valid.keyed agreement
        confirmed
      exact ⟨legal, stillValid, stillAgrees⟩
  | mined transactions =>
      refine ⟨.of_eq rfl, valid, fun row member isConfirmed => ?_⟩
      exact (agreement row member isConfirmed).grow (Chain.grows_mineAll _ transactions)
  | elsewhere database =>
      rw [Event.apply]
      split
      · rename_i only
        refine ⟨.of_eq only.2, only.1, fun row member isConfirmed => ?_⟩
        exact agreement row (only.2 ▸ member) isConfirmed
      · exact ⟨.of_eq rfl, valid, agreement⟩

/-- A run that revokes only what is confirmed leaves the store consistent. -/
theorem consistent_storeAfter {runtime : Runtime} {deployer : Address} {events : List Event}
    (confirmedOnly : ∀ index, ¬ OccursAt (Event.apply runtime) (initialStore deployer) events
      (RevokesUnconfirmed runtime) index) :
    Consistent (storeAfter runtime deployer events) := by
  refine stateAfter_invariant_of_never (Event.apply runtime) ?_ (.initial deployer) confirmedOnly
  intro store event consistent meets
  exact (event.apply_legal consistent meets).2

/-- In every run in which each certificate a call revokes was CONFIRMED, every step is
legal: statuses follow the documented machine, and a certificate enters REVOKED only
from CONFIRMED and with a revoked record of its own hash on chain. -/
theorem transitions_legal (runtime : Runtime) (deployer : Address) (events : List Event)
    (event : Event)
    (confirmedOnly : ∀ index, ¬ OccursAt (Event.apply runtime) (initialStore deployer)
      (events ++ [event]) (RevokesUnconfirmed runtime) index) :
    LegalStep (storeAfter runtime deployer events)
      (storeAfter runtime deployer (events ++ [event])) := by
  have before : ∀ index, ¬ OccursAt (Event.apply runtime) (initialStore deployer) events
      (RevokesUnconfirmed runtime) index := fun index occurred =>
    confirmedOnly index ((occursAt_snoc ..).mpr (.inl occurred))
  have last : ¬ RevokesUnconfirmed runtime (storeAfter runtime deployer events) event :=
    fun revokes => confirmedOnly events.length ((occursAt_snoc ..).mpr (.inr ⟨rfl, revokes⟩))
  have legal := (event.apply_legal (consistent_storeAfter before) last).1
  rw [storeAfter, storeAfter, stateAfter_snoc]
  exact legal

/-- A legal step shows in the statuses as an edge of the machine. -/
theorem LegalStep.edge {before after : Store} (legal : LegalStep before after) {id : Uuid}
    {old new : BlockchainStatus} (was : certificateStatus before.database id = some old)
    (becomes : certificateStatus after.database id = some new) :
    new = old ∨ old.mayBecome new = true := by
  obtain ⟨row, found, rfl⟩ := Option.map_eq_some_iff.mp was
  obtain ⟨later, foundLater, change⟩ := legal.kept id row found
  rw [certificateStatus, foundLater] at becomes
  cases becomes
  exact change.status

/-- The condition holds of a confirmation when the certificate's status is CONFIRMED. -/
theorem not_revokesUnconfirmed {runtime : Runtime} {store : Store} {certId : Uuid}
    {txHash : String} {user : User} {inputs : Inputs}
    (confirmed : certificateStatus store.database certId = some .CONFIRMED) :
    ¬ RevokesUnconfirmed runtime store
      (.request (.confirmRevocation certId txHash user) inputs) := by
  rintro ⟨certificate, revokes, unconfirmed⟩
  have found : store.database.find? .certificates certId = some certificate :=
    revokes.revocable.found
  rw [certificateStatus, found] at confirmed
  exact unconfirmed (Option.some.inj confirmed)

/-- The event is a call of `confirm_revocation`. -/
def Event.confirmsRevocation : Event → Bool
  | .request (.confirmRevocation _ _ _) _ => true
  | _ => false

/-- Nothing else revokes certificates. -/
theorem RevokesUnconfirmed.confirmsRevocation {runtime : Runtime} {store : Store} {event : Event}
    (revokes : RevokesUnconfirmed runtime store event) : event.confirmsRevocation = true := by
  cases event with
  | request call inputs =>
      obtain ⟨certificate, revokes, -⟩ := revokes
      cases call with
      | confirmRevocation certId txHash user => rfl
      | upload | confirmStorage | initiateRevocation => cases revokes
  | mined | elsewhere => cases revokes

namespace Sample

/-- The graduate. -/
def graduate : User where
  id := 4
  email := "graduate@uni.example"
  passwordHash := passwordHash
  role := .STUDENT
  universityId := none
  firstName := "Given"
  lastName := "Graduate"
  isActive := true
  lastLoginAt := none
  lastLoginIp := none
  failedLoginAttempts := 0
  lockedUntil := none
  createdAt := 1

/-- Accounts as they are before the first certificate is uploaded. -/
def accounts : Database
  | .universities => [university]
  | .users => [administrator, graduate]
  | .students => [{ id := 5, userId := 4 }]
  | _ => []

/-- The database of accounts is valid. -/
theorem valid_accounts : accounts.Valid := by decide +kernel

/-- The UID the upload assigns. -/
def certUid : String := "UNI-2023-00001"

/-- The upload. -/
def upload : Event :=
  .request (.upload file "degree.pdf"
    { recipientEmail := "graduate@uni.example"
      degreeTitle := "BSc"
      fieldOfStudy := "Mathematics"
      issueDate := 19000
      expiryDate := none
      gradeClassification := none
      honors := none } administrator) (inputs answered)

/-- The confirmation of the revocation. -/
def confirmRevocation : Event :=
  .request (.confirmRevocation 101 revocationTxHash administrator) (inputs answered)

/-- A certificate that is uploaded, confirmed and revoked on chain. -/
def revocableRun : List Event :=
  [.elsewhere accounts, upload, .mined [authorization, storage certUid],
    .request (.confirmStorage 101 txHash administrator) (inputs answered), .mined [revocation certUid]]

/-- A certificate that is uploaded and stored and revoked on chain without the backend. -/
def unconfirmedRun : List Event :=
  [.elsewhere accounts, upload, .mined [authorization, storage certUid, revocation certUid]]

/-- The status of the certificate before its revocation in either run, and after it in the
second one. -/
theorem statuses_of_runs :
    certificateStatus (storeAfter Runtime.sample deployer revocableRun).database 101 =
        some .CONFIRMED ∧
      certificateStatus (storeAfter Runtime.sample deployer unconfirmedRun).database 101 =
        some .PENDING ∧
      certificateStatus (storeAfter Runtime.sample deployer
        (unconfirmedRun ++ [confirmRevocation])).database 101 = some .REVOKED := by
  decide +kernel

/-- No event of the sample run revokes a certificate that is not CONFIRMED. -/
theorem revocableRun_meets (index : Nat) :
    ¬ OccursAt (Event.apply Runtime.sample) (initialStore deployer)
      (revocableRun ++ [confirmRevocation]) (RevokesUnconfirmed Runtime.sample) index := by
  rw [occursAt_snoc]
  rintro (⟨event, found, revokes⟩ | ⟨-, revokes⟩)
  · have others : ∀ other ∈ revocableRun, other.confirmsRevocation = false := by
      simp [revocableRun, upload, Event.confirmsRevocation]
    have impossible := others event (List.mem_of_getElem? found)
    rw [revokes.confirmsRevocation] at impossible
    cases impossible
  · exact not_revokesUnconfirmed statuses_of_runs.1 revokes

end Sample

/-- The whole life of the sample certificate is legal, its revocation included. -/
theorem transitions_legal_revocation :
    LegalStep (storeAfter Runtime.sample Sample.deployer Sample.revocableRun)
      (storeAfter Runtime.sample Sample.deployer
        (Sample.revocableRun ++ [Sample.confirmRevocation])) :=
  transitions_legal Runtime.sample Sample.deployer Sample.revocableRun Sample.confirmRevocation
    Sample.revocableRun_meets

/-- `confirm_revocation` revokes a certificate that was only PENDING: it looks at
`is_active` and at the chain, not at the status. -/
theorem pending_certificate_revoked :
    ¬ LegalStep (storeAfter Runtime.sample Sample.deployer Sample.unconfirmedRun)
      (storeAfter Runtime.sample Sample.deployer
        (Sample.unconfirmedRun ++ [Sample.confirmRevocation])) := by
  intro legal
  obtain ⟨-, pending, revoked⟩ := Sample.statuses_of_runs
  rcases legal.edge pending revoked with impossible | impossible <;> cases impossible

end AcademicCredential
