import AcademicCredential.Database.Decide
import AcademicCredential.ServiceFootprints
import AcademicCredential.Services.RevocationEffect

/-!
# Which status writes survive

`StatusMarks` are the statuses that a confirmation gives to the certificate and to its
transaction row, as the answers of the chain demand. A confirmation that raises leaves its
transaction block through `async with db.begin()`, which rolls the block back, so that the marks of
a path that raises are lost. The main result says for both services on which states and answers the
committed statuses are the marked ones.
-/

namespace AcademicCredential

open AcademicCredential.Lib

/-- The statuses that a path gives to the certificate, and to its transaction row with the
transaction hash. `none` leaves a status as it is. -/
structure StatusMarks where
  certificate : Option BlockchainStatus
  transaction : Option (TransactionStatus × Option String)

/-- A path that writes nothing. -/
def StatusMarks.nothing : StatusMarks := ⟨none, none⟩

/-- The statuses of `after` are those of `before`, except for the certificate and its transaction
row, which have the statuses of the marks. -/
structure Carries (before after : Database) (certId : Uuid) (tx? : Option BlockchainTransaction)
    (marks : StatusMarks) : Prop where
  certificate : certificateStatus after certId =
    marks.certificate.or (certificateStatus before certId)
  transaction : ∀ tx ∈ tx?, transactionStatus after tx.id =
    marks.transaction.or (transactionStatus before tx.id)
  otherCertificates : ∀ id, id ≠ certId → certificateStatus after id = certificateStatus before id
  otherTransactions : ∀ id, (∀ tx ∈ tx?, tx.id ≠ id) →
    transactionStatus after id = transactionStatus before id

/-- The certificate and its transaction row have the statuses of the marks already. -/
structure StatusMarks.Shown (marks : StatusMarks) (certificate : Certificate)
    (tx? : Option BlockchainTransaction) : Prop where
  certificate : ∀ status ∈ marks.certificate, certificate.blockchainStatus = status
  transaction : ∀ tx ∈ tx?, ∀ mark ∈ marks.transaction, (tx.status, tx.txHash) = mark

section marks

variable {before after : Database} {certificate : Certificate} {certId : Uuid}
  {tx? : Option BlockchainTransaction} {marks : StatusMarks}

/-- Nothing changes where nothing is marked. -/
theorem StatusMarks.shown_nothing : StatusMarks.nothing.Shown certificate tx? :=
  ⟨fun _ isMark => (nomatch isMark), fun _ _ _ isMark => (nomatch isMark)⟩

/-- A status that the certificate has not is not shown. -/
theorem StatusMarks.not_shown {status : BlockchainStatus}
    {mark : Option (TransactionStatus × Option String)}
    (other : certificate.blockchainStatus ≠ status) :
    ¬ StatusMarks.Shown ⟨some status, mark⟩ certificate tx? :=
  fun shown => other (shown.certificate status rfl)

/-- A mark of the row alone is shown when the row has it. -/
theorem StatusMarks.shown_row_iff {mark : TransactionStatus × Option String} :
    StatusMarks.Shown ⟨none, some mark⟩ certificate tx? ↔
      ∀ tx ∈ tx?, (tx.status, tx.txHash) = mark := by
  constructor
  · exact fun shown tx isTx => shown.transaction tx isTx _ rfl
  · intro shown
    refine ⟨fun _ isMark => (nomatch isMark), fun tx isTx other isMark => ?_⟩
    obtain rfl := Option.some.inj isMark
    exact shown tx isTx

/-- Only the statuses of the two databases count. -/
theorem SameStatuses.carries_iff {other : Database} (same : SameStatuses after other) :
    Carries before after certId tx? marks ↔ Carries before other certId tx? marks := by
  constructor
  · intro carries
    exact ⟨(same.certificates _).symm.trans carries.certificate,
      fun tx isTx => (same.transactions _).symm.trans (carries.transaction tx isTx),
      fun id different => (same.certificates _).symm.trans (carries.otherCertificates id different),
      fun id different => (same.transactions _).symm.trans (carries.otherTransactions id different)⟩
  · intro carries
    exact ⟨(same.certificates _).trans carries.certificate,
      fun tx isTx => (same.transactions _).trans (carries.transaction tx isTx),
      fun id different => (same.certificates _).trans (carries.otherCertificates id different),
      fun id different => (same.transactions _).trans (carries.otherTransactions id different)⟩

/-- A database that stays as it is carries the marks that it shows already. -/
theorem carries_self_iff (found : before.find? .certificates certId = some certificate)
    (stored : Stored before tx?) :
    Carries before before certId tx? marks ↔ marks.Shown certificate tx? := by
  constructor
  · intro carries
    refine ⟨fun status isMark => ?_, fun tx isTx mark isMark => ?_⟩
    · have atCertificate := carries.certificate
      rw [Option.mem_def.mp isMark, certificateStatus, found] at atCertificate
      exact Option.some.inj atCertificate
    · have atRow := carries.transaction tx isTx
      rw [Option.mem_def.mp isMark, transactionStatus, stored tx isTx] at atRow
      exact Option.some.inj atRow
  · intro shown
    refine ⟨?_, fun tx isTx => ?_, fun _ _ => rfl, fun _ _ => rfl⟩
    · cases isMark : marks.certificate with
      | none => rfl
      | some status =>
          rw [certificateStatus, found]
          exact congrArg some (shown.certificate status isMark)
    · cases isMark : marks.transaction with
      | none => rfl
      | some mark =>
          rw [transactionStatus, stored tx isTx]
          exact congrArg some (shown.transaction tx isTx mark isMark)

/-- An update of the transaction row that is repeated is accepted. -/
theorem accepted_of_shown (valid : before.Valid) (stored : Stored before tx?)
    {status : BlockchainStatus} {txHash : String}
    (shown : StatusMarks.Shown ⟨some status, some (.SUBMITTED, some txHash)⟩ certificate tx?) :
    Accepted before tx? [.status .SUBMITTED, .txHash (some txHash)] := by
  intro tx isTx
  obtain ⟨sameStatus, sameHash⟩ := Prod.mk.inj (shown.transaction tx isTx _ rfl)
  have unchanged : @assignAll .blockchainTransactions tx
      [.status .SUBMITTED, .txHash (some txHash)] = tx := by
    cases tx
    cases sameStatus
    cases sameHash
    rfl
  have member := (Database.find?_some (stored tx isTx)).1
  rw [unchanged]
  exact valid.accepts member rfl rfl (valid.admissible .blockchainTransactions tx member)

end marks

section writes

variable {before : Database} {certId : Uuid} {tx? : Option BlockchainTransaction}

/-- A state with the database of before carries no mark. -/
theorem carries_nothing {after : Database} (same : after = before) :
    Carries before after certId tx? .nothing := by
  subst same
  exact ⟨rfl, fun _ _ => rfl, fun _ _ => rfl, fun _ _ => rfl⟩

/-- A status and a hash written to the transaction row. -/
theorem Carries.on_row {direct : Direct} {status : Option BlockchainStatus}
    (carries : Carries before direct.working certId tx? ⟨status, none⟩)
    (stored : Stored direct.working tx?) {assignments : List TransactionAssignment}
    {mark : TransactionStatus × Option String}
    (marked : ∀ tx : BlockchainTransaction,
      (@assignAll .blockchainTransactions tx assignments).status = mark.1 ∧
        (@assignAll .blockchainTransactions tx assignments).txHash = mark.2) :
    Carries before (direct.recorded tx? assignments).working certId tx? ⟨status, some mark⟩ := by
  have certificates : ∀ id, certificateStatus (direct.recorded tx? assignments).working id =
      certificateStatus direct.working id := by
    intro id
    simp only [certificateStatus,
      Database.find?_congr (direct.recorded_certificates tx? assignments)]
  cases tx? with
  | none =>
      exact ⟨carries.certificate, fun tx isTx => (by cases isTx), carries.otherCertificates,
        carries.otherTransactions⟩
  | some tx =>
      have updated : ∀ id, (direct.recorded (some tx) assignments).working.find?
          .blockchainTransactions id = if id = tx.id then
            some (@assignAll .blockchainTransactions tx assignments) else
              direct.working.find? .blockchainTransactions id :=
        @Database.find?_update_of_found _ .blockchainTransactions _ _ (stored tx rfl) assignments
      refine ⟨(certificates certId).trans carries.certificate, fun row isRow => ?_,
        fun id different => (certificates id).trans (carries.otherCertificates id different),
        fun id different => ?_⟩
      · obtain rfl := Option.some.inj isRow
        rw [transactionStatus, updated, if_pos rfl]
        exact congrArg some (Prod.ext (marked tx).1 (marked tx).2)
      · rw [transactionStatus, updated, if_neg (different tx rfl).symm]
        exact carries.otherTransactions id different

/-- A status written to the certificate. -/
theorem Carries.on_certificate {middle later : Database} {certificate : Certificate}
    {mark : Option (TransactionStatus × Option String)} {status : BlockchainStatus}
    {assignments : List CertificateAssignment}
    (carries : Carries before middle certificate.id tx? ⟨none, mark⟩)
    (found : middle.find? .certificates certificate.id = some certificate)
    (written : later = (Write.update .certificates certificate.id assignments).apply middle)
    (marked : (@assignAll .certificates certificate assignments).blockchainStatus = status) :
    Carries before later certificate.id tx? ⟨some status, mark⟩ := by
  have elsewhere : later .blockchainTransactions = middle .blockchainTransactions := by
    rw [written]
    rfl
  have updated : ∀ id, later.find? .certificates id = if id = certificate.id then
      some (@assignAll .certificates certificate assignments) else
        middle.find? .certificates id := by
    rw [written]
    exact @Database.find?_update_of_found _ .certificates _ _ found assignments
  refine ⟨?_, fun tx isTx => ?_, fun id different => ?_, fun id different => ?_⟩
  · rw [certificateStatus, updated, if_pos rfl]
    exact congrArg some marked
  · rw [transactionStatus, Database.find?_congr elsewhere]
    exact carries.transaction tx isTx
  · rw [certificateStatus, updated, if_neg different]
    exact carries.otherCertificates id different
  · rw [transactionStatus, Database.find?_congr elsewhere]
    exact carries.otherTransactions id different

end writes

namespace CertificateIssuanceService

/-- What the `except` branch of `confirm_blockchain_storage` writes. -/
def unreachableMarks (certificate : Certificate) (storeTx : Option BlockchainTransaction)
    (txHash : String) : StatusMarks :=
  if storeTx.isSome = true ∧ certificate.blockchainStatus = .PENDING then
    ⟨some .SUBMITTED, some (.SUBMITTED, some txHash)⟩
  else
    .nothing

/-- The statuses that the answers of the chain demand: SUBMITTED without a receipt or with the chain
unreachable, FAILED for a reverted transaction or a failed cross-check, and else CONFIRMED. -/
def marks (runtime : Runtime) (direct : Direct) (certId : Uuid) (txHash : String) (user : User)
    (certificate : Certificate) : StatusMarks :=
  let storeTx := storeTx? direct.working certId
  match receiptLookup runtime direct txHash with
  | (.error error, _) =>
      if error.isUnreachable then unreachableMarks certificate storeTx txHash else .nothing
  | (.ok none, _) => ⟨some .SUBMITTED, some (.SUBMITTED, some txHash)⟩
  | (.ok (some receipt), asked) =>
      if receipt.status = 0 then
        ⟨some .FAILED, some (.FAILED, some txHash)⟩
      else
        match recordLookup runtime asked certificate.certificateUid with
        | (.error error, _) =>
            if error.isUnreachable then unreachableMarks certificate storeTx txHash else .nothing
        | (.ok record, _) =>
            if crossCheckFails certificate (university? direct.working user) record then
              ⟨none, some (.FAILED, some txHash)⟩
            else
              ⟨some .CONFIRMED, some (.CONFIRMED, some txHash)⟩

/-- Whether the marks of a confirmation are committed: the path returns and the constraints take the
update of the row, or the path has nothing to write. -/
def MarksKept (runtime : Runtime) (direct : Direct) (certId : Uuid) (txHash : String) (user : User)
    (certificate : Certificate) : Prop :=
  let storeTx := storeTx? direct.working certId
  let idleWhenUnreachable (error : Exception) : Prop :=
    error.isUnreachable = true → ¬ (storeTx.isSome = true ∧ certificate.blockchainStatus = .PENDING)
  match receiptLookup runtime direct txHash with
  | (.error error, _) => idleWhenUnreachable error
  | (.ok none, _) => Accepted direct.working storeTx [.status .SUBMITTED, .txHash (some txHash)]
  | (.ok (some receipt), asked) =>
      receipt.status ≠ 0 ∧
        match recordLookup runtime asked certificate.certificateUid with
        | (.error error, _) => idleWhenUnreachable error
        | (.ok record, _) =>
            if crossCheckFails certificate (university? direct.working user) record then
              ∀ tx ∈ storeTx, (tx.status, tx.txHash) = (.FAILED, some txHash)
            else
              ∀ present ∈ record, Accepted direct.working storeTx
                (.status .CONFIRMED :: confirmationData txHash receipt present.issuedAt)

/-- The committed statuses after a confirmation: as before if it was turned away, and else those
that the answers of the chain demand. -/
structure StatusesReported (runtime : Runtime) (before : Direct) (certId : Uuid) (txHash : String)
    (user : User) (after : Database) : Prop where
  turnedAway : (∀ certificate, ¬ Confirmable before.working certId user certificate) →
    SameStatuses after before.working
  reported : ∀ certificate, Confirmable before.working certId user certificate →
    Carries before.working after certId (storeTx? before.working certId)
      (marks runtime before certId txHash user certificate)

section confirmable

variable {database : Database} {certId : Uuid} {user : User} {certificate : Certificate}

/-- The certificate is the row with its own id. -/
theorem Confirmable.sameId (confirmable : Confirmable database certId user certificate) :
    certificate.id = certId :=
  (Database.find?_some confirmable.found).2

/-- It is neither CONFIRMED nor FAILED. -/
theorem Confirmable.status_ne (confirmable : Confirmable database certId user certificate)
    {status : BlockchainStatus} (notPending : status ≠ .PENDING)
    (notSubmitted : status ≠ .SUBMITTED) : certificate.blockchainStatus ≠ status := by
  rintro rfl
  exact confirmable.unconfirmed.elim notPending notSubmitted

/-- There is only one certificate to confirm. -/
theorem Confirmable.forall_iff (confirmable : Confirmable database certId user certificate)
    {holds : Certificate → Prop} :
    (∀ other, Confirmable database certId user other → holds other) ↔ holds certificate := by
  constructor
  · exact fun all => all certificate confirmable
  · intro here other otherConfirmable
    obtain rfl := Option.some.inj (otherConfirmable.found.symm.trans confirmable.found)
    exact here

end confirmable

variable {runtime : Runtime} {direct after : Direct} {certId : Uuid} {txHash : String}
  {user : User} {certificate : Certificate} {error : Exception}

/-- With the chain unreachable, the statuses are as they were when there is nothing to write. -/
theorem unreachableMarks_shown_iff {storeTx : Option BlockchainTransaction} :
    (if error.isUnreachable then unreachableMarks certificate storeTx txHash
        else StatusMarks.nothing).Shown certificate storeTx ↔
      (error.isUnreachable = true →
        ¬ (storeTx.isSome = true ∧ certificate.blockchainStatus = .PENDING)) := by
  by_cases unreached : error.isUnreachable = true
  · rw [if_pos unreached, unreachableMarks]
    by_cases writes : storeTx.isSome = true ∧ certificate.blockchainStatus = .PENDING
    · rw [if_pos writes]
      refine iff_of_false (StatusMarks.not_shown ?_) fun idle => idle unreached writes
      rw [writes.2]
      decide
    · rw [if_neg writes]
      exact iff_of_true StatusMarks.shown_nothing fun _ => writes
  · rw [if_neg unreached]
    exact iff_of_true StatusMarks.shown_nothing fun is => absurd is unreached

/-- A path that raises is rolled back, so its marks stand only if the rows show them already. -/
theorem VerifyPath.shown_iff (opened : direct.Open)
    (confirmable : Confirmable direct.working certId user certificate)
    (path : PathOf runtime direct certId txHash user certificate (.error error, after)) :
    (marks runtime direct certId txHash user certificate).Shown certificate
        (storeTx? direct.working certId) ↔
      MarksKept runtime direct certId txHash user certificate := by
  have stored := stored_storeTx? opened.valid.keyed certId
  have notFailed : certificate.blockchainStatus ≠ .FAILED := confirmable.status_ne nofun nofun
  have notConfirmed : certificate.blockchainStatus ≠ .CONFIRMED :=
    confirmable.status_ne nofun nofun
  cases path with
  | receiptFailed receipt =>
      simp only [marks, MarksKept, receipt]
      exact unreachableMarks_shown_iff
  | refused reason untouched why =>
      rcases why with ⟨asked, receipt, refused⟩ | ⟨receipt, asked, found, failed, -⟩ |
        ⟨receipt, asked, record, found, succeeded, answered, -, refused⟩
      · simp only [marks, MarksKept, receipt]
        exact iff_of_false (fun shown => refused (accepted_of_shown opened.valid stored shown))
          refused
      · simp only [marks, MarksKept, found, failed, if_true, ne_eq, not_true_eq_false, false_and]
        exact iff_of_false (StatusMarks.not_shown notFailed) id
      · have lookup : recordLookup runtime asked certificate.certificateUid =
            (.ok record, asked.asked (.getCertificateRecord certificate.certificateUid)) :=
          Prod.ext answered rfl
        simp only [marks, MarksKept, found, succeeded, if_false, lookup, ne_eq, not_false_eq_true,
          true_and]
        cases fails : crossCheckFails certificate (university? direct.working user) record with
        | true =>
            simp only [if_true]
            exact StatusMarks.shown_row_iff
        | false =>
            simp only [Bool.false_eq_true, if_false]
            refine iff_of_false (StatusMarks.not_shown notConfirmed) fun accepted => ?_
            cases record with
            | none => cases fails
            | some record => exact refused fails record rfl (accepted record rfl)
  | reverted found failed accepted =>
      simp only [marks, MarksKept, found, failed, if_true, ne_eq, not_true_eq_false, false_and]
      exact iff_of_false (StatusMarks.not_shown notFailed) id
  | recordFailed found succeeded record =>
      simp only [marks, MarksKept, found, succeeded, if_false, record, ne_eq, not_false_eq_true,
        true_and]
      exact unreachableMarks_shown_iff
  | crossChecked found succeeded answered fails accepted =>
      simp only [marks, MarksKept, found, succeeded, if_false, answered, fails, if_true, ne_eq,
        not_false_eq_true, true_and]
      exact StatusMarks.shown_row_iff

/-- A path that returns is committed with its marks. -/
theorem VerifyPath.carries {exit : StorageExit} (opened : direct.Open)
    (confirmable : Confirmable direct.working certId user certificate)
    (path : PathOf runtime direct certId txHash user certificate (.ok exit, after)) :
    Carries direct.working after.working certId (storeTx? direct.working certId)
        (marks runtime direct certId txHash user certificate) ∧
      MarksKept runtime direct certId txHash user certificate := by
  have receiptSame := receiptLookup_working runtime direct txHash
  have stored := stored_storeTx? opened.valid.keyed certId
  obtain rfl := confirmable.sameId
  cases path with
  | pending receipt accepted =>
      rename_i asked
      rw [receipt] at receiptSame
      simp only [marks, MarksKept, receipt]
      refine ⟨?_, accepted⟩
      refine ((carries_nothing receiptSame).on_row (receiptSame ▸ stored) ?_).on_certificate ?_ rfl
        rfl
      · exact fun tx => ⟨rfl, rfl⟩
      · rw [Database.find?_congr (asked.recorded_certificates _ _), receiptSame]
        exact confirmable.found
  | confirmed found succeeded answered passes accepted =>
      rename_i receipt asked record checked
      rw [found] at receiptSame
      have checkedSame : checked.working = direct.working :=
        (congrArg (·.2.working) answered).symm.trans receiptSame
      simp only [marks, MarksKept, found, succeeded, if_false, answered, passes, ne_eq,
        not_false_eq_true, true_and, Bool.false_eq_true]
      refine ⟨?_, fun present isRecord => ?_⟩
      · refine ((carries_nothing checkedSame).on_row (checkedSame ▸ stored) ?_).on_certificate ?_
          rfl rfl
        · exact fun tx => ⟨rfl, rfl⟩
        · rw [Database.find?_congr (checked.recorded_certificates _ _), checkedSame]
          exact confirmable.found
      · obtain rfl := Option.some.inj isRecord
        exact accepted

/-- When the block raises, the statuses of before are those demanded exactly when the marks are
kept. -/
theorem ConfirmPath.reported_iff (opened : direct.Open)
    (path : ConfirmPath runtime direct certId txHash user (.error error, after)) :
    StatusesReported runtime direct certId txHash user direct.working ↔
      ∀ certificate, Confirmable direct.working certId user certificate →
        MarksKept runtime direct certId txHash user certificate := by
  have decided : ∀ {certificate : Certificate} {raised : Exception} {left : Direct},
      Confirmable direct.working certId user certificate →
        PathOf runtime direct certId txHash user certificate (.error raised, left) →
          (StatusesReported runtime direct certId txHash user direct.working ↔
            ∀ certificate, Confirmable direct.working certId user certificate →
              MarksKept runtime direct certId txHash user certificate) := by
    intro certificate raised left confirmable path
    rw [confirmable.forall_iff, ← path.shown_iff opened confirmable,
      ← carries_self_iff confirmable.found (stored_storeTx? opened.valid.keyed certId)]
    constructor
    · exact fun reported => reported.reported certificate confirmable
    · exact fun carries => ⟨fun _ => .refl _, confirmable.forall_iff.mpr carries⟩
  cases path with
  | turnedAway why =>
      exact iff_of_true
        ⟨fun _ => .refl _, fun certificate confirmable => absurd confirmable (why certificate)⟩
        fun certificate confirmable => absurd confirmable (why certificate)
  | raised confirmable path _ => exact decided confirmable path
  | unreachable confirmable path _ _ => exact decided confirmable path
  | unreachableMarked confirmable path _ _ => exact decided confirmable path

end CertificateIssuanceService

namespace CertificateRevocationService

open CertificateIssuanceService (confirmationData)

/-- The statuses that the answers of the chain demand of a revocation: on the row SUBMITTED without
a receipt or with the chain unreachable and FAILED for a reverted transaction, and for a record that
is REVOKED on chain, REVOKED and CONFIRMED. -/
def marks (runtime : Runtime) (direct : Direct) (txHash : String) (certificate : Certificate) :
    StatusMarks :=
  match receiptLookup runtime direct txHash with
  | (.error error, _) =>
      if error.isUnreachable then ⟨none, some (.SUBMITTED, some txHash)⟩ else .nothing
  | (.ok none, _) => ⟨none, some (.SUBMITTED, some txHash)⟩
  | (.ok (some receipt), asked) =>
      if receipt.status = 0 then
        ⟨none, some (.FAILED, some txHash)⟩
      else
        match recordLookup runtime asked certificate.certificateUid with
        | (.error error, _) =>
            if error.isUnreachable then ⟨none, some (.SUBMITTED, some txHash)⟩ else .nothing
        | (.ok none, _) => .nothing
        | (.ok (some record), _) =>
            if record.status = "REVOKED" then
              ⟨some .REVOKED, some (.CONFIRMED, some txHash)⟩
            else
              .nothing

/-- Whether the marks of a confirmation are committed: the path returns and the constraints take the
update of the row, or there is nothing to write. -/
def MarksKept (runtime : Runtime) (direct : Direct) (certId : Uuid) (txHash : String)
    (certificate : Certificate) : Prop :=
  let revokeTx := revokeTx? direct.working certId
  let idleWhenUnreachable (error : Exception) : Prop :=
    error.isUnreachable = true → ∀ tx ∈ revokeTx, (tx.status, tx.txHash) = (.SUBMITTED, some txHash)
  match receiptLookup runtime direct txHash with
  | (.error error, _) => idleWhenUnreachable error
  | (.ok none, _) => Accepted direct.working revokeTx [.status .SUBMITTED, .txHash (some txHash)]
  | (.ok (some receipt), asked) =>
      if receipt.status = 0 then
        revokeTx = none
      else
        match recordLookup runtime asked certificate.certificateUid with
        | (.error error, _) => idleWhenUnreachable error
        | (.ok none, _) => True
        | (.ok (some record), after) => record.status = "REVOKED" →
            Accepted direct.working revokeTx
              (.status .CONFIRMED :: confirmationData txHash receipt (confirmedAt after record))

/-- The committed statuses after a confirmation: as before if it was turned away, and else those
that the answers of the chain demand. -/
structure StatusesReported (runtime : Runtime) (before : Direct) (certId : Uuid) (txHash : String)
    (user : User) (after : Database) : Prop where
  turnedAway : (∀ certificate, ¬ Revocable before.working certId user certificate) →
    SameStatuses after before.working
  reported : ∀ certificate, Revocable before.working certId user certificate →
    Carries before.working after certId (revokeTx? before.working certId)
      (marks runtime before txHash certificate)

section revocable

variable {database : Database} {certId : Uuid} {user : User} {certificate : Certificate}

/-- The certificate is the row with its own id. -/
theorem Revocable.sameId (revocable : Revocable database certId user certificate) :
    certificate.id = certId :=
  (Database.find?_some revocable.found).2

/-- There is only one certificate to revoke. -/
theorem Revocable.forall_iff (revocable : Revocable database certId user certificate)
    {holds : Certificate → Prop} :
    (∀ other, Revocable database certId user other → holds other) ↔ holds certificate := by
  constructor
  · exact fun all => all certificate revocable
  · intro here other otherRevocable
    obtain rfl := Option.some.inj (otherRevocable.found.symm.trans revocable.found)
    exact here

/-- The row of an open revocation is neither FAILED nor CONFIRMED. -/
theorem open_revokeTx? {tx : BlockchainTransaction} (isTx : tx ∈ revokeTx? database certId) :
    tx.status = .PENDING ∨ tx.status = .SUBMITTED := by
  have found := List.find?_some (Option.mem_def.mp isTx)
  simp only [Bool.and_eq_true, Bool.or_eq_true, decide_eq_true_eq] at found
  exact found.2

end revocable

variable {runtime : Runtime} {direct after : Direct} {certId : Uuid} {txHash : String}
  {user : User} {certificate : Certificate} {error : Exception}

/-- With the chain unreachable, the row is as it was when there is nothing to write. -/
theorem unreachableMarks_shown_iff {revokeTx : Option BlockchainTransaction} :
    (if error.isUnreachable then ⟨none, some (.SUBMITTED, some txHash)⟩
        else StatusMarks.nothing).Shown certificate revokeTx ↔
      (error.isUnreachable = true →
        ∀ tx ∈ revokeTx, (tx.status, tx.txHash) = (.SUBMITTED, some txHash)) := by
  by_cases unreached : error.isUnreachable = true
  · rw [if_pos unreached, StatusMarks.shown_row_iff]
    exact ⟨fun shown _ => shown, fun shown => shown unreached⟩
  · rw [if_neg unreached]
    exact iff_of_true StatusMarks.shown_nothing fun is => absurd is unreached

/-- An open row does not show that its transaction failed. -/
theorem failedMark_shown_iff :
    StatusMarks.Shown ⟨none, some (.FAILED, some txHash)⟩ certificate
      (revokeTx? direct.working certId) ↔ revokeTx? direct.working certId = none := by
  rw [StatusMarks.shown_row_iff]
  constructor
  · intro shown
    by_contra present
    obtain ⟨tx, isTx⟩ := Option.ne_none_iff_exists'.mp present
    have failed := (Prod.mk.inj (shown tx isTx)).1
    rcases open_revokeTx? isTx with pending | submitted
    · cases pending.symm.trans failed
    · cases submitted.symm.trans failed
  · intro absent tx isTx
    rw [absent] at isTx
    cases isTx

/-- A path that raises is rolled back, so its marks stand only if the rows show them already. -/
theorem RevokePath.shown_iff (opened : direct.Open)
    (path : PathOf runtime direct certId txHash user certificate (.error error, after)) :
    (marks runtime direct txHash certificate).Shown certificate (revokeTx? direct.working certId) ↔
      MarksKept runtime direct certId txHash certificate := by
  have stored := stored_revokeTx? opened.valid.keyed certId
  cases path with
  | receiptFailed receipt =>
      simp only [marks, MarksKept, receipt]
      exact unreachableMarks_shown_iff
  | refused reason untouched why =>
      rcases why with ⟨asked, receipt, refused⟩ | ⟨receipt, asked, found, failed, -⟩ |
        ⟨receipt, asked, record, found, succeeded, answered, notRevoked⟩
      · simp only [marks, MarksKept, receipt]
        refine iff_of_false (fun shown => refused ?_) refused
        have shownBoth : StatusMarks.Shown
            ⟨some certificate.blockchainStatus, some (.SUBMITTED, some txHash)⟩ certificate
              (revokeTx? direct.working certId) :=
          ⟨fun _ isMark => Option.some.inj isMark, shown.transaction⟩
        exact accepted_of_shown opened.valid stored shownBoth
      · simp only [marks, MarksKept, found, failed, if_true]
        exact failedMark_shown_iff
      · have lookup : recordLookup runtime asked certificate.certificateUid =
            (.ok record, asked.asked (.getCertificateRecord certificate.certificateUid)) :=
          Prod.ext answered rfl
        simp only [marks, MarksKept, found, succeeded, if_false, lookup]
        cases record with
        | none => exact iff_of_true StatusMarks.shown_nothing trivial
        | some record =>
            have other := notRevoked record rfl
            simp only [other, if_false]
            exact iff_of_true StatusMarks.shown_nothing fun is => is.elim
  | reverted found failed accepted =>
      simp only [marks, MarksKept, found, failed, if_true]
      exact failedMark_shown_iff
  | recordFailed found succeeded record =>
      simp only [marks, MarksKept, found, succeeded, if_false, record]
      exact unreachableMarks_shown_iff
  | halfRevoked found succeeded answered isRevoked reason refused =>
      simp only [marks, MarksKept, found, succeeded, if_false, answered, isRevoked, if_true,
        true_implies]
      refine iff_of_false (fun shown => refused fun tx isTx => ?_) refused
      have confirmed := (Prod.mk.inj (shown.transaction tx isTx _ rfl)).1
      rcases open_revokeTx? isTx with pending | submitted
      · cases pending.symm.trans confirmed
      · cases submitted.symm.trans confirmed

/-- A path that returns is committed with its marks. -/
theorem RevokePath.carries {response : RevocationResponse} (opened : direct.Open)
    (revocable : Revocable direct.working certId user certificate)
    (path : PathOf runtime direct certId txHash user certificate (.ok response, after)) :
    Carries direct.working after.working certId (revokeTx? direct.working certId)
        (marks runtime direct txHash certificate) ∧
      MarksKept runtime direct certId txHash certificate := by
  have receiptSame := receiptLookup_working runtime direct txHash
  have stored := stored_revokeTx? opened.valid.keyed certId
  obtain rfl := revocable.sameId
  cases path with
  | pending receipt accepted =>
      rw [receipt] at receiptSame
      simp only [marks, MarksKept, receipt]
      refine ⟨(carries_nothing receiptSame).on_row (receiptSame ▸ stored) ?_, accepted⟩
      exact fun tx => ⟨rfl, rfl⟩
  | revoked found succeeded answered isRevoked accepted =>
      rename_i receipt asked record recorded
      rw [found] at receiptSame
      have recordedSame : recorded.working = direct.working :=
        (congrArg (·.2.working) answered).symm.trans receiptSame
      have timedSame := (timed_working recorded record).trans recordedSame
      have transactions : (revokedState recorded certificate
          (revokeTx? direct.working certificate.id) user.id record).working
            .blockchainTransactions = direct.working .blockchainTransactions := by
        rw [revokedState, Direct.revoked_transactions, timedSame]
      simp only [marks, MarksKept, found, succeeded, if_false, answered, isRevoked, if_true,
        true_implies]
      refine ⟨?_, accepted⟩
      refine Carries.on_row ?_ ?_ fun tx => ⟨rfl, rfl⟩
      · refine (carries_nothing timedSame).on_certificate ?_ rfl rfl
        rw [timedSame]
        exact revocable.found
      · intro tx isTx
        rw [Database.find?_congr transactions]
        exact stored tx isTx

/-- When the block raises, the statuses of before are those demanded exactly when the marks are
kept. -/
theorem RevocationPath.reported_iff (opened : direct.Open)
    (path : RevocationPath runtime direct certId txHash user (.error error, after)) :
    StatusesReported runtime direct certId txHash user direct.working ↔
      ∀ certificate, Revocable direct.working certId user certificate →
        MarksKept runtime direct certId txHash certificate := by
  have decided : ∀ {certificate : Certificate} {raised : Exception} {left : Direct},
      Revocable direct.working certId user certificate →
        PathOf runtime direct certId txHash user certificate (.error raised, left) →
          (StatusesReported runtime direct certId txHash user direct.working ↔
            ∀ certificate, Revocable direct.working certId user certificate →
              MarksKept runtime direct certId txHash certificate) := by
    intro certificate raised left revocable path
    rw [revocable.forall_iff, ← path.shown_iff opened,
      ← carries_self_iff revocable.found (stored_revokeTx? opened.valid.keyed certId)]
    constructor
    · exact fun reported => reported.reported certificate revocable
    · exact fun carries => ⟨fun _ => .refl _, revocable.forall_iff.mpr carries⟩
  cases path with
  | turnedAway why =>
      exact iff_of_true
        ⟨fun _ => .refl _, fun certificate revocable => absurd revocable (why certificate)⟩
        fun certificate revocable => absurd revocable (why certificate)
  | raised revocable path _ => exact decided revocable path
  | unreachable revocable path _ _ => exact decided revocable path
  | unreachableRecorded revocable path _ _ => exact decided revocable path

end CertificateRevocationService

/-- A transaction that returns commits what its block has written, and one that raises leaves the
database. -/
theorem transaction_cases {Value : Type} {body : Action Value}
    (statements : body.Every fun _ op => op.isControl = false) (store : Store) (inputs : Inputs) :
    (∃ value left, body.run directHandler (.begun store inputs) = (.ok value, left) ∧
      (transaction body).run directHandler (.fresh store inputs) = (.ok value, left.committed)) ∨
    (∃ error left after, body.run directHandler (.begun store inputs) = (.error error, left) ∧
      (transaction body).run directHandler (.fresh store inputs) = (.error error, after) ∧
      after.database = store.database) := by
  obtain ⟨sameDatabase, -, -, -⟩ := run_follows statements (.begun store inputs)
  rw [run_transaction_fresh]
  rcases ran : body.run directHandler (.begun store inputs) with ⟨error | value, left⟩ <;>
    rw [ran] at sameDatabase
  · exact .inr ⟨error, left, left.rolledBack, rfl, rfl, sameDatabase⟩
  · exact .inl ⟨value, left, rfl, rfl⟩

namespace CertificateIssuanceService

/-- The block of the confirmation opens no other transaction. -/
theorem confirmBlock_statements (runtime : Runtime) (certId : Uuid) (txHash : String)
    (user : User) :
    (confirmBlock runtime certId txHash user).Every fun _ op => op.isControl = false := by
  refine every_confirmBlock ?_ runtime certId txHash user (fun _ _ => rfl) fun _ _ => rfl
  intro Reply op isReading
  cases op <;> first | rfl | cases isReading

/-- The QR generation after the confirmation touches no status. -/
theorem generateBlock_elsewhere (runtime : Runtime) (certId user : Uuid) {table : Table}
    (elsewhere : table ≠ .qrVerifications) :
    (QrVerificationService.generateQrForCertificate runtime certId user).Every
      fun _ op => op.written? ≠ some table := by
  have apart : some Table.qrVerifications ≠ some table := fun same =>
    elsewhere (Option.some.inj same).symm
  have nothing : (none : Option Table) ≠ some table := (Option.some_ne_none table).symm
  refine Program.every_bind (every_transaction ?_ nothing nothing nothing) fun _ =>
    Program.every_pure _
  refine QrVerificationService.every_generateBlock ?_ runtime certId user
    (fun _ _ => apart) fun _ => apart
  intro Reply op isReading
  cases op <;> first | exact nothing | cases isReading

/-- The committed statuses stay through the QR generation. -/
theorem generate_sameStatuses (runtime : Runtime) (certId user : Uuid) {committed : Direct}
    (settled : committed.working = committed.database) :
    SameStatuses ((QrVerificationService.generateQrForCertificate runtime certId user).run
      directHandler committed).2.database committed.database := by
  have certificates : Table.certificates ≠ .qrVerifications := by decide
  have transactions : Table.blockchainTransactions ≠ .qrVerifications := by decide
  have keeps := fun {table : Table} (elsewhere : table ≠ .qrVerifications) =>
    run_keeps (generateBlock_elsewhere runtime certId user elsewhere) committed
      (congrFun settled table)
  exact .of_tables (keeps certificates).database (keeps transactions).database

/-- The statuses after a confirmation are those demanded exactly when its marks are kept. -/
theorem confirm_reported_iff (runtime : Runtime) (store : ValidStore) (inputs : Inputs)
    (certId : Uuid) (txHash : String) (user : User) :
    StatusesReported runtime (.begun store.toStore inputs) certId txHash user
        ((confirmBlockchainStorage runtime certId txHash user).run directHandler
          (.fresh store.toStore inputs)).2.database ↔
      ∀ certificate, Confirmable store.database certId user certificate →
        MarksKept runtime (.begun store.toStore inputs) certId txHash user certificate := by
  have opened := Direct.open_begun store inputs
  have path := @confirmBlock_path runtime _ opened certId txHash user
  simp only [confirmBlockchainStorage, Program.run_bind]
  rcases transaction_cases (confirmBlock_statements runtime certId txHash user) store.toStore
    inputs with ⟨exit, left, ran, committed⟩ | ⟨error, left, after, ran, rolledBack, kept⟩
  · rw [committed]
    rw [ran] at path
    cases path with
    | completed confirmable path =>
        obtain ⟨carries, isKept⟩ := path.carries opened confirmable
        refine iff_of_true ?_ (confirmable.forall_iff.mpr isKept)
        have reported : ∀ {later : Database}, SameStatuses later left.working →
            StatusesReported runtime (.begun store.toStore inputs) certId txHash user later :=
          fun same => ⟨fun none => absurd confirmable (none _),
            confirmable.forall_iff.mpr (same.carries_iff.mpr carries)⟩
        cases exit with
        | submitted => exact reported (.refl _)
        | confirmed certificate receipt record =>
            have same : SameStatuses _ left.working := generate_sameStatuses runtime certId user.id
              (rfl : left.committed.working = left.committed.database)
            simp only [Program.run_bind]
            rcases qr : (QrVerificationService.generateQrForCertificate runtime certId user.id).run
              directHandler left.committed with ⟨_ | _, after⟩ <;> rw [qr] at same <;>
              exact reported same
  · rw [rolledBack]
    rw [ran] at path
    dsimp only
    rw [kept]
    exact path.reported_iff opened

end CertificateIssuanceService

namespace CertificateRevocationService

/-- The block of the confirmation opens no other transaction. -/
theorem confirmBlock_statements (runtime : Runtime) (certId : Uuid) (txHash : String)
    (user : User) :
    (confirmBlock runtime certId txHash user).Every fun _ op => op.isControl = false := by
  refine every_confirmBlock ?_ runtime certId txHash user (fun _ _ => rfl) fun _ _ _ _ => rfl
  intro Reply op isReading
  cases op <;> first | rfl | cases isReading

/-- The statuses after a confirmation are those demanded exactly when its marks are kept. -/
theorem confirm_reported_iff (runtime : Runtime) (store : ValidStore) (inputs : Inputs)
    (certId : Uuid) (txHash : String) (user : User) :
    StatusesReported runtime (.begun store.toStore inputs) certId txHash user
        ((confirmRevocation runtime certId txHash user).run directHandler
          (.fresh store.toStore inputs)).2.database ↔
      ∀ certificate, Revocable store.database certId user certificate →
        MarksKept runtime (.begun store.toStore inputs) certId txHash certificate := by
  have opened := Direct.open_begun store inputs
  have path := @confirmBlock_path runtime _ opened certId txHash user
  rw [confirmRevocation]
  rcases transaction_cases (confirmBlock_statements runtime certId txHash user) store.toStore
    inputs with ⟨response, left, ran, committed⟩ | ⟨error, left, after, ran, rolledBack, kept⟩
  · rw [committed]
    rw [ran] at path
    cases path with
    | completed revocable path =>
        obtain ⟨carries, isKept⟩ := path.carries opened revocable
        exact iff_of_true ⟨fun none => absurd revocable (none _), revocable.forall_iff.mpr carries⟩
          (revocable.forall_iff.mpr isKept)
  · rw [rolledBack]
    rw [ran] at path
    dsimp only
    rw [kept]
    exact path.reported_iff opened

end CertificateRevocationService

/-- After each of the two confirmations the committed statuses are those that the answers of the
chain demand exactly when the certificate, if it can be confirmed, is on a path whose marks are
kept. -/
theorem status_writes_survive_iff (runtime : Runtime) (store : ValidStore) (inputs : Inputs)
    (certId : Uuid) (txHash : String) (user : User) :
    (CertificateIssuanceService.StatusesReported runtime (.begun store.toStore inputs) certId txHash
        user ((CertificateIssuanceService.confirmBlockchainStorage runtime certId txHash user).run
          sessionHandler (store.toStore, .fresh inputs)).2.1.database ↔
      ∀ certificate,
        CertificateIssuanceService.Confirmable store.database certId user certificate →
          CertificateIssuanceService.MarksKept runtime (.begun store.toStore inputs) certId txHash
            user certificate) ∧
    (CertificateRevocationService.StatusesReported runtime (.begun store.toStore inputs) certId
        txHash user ((CertificateRevocationService.confirmRevocation runtime certId txHash user).run
          sessionHandler (store.toStore, .fresh inputs)).2.1.database ↔
      ∀ certificate,
        CertificateRevocationService.Revocable store.database certId user certificate →
          CertificateRevocationService.MarksKept runtime (.begun store.toStore inputs) certId txHash
            certificate) := by
  have committed : ∀ {Value : Type} (call : Action Value),
      (call.run sessionHandler (store.toStore, .fresh inputs)).2.1.database =
        (call.run directHandler (.fresh store.toStore inputs)).2.database :=
    fun call => congrArg Direct.database (store.run_eq inputs call).2
  constructor
  · rw [committed]
    exact CertificateIssuanceService.confirm_reported_iff runtime store inputs certId txHash user
  · rw [committed]
    exact CertificateRevocationService.confirm_reported_iff runtime store inputs certId txHash user

namespace Sample

/-- A store with one pending certificate, whose transaction was mined and reverted. -/
def revertedStore : ValidStore where
  database := database .PENDING [transaction 5 .STORE_HASH .PENDING none]
  chain := {
    registry := .deploy (SizedBytes.zero 20)
    receipts := [{
      transactionHash
      status := 0
      blockNumber := 7
      blockHash := transactionHash
      gasUsed := 21000
      effectiveGasPrice := 1 }] }
  files := []
  valid := valid_uploaded

/-- The database after the sample certificate was confirmed with the reverted transaction. -/
def afterReverted : Database :=
  ((CertificateIssuanceService.confirmBlockchainStorage Runtime.sample 3 txHash administrator).run
    sessionHandler (revertedStore.toStore, .fresh (inputs answered))).2.1.database

end Sample

/-- The receipt demands FAILED, which is written and rolled back with the exception that reports it:
the certificate is still PENDING afterwards. -/
theorem reverted_receipt_leaves_pending :
    certificateStatus Sample.afterReverted 3 = some .PENDING ∧
      ¬ CertificateIssuanceService.StatusesReported Runtime.sample
        (.begun Sample.revertedStore.toStore (Sample.inputs Sample.answered)) 3 Sample.txHash
          Sample.administrator Sample.afterReverted := by
  have committed : certificateStatus Sample.afterReverted 3 = some .PENDING := by decide +kernel
  refine ⟨committed, fun statuses => ?_⟩
  have confirmable : CertificateIssuanceService.Confirmable Sample.revertedStore.database 3
      Sample.administrator (Sample.certificate .PENDING) := ⟨rfl, rfl, .inl rfl⟩
  have demanded : (CertificateIssuanceService.marks Runtime.sample
      (.begun Sample.revertedStore.toStore (Sample.inputs Sample.answered)) 3 Sample.txHash
        Sample.administrator (Sample.certificate .PENDING)).certificate = some .FAILED := by
    decide +kernel
  have carried := (statuses.reported _ confirmable).certificate
  rw [demanded, committed] at carried
  cases carried

end AcademicCredential
