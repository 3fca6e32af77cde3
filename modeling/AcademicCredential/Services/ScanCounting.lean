import AcademicCredential.Services.GoldenRule
import AcademicCredential.Services.QrCalls

/-!
# Counting scans

`increment_scan_count` adds one in the database, in the transaction that writes the log. Whatever
is scanned, generated and fails at the same time, what is committed has one log for each scan that
is counted.
-/

namespace AcademicCredential

open AcademicCredential.Lib

/-- How many logs reference a QR row. -/
def scansOf (database : Database) (id : Uuid) : Nat :=
  (database .verificationLogs).countP fun log => log.qrVerificationId = some id

/-- Every QR row counts the logs that reference it, and has a time of its last scan exactly when
there are any. -/
structure ScansCounted (database : Database) : Prop where
  total : ∀ row ∈ database .qrVerifications, row.totalScanCount = scansOf database row.id
  lastScanned : ∀ row ∈ database .qrVerifications,
    row.lastScannedAt = none ↔ scansOf database row.id = 0

/-- The foreign key of the logs: they reference rows that are there. -/
def LogsReference (database : Database) : Prop :=
  ∀ log ∈ database .verificationLogs, ∀ id, log.qrVerificationId = some id → HasQr database id

/-- What every transaction keeps. -/
structure Counted (database : Database) : Prop where
  total : ∀ row ∈ database .qrVerifications, row.totalScanCount = scansOf database row.id
  references : LogsReference database

/-- The CHECK on the row relates its two columns. -/
theorem Counted.scansCounted {database : Database} (counted : Counted database)
    (valid : database.Valid) : ScansCounted database := by
  refine ⟨counted.total, fun row member => ?_⟩
  rw [← counted.total row member]
  have admissible := violation?_eq_none.mp (valid.admissible .qrVerifications row member)
  simp only [constraints, QRVerification.constraints, List.forall_mem_cons] at admissible
  obtain ⟨-, -, -, -, -, -, -, -, scans, -⟩ := admissible
  simp only [Truth.passes_or, Truth.passes_and, Truth.passes_certain, Truth.passes_isNull,
    Truth.passes_isNotNull, Bool.or_eq_true, Bool.and_eq_true, beq_iff_eq, decide_eq_true_eq,
    Option.isNone_iff_eq_none] at scans
  rcases scans with ⟨none, unset⟩ | ⟨some, set⟩
  · exact iff_of_true unset none
  · refine iff_of_false (fun unset => ?_) (by omega)
    rw [unset] at set
    cases set

namespace Counted

variable {database : Database}

/-- An UPDATE of QR rows that leaves the counters. -/
theorem deactivation (counted : Counted database) {write : Write} (deactivates : Deactivates write) :
    Counted (write.apply database) := by
  cases deactivates with
  | @update id changes now among =>
      have sameLogs : (Write.update .qrVerifications id changes).apply database .verificationLogs =
          database .verificationLogs := rfl
      refine ⟨fun row member => ?_, fun log member other references => ?_⟩
      · rw [scansOf, sameLogs]
        obtain ⟨old, isOld, isRow⟩ := mem_update member
        rcases isRow with ⟨rfl, -⟩ | ⟨-, rfl⟩
        · exact counted.total row isOld
        · obtain ⟨sameId, -, sameCount, -⟩ := assignAll_deactivation among old
          rw [sameId, sameCount]
          exact counted.total old isOld
      · rw [sameLogs] at member
        exact (counted.references log member other references).apply _

/-- Deactivations keep the scans counted. -/
theorem deactivations (counted : Counted database) {writes : List Write}
    (deactivations : ∀ write ∈ writes, Deactivates write) :
    Counted (applyWrites database writes) := by
  induction writes using List.reverseRecOn with
  | nil => exact counted
  | append_singleton writes write inductionHypothesis =>
      rw [applyWrites_snoc]
      exact (inductionHypothesis fun other member => deactivations other
        (List.mem_append_left _ member)).deactivation
          (deactivations write (List.mem_append_right _ (List.mem_singleton_self write)))

/-- A new row without scans. -/
theorem insert (counted : Counted database) {row : QRVerification} (unscanned : row.totalScanCount = 0)
    (new : ¬ HasQr database row.id) :
    Counted ((Write.insert .qrVerifications row).apply database) := by
  have sameLogs : (Write.insert .qrVerifications row).apply database .verificationLogs =
      database .verificationLogs := rfl
  refine ⟨fun other member => ?_, fun log member id references => ?_⟩
  · rw [scansOf, sameLogs]
    simp only [Write.apply, Function.update_self, List.mem_append, List.mem_singleton] at member
    rcases member with isOld | rfl
    · exact counted.total other isOld
    · rw [unscanned, eq_comm, List.countP_eq_zero]
      intro log isLog references
      exact new (counted.references log isLog other.id (of_decide_eq_true references))
  · rw [sameLogs] at member
    exact (counted.references log member id references).apply _

/-- A scan that is counted and logged. -/
theorem scan (counted : Counted database) {id : Uuid} (has : HasQr database id) (now : Timestamp)
    {log : VerificationLog} (references : log.qrVerificationId = some id) :
    Counted ((Write.insert .verificationLogs log).apply ((counts id now).apply database)) := by
  have sameRows : (Write.insert .verificationLogs log).apply ((counts id now).apply database)
      .qrVerifications = (counts id now).apply database .qrVerifications := rfl
  have logs : (Write.insert .verificationLogs log).apply ((counts id now).apply database)
      .verificationLogs = database .verificationLogs ++ [log] := rfl
  refine ⟨fun row member => ?_, fun other member otherId isReference => ?_⟩
  · rw [sameRows] at member
    obtain ⟨old, isOld, isRow⟩ := mem_update member
    have before := counted.total old isOld
    rw [scansOf] at before
    rw [scansOf, logs, List.countP_append]
    rcases isRow with ⟨rfl, other⟩ | ⟨same, rfl⟩
    · have notHere : ¬ log.qrVerificationId = some row.id := by
        rw [references]
        exact fun same => other (Option.some.inj same).symm
      simpa [notHere] using before
    · have here : log.qrVerificationId = some old.id := by rw [references, ← same]
      have sameId : (@assignAll .qrVerifications old (scanned now)).id = old.id := rfl
      change old.totalScanCount + 1 = _
      simp only [sameId, List.countP_singleton, here, decide_true, if_true]
      rw [before]
  · rw [logs] at member
    rcases List.mem_append.mp member with isOld | isNew
    · exact ((counted.references other isOld otherId isReference).apply _).apply _
    · obtain rfl := List.mem_singleton.mp isNew
      obtain rfl := Option.some.inj (references.symm.trans isReference)
      exact (has.apply _).apply _

/-- What a call commits keeps the counters. -/
theorem commit (counted : Counted database) {call : QrCall} {pending : List Write} {phase : QrPhase}
    (holds : phase.Holds call database pending) (permitted : phase.permits call .commit)
    (valid : (applyWrites database pending).Valid) : Counted (applyWrites database pending) := by
  cases phase with
  | reading seen => exact counted.deactivations holds.2
  | generated row =>
      obtain ⟨inserts, earlier, rfl, deactivations⟩ := holds
      have unscanned : row.totalScanCount = 0 := by
        cases call with
        | generate certId userId => exact inserts.2.2
        | scan => cases inserts
      rw [applyWrites_snoc] at valid ⊢
      refine (counted.deactivations deactivations).insert unscanned fun has => ?_
      have keyed := valid.keyed .qrVerifications
      simp only [Write.apply, Function.update_self, List.map_append, List.map_singleton] at keyed
      exact (List.nodup_append.mp keyed).2.2 row.id (hasQr_iff.mp has) row.id
        (List.mem_singleton_self _) rfl
  | counted id =>
      have commits : (QrPhase.counted id).commits call := permitted.2
      cases call with
      | generate certId userId =>
          obtain ⟨row, isGenerated⟩ := commits
          cases isGenerated
      | scan => rcases commits with isReading | isLogged <;> contradiction
  | logged =>
      obtain ⟨id, has, earlier, now, log, references, rfl, deactivations⟩ := holds
      rw [applyWrites_snoc, applyWrites_snoc]
      exact (counted.deactivations deactivations).scan (has.applyWrites earlier) now references
  | committed row => cases permitted.1
  | closed =>
      obtain rfl : pending = [] := holds
      exact counted

end Counted

/-- Along a run of scans and generations the counters stay right. -/
theorem scans_counted (runtime : Runtime) (store : ValidStore)
    (foreignKey : LogsReference store.database) (initially : ScansCounted store.database)
    (run : List QrTurn) : ScansCounted (qrWorld runtime store.toStore run).shared.database := by
  have kept : ∃ phases, Orderly (qrWorld runtime store.toStore run) phases ∧
      Counted (qrWorld runtime store.toStore run).shared.database := by
    induction run using List.reverseRecOn with
    | nil => exact ⟨_, .idle store.valid, initially.total, foreignKey⟩
    | append_singleton run turn inductionHypothesis =>
        obtain ⟨phases, orderly, counted⟩ := inductionHypothesis
        obtain ⟨later, advance, stillOrderly⟩ := @Orderly.step runtime _ _ orderly turn
        rw [qrWorld, stateAfter_snoc]
        refine ⟨later, stillOrderly, ?_⟩
        rcases Orderly.database_advance advance with same | committed
        · rw [qrWorld] at same
          rw [same]
          exact counted
        · obtain ⟨index, thread, next, -, reaches, permitted, database, -⟩ := committed
          rw [qrWorld] at database
          rw [database]
          exact counted.commit (orderly.holds index thread reaches.found) permitted
            (orderly.visible_valid reaches.found)
  obtain ⟨phases, orderly, counted⟩ := kept
  exact counted.scansCounted orderly.isolated.committed

namespace Sample

/-- The logs of the store refer to stored codes. -/
theorem confirmedStore_references :
    LogsReference VerificationService.confirmedStore.database :=
  fun _ member => absurd member List.not_mem_nil

/-- The scans of the store are counted. -/
theorem confirmedStore_counted : ScansCounted VerificationService.confirmedStore.database := by
  constructor
  · intro row member
    rw [List.mem_singleton.mp member]
    rfl
  · intro row member
    rw [List.mem_singleton.mp member]
    decide

/-- Two scans of the sample QR code, one of which fails at its tenth operation, and a generation
of a new one, in turns. -/
def scans : List QrTurn :=
  [.start ⟨.scan VerificationService.sampleScan true, none⟩ (inputs answered),
    .start ⟨.scan VerificationService.sampleScan true, some 9⟩ (inputs answered),
    .start ⟨.generate 3 2, none⟩ (inputs answered)] ++
  (List.replicate 25 [.operate 0, .operate 1, .operate 2]).flatten

end Sample

/-- Two scans and a generation at the same time leave the counters right. -/
theorem scans_counted_sample :
    ScansCounted (qrWorld Runtime.sample VerificationService.confirmedStore.toStore
      Sample.scans).shared.database :=
  scans_counted Runtime.sample VerificationService.confirmedStore Sample.confirmedStore_references
    Sample.confirmedStore_counted Sample.scans

end AcademicCredential
