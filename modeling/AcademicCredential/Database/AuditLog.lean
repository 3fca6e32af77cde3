import AcademicCredential.Database.Concurrency
import AcademicCredential.Lib.Changes
import AcademicCredential.Lib.Forgetting

/-!
# The audit log

`audit_trigger_function` runs after every INSERT and UPDATE of an audited table. It notes the row
that the statement has found and the row that it leaves, and what it notes is committed or rolled
back with the statement, while other transactions commit in between. `audit_log_links`: whatever
calls run side by side, the committed entries of a record lead without a gap from what was stored
at the start to what is stored now.
-/

namespace AcademicCredential

open AcademicCredential.Lib

/-- `TG_OP`. -/
inductive AuditOperation where
  | INSERT
  | UPDATE
  | DELETE
  deriving DecidableEq, Repr

/-- A row of `audit_log`. `row_to_json` keeps the whole row. -/
structure AuditEntry where
  tableName : Table
  recordId : Uuid
  operation : AuditOperation
  oldValues : Option (Row tableName)
  newValues : Option (Row tableName)

/-- What a trigger is fired by, with `OLD` and `NEW`. -/
inductive RowChange (table : Table) where
  | insert (new : Row table)
  | update (old new : Row table)
  | delete (old : Row table)

/-- The entry that the trigger function writes for a changed row. -/
def auditTriggerFunction {table : Table} : RowChange table → AuditEntry
  | .insert new => ⟨table, rowId new, .INSERT, none, some new⟩
  | .update old new => ⟨table, rowId new, .UPDATE, some old, some new⟩
  | .delete old => ⟨table, rowId old, .DELETE, some old, none⟩

/-- The tables that have the trigger. -/
def Table.isAudited : Table → Bool
  | .universities | .users | .certificates | .qrVerifications => true
  | _ => false

/-- The entry of a changed row, if its table has the trigger. -/
def RowChange.entries {table : Table} (change : RowChange table) : List AuditEntry :=
  if table.isAudited then [auditTriggerFunction change] else []

/-- What the trigger notes of a statement, with the rows that the statement sees. -/
def Write.audit (database : Database) : Write → List AuditEntry
  | .insert _ row => (RowChange.insert row).entries
  | .update table id assignments =>
      match database.find? table id with
      | some old => (RowChange.update old (assignAll old assignments)).entries
      | none => []

/-- A store with the audit log. -/
structure AuditedStore extends Store where
  auditLog : List AuditEntry

/-- A session with the audit entries of its transaction. -/
structure AuditedSession extends Session where
  /-- The entries of the open transaction. -/
  entries : List AuditEntry

/-- The writes that an operation has added to its transaction. -/
def Session.added (before after : Session) : List Write :=
  after.pending.drop before.pending.length

/-- What an operation makes of the entries of its transaction. -/
def entriesAfter (store : AuditedStore) (session : AuditedSession) (after : Session) :
    {Reply : Type} → Op Reply → List AuditEntry
  | _, .commit | _, .rollback => []
  | _, _ => session.entries ++ (session.toSession.added after).flatMap
      (Write.audit (visible store.toStore session.toSession))

/-- The handler of sessions, with the trigger behind every write. -/
def auditedHandler : Program.Handler Op (AuditedStore × AuditedSession) :=
  fun Reply op (store, session) =>
    let after := sessionHandler Reply op (store.toStore, session.toSession)
    (after.1,
      { toStore := after.2.1
        auditLog := if op.isCommit then store.auditLog ++ session.entries else store.auditLog },
      { toSession := after.2.2
        entries := entriesAfter store session after.2.2 op })

/-- Concurrent calls over a database with the triggers. -/
def audited {Call Value : Type} (program : Call → Action Value) :
    System Op Exception Value Call Inputs (List MinedTransaction) AuditedStore AuditedSession where
  program
  fresh inputs := ⟨.fresh inputs, []⟩
  handler := auditedHandler
  waits op store session others :=
    session.toSession.waits op store.toStore (others.map AuditedSession.toSession)
  cancelled := Op.cancelled?
  change mined store := { store with chain := store.chain.mineAll mined }

/-- The triggers disturb no call. -/
theorem audited_forgets {Call Value : Type} (program : Call → Action Value) :
    System.Forgets (audited program) (readCommitted program) AuditedStore.toStore
      AuditedSession.toSession :=
  ⟨rfl, fun _ => rfl, fun _ _ _ => rfl, fun _ _ _ _ => rfl, fun _ => rfl, fun _ _ => rfl⟩

/-- What an entry says about a record: its values before and after. -/
def AuditEntry.changeOf (table : Table) (id : Uuid) (entry : AuditEntry) :
    Option (Option (Row table) × Option (Row table)) :=
  if same : entry.tableName = table then
    if entry.recordId = id then some (same ▸ (entry.oldValues, entry.newValues)) else none
  else none

/-- The values of one record before and after each of its entries. -/
def history (log : List AuditEntry) (table : Table) (id : Uuid) :
    List (Option (Row table) × Option (Row table)) :=
  log.filterMap (AuditEntry.changeOf table id)

/-- The history of two logs is one after the other. -/
theorem history_append (earlier later : List AuditEntry) (table : Table) (id : Uuid) :
    history (earlier ++ later) table id = history earlier table id ++ history later table id :=
  List.filterMap_append

namespace RowChange

variable {table : Table}

/-- The record that changes. -/
def recordId : RowChange table → Uuid
  | .insert row | .update _ row | .delete row => rowId row

/-- The row before and after a change. -/
def values : RowChange table → Option (Row table) × Option (Row table)
  | .insert new => (none, some new)
  | .update old new => (some old, some new)
  | .delete old => (some old, none)

/-- A change of an audited table is one step of its record's history. -/
theorem history_entries (change : RowChange table) (isAudited : table.isAudited = true) :
    history change.entries table change.recordId = [change.values] := by
  rw [entries, if_pos isAudited]
  cases change <;> simp [history, AuditEntry.changeOf, auditTriggerFunction, recordId, values]

/-- A change is no step in the history of another record. -/
theorem history_entries_elsewhere (change : RowChange table) {other : Table} {id : Uuid}
    (elsewhere : ¬ (table = other ∧ change.recordId = id)) :
    history change.entries other id = [] := by
  unfold entries
  split
  · refine List.filterMap_eq_nil_iff.mpr fun entry member => ?_
    rw [List.mem_singleton.mp member]
    by_cases inTable : table = other
    · have apart : change.recordId ≠ id := fun same => elsewhere ⟨inTable, same⟩
      subst inTable
      cases change <;> exact (dif_pos rfl).trans (if_neg apart)
    · cases change <;> exact dif_neg inTable
  · rfl

/-- A table without the trigger has no history. -/
theorem history_entries_unaudited (change : RowChange table) {other : Table}
    (unaudited : other.isAudited = false) (id : Uuid) : history change.entries other id = [] := by
  by_cases inTable : table = other
  · subst inTable
    simp [entries, unaudited, history]
  · exact change.history_entries_elsewhere fun both => inTable both.1

end RowChange

/-- Statements elsewhere leave no trace in the history of a record. -/
theorem history_audit_of_untouched {write : Write} {table : Table} {id : Uuid}
    (untouched : ¬ (write.table = table ∧ write.id = id)) (database : Database) :
    history (write.audit database) table id = [] := by
  cases write with
  | insert written row => exact RowChange.history_entries_elsewhere _ untouched
  | update written key assignments =>
      simp only [Write.audit]
      split
      · rename_i old found
        refine RowChange.history_entries_elsewhere _ fun both => untouched ⟨both.1, ?_⟩
        rw [RowChange.recordId, rowId_assignAll, (Database.find?_some found).2] at both
        exact both.2
      · rfl

/-- A write to such a table has none. -/
theorem history_audit_of_unaudited {table : Table} (unaudited : table.isAudited = false)
    (write : Write) (database : Database) (id : Uuid) :
    history (write.audit database) table id = [] := by
  cases write with
  | insert written row => exact RowChange.history_entries_unaudited _ unaudited id
  | update written key assignments =>
      simp only [Write.audit]
      split
      · exact RowChange.history_entries_unaudited _ unaudited id
      · rfl

/-- One statement: its entry leads from the row that it finds to the row that it leaves. -/
theorem Write.linked_audit {write : Write} {database : Database}
    (fresh : ∀ table (row : Row table), write = .insert table row →
      database.find? table (rowId row) = none)
    {table : Table} (isAudited : table.isAudited = true) (id : Uuid) :
    Linked (database.find? table id) (history (write.audit database) table id)
      ((write.apply database).find? table id) := by
  by_cases touched : write.table = table ∧ write.id = id
  · cases write with
    | insert written row =>
        obtain ⟨rfl, rfl⟩ : written = table ∧ rowId row = id := touched
        have absent := fresh written row rfl
        have stored : (Write.apply database (.insert written row)).find? written (rowId row) =
            some row := by
          rw [Database.find?] at absent
          simp [Database.find?, Write.apply, List.find?_append, absent]
        rw [absent, stored, Write.audit]
        exact ((RowChange.insert row).history_entries isAudited).symm ▸ .single none (some row)
    | update written key assignments =>
        obtain ⟨rfl, rfl⟩ : written = table ∧ key = id := touched
        cases found : database.find? written key with
        | none =>
            rw [Write.audit, found, Database.find?_update, found]
            exact .refl none
        | some old =>
            have noted := (RowChange.update old (assignAll old assignments)).history_entries
              isAudited
            rw [RowChange.recordId, rowId_assignAll, (Database.find?_some found).2] at noted
            rw [Database.find?_update_of_found found, if_pos rfl]
            simp only [Write.audit, found]
            rw [noted]
            exact .single (some old) (some (assignAll old assignments))
  · rw [history_audit_of_untouched touched, write.find?_apply_of_untouched touched]
    exact .refl _

/-- What the trigger notes of several statements, one after the other. -/
def auditOf : Database → List Write → List AuditEntry
  | _, [] => []
  | database, write :: rest => write.audit database ++ auditOf (write.apply database) rest

/-- Two lists of writes are audited one after the other. -/
theorem auditOf_append (database : Database) (first second : List Write) :
    auditOf database (first ++ second) =
      auditOf database first ++ auditOf (applyWrites database first) second := by
  induction first generalizing database with
  | nil => rfl
  | cons write rest inductionHypothesis =>
      simp only [List.cons_append, auditOf, inductionHypothesis, List.append_assoc]
      rfl

/-- What is audited of a write depends on the row it is about. -/
theorem Write.audit_congr {left right : Database} {write : Write}
    (same : left.find? write.table write.id = right.find? write.table write.id) :
    write.audit left = write.audit right := by
  cases write with
  | insert table row => rfl
  | update table key assignments =>
      change left.find? table key = right.find? table key at same
      simp only [Write.audit, same]

/-- The entries depend on the rows that are written alone. -/
theorem auditOf_congr {left right : Database} {writes : List Write}
    (same : ∀ table id, Touches writes table id → left.find? table id = right.find? table id) :
    auditOf left writes = auditOf right writes := by
  induction writes generalizing left right with
  | nil => rfl
  | cons write rest inductionHypothesis =>
      have here := same write.table write.id ⟨write, List.mem_cons_self, rfl, rfl⟩
      rw [auditOf, auditOf, write.audit_congr here]
      refine congrArg _ (inductionHypothesis fun table id touched => ?_)
      obtain ⟨later, member, isTouched⟩ := touched
      exact write.find?_apply_congr
        (same table id ⟨later, List.mem_cons_of_mem write member, isTouched⟩)

/-- Rows that have different keys after a statement had different keys before. -/
theorem Database.Keyed.of_apply {database : Database} {write : Write}
    (keyed : (write.apply database).Keyed) : database.Keyed := by
  intro table
  have later := keyed table
  rw [← applyWrites_nil database, ← applyWrites_snoc, List.nil_append, map_rowId_applyWrites]
    at later
  exact later.of_append_left

/-- A key that is inserted was free. -/
theorem Database.Keyed.absent_of_insert {database : Database} {table : Table} {row : Row table}
    (keyed : (Write.apply database (.insert table row)).Keyed) :
    database.find? table (rowId row) = none := by
  have later := keyed table
  simp only [Write.apply, Function.update_self, List.map_append, List.map_singleton] at later
  have apart := (List.nodup_append.mp later).2.2
  refine List.find?_eq_none.mpr fun other member => ?_
  simpa using apart (rowId other) (List.mem_map_of_mem member) (rowId row) (by simp)

/-- A transaction: its entries lead from the rows that are stored to the rows that it leaves. -/
theorem linked_auditOf {table : Table} (isAudited : table.isAudited = true) {database : Database}
    {writes : List Write} (keyed : (applyWrites database writes).Keyed) (id : Uuid) :
    Linked (database.find? table id) (history (auditOf database writes) table id)
      ((applyWrites database writes).find? table id) := by
  induction writes using List.reverseRecOn with
  | nil => exact .refl _
  | append_singleton writes write inductionHypothesis =>
      rw [applyWrites_snoc] at keyed ⊢
      rw [auditOf_append, history_append]
      refine (inductionHypothesis keyed.of_apply).trans ?_
      rw [auditOf, auditOf, List.append_nil]
      refine Write.linked_audit (fun other row isInsert => ?_) isAudited id
      subst isInsert
      exact keyed.absent_of_insert

/-- Writes leave no history in a table without the trigger. -/
theorem history_auditOf_of_unaudited {table : Table} (unaudited : table.isAudited = false)
    (database : Database) (writes : List Write) (id : Uuid) :
    history (auditOf database writes) table id = [] := by
  induction writes generalizing database with
  | nil => rfl
  | cons write rest inductionHypothesis =>
      rw [auditOf, history_append, history_audit_of_unaudited unaudited, inductionHypothesis,
        List.append_nil]

/-- The transaction goes on after the operation. -/
def Op.continues : {Reply : Type} → Op Reply → Bool
  | _, .commit | _, .rollback => false
  | _, _ => true

/-- A statement adds to what its transaction has written, or leaves it. -/
theorem pending_prefix {Reply : Type} {op : Op Reply} (continues : op.continues = true)
    (store : Store) (session : Session) :
    session.pending <+: (sessionHandler Reply op (store, session)).2.2.pending := by
  have updated : ∀ {table : Table} (id : Uuid) (assignments : List (Assignment table)) row,
      session.pending <+: (session.updateRow store table id assignments row).2.pending := by
    intro table id assignments row
    unfold Session.updateRow
    split
    · exact List.prefix_rfl
    · exact List.prefix_append _ _
  cases op with
  | flush table id assignments =>
      simp only [sessionHandler]
      split
      · split
        · exact List.prefix_rfl
        · exact updated id _ _
      · exact List.prefix_rfl
  | executeUpdate table id assignments =>
      simp only [sessionHandler]
      split
      · exact updated id assignments _
      · exact List.prefix_rfl
  | insert table row =>
      simp only [sessionHandler]
      split
      · exact List.prefix_rfl
      · exact List.prefix_append _ _
  | begin =>
      simp only [sessionHandler]
      split <;> exact List.prefix_rfl
  | commit | rollback => cases continues
  | _ => exact List.prefix_rfl

/-- A statement notes what it writes, and commits nothing. -/
theorem entriesAfter_statement {Reply : Type} {op : Op Reply} (continues : op.continues = true)
    {store : AuditedStore} {session : AuditedSession}
    (entries : session.entries = auditOf store.database session.pending) :
    (sessionHandler Reply op (store.toStore, session.toSession)).2.1.database = store.database ∧
      entriesAfter store session
          (sessionHandler Reply op (store.toStore, session.toSession)).2.2 op =
        auditOf store.database
          (sessionHandler Reply op (store.toStore, session.toSession)).2.2.pending := by
  have noted : entriesAfter store session
      (sessionHandler Reply op (store.toStore, session.toSession)).2.2 op =
        session.entries ++ (session.toSession.added
          (sessionHandler Reply op (store.toStore, session.toSession)).2.2).flatMap
            (Write.audit (visible store.toStore session.toSession)) := by
    cases op with
    | commit | rollback => cases continues
    | _ => rfl
  have isPrefix := pending_prefix continues store.toStore session.toSession
  have same : (sessionHandler Reply op (store.toStore, session.toSession)).2.2.pending =
      session.pending → entriesAfter store session
        (sessionHandler Reply op (store.toStore, session.toSession)).2.2 op =
          auditOf store.database
            (sessionHandler Reply op (store.toStore, session.toSession)).2.2.pending := by
    intro unwritten
    rw [noted, Session.added, unwritten, List.drop_length, List.flatMap_nil, List.append_nil,
      entries]
  cases sessionHandler_effect op store.toStore session.toSession with
  | quiet database pending => exact ⟨database, same pending⟩
  | wrote write asked accepted database pending =>
      refine ⟨database, ?_⟩
      rw [noted, Session.added, pending, List.drop_left, List.flatMap_singleton, auditOf_append,
        entries, auditOf, auditOf, List.append_nil]
      rfl
  | committed isCommit database pending =>
      cases op with
      | commit => cases continues
      | _ => cases isCommit
  | rolledBack database pending =>
      rw [pending] at isPrefix
      exact ⟨database, same (pending.trans (List.prefix_nil.mp isPrefix).symm)⟩

section Runs

variable {Call Value : Type} {program : Call → Action Value}

/-- Sessions with audit entries side by side. -/
abbrev AuditedWorld (Call Value : Type) :=
  Lib.World Op Exception Value Call AuditedStore AuditedSession

/-- The world without its audit log. -/
abbrev AuditedWorld.plain (world : AuditedWorld Call Value) :
    Lib.World Op Exception Value Call Store Session :=
  World.forget AuditedStore.toStore AuditedSession.toSession world

/-- The entries of every transaction are those of its pending writes over the committed rows, and
the committed entries link these to the rows of the start. -/
structure Traced (start : Database) (world : AuditedWorld Call Value) : Prop where
  isolated : Isolated world.shared.database (pendingOf world.plain)
  entries : ∀ (index : Nat) thread, world.threads[index]? = some thread →
    thread.own.entries = auditOf world.shared.database thread.own.pending
  linked : ∀ table id, table.isAudited = true →
    Linked (start.find? table id) (history world.shared.auditLog table id)
      (world.shared.database.find? table id)
  unaudited : ∀ table id, table.isAudited = false →
    history world.shared.auditLog table id = []

namespace Traced

variable {start : Database} {world : AuditedWorld Call Value}

/-- At the start the log is empty, as are the histories. -/
theorem idle {store : Store} (valid : store.database.Valid) :
    Traced store.database (⟨⟨store, []⟩, []⟩ : AuditedWorld Call Value) := by
  have nothing : pendingOf (AuditedWorld.plain (⟨⟨store, []⟩, []⟩ : AuditedWorld Call Value)) =
      fun _ => [] := by
    ext1 index
    simp [pendingOf, World.forget]
  refine ⟨?_, fun _ _ found => by simp at found, fun _ _ _ => .refl _, fun _ _ _ => rfl⟩
  rw [nothing]
  exact .idle valid

/-- Without the audit entries a thread is a thread of the plain world. -/
theorem found_plain {index : Nat} {thread : Thread Op Exception Value Call AuditedSession}
    (found : world.threads[index]? = some thread) :
    world.plain.threads[index]? = some ⟨thread.call, thread.program, thread.own.toSession⟩ := by
  simp [World.forget, found]

/-- A thread has the same writes pending without the audit entries. -/
theorem pendingOf_plain {index : Nat} {thread : Thread Op Exception Value Call AuditedSession}
    (found : world.threads[index]? = some thread) :
    pendingOf world.plain index = thread.own.pending :=
  pendingOf_of_found (found_plain found)

/-- What another transaction commits does not concern the entries of this one. -/
theorem entries_commit (traced : Traced start world) {index other : Nat} (different : other ≠ index)
    {thread : Thread Op Exception Value Call AuditedSession}
    (found : world.threads[other]? = some thread) :
    thread.own.entries = auditOf
      (applyWrites world.shared.database (pendingOf world.plain index)) thread.own.pending := by
  rw [traced.entries other thread found]
  refine auditOf_congr fun table id touched => ?_
  rw [← pendingOf_plain found] at touched
  have untouched := (traced.isolated.sideBySide (Ne.symm different)).not_touches touched
  exact (find?_applyWrites_of_untouched untouched _).symm

/-- One operation of a call. -/
theorem perform (traced : Traced start world) {index : Nat}
    {thread : Thread Op Exception Value Call AuditedSession} {Reply : Type} {op : Op Reply}
    {next : Reply → Action Value} (reaches : world.Reaches index thread op next)
    (isolated : Isolated ((audited program).performed world index thread op next).shared.database
      (pendingOf (AuditedWorld.plain ((audited program).performed world index thread op next)))) :
    Traced start ((audited program).performed world index thread op next) := by
  have mine := traced.entries index thread reaches.found
  have here := pendingOf_plain reaches.found
  by_cases continues : op.continues = true
  · obtain ⟨database, noted⟩ := entriesAfter_statement continues mine
    have sameLog : ((audited program).performed world index thread op next).shared.auditLog =
        world.shared.auditLog := by
      cases op with
      | commit => cases continues
      | _ => rfl
    have sameDatabase :
        ((audited program).performed world index thread op next).shared.database =
          world.shared.database := database
    refine ⟨isolated, fun other otherThread found => ?_, ?_, ?_⟩
    · rw [sameDatabase]
      rw [System.performed, World.resume_threads reaches.found] at found
      by_cases same : other = index
      · rw [if_pos same] at found
        cases found
        exact noted
      · rw [if_neg same] at found
        exact traced.entries other otherThread found
    · rw [sameDatabase, sameLog]
      exact traced.linked
    · rw [sameLog]
      exact traced.unaudited
  · cases op with
    | commit =>
        refine ⟨isolated, fun other otherThread found => ?_, fun table id isAudited => ?_,
          fun table id unaudited => ?_⟩
        · rw [System.performed, World.resume_threads reaches.found] at found
          by_cases same : other = index
          · rw [if_pos same] at found
            cases found
            rfl
          · rw [if_neg same] at found
            have stillThere := traced.entries_commit same found
            rw [here] at stillThere
            exact stillThere
        · have keyed := (traced.isolated.valid index).keyed
          rw [here] at keyed
          change Linked _ (history (world.shared.auditLog ++ thread.own.entries) table id)
            ((applyWrites world.shared.database thread.own.pending).find? table id)
          rw [history_append, mine]
          exact (traced.linked table id isAudited).trans (linked_auditOf isAudited keyed id)
        · change history (world.shared.auditLog ++ thread.own.entries) table id = []
          rw [history_append, mine, traced.unaudited table id unaudited,
            history_auditOf_of_unaudited unaudited, List.append_nil]
    | rollback =>
        refine ⟨isolated, fun other otherThread found => ?_, traced.linked, traced.unaudited⟩
        rw [System.performed, World.resume_threads reaches.found] at found
        by_cases same : other = index
        · rw [if_pos same] at found
          cases found
          rfl
        · rw [if_neg same] at found
          exact traced.entries other otherThread found
    | _ => exact absurd rfl continues

/-- Whatever turn comes next, it stays so. -/
theorem apply (traced : Traced start world) (turn : Turn Call Inputs (List MinedTransaction)) :
    Traced start ((audited program).apply world turn) := by
  have isolated := @isolated_apply _ _ program (AuditedWorld.plain world) traced.isolated turn
  rw [← (audited_forgets program).apply world turn] at isolated
  cases turn with
  | start call inputs =>
      refine ⟨isolated, fun index thread found => ?_, traced.linked, traced.unaudited⟩
      simp only [System.apply, List.getElem?_append] at found
      split at found
      · exact traced.entries index thread found
      · rw [List.mem_singleton.mp (List.mem_of_getElem? found)]
        rfl
  | operate index =>
      change Isolated ((audited program).operate world index).shared.database
        (pendingOf (AuditedWorld.plain ((audited program).operate world index))) at isolated
      change Traced start ((audited program).operate world index)
      rcases (audited program).operate_cases world index with idle | busy
      · rw [idle]
        exact traced
      · obtain ⟨thread, Reply, op, next, reaches, -, operated⟩ := busy
        rw [operated] at isolated ⊢
        exact traced.perform reaches isolated
  | cancel index =>
      change Isolated ((audited program).cancel world index).shared.database
        (pendingOf (AuditedWorld.plain ((audited program).cancel world index))) at isolated
      change Traced start ((audited program).cancel world index)
      rcases (audited program).cancel_cases world index with idle | busy
      · rw [idle]
        exact traced
      · obtain ⟨thread, Reply, op, next, reply, reaches, -, -, cancelled⟩ := busy
        rw [cancelled] at isolated ⊢
        refine ⟨isolated, fun other otherThread found => ?_, traced.linked, traced.unaudited⟩
        rw [World.resume_threads reaches.found] at found
        by_cases same : other = index
        · rw [if_pos same] at found
          cases found
          exact traced.entries index thread reaches.found
        · rw [if_neg same] at found
          exact traced.entries other otherThread found
  | change mined => exact ⟨isolated, traced.entries, traced.linked, traced.unaudited⟩

end Traced

/-- In every run, whatever the calls and the order of their statements: the committed entries of a
record of an audited table lead, each from where the one before it ended, from the row that was
stored at the start to the row that is stored now, which the last entry names. There are no
others. -/
theorem audit_log_links (program : Call → Action Value) (store : ValidStore)
    (run : List (Turn Call Inputs (List MinedTransaction))) (table : Table) (id : Uuid) :
    let final := stateAfter (audited program).apply ⟨⟨store.toStore, []⟩, []⟩ run
    let changes := history final.shared.auditLog table id
    if table.isAudited then
      Linked (store.database.find? table id) changes (final.shared.database.find? table id) ∧
        final.shared.database.find? table id =
          (changes.getLast?.map Prod.snd).getD (store.database.find? table id)
    else changes = [] := by
  intro final changes
  have traced : Traced store.database final :=
    stateAfter_invariant _ (fun _ turn traced => traced.apply turn) (.idle store.valid) run
  split
  · rename_i isAudited
    have linked := traced.linked table id isAudited
    exact ⟨linked, linked.eq_last⟩
  · rename_i unaudited
    exact traced.unaudited table id (Bool.not_eq_true _ ▸ unaudited)

end Runs
end AcademicCredential
