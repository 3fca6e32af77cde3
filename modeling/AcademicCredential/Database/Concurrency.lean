import AcademicCredential.Database.Isolation
import AcademicCredential.Lib.Interleaving

/-!
# Concurrent calls

Calls of the backend interleaved statement by statement under READ COMMITTED. Each runs
on a session of its own; a statement sees what is committed and what its own transaction
has written, and waits while another open transaction has written the row it would write
or holds a UNIQUE key it would take. A statement that waits may be given up with an error,
as PostgreSQL does with the victim of a deadlock.

`moves_apply` says in four cases what a turn does to the committed rows and to the
pending writes, and `isolated_apply` that transactions stay isolated.
-/

namespace AcademicCredential

open AcademicCredential.Lib

namespace Session

/-- The write that a statement asks for. -/
def statement? (store : Store) (session : Session) : {Reply : Type} → Op Reply → Option Write
  | _, .flush table id assignments =>
      match session.instance? store table id, (visible store session).find? table id with
      | some loaded, some _ =>
          match netChanges loaded assignments with
          | [] => none
          | change :: changes => some (.update table id (change :: changes))
      | _, _ => none
  | _, .executeUpdate table id assignments =>
      ((visible store session).find? table id).map fun _ => .update table id assignments
  | _, .insert table row => some (.insert table row)
  | _, _ => none

/-- The write would touch a row or take a key that another transaction holds. -/
def collides (store : Store) (session : Session) (write : Write) (other : Session) : Bool :=
  (heldKeys store.database (session.pending ++ [write]) write.table).any
    (heldKeys store.database other.pending write.table).contains

/-- The statement would have to wait for one of the other transactions. -/
def waits {Reply : Type} (op : Op Reply) (store : Store) (session : Session)
    (others : List Session) : Bool :=
  match session.statement? store op with
  | none => false
  | some write => others.any (session.collides store write)

/-- An operation that writes nothing asks for no write. -/
theorem statement?_of_unwritten {Reply : Type} {op : Op Reply} (unwritten : op.written? = none)
    (store : Store) (session : Session) : session.statement? store op = none := by
  cases op <;> first | rfl | cases unwritten

/-- A flush asks for an update with some of its assignments. -/
theorem statement?_flush {store : Store} {session : Session} {table : Table} {id : Uuid}
    {assignments : List (Assignment table)} {write : Write}
    (asked : session.statement? store (.flush table id assignments) = some write) :
    ∃ changes, changes ≠ [] ∧ changes.Sublist assignments ∧
      write = .update table id changes := by
  simp only [statement?] at asked
  split at asked
  · rename_i loaded _ _ _
    cases changed : netChanges loaded assignments with
    | nil => simp [changed] at asked
    | cons change changes =>
        simp only [changed, Option.some.injEq] at asked
        refine ⟨change :: changes, by simp, ?_, asked.symm⟩
        rw [← changed]
        exact List.filter_sublist
  · cases asked

/-- Two transactions that do not collide hold different keys. -/
theorem not_collides {store : Store} {session other : Session} {write : Write}
    (apart : session.collides store write other = false) :
    ∀ key ∈ heldKeys store.database (session.pending ++ [write]) write.table,
      key ∉ heldKeys store.database other.pending write.table := by
  simpa [collides] using apart

end Session

/-- The reply of a statement that PostgreSQL gives up. -/
def Op.cancelled? : {Reply : Type} → Op Reply → Option Reply
  | _, .flush _ _ _ | _, .executeUpdate _ _ _ | _, .insert _ _ => some (.error .DBAPIError)
  | _, _ => none

/-- Calls that share one store. From outside, transactions are mined. -/
def readCommitted {Call Value : Type} (program : Call → Action Value) :
    System Op Exception Value Call Inputs (List MinedTransaction) Store Session where
  program
  fresh := .fresh
  handler := sessionHandler
  waits := Session.waits
  cancelled := Op.cancelled?
  change mined store := { store with chain := store.chain.mineAll mined }

/-- The rows accept a write. -/
def Write.AcceptedBy (today : Date) (database : Database) : Write → Prop
  | .insert table row => checkInsert today database table row = .ok ()
  | .update table id assignments => ∃ row, database.find? table id = some row ∧
      checkUpdated database table (assignAll row assignments) = .ok ()

/-- A write that the rows accept keeps them valid. -/
theorem Write.AcceptedBy.valid {today : Date} {database : Database} {write : Write}
    (accepted : write.AcceptedBy today database) (valid : database.Valid) :
    (write.apply database).Valid := by
  cases write with
  | insert table row => exact valid.insert accepted
  | update table id assignments =>
      obtain ⟨row, found, checked⟩ := accepted
      exact valid.update found checked

/-- What an operation does to the committed rows and to its session's pending writes. -/
inductive Session.Effect (store : Store) (session : Session) {Reply : Type} (op : Op Reply)
    (after : Store × Session) : Prop
  | quiet (database : after.1.database = store.database)
      (pending : after.2.pending = session.pending)
  | wrote (write : Write) (asked : session.statement? store op = some write)
      (accepted : write.AcceptedBy (session.inputs.today session.reads) (visible store session))
      (database : after.1.database = store.database)
      (pending : after.2.pending = session.pending ++ [write])
  | committed (isCommit : op.isCommit = true)
      (database : after.1.database = visible store session) (pending : after.2.pending = [])
  | rolledBack (database : after.1.database = store.database) (pending : after.2.pending = [])

/-- An UPDATE of a visible row is refused or is one write more. -/
theorem Session.updateRow_effect {store : Store} {session : Session} {Reply : Type}
    {op : Op Reply} {table : Table} {id : Uuid} {assignments : List (Assignment table)}
    {row : Row table} (found : (visible store session).find? table id = some row)
    (asked : session.statement? store op = some (.update table id assignments)) :
    session.Effect store op (store, (session.updateRow store table id assignments row).2) := by
  unfold Session.updateRow
  split
  · exact .quiet rfl rfl
  · rename_i checked
    exact .wrote (.update table id assignments) asked ⟨row, found, checked⟩ rfl rfl

/-- Every operation does one of the four things that `Session.Effect` lists. -/
theorem sessionHandler_effect {Reply : Type} (op : Op Reply) (store : Store) (session : Session) :
    session.Effect store op (sessionHandler Reply op (store, session)).2 := by
  cases op with
  | flush table id assignments =>
      cases loaded : session.instance? store table id with
      | none =>
          simp only [sessionHandler, loaded]
          exact .quiet rfl rfl
      | some loadedRow =>
          cases found : (visible store session).find? table id with
          | none =>
              simp only [sessionHandler, loaded, found]
              exact .quiet rfl rfl
          | some row =>
              cases changed : netChanges loadedRow assignments with
              | nil =>
                  simp only [sessionHandler, loaded, found, changed]
                  exact .quiet rfl rfl
              | cons change changes =>
                  simp only [sessionHandler, loaded, found, changed]
                  refine Session.updateRow_effect found ?_
                  simp only [Session.statement?, loaded, found, changed]
  | executeUpdate table id assignments =>
      cases found : (visible store session).find? table id with
      | none =>
          simp only [sessionHandler, found]
          exact .quiet rfl rfl
      | some row =>
          simp only [sessionHandler, found]
          refine Session.updateRow_effect found ?_
          simp only [Session.statement?, found, Option.map_some]
  | insert table row =>
      simp only [sessionHandler]
      split
      · exact .quiet rfl rfl
      · rename_i checked
        exact .wrote (.insert table row) rfl checked rfl rfl
  | begin =>
      simp only [sessionHandler]
      split <;> exact .quiet rfl rfl
  | commit => exact .committed rfl rfl rfl
  | rollback => exact .rolledBack rfl rfl
  | select | selectText | count | refresh | rpc | now | serverNow | monotonic | today | uuid4
  | tokenUrlsafe | writeFile | fileExists => exact .quiet rfl rfl

/-- A first SELECT from a table returns the rows as they are. -/
theorem loadedRows_of_unloaded {identityMap : Database} {table : Table}
    (unloaded : identityMap table = []) (rows : List (Row table)) :
    loadedRows identityMap table rows = rows := by
  have unknown : ∀ id, identityMap.find? table id = none := by
    intro id
    rw [Database.find?, unloaded]
    rfl
  simp [loadedRows, unknown]

/-- An operation leaves what is committed, or adds writes to it. -/
theorem database_grows {Reply : Type} (op : Op Reply) (store : Store) (session : Session) :
    ∃ writes, (sessionHandler Reply op (store, session)).2.1.database =
      applyWrites store.database writes := by
  cases sessionHandler_effect op store session with
  | quiet database pending => exact ⟨[], database⟩
  | wrote write asked accepted database pending => exact ⟨[], database⟩
  | committed isCommit database pending => exact ⟨_, database⟩
  | rolledBack database pending => exact ⟨[], database⟩

/-- An operation mines, or leaves the chain as it is. -/
theorem chain_grows {Reply : Type} (op : Op Reply) (store : Store) (session : Session) :
    Chain.Grows store.chain (sessionHandler Reply op (store, session)).2.1.chain := by
  cases op with
  | rpc call => exact Chain.grows_mineAll store.chain _
  | flush table id assignments =>
      simp only [sessionHandler]
      split
      · split <;> exact .refl _
      · exact .refl _
  | executeUpdate table id assignments | insert table row =>
      simp only [sessionHandler]
      split <;> exact .refl _
  | begin =>
      simp only [sessionHandler]
      split <;> exact .refl _
  | _ => exact .refl _

section Turns

variable {Call Value : Type} {program : Call → Action Value}
variable {world : World Op Exception Value Call Store Session}

/-- The pending writes of each thread's transaction. -/
def pendingOf (world : World Op Exception Value Call Store Session) (index : Nat) : List Write :=
  (world.threads[index]?.map fun thread => thread.own.pending).getD []

/-- The pending writes of a thread are those of its session. -/
theorem pendingOf_of_found {index : Nat} {thread : Thread Op Exception Value Call Session}
    (found : world.threads[index]? = some thread) : pendingOf world index = thread.own.pending := by
  simp [pendingOf, found]

/-- The transactions that see rows are those of the threads. -/
theorem version_iff {table : Table} {row : Row table} :
    Version world.shared.database (pendingOf world) row ↔
      row ∈ world.shared.database table ∨ ∃ thread ∈ world.threads,
        row ∈ applyWrites world.shared.database thread.own.pending table := by
  constructor
  · rintro (committed | ⟨index, sees⟩)
    · exact .inl committed
    · cases found : world.threads[index]? with
      | none =>
          simp only [pendingOf, found, Option.map_none, Option.getD_none, applyWrites_nil] at sees
          exact .inl sees
      | some thread =>
          rw [pendingOf_of_found found] at sees
          exact .inr ⟨thread, List.mem_of_getElem? found, sees⟩
  · rintro (committed | ⟨thread, member, sees⟩)
    · exact .inl committed
    · obtain ⟨index, found⟩ := List.mem_iff_getElem?.mp member
      exact .inr ⟨index, by rw [pendingOf_of_found found]; exact sees⟩

/-- When a thread goes on, only its own pending writes change. -/
theorem pendingOf_resume {index : Nat} {thread : Thread Op Exception Value Call Session}
    (found : world.threads[index]? = some thread) (rest : Action Value) (store : Store)
    (session : Session) :
    pendingOf (world.resume index thread rest store session) =
      Function.update (pendingOf world) index session.pending := by
  ext1 other
  rw [pendingOf, World.resume_threads found]
  by_cases same : other = index
  · subst same
    simp
  · simp [pendingOf, same]

/-- A call that starts has written nothing. -/
theorem pendingOf_start (call : Call) (inputs : Inputs) :
    pendingOf ((readCommitted program).apply world (.start call inputs)) = pendingOf world := by
  ext1 index
  rcases Nat.lt_trichotomy index world.threads.length with before | rfl | after
  · simp [pendingOf, System.apply, List.getElem?_append_left before]
  · simp [pendingOf, System.apply, readCommitted, Session.fresh]
  · have beyond : world.threads[index]? = none := List.getElem?_eq_none (Nat.le_of_lt after)
    have stillBeyond : (world.threads ++ [⟨call, program call, Session.fresh inputs⟩])[index]? =
        none := List.getElem?_eq_none (by simp; omega)
    simp [pendingOf, System.apply, readCommitted, beyond, stillBeyond]

/-- Another thread's session is one of those a statement may have to wait for. -/
theorem mem_others_of_found {index other : Nat} (different : other ≠ index)
    {thread : Thread Op Exception Value Call Session}
    (found : world.threads[other]? = some thread) : thread.own ∈ world.others index :=
  (world.mem_others).mpr ⟨other, thread, different, found, rfl⟩

/-- A write that did not wait shares no key with any other transaction. -/
theorem free_of_not_waits {index : Nat} {thread : Thread Op Exception Value Call Session}
    (found : world.threads[index]? = some thread) {Reply : Type} {op : Op Reply}
    (passes : Session.waits op world.shared thread.own (world.others index) = false)
    {write : Write} (asked : thread.own.statement? world.shared op = some write) :
    ∀ other, other ≠ index →
      ∀ key ∈ heldKeys world.shared.database (pendingOf world index ++ [write]) write.table,
        key ∉ heldKeys world.shared.database (pendingOf world other) write.table := by
  intro other different key holds
  rw [pendingOf_of_found found] at holds
  simp only [Session.waits, asked, List.any_eq_false] at passes
  cases foundOther : world.threads[other]? with
  | none => simp [pendingOf, foundOther]
  | some otherThread =>
      rw [pendingOf_of_found foundOther]
      have apart := passes otherThread.own (mem_others_of_found different foundOther)
      exact Session.not_collides (by simpa using apart) key holds

/-- The thread's turn carries out a write: the rows it sees accept it, and no other
transaction holds a key of it. -/
structure Writes (world : World Op Exception Value Call Store Session) (index : Nat)
    (thread : Thread Op Exception Value Call Session) (write : Write) : Prop where
  found : world.threads[index]? = some thread
  asked : ∃ (Reply : Type) (op : Op Reply) (next : Reply → Action Value),
    world.Reaches index thread op next ∧ thread.own.statement? world.shared op = some write
  accepted : write.AcceptedBy (thread.own.inputs.today thread.own.reads)
    (applyWrites world.shared.database (pendingOf world index))
  free : ∀ other, other ≠ index →
    ∀ key ∈ heldKeys world.shared.database (pendingOf world index ++ [write]) write.table,
      key ∉ heldKeys world.shared.database (pendingOf world other) write.table

/-- A row that is written shares no UNIQUE key with any version of another row, unless the
transaction has written that row as well. -/
theorem Writes.apart (isolated : Isolated world.shared.database (pendingOf world)) {index : Nat}
    {thread : Thread Op Exception Value Call Session} {write : Write}
    (writes : Writes world index thread write) {table : Table} {new other : Row table}
    (inTable : write.table = table) (isWritten : write.id = rowId new)
    (isNew : new ∈ write.apply (applyWrites world.shared.database (pendingOf world index)) table)
    (version : Version world.shared.database (pendingOf world) other)
    (different : rowId other ≠ rowId new)
    (untouched : ¬ Touches (pendingOf world index) table (rowId other)) : Apart new other := by
  have seen : other ∈ applyWrites world.shared.database (pendingOf world index) table →
      Apart new other := by
    intro sees
    have stillValid := writes.accepted.valid (isolated.valid index)
    have found := (isolated.valid index).keyed.find? sees
    have untouchedByWrite : ¬ (write.table = table ∧ write.id = rowId other) := by
      rintro ⟨-, same⟩
      exact different (same.symm.trans isWritten)
    rw [← Write.find?_apply_of_untouched untouchedByWrite] at found
    refine stillValid.apart_of_ne isNew (Database.find?_some found).1 ?_
    rintro rfl
    exact different rfl
  have committed : other ∈ world.shared.database table → Apart new other := by
    intro stored
    by_contra notApart
    exact untouched (isolated.touches_of_unseen stored fun sees => notApart (seen sees))
  rcases version with stored | ⟨holder, sees⟩
  · exact committed stored
  · by_cases same : holder = index
    · subst same
      exact seen sees
    · by_contra notApart
      have byHolder := isolated.touches_of_uncommitted sees fun stored =>
        notApart (committed stored)
      refine notApart fun key inNew inOther => ?_
      subst inTable
      refine writes.free holder same key (mem_heldKeys.mpr (.inr ⟨new, .inr ?_, ?_, inNew⟩))
        (mem_heldKeys.mpr (.inr ⟨other, .inr sees, byHolder, inOther⟩))
      · rw [applyWrites_snoc]
        exact isNew
      · exact touches_snoc.mpr (.inr ⟨rfl, isWritten⟩)

/-- What a turn does to the committed rows and to the pending writes. -/
inductive Moves (world : World Op Exception Value Call Store Session)
    (turn : Turn Call Inputs (List MinedTransaction))
    (after : World Op Exception Value Call Store Session) : Prop
  | quiet (database : after.shared.database = world.shared.database)
      (pending : pendingOf after = pendingOf world)
  | wrote (index : Nat) (isTurn : turn = .operate index)
      (thread : Thread Op Exception Value Call Session) (write : Write)
      (writes : Writes world index thread write)
      (database : after.shared.database = world.shared.database)
      (pending : pendingOf after =
        Function.update (pendingOf world) index (pendingOf world index ++ [write]))
  | committed (index : Nat) (isTurn : turn = .operate index)
      (database : after.shared.database =
        applyWrites world.shared.database (pendingOf world index))
      (pending : pendingOf after = Function.update (pendingOf world) index [])
  | rolledBack (index : Nat) (isTurn : turn = .operate index)
      (database : after.shared.database = world.shared.database)
      (pending : pendingOf after = Function.update (pendingOf world) index [])

/-- The operation that a thread performs makes one of the four moves. -/
theorem moves_performed {index : Nat} {thread : Thread Op Exception Value Call Session}
    {Reply : Type} {op : Op Reply} {next : Reply → Action Value}
    (reaches : world.Reaches index thread op next)
    (passes : Session.waits op world.shared thread.own (world.others index) = false) :
    Moves world (.operate index)
      ((readCommitted program).performed world index thread op next) := by
  have resumed := pendingOf_resume reaches.found
    (next (sessionHandler Reply op (world.shared, thread.own)).1)
    (sessionHandler Reply op (world.shared, thread.own)).2.1
    (sessionHandler Reply op (world.shared, thread.own)).2.2
  have here := pendingOf_of_found reaches.found
  cases sessionHandler_effect op world.shared thread.own with
  | quiet database pending =>
      refine .quiet database (resumed.trans ?_)
      rw [pending, ← here, Function.update_eq_self]
  | wrote write asked accepted database pending =>
      refine .wrote index rfl thread write ⟨reaches.found, ⟨Reply, op, next, reaches, asked⟩, ?_,
        free_of_not_waits reaches.found passes asked⟩ database (resumed.trans ?_)
      · rw [here]
        exact accepted
      · rw [pending, here]
  | committed isCommit database pending =>
      refine .committed index rfl ?_ (resumed.trans (by rw [pending]))
      rw [here]
      exact database
  | rolledBack database pending =>
      exact .rolledBack index rfl database (resumed.trans (by rw [pending]))

/-- Every turn makes one of the four moves. -/
theorem moves_apply (world : World Op Exception Value Call Store Session)
    (turn : Turn Call Inputs (List MinedTransaction)) :
    Moves world turn ((readCommitted program).apply world turn) := by
  cases turn with
  | start call inputs => exact .quiet rfl (pendingOf_start call inputs)
  | operate index =>
      change Moves world (.operate index) ((readCommitted program).operate world index)
      rcases (readCommitted program).operate_cases world index with idle | busy
      · rw [idle]
        exact .quiet rfl rfl
      · obtain ⟨thread, Reply, op, next, reaches, passes, operated⟩ := busy
        rw [operated]
        exact moves_performed reaches passes
  | cancel index =>
      change Moves world (.cancel index) ((readCommitted program).cancel world index)
      rcases (readCommitted program).cancel_cases world index with idle | busy
      · rw [idle]
        exact .quiet rfl rfl
      · obtain ⟨thread, Reply, op, next, reply, reaches, -, -, cancelled⟩ := busy
        rw [cancelled]
        refine .quiet rfl ((pendingOf_resume reaches.found ..).trans ?_)
        rw [← pendingOf_of_found reaches.found, Function.update_eq_self]
  | change mined => exact .quiet rfl rfl

/-- The chain never reorganises. -/
theorem chain_grows_apply (world : World Op Exception Value Call Store Session)
    (turn : Turn Call Inputs (List MinedTransaction)) :
    Chain.Grows world.shared.chain ((readCommitted program).apply world turn).shared.chain := by
  cases turn with
  | start call inputs => exact .refl _
  | operate index =>
      change Chain.Grows _ ((readCommitted program).operate world index).shared.chain
      rcases (readCommitted program).operate_cases world index with idle | busy
      · rw [idle]
        exact .refl _
      · obtain ⟨thread, Reply, op, next, reaches, passes, operated⟩ := busy
        rw [operated]
        exact chain_grows op world.shared thread.own
  | cancel index =>
      change Chain.Grows _ ((readCommitted program).cancel world index).shared.chain
      rcases (readCommitted program).cancel_cases world index with idle | busy
      · rw [idle]
        exact .refl _
      · obtain ⟨thread, Reply, op, next, reply, reaches, -, -, cancelled⟩ := busy
        rw [cancelled]
        exact .refl _
  | change mined => exact Chain.grows_mineAll _ mined

/-- Transactions stay isolated whatever the scheduler does. -/
theorem isolated_apply (isolated : Isolated world.shared.database (pendingOf world))
    (turn : Turn Call Inputs (List MinedTransaction)) :
    Isolated ((readCommitted program).apply world turn).shared.database
      (pendingOf ((readCommitted program).apply world turn)) := by
  cases moves_apply world turn with
  | quiet database pending =>
      rw [database, pending]
      exact isolated
  | wrote index isTurn thread write writes database pending =>
      rw [database, pending]
      exact isolated.write (writes.accepted.valid (isolated.valid index)) writes.free
  | committed index isTurn database pending =>
      rw [database, pending]
      exact isolated.commit index
  | rolledBack index isTurn database pending =>
      rw [database, pending]
      exact isolated.rollback index

/-- Whatever the rows, the operation asks only for writes of one kind. -/
def Op.WritesOnly (may : Write → Prop) {Reply : Type} (op : Op Reply) : Prop :=
  ∀ store session write, Session.statement? store session op = some write → may write

/-- An operation that writes nothing writes only what it may. -/
theorem Op.writesOnly_of_unwritten {may : Write → Prop} {Reply : Type} {op : Op Reply}
    (unwritten : op.written? = none) : op.WritesOnly may := by
  intro store session write asked
  rw [Session.statement?_of_unwritten unwritten] at asked
  cases asked

/-- A flush writes only what it may if all its updates may be written. -/
theorem Op.writesOnly_flush {may : Write → Prop} {table : Table} {id : Uuid}
    {assignments : List (Assignment table)}
    (each : ∀ changes, changes ≠ [] → changes.Sublist assignments →
      may (.update table id changes)) :
    (Op.flush table id assignments).WritesOnly may := by
  intro store session write asked
  obtain ⟨changes, some, among, rfl⟩ := Session.statement?_flush asked
  exact each changes some among

/-- Threads have written, and will write, only what their calls may. -/
structure Confined (may : Call → Write → Prop)
    (world : World Op Exception Value Call Store Session) : Prop where
  restricted : System.Restricted (fun call _ op => op.WritesOnly (may call)) world
  written : ∀ thread ∈ world.threads, ∀ write ∈ thread.own.pending, may thread.call write

namespace Confined

variable {may : Call → Write → Prop}

/-- A world without threads is confined. -/
theorem idle (store : Store) :
    Confined may (⟨store, []⟩ : World Op Exception Value Call Store Session) :=
  ⟨fun _ member => absurd member List.not_mem_nil, fun _ member => absurd member List.not_mem_nil⟩

/-- What a confined thread writes, its call may write. -/
theorem writes (confined : Confined may world) {index : Nat}
    {thread : Thread Op Exception Value Call Session} {write : Write}
    (writes : Writes world index thread write) : may thread.call write := by
  obtain ⟨Reply, op, next, reaches, asked⟩ := writes.asked
  exact (confined.restricted.reached reaches).1 _ _ _ asked

/-- What a confined thread has written, its call may write. -/
theorem pending (confined : Confined may world) {index : Nat}
    {thread : Thread Op Exception Value Call Session}
    (found : world.threads[index]? = some thread) {write : Write}
    (member : write ∈ pendingOf world index) : may thread.call write := by
  rw [pendingOf_of_found found] at member
  exact confined.written thread (List.mem_of_getElem? found) write member

/-- A thread goes on, with the pending writes it had, one more that it may write, or none. -/
theorem resume (confined : Confined may world) {index : Nat}
    {thread : Thread Op Exception Value Call Session} {Reply : Type} {op : Op Reply}
    {next : Reply → Action Value} (reaches : world.Reaches index thread op next) (reply : Reply)
    (store : Store) {session : Session}
    (written : ∀ write ∈ session.pending,
      write ∈ thread.own.pending ∨ thread.own.statement? world.shared op = some write) :
    Confined may (world.resume index thread (next reply) store session) := by
  refine ⟨confined.restricted.resume reaches reply store session, fun other member => ?_⟩
  rcases List.mem_or_eq_of_mem_set member with isOld | rfl
  · exact confined.written other isOld
  · intro write isPending
    rcases written write isPending with before | asked
    · exact confined.written thread (List.mem_of_getElem? reaches.found) write before
    · exact (confined.restricted.reached reaches).1 _ _ _ asked

/-- A turn keeps threads confined to what their calls may write. -/
theorem apply (confined : Confined may world)
    (every : ∀ call, (program call).Every fun _ op => op.WritesOnly (may call))
    (turn : Turn Call Inputs (List MinedTransaction)) :
    Confined may ((readCommitted program).apply world turn) := by
  cases turn with
  | start call inputs =>
      refine ⟨confined.restricted.apply every (.start call inputs), fun thread member => ?_⟩
      rcases List.mem_append.mp member with isOld | isNew
      · exact confined.written thread isOld
      · rw [List.mem_singleton.mp isNew]
        exact fun _ isPending => absurd isPending List.not_mem_nil
  | operate index =>
      change Confined may ((readCommitted program).operate world index)
      rcases (readCommitted program).operate_cases world index with idle | busy
      · rw [idle]
        exact confined
      · obtain ⟨thread, Reply, op, next, reaches, -, operated⟩ := busy
        rw [operated]
        refine confined.resume reaches _ _ fun write isPending => ?_
        cases sessionHandler_effect op world.shared thread.own with
        | quiet database pending => exact .inl (pending ▸ isPending)
        | wrote written asked accepted database pending =>
            rcases List.mem_append.mp (pending ▸ isPending) with before | isNew
            · exact .inl before
            · exact .inr (List.mem_singleton.mp isNew ▸ asked)
        | committed isCommit database pending => exact absurd (pending ▸ isPending) List.not_mem_nil
        | rolledBack database pending => exact absurd (pending ▸ isPending) List.not_mem_nil
  | cancel index =>
      change Confined may ((readCommitted program).cancel world index)
      rcases (readCommitted program).cancel_cases world index with idle | busy
      · rw [idle]
        exact confined
      · obtain ⟨thread, Reply, op, next, reply, reaches, -, -, cancelled⟩ := busy
        rw [cancelled]
        exact confined.resume reaches reply _ fun _ isPending => .inl isPending
  | change mined => exact ⟨confined.restricted, confined.written⟩

end Confined

end Turns
end AcademicCredential
