import AcademicCredential.Database.Concurrency

/-!
# What UPDATEs make of rows

Two ways to follow a row through concurrent transactions, for calls that check a row they have read
and update it later. Both look at the row that an UPDATE finds, and hold as long as every UPDATE
finds one that it may change.

`RowsFollow`: an order of rows that every UPDATE respects is respected by the committed rows.
`SpentOnce`: where an UPDATE finds its row unspent and leaves it spent, at most one UPDATE of each
row is ever committed.
-/

namespace AcademicCredential

open AcademicCredential.Lib

section Logs

variable {Call Value : Type} {program : Call → Action Value}
variable {world : World Op Exception Value Call Store Session}

/-- The writes that each thread has committed. -/
def committedOf (world : World Op Exception Value Call Store Session) (index : Nat) : List Write :=
  (world.threads[index]?.map fun thread => thread.own.committed).getD []

/-- What a thread has committed is what its session has. -/
theorem committedOf_of_found {index : Nat} {thread : Thread Op Exception Value Call Session}
    (found : world.threads[index]? = some thread) :
    committedOf world index = thread.own.committed := by
  simp [committedOf, found]

/-- When a thread goes on, only what it has committed itself changes. -/
theorem committedOf_resume {index : Nat} {thread : Thread Op Exception Value Call Session}
    (found : world.threads[index]? = some thread) (rest : Action Value) (store : Store)
    (session : Session) :
    committedOf (world.resume index thread rest store session) =
      Function.update (committedOf world) index session.committed := by
  ext1 other
  rw [committedOf, World.resume_threads found]
  by_cases same : other = index
  · subst same
    simp
  · simp [committedOf, same]

/-- A call that starts has committed nothing. -/
theorem committedOf_start (call : Call) (inputs : Inputs) :
    committedOf ((readCommitted program).apply world (.start call inputs)) = committedOf world := by
  ext1 index
  rcases Nat.lt_trichotomy index world.threads.length with before | rfl | after
  · simp [committedOf, System.apply, List.getElem?_append_left before]
  · simp [committedOf, System.apply, readCommitted, Session.fresh]
  · have beyond : world.threads[index]? = none := List.getElem?_eq_none (Nat.le_of_lt after)
    have stillBeyond : (world.threads ++ [⟨call, program call, Session.fresh inputs⟩])[index]? =
        none := List.getElem?_eq_none (by simp; omega)
    simp [committedOf, System.apply, readCommitted, beyond, stillBeyond]

/-- Only a commit adds to what a session has committed. -/
theorem sessionHandler_committed {Reply : Type} (op : Op Reply) (store : Store) (session : Session) :
    (sessionHandler Reply op (store, session)).2.2.committed =
      if op.isCommit then session.committed ++ session.pending else session.committed := by
  have updated : ∀ {table : Table} (id : Uuid) (assignments : List (Assignment table)) row,
      (session.updateRow store table id assignments row).2.committed = session.committed := by
    intro table id assignments row
    unfold Session.updateRow
    split <;> rfl
  cases op with
  | flush table id assignments =>
      simp only [sessionHandler, Op.isCommit]
      split
      · split
        · rfl
        · exact updated id _ _
      · rfl
  | executeUpdate table id assignments =>
      simp only [sessionHandler, Op.isCommit]
      split
      · exact updated id assignments _
      · rfl
  | insert table row =>
      simp only [sessionHandler, Op.isCommit]
      split <;> rfl
  | begin =>
      simp only [sessionHandler, Op.isCommit]
      split <;> rfl
  | _ => rfl

/-- What a turn does to the committed rows, to the pending writes and to the committed ones. -/
inductive Logs (world : World Op Exception Value Call Store Session)
    (turn : Turn Call Inputs (List MinedTransaction))
    (after : World Op Exception Value Call Store Session) : Prop
  | quiet (database : after.shared.database = world.shared.database)
      (pending : pendingOf after = pendingOf world)
      (committed : committedOf after = committedOf world)
  | wrote (index : Nat) (isTurn : turn = .operate index)
      (thread : Thread Op Exception Value Call Session) (write : Write)
      (writes : Writes world index thread write)
      (database : after.shared.database = world.shared.database)
      (pending : pendingOf after =
        Function.update (pendingOf world) index (pendingOf world index ++ [write]))
      (committed : committedOf after = committedOf world)
  | committed (index : Nat)
      (database : after.shared.database =
        applyWrites world.shared.database (pendingOf world index))
      (pending : pendingOf after = Function.update (pendingOf world) index [])
      (committed : committedOf after = Function.update (committedOf world) index
        (committedOf world index ++ pendingOf world index))
  | rolledBack (index : Nat)
      (database : after.shared.database = world.shared.database)
      (pending : pendingOf after = Function.update (pendingOf world) index [])
      (committed : committedOf after = committedOf world)

/-- The operation that a thread performs is recorded in one of the four ways. -/
theorem logs_performed {index : Nat} {thread : Thread Op Exception Value Call Session}
    {Reply : Type} {op : Op Reply} {next : Reply → Action Value}
    (reaches : world.Reaches index thread op next)
    (passes : Session.waits op world.shared thread.own (world.others index) = false) :
    Logs world (.operate index)
      ((readCommitted program).performed world index thread op next) := by
  have resumed := pendingOf_resume reaches.found
    (next (sessionHandler Reply op (world.shared, thread.own)).1)
    (sessionHandler Reply op (world.shared, thread.own)).2.1
    (sessionHandler Reply op (world.shared, thread.own)).2.2
  have logged := committedOf_resume reaches.found
    (next (sessionHandler Reply op (world.shared, thread.own)).1)
    (sessionHandler Reply op (world.shared, thread.own)).2.1
    (sessionHandler Reply op (world.shared, thread.own)).2.2
  have here := pendingOf_of_found reaches.found
  have before := committedOf_of_found reaches.found
  rw [sessionHandler_committed] at logged
  by_cases isCommit : op.isCommit = true
  · rw [if_pos isCommit, ← before, ← here] at logged
    cases op with
    | commit =>
        refine .committed index ?_ resumed logged
        rw [here]
        rfl
    | _ => cases isCommit
  · rw [if_neg isCommit, ← before, Function.update_eq_self] at logged
    cases sessionHandler_effect op world.shared thread.own with
    | quiet database pending =>
        refine .quiet database (resumed.trans ?_) logged
        rw [pending, ← here, Function.update_eq_self]
    | wrote write asked accepted database pending =>
        refine .wrote index rfl thread write ⟨reaches.found, ⟨Reply, op, next, reaches, asked⟩, ?_,
          free_of_not_waits reaches.found passes asked⟩ database (resumed.trans ?_) logged
        · rw [here]
          exact accepted
        · rw [pending, here]
    | committed commits => exact absurd commits isCommit
    | rolledBack database pending =>
        exact .rolledBack index database (resumed.trans (by rw [pending])) logged

/-- Every turn is recorded in one of the four ways. -/
theorem logs_apply (world : World Op Exception Value Call Store Session)
    (turn : Turn Call Inputs (List MinedTransaction)) :
    Logs world turn ((readCommitted program).apply world turn) := by
  cases turn with
  | start call inputs => exact .quiet rfl (pendingOf_start call inputs) (committedOf_start call inputs)
  | operate index =>
      change Logs world (.operate index) ((readCommitted program).operate world index)
      rcases (readCommitted program).operate_cases world index with idle | busy
      · rw [idle]
        exact .quiet rfl rfl rfl
      · obtain ⟨thread, Reply, op, next, reaches, passes, operated⟩ := busy
        rw [operated]
        exact logs_performed reaches passes
  | cancel index =>
      change Logs world (.cancel index) ((readCommitted program).cancel world index)
      rcases (readCommitted program).cancel_cases world index with idle | busy
      · rw [idle]
        exact .quiet rfl rfl rfl
      · obtain ⟨thread, Reply, op, next, reply, reaches, -, -, cancelled⟩ := busy
        rw [cancelled]
        refine .quiet rfl ((pendingOf_resume reaches.found ..).trans ?_)
          ((committedOf_resume reaches.found ..).trans ?_)
        · rw [← pendingOf_of_found reaches.found, Function.update_eq_self]
        · rw [← committedOf_of_found reaches.found, Function.update_eq_self]
  | change mined => exact .quiet rfl rfl rfl

end Logs

/-- The write is an UPDATE of the row with a primary key. -/
def Write.updates (table : Table) (id : Uuid) : Write → Bool
  | .insert _ _ => false
  | .update written key _ => decide (written = table ∧ key = id)

/-- A write that updates a row is an UPDATE. -/
theorem Write.of_updates {table : Table} {id : Uuid} {write : Write}
    (updates : write.updates table id = true) :
    ∃ assignments : List (Assignment table), write = .update table id assignments := by
  cases write with
  | insert _ _ => cases updates
  | update written key assignments =>
      obtain ⟨rfl, rfl⟩ := of_decide_eq_true updates
      exact ⟨assignments, rfl⟩

/-- A row that is there stays as it is unless it is updated. -/
theorem Write.find?_apply_of_found {write : Write} {table : Table} {id : Uuid} {row : Row table}
    {database : Database} (found : database.find? table id = some row)
    (elsewhere : write.updates table id = false) :
    (write.apply database).find? table id = some row := by
  by_cases inTable : write.table = table
  · cases write with
    | insert written inserted =>
        obtain rfl : written = table := inTable
        rw [Database.find?] at found
        simp only [Database.find?, Write.apply, Function.update_self, List.find?_append, found,
          Option.some_or]
    | update written key assignments =>
        obtain rfl : written = table := inTable
        have other : ¬ (Write.table (.update written key assignments) = written ∧ key = id) := by
          rintro ⟨-, same⟩
          rw [Write.updates, decide_eq_false_iff_not] at elsewhere
          exact elsewhere ⟨rfl, same⟩
        rw [Write.find?_apply_of_untouched other, found]
  · rw [Database.find?_congr (write.apply_of_ne inTable database), found]

/-- Writes that do not update a row leave it as it is. -/
theorem find?_applyWrites_of_found {writes : List Write} {table : Table} {id : Uuid}
    {row : Row table} {database : Database} (found : database.find? table id = some row)
    (elsewhere : ∀ write ∈ writes, write.updates table id = false) :
    (applyWrites database writes).find? table id = some row := by
  induction writes generalizing database with
  | nil => exact found
  | cons first rest inductionHypothesis =>
      exact inductionHypothesis
        (first.find?_apply_of_found found (elsewhere first List.mem_cons_self))
        fun write member => elsewhere write (List.mem_cons_of_mem first member)

/-- A row that is updated is touched. -/
theorem touches_of_updates {writes : List Write} {write : Write} {table : Table} {id : Uuid}
    (member : write ∈ writes) (updates : write.updates table id = true) :
    Touches writes table id := by
  obtain ⟨assignments, rfl⟩ := Write.of_updates updates
  exact ⟨_, member, rfl, rfl⟩

section following

variable {table : Table} (follows : Row table → Row table → Prop)

/-- Every row of the earlier database is followed by a row of the later one. -/
def DatabaseFollows (before after : Database) : Prop :=
  ∀ id row, before.find? table id = some row →
    ∃ later, after.find? table id = some later ∧ follows row later

/-- An UPDATE of the table leaves a row that follows the one it finds. -/
def Write.Respects (database : Database) (write : Write) : Prop :=
  ∀ id assignments, write = .update table id assignments →
    ∀ row, database.find? table id = some row → follows row (assignAll row assignments)

variable {follows}

/-- Every database follows itself. -/
theorem DatabaseFollows.refl (reflexive : ∀ row, follows row row) (database : Database) :
    DatabaseFollows follows database database :=
  fun _ row found => ⟨row, found, reflexive row⟩

/-- What follows twice follows. -/
theorem DatabaseFollows.trans
    (transitive : ∀ first middle last, follows first middle → follows middle last →
      follows first last)
    {first middle last : Database} (earlier : DatabaseFollows follows first middle)
    (later : DatabaseFollows follows middle last) : DatabaseFollows follows first last := by
  intro id row found
  obtain ⟨next, isNext, follow⟩ := earlier id row found
  obtain ⟨final, isFinal, followNext⟩ := later id next isNext
  exact ⟨final, isFinal, transitive _ _ _ follow followNext⟩

/-- Rows follow through a write that respects the order. -/
theorem DatabaseFollows.apply
    (transitive : ∀ first middle last, follows first middle → follows middle last →
      follows first last)
    {before after : Database} (since : DatabaseFollows follows before after) {write : Write}
    (respects : write.Respects follows after) :
    DatabaseFollows follows before (write.apply after) := by
  intro id row found
  obtain ⟨later, isLater, follow⟩ := since id row found
  cases updates : write.updates table id with
  | false => exact ⟨later, write.find?_apply_of_found isLater updates, follow⟩
  | true =>
      obtain ⟨assignments, rfl⟩ := Write.of_updates updates
      refine ⟨assignAll later assignments, ?_, transitive _ _ _ follow
        (respects id assignments rfl later isLater)⟩
      rw [Database.find?_update_of_found isLater, if_pos rfl]

/-- Writes keep what every UPDATE keeps. -/
theorem DatabaseFollows.applyWrites (reflexive : ∀ row, follows row row)
    (transitive : ∀ first middle last, follows first middle → follows middle last →
      follows first last)
    (kept : ∀ row assignments, follows row (assignAll row assignments)) (database : Database)
    (writes : List Write) :
    DatabaseFollows follows database (AcademicCredential.applyWrites database writes) := by
  induction writes using List.reverseRecOn with
  | nil => exact .refl reflexive database
  | append_singleton writes write inductionHypothesis =>
      rw [applyWrites_snoc]
      exact inductionHypothesis.apply transitive fun _ assignments _ row _ => kept row assignments

/-- Rows are never deleted. -/
theorem exists_find?_applyWrites {database : Database} {id : Uuid} {row : Row table}
    (found : database.find? table id = some row) (writes : List Write) :
    ∃ later, (applyWrites database writes).find? table id = some later := by
  have follows : DatabaseFollows (fun _ _ : Row table => True) database
      (applyWrites database writes) :=
    .applyWrites (fun _ => trivial) (fun _ _ _ _ _ => trivial) (fun _ _ => trivial) database writes
  obtain ⟨later, isLater, -⟩ := follows id row found
  exact ⟨later, isLater⟩

/-- What every transaction sees follows the committed rows. -/
structure RowsFollow {Call Value : Type} (follows : Row table → Row table → Prop)
    (world : World Op Exception Value Call Store Session) : Prop where
  isolated : Isolated world.shared.database (pendingOf world)
  seen : ∀ index, DatabaseFollows follows world.shared.database
    (applyWrites world.shared.database (pendingOf world index))

namespace RowsFollow

variable {Call Value : Type} {program : Call → Action Value}
variable {world : World Op Exception Value Call Store Session}
variable (reflexive : ∀ row, follows row row)

include reflexive

/-- The rows at the start follow themselves. -/
theorem idle {store : Store} (valid : store.database.Valid) :
    RowsFollow follows (⟨store, []⟩ : World Op Exception Value Call Store Session) := by
  have nothing : pendingOf (⟨store, []⟩ : World Op Exception Value Call Store Session) =
      fun _ => [] := by
    ext1 index
    simp [pendingOf]
  constructor
  · rw [nothing]
    exact .idle valid
  · rw [nothing]
    exact fun _ => .refl reflexive _

/-- When one transaction commits, what the others see follows the new rows. -/
theorem seen_commit (rows : RowsFollow follows world) {index other : Nat} (different : other ≠ index) :
    DatabaseFollows follows (applyWrites world.shared.database (pendingOf world index))
      (applyWrites (applyWrites world.shared.database (pendingOf world index))
        (pendingOf world other)) := by
  intro id row found
  have sideBySide := rows.isolated.sideBySide (Ne.symm different)
  by_cases touched : Touches (pendingOf world other) table id
  · rw [find?_applyWrites_of_untouched (sideBySide.not_touches touched)] at found
    rw [sideBySide.find?_touched touched]
    exact rows.seen other id row found
  · refine ⟨row, ?_, reflexive row⟩
    rw [find?_applyWrites_of_untouched touched, found]

/-- A turn whose write respects the order leaves rows that follow. -/
theorem apply
    (transitive : ∀ first middle last, follows first middle → follows middle last →
      follows first last)
    (rows : RowsFollow follows world) {turn : Turn Call Inputs (List MinedTransaction)}
    (respects : ∀ index thread write, turn = .operate index → Writes world index thread write →
      write.Respects follows (applyWrites world.shared.database (pendingOf world index))) :
    RowsFollow follows ((readCommitted program).apply world turn) ∧
      DatabaseFollows follows world.shared.database
        ((readCommitted program).apply world turn).shared.database := by
  have isolated := @isolated_apply _ _ program _ rows.isolated turn
  refine ⟨⟨isolated, ?_⟩, ?_⟩
  · cases @moves_apply _ _ program world turn with
    | quiet database pending =>
        rw [database, pending]
        exact rows.seen
    | wrote index isTurn thread write writes database pending =>
        rw [database, pending]
        intro other
        by_cases same : other = index
        · subst same
          rw [Function.update_self, applyWrites_snoc]
          exact (rows.seen other).apply transitive (respects other thread write isTurn writes)
        · rw [Function.update_of_ne same]
          exact rows.seen other
    | committed index isTurn database pending =>
        rw [database, pending]
        intro other
        by_cases same : other = index
        · subst same
          rw [Function.update_self]
          exact .refl reflexive _
        · rw [Function.update_of_ne same]
          exact rows.seen_commit reflexive same
    | rolledBack index isTurn database pending =>
        rw [database, pending]
        intro other
        by_cases same : other = index
        · subst same
          rw [Function.update_self]
          exact .refl reflexive _
        · rw [Function.update_of_ne same]
          exact rows.seen other
  · cases @moves_apply _ _ program world turn with
    | quiet database _ | wrote _ _ _ _ _ database _ | rolledBack _ _ database _ =>
        rw [database]
        exact .refl reflexive _
    | committed index isTurn database pending =>
        rw [database]
        exact rows.seen index

end RowsFollow

end following

section spending

variable {table : Table} (spent : Row table → Prop)

/-- An UPDATE of the table finds its row unspent and leaves it spent. -/
def Write.Spends (database : Database) (write : Write) : Prop :=
  ∀ id assignments, write = .update table id assignments →
    ∃ row, database.find? table id = some row ∧ ¬ spent row ∧ spent (assignAll row assignments)

/-- The row is there, and spent. -/
def SpentRow (database : Database) (id : Uuid) : Prop :=
  ∃ row, database.find? table id = some row ∧ spent row

variable {spent}

/-- A spent row stays spent through a write. -/
theorem SpentRow.apply {database : Database} {id : Uuid} (isSpent : SpentRow spent database id)
    {write : Write} (spends : write.Spends spent database) :
    SpentRow spent (write.apply database) id := by
  obtain ⟨row, found, rowSpent⟩ := isSpent
  cases updates : write.updates table id with
  | false => exact ⟨row, write.find?_apply_of_found found updates, rowSpent⟩
  | true =>
      obtain ⟨assignments, rfl⟩ := Write.of_updates updates
      obtain ⟨other, isOther, -, leftSpent⟩ := spends id assignments rfl
      refine ⟨assignAll other assignments, ?_, leftSpent⟩
      rw [Database.find?_update_of_found isOther, if_pos rfl]

/-- Every committed UPDATE of a row spent it, and so did every pending one, where the committed
row is not spent yet. -/
structure SpentOnce {Call Value : Type} (spent : Row table → Prop)
    (world : World Op Exception Value Call Store Session) : Prop where
  isolated : Isolated world.shared.database (pendingOf world)
  pending : ∀ index id, (∃ write ∈ pendingOf world index, write.updates table id = true) →
    ¬ SpentRow spent world.shared.database id ∧
      SpentRow spent (applyWrites world.shared.database (pendingOf world index)) id
  pendingOnce : ∀ index id, (pendingOf world index).countP (Write.updates table id) ≤ 1
  committed : ∀ index id, (∃ write ∈ committedOf world index, write.updates table id = true) →
    SpentRow spent world.shared.database id
  committedOnce : ∀ index id, (committedOf world index).countP (Write.updates table id) ≤ 1
  apart : ∀ left right id, (∃ write ∈ committedOf world left, write.updates table id = true) →
    (∃ write ∈ committedOf world right, write.updates table id = true) → left = right

namespace SpentOnce

variable {Call Value : Type} {program : Call → Action Value}
variable {world after : World Op Exception Value Call Store Session}

/-- At the start nothing is spent twice. -/
theorem idle {store : Store} (valid : store.database.Valid) :
    SpentOnce spent (⟨store, []⟩ : World Op Exception Value Call Store Session) := by
  have nothing : pendingOf (⟨store, []⟩ : World Op Exception Value Call Store Session) =
      fun _ => [] := by
    ext1 index
    simp [pendingOf]
  have unlogged : committedOf (⟨store, []⟩ : World Op Exception Value Call Store Session) =
      fun _ => [] := by
    ext1 index
    simp [committedOf]
  constructor
  · rw [nothing]
    exact .idle valid
  · rw [nothing]
    rintro index id ⟨write, member, -⟩
    exact absurd member List.not_mem_nil
  · rw [nothing]
    exact fun _ _ => Nat.zero_le _
  · rw [unlogged]
    rintro index id ⟨write, member, -⟩
    exact absurd member List.not_mem_nil
  · rw [unlogged]
    exact fun _ _ => Nat.zero_le _
  · rw [unlogged]
    rintro left right id ⟨write, member, -⟩
    exact absurd member List.not_mem_nil

/-- The row that a pending UPDATE was made to is the committed one. -/
theorem unspent_committed (once : SpentOnce spent world) {index : Nat} {id : Uuid}
    {row : Row table}
    (found : (applyWrites world.shared.database (pendingOf world index)).find? table id = some row)
    (unspent : ¬ spent row) : ¬ SpentRow spent world.shared.database id := by
  rintro ⟨stored, isStored, isSpent⟩
  by_cases updated : ∃ write ∈ pendingOf world index, write.updates table id = true
  · exact (once.pending index id updated).1 ⟨stored, isStored, isSpent⟩
  · have elsewhere : ∀ write ∈ pendingOf world index, write.updates table id = false :=
      fun write member => Bool.eq_false_iff.mpr fun updates => updated ⟨write, member, updates⟩
    have same := find?_applyWrites_of_found isStored elsewhere
    obtain rfl := Option.some.inj (same.symm.trans found)
    exact unspent isSpent

/-- A transaction updates a row at most once while it is unspent. -/
theorem count_snoc (once : SpentOnce spent world) {index : Nat} {write : Write}
    (spends : write.Spends spent (applyWrites world.shared.database (pendingOf world index)))
    (id : Uuid) : (pendingOf world index ++ [write]).countP (Write.updates table id) ≤ 1 := by
  rw [List.countP_append, List.countP_singleton]
  cases updates : write.updates table id with
  | false => simpa using once.pendingOnce index id
  | true =>
      obtain ⟨assignments, rfl⟩ := Write.of_updates updates
      obtain ⟨row, found, unspent, -⟩ := spends id assignments rfl
      have none : (pendingOf world index).countP (Write.updates table id) = 0 := by
        rw [List.countP_eq_zero]
        intro write member updated
        obtain ⟨other, isOther, otherSpent⟩ :=
          (once.pending index id ⟨write, member, updated⟩).2
        obtain rfl := Option.some.inj (found.symm.trans isOther)
        exact unspent otherSpent
      rw [none]
      rfl

/-- Writing keeps it when the UPDATE spends its row. -/
theorem wrote (once : SpentOnce spent world) {index : Nat}
    {thread : Thread Op Exception Value Call Session} {write : Write}
    (writes : Writes world index thread write)
    (spends : write.Spends spent (applyWrites world.shared.database (pendingOf world index)))
    (database : after.shared.database = world.shared.database)
    (pending : pendingOf after =
      Function.update (pendingOf world) index (pendingOf world index ++ [write]))
    (committed : committedOf after = committedOf world) : SpentOnce spent after where
  isolated := by
    rw [database, pending]
    exact once.isolated.write (writes.accepted.valid (once.isolated.valid index)) writes.free
  pending other id updated := by
    rw [pending] at updated
    rw [database, pending]
    by_cases same : other = index
    · subst same
      rw [Function.update_self] at updated ⊢
      rw [applyWrites_snoc]
      obtain ⟨written, member, updates⟩ := updated
      rcases List.mem_append.mp member with before | isNew
      · have old := once.pending other id ⟨written, before, updates⟩
        exact ⟨old.1, old.2.apply spends⟩
      · rw [List.mem_singleton.mp isNew] at updates
        obtain ⟨assignments, rfl⟩ := Write.of_updates updates
        obtain ⟨row, found, unspent, leftSpent⟩ := spends id assignments rfl
        refine ⟨once.unspent_committed found unspent, assignAll row assignments, ?_, leftSpent⟩
        rw [Database.find?_update_of_found found, if_pos rfl]
    · rw [Function.update_of_ne same] at updated ⊢
      exact once.pending other id updated
  pendingOnce other id := by
    rw [pending]
    by_cases same : other = index
    · subst same
      rw [Function.update_self]
      exact once.count_snoc spends id
    · rw [Function.update_of_ne same]
      exact once.pendingOnce other id
  committed := by
    rw [database, committed]
    exact once.committed
  committedOnce := by
    rw [committed]
    exact once.committedOnce
  apart := by
    rw [committed]
    exact once.apart

/-- What a thread has committed, with what it is about to commit. -/
theorem mem_logged {index other : Nat} {write : Write}
    (member : write ∈ Function.update (committedOf world) index
      (committedOf world index ++ pendingOf world index) other) :
    write ∈ committedOf world other ∨ other = index ∧ write ∈ pendingOf world index := by
  by_cases same : other = index
  · subst same
    rw [Function.update_self, List.mem_append] at member
    exact member.imp_right fun isPending => ⟨rfl, isPending⟩
  · rw [Function.update_of_ne same] at member
    exact .inl member

/-- A commit spends the rows that its transaction updated. -/
theorem commit (once : SpentOnce spent world) {index : Nat}
    (database : after.shared.database =
      applyWrites world.shared.database (pendingOf world index))
    (pending : pendingOf after = Function.update (pendingOf world) index [])
    (committed : committedOf after = Function.update (committedOf world) index
      (committedOf world index ++ pendingOf world index)) : SpentOnce spent after := by
  -- No row is updated by a transaction and by one that has committed.
  have fresh : ∀ left right id, (∃ write ∈ committedOf world left, write.updates table id = true) →
      ¬ ∃ write ∈ pendingOf world right, write.updates table id = true := by
    intro left right id logged updated
    exact (once.pending right id updated).1 (once.committed left id logged)
  refine ⟨?_, fun other id updated => ?_, fun other id => ?_, fun other id logged => ?_,
    fun other id => ?_, fun left right id leftLogged rightLogged => ?_⟩
  · rw [database, pending]
    exact once.isolated.commit index
  · rw [pending] at updated
    rw [database, pending]
    by_cases same : other = index
    · subst same
      rw [Function.update_self] at updated
      obtain ⟨write, member, -⟩ := updated
      exact absurd member List.not_mem_nil
    · rw [Function.update_of_ne same] at updated ⊢
      have old := once.pending other id updated
      obtain ⟨write, member, updates⟩ := updated
      have touched := touches_of_updates member updates
      have sideBySide := once.isolated.sideBySide (Ne.symm same)
      have sameRow := find?_applyWrites_of_untouched (sideBySide.not_touches touched)
        world.shared.database
      refine ⟨?_, ?_⟩
      · rintro ⟨row, found, isSpent⟩
        rw [sameRow] at found
        exact old.1 ⟨row, found, isSpent⟩
      · rw [SpentRow, sideBySide.find?_touched touched]
        exact old.2
  · rw [pending]
    by_cases same : other = index
    · subst same
      rw [Function.update_self]
      exact Nat.zero_le 1
    · rw [Function.update_of_ne same]
      exact once.pendingOnce other id
  · rw [committed] at logged
    rw [database]
    obtain ⟨write, member, updates⟩ := logged
    rcases mem_logged member with before | ⟨rfl, isPending⟩
    · obtain ⟨row, found, isSpent⟩ := once.committed other id ⟨write, before, updates⟩
      refine ⟨row, find?_applyWrites_of_found found fun written isPending => ?_, isSpent⟩
      exact Bool.eq_false_iff.mpr fun updated =>
        fresh other index id ⟨write, before, updates⟩ ⟨written, isPending, updated⟩
    · exact (once.pending other id ⟨write, isPending, updates⟩).2
  · rw [committed]
    by_cases same : other = index
    · subst same
      rw [Function.update_self, List.countP_append]
      have committedOnce := once.committedOnce other id
      have pendingOnce := once.pendingOnce other id
      by_cases logged : ∃ write ∈ committedOf world other, write.updates table id = true
      · have none : (pendingOf world other).countP (Write.updates table id) = 0 :=
          List.countP_eq_zero.mpr fun write member updates =>
            fresh other other id logged ⟨write, member, updates⟩
        omega
      · have none : (committedOf world other).countP (Write.updates table id) = 0 :=
          List.countP_eq_zero.mpr fun write member updates => logged ⟨write, member, updates⟩
        omega
    · rw [Function.update_of_ne same]
      exact once.committedOnce other id
  · rw [committed] at leftLogged rightLogged
    obtain ⟨leftWrite, leftMember, leftUpdates⟩ := leftLogged
    obtain ⟨rightWrite, rightMember, rightUpdates⟩ := rightLogged
    rcases mem_logged leftMember with leftBefore | ⟨rfl, leftPending⟩
    · rcases mem_logged rightMember with rightBefore | ⟨rfl, rightPending⟩
      · exact once.apart left right id ⟨_, leftBefore, leftUpdates⟩ ⟨_, rightBefore, rightUpdates⟩
      · exact absurd ⟨_, rightPending, rightUpdates⟩ (fresh left right id ⟨_, leftBefore, leftUpdates⟩)
    · rcases mem_logged rightMember with rightBefore | ⟨rfl, rightPending⟩
      · exact absurd ⟨_, leftPending, leftUpdates⟩ (fresh right left id ⟨_, rightBefore, rightUpdates⟩)
      · rfl

/-- A rollback spends nothing. -/
theorem rollback (once : SpentOnce spent world) {index : Nat}
    (database : after.shared.database = world.shared.database)
    (pending : pendingOf after = Function.update (pendingOf world) index [])
    (committed : committedOf after = committedOf world) : SpentOnce spent after where
  isolated := by
    rw [database, pending]
    exact once.isolated.rollback index
  pending other id updated := by
    rw [pending] at updated
    rw [database, pending]
    by_cases same : other = index
    · subst same
      rw [Function.update_self] at updated
      obtain ⟨write, member, -⟩ := updated
      exact absurd member List.not_mem_nil
    · rw [Function.update_of_ne same] at updated ⊢
      exact once.pending other id updated
  pendingOnce other id := by
    rw [pending]
    by_cases same : other = index
    · subst same
      rw [Function.update_self]
      exact Nat.zero_le 1
    · rw [Function.update_of_ne same]
      exact once.pendingOnce other id
  committed := by
    rw [database, committed]
    exact once.committed
  committedOnce := by
    rw [committed]
    exact once.committedOnce
  apart := by
    rw [committed]
    exact once.apart

/-- A turn keeps it when what it writes spends its row. -/
theorem apply (once : SpentOnce spent world) {turn : Turn Call Inputs (List MinedTransaction)}
    (spends : ∀ index thread write, turn = .operate index → Writes world index thread write →
      write.Spends spent (applyWrites world.shared.database (pendingOf world index))) :
    SpentOnce spent ((readCommitted program).apply world turn) := by
  cases @logs_apply _ _ program world turn with
  | quiet database pending committed =>
      obtain ⟨isolated, pendingSpent, pendingOnce, logged, committedOnce, apart⟩ := once
      constructor
      · rw [database, pending]
        exact isolated
      · rw [database, pending]
        exact pendingSpent
      · rw [pending]
        exact pendingOnce
      · rw [database, committed]
        exact logged
      · rw [committed]
        exact committedOnce
      · rw [committed]
        exact apart
  | wrote index isTurn thread write writes database pending committed =>
      exact once.wrote writes (spends index thread write isTurn writes) database pending committed
  | committed index database pending committed => exact once.commit database pending committed
  | rolledBack index database pending committed => exact once.rollback database pending committed

/-- Two committed UPDATEs of one row are the same one. -/
theorem committed_unique (once : SpentOnce spent world) {left right : Nat} {id : Uuid}
    {leftWrite rightWrite : Write} (leftMember : leftWrite ∈ committedOf world left)
    (leftUpdates : leftWrite.updates table id = true)
    (rightMember : rightWrite ∈ committedOf world right)
    (rightUpdates : rightWrite.updates table id = true) : leftWrite = rightWrite := by
  obtain rfl := once.apart left right id ⟨_, leftMember, leftUpdates⟩ ⟨_, rightMember, rightUpdates⟩
  have single := once.committedOnce left id
  rw [List.countP_eq_length_filter] at single
  have isLeft : leftWrite ∈ (committedOf world left).filter (Write.updates table id) :=
    List.mem_filter.mpr ⟨leftMember, leftUpdates⟩
  have isRight : rightWrite ∈ (committedOf world left).filter (Write.updates table id) :=
    List.mem_filter.mpr ⟨rightMember, rightUpdates⟩
  obtain ⟨first, isFirst⟩ := List.length_eq_one_iff.mp
    (Nat.le_antisymm single (List.length_pos_of_mem isLeft))
  rw [isFirst, List.mem_singleton] at isLeft isRight
  exact isLeft.trans isRight.symm

end SpentOnce

end spending

end AcademicCredential
