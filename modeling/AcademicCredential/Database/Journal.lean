import AcademicCredential.Database.Validity

/-!
# Journals

What a session has written, compared with what the database holds. As long as a program
only performs statements, the committed rows stay what they were and the working copy
is those rows with the journal's new writes applied (`Direct.Follows`). A program that
never writes some table leaves it alone across whole transactions (`Direct.Keeps`).
-/

namespace AcademicCredential

open AcademicCredential.Lib

/-- The table of a write. -/
def Write.table : Write → Table
  | .insert table _ => table
  | .update table _ _ => table

/-- A write leaves the other tables alone. -/
theorem Write.apply_of_ne {write : Write} {table : Table} (elsewhere : write.table ≠ table)
    (database : Database) : write.apply database table = database table := by
  cases write with
  | insert _ _ | update _ _ _ => exact Function.update_of_ne elsewhere.symm _ _

/-- Writes are applied one after the other. -/
theorem applyWrites_append (database : Database) (first second : List Write) :
    applyWrites database (first ++ second) = applyWrites (applyWrites database first) second := by
  simp [applyWrites]

/-- An UPDATE changes the row with its key. -/
theorem Database.find?_update (database : Database) (table : Table) (id : Uuid)
    (assignments : List (Assignment table)) (other : Uuid) :
    ((Write.update table id assignments).apply database).find? table other =
      (database.find? table other).map fun row =>
        if rowId row = id then assignAll row assignments else row := by
  have sameKeys : ∀ stored : Row table,
      rowId (if rowId stored = id then assignAll stored assignments else stored) =
        rowId stored := by
    intro stored
    by_cases sameKey : rowId stored = id <;> simp [sameKey]
  simp only [Database.find?, Write.apply, Function.update_self, updateRows, List.find?_map,
    Function.comp_def, sameKeys]

/-- After the update of a row that is there, its key finds the new row. -/
theorem Database.find?_update_of_found {database : Database} {table : Table} {id : Uuid}
    {row : Row table} (found : database.find? table id = some row)
    (assignments : List (Assignment table)) (other : Uuid) :
    ((Write.update table id assignments).apply database).find? table other =
      if other = id then some (assignAll row assignments) else database.find? table other := by
  have sameKey := (Database.find?_some found).2
  rw [Database.find?_update]
  by_cases isRow : other = id
  · simp [isRow, found, sameKey]
  · rw [if_neg isRow]
    cases foundOther : database.find? table other with
    | none => rfl
    | some stored =>
        have otherKey := (Database.find?_some foundOther).2
        have apart : rowId stored ≠ id := fun same => isRow (otherKey.symm.trans same)
        simp [apart]

/-- What is found depends on the table alone. -/
theorem Database.find?_congr {left right : Database} {table : Table}
    (same : left table = right table) (id : Uuid) :
    left.find? table id = right.find? table id := by
  simp [Database.find?, same]

/-- Writing a row leaves the other tables alone. -/
theorem Direct.stored_of_ne {written table : Table} (elsewhere : written ≠ table)
    (direct : Direct) (row : Row written) (assignments : List (Assignment written)) :
    (direct.stored row assignments).working table = direct.working table := by
  have apart : (Write.update written (rowId row) assignments).table ≠ table := elsewhere
  exact Write.apply_of_ne apart direct.working

/-- `BEGIN`, `COMMIT` and `ROLLBACK`. -/
def Op.isControl : {Reply : Type} → Op Reply → Bool
  | _, .begin | _, .commit | _, .rollback => true
  | _, _ => false

/-- The operation commits. -/
def Op.isCommit : {Reply : Type} → Op Reply → Bool
  | _, .commit => true
  | _, _ => false

/-- The table a statement writes. -/
def Op.written? : {Reply : Type} → Op Reply → Option Table
  | _, .flush table _ _ | _, .executeUpdate table _ _ | _, .insert table _ => some table
  | _, _ => none

/-- The later state's working copy is the earlier one's with the journal's new writes. -/
def Direct.Follows (before after : Direct) : Prop :=
  after.database = before.database ∧
    ∃ writes, after.journal = before.journal ++ writes ∧
      after.working = applyWrites before.working writes

/-- A session follows itself. -/
theorem Direct.Follows.refl (direct : Direct) : direct.Follows direct :=
  ⟨rfl, [], by simp, rfl⟩

/-- What is followed twice is followed. -/
theorem Direct.Follows.trans {first middle last : Direct} (earlier : first.Follows middle)
    (later : middle.Follows last) : first.Follows last := by
  obtain ⟨sameEarlier, earlierWrites, earlierJournal, earlierWorking⟩ := earlier
  obtain ⟨sameLater, laterWrites, laterJournal, laterWorking⟩ := later
  refine ⟨sameLater.trans sameEarlier, earlierWrites ++ laterWrites, ?_, ?_⟩
  · rw [laterJournal, earlierJournal, List.append_assoc]
  · rw [laterWorking, earlierWorking, applyWrites_append]

/-- A session follows itself through a write. -/
theorem Direct.follows_write (direct : Direct) (write : Write) :
    direct.Follows (direct.write write) :=
  ⟨rfl, [write], rfl, rfl⟩

/-- A session follows itself through an UPDATE. -/
theorem Direct.follows_updateRow (direct : Direct) (table : Table) (id : Uuid)
    (assignments : List (Assignment table)) (row : Row table) :
    direct.Follows (direct.updateRow table id assignments row).2 := by
  unfold Direct.updateRow
  split
  · exact ⟨rfl, [], by simp [Direct.touch], rfl⟩
  · exact direct.follows_write _

/-- A statement neither commits nor rolls back. -/
theorem directHandler_follows (Reply : Type) (op : Op Reply) (statement : op.isControl = false)
    (direct : Direct) : direct.Follows (directHandler Reply op direct).2 := by
  have unwritten : direct.Follows direct.touch := ⟨rfl, [], by simp [Direct.touch], rfl⟩
  cases op with
  | select | selectText | count | refresh => exact unwritten
  | flush table id assignments =>
      simp only [directHandler, Direct.flush]
      split
      · split
        · exact .refl direct
        · exact direct.follows_updateRow ..
      · exact unwritten
  | executeUpdate table id assignments =>
      simp only [directHandler, Direct.executeUpdate]
      split
      · exact direct.follows_updateRow ..
      · exact unwritten
  | insert table row =>
      simp only [directHandler, Direct.insert]
      split
      · exact unwritten
      · exact direct.follows_write _
  | begin | commit | rollback => cases statement
  | rpc | now | serverNow | monotonic | today | uuid4 | tokenUrlsafe | writeFile | fileExists =>
      exact ⟨rfl, [], (List.append_nil _).symm, rfl⟩

/-- A program of statements only follows the state it starts in. -/
theorem run_follows {Value : Type} {program : Action Value}
    (statements : program.Every fun _ op => op.isControl = false) (direct : Direct) :
    direct.Follows (program.run directHandler direct).2 :=
  Program.run_respects Direct.Follows Direct.Follows.refl Direct.Follows.trans
    (fun Reply op statement direct => directHandler_follows Reply op statement direct)
    statements direct

/-- A table is as before, committed and in the working copy, and so is what the journal
says about it. -/
structure Direct.LeavesAlone (table : Table) (before after : Direct) : Prop where
  working : after.working table = before.working table
  database : after.database table = before.database table
  journal : ∀ base, applyWrites base after.journal table = applyWrites base before.journal table

/-- A session leaves a table alone when it does nothing. -/
theorem Direct.LeavesAlone.refl (table : Table) (direct : Direct) :
    direct.LeavesAlone table direct :=
  ⟨rfl, rfl, fun _ => rfl⟩

/-- A table that is left alone twice is left alone. -/
theorem Direct.LeavesAlone.trans {table : Table} {first middle last : Direct}
    (earlier : first.LeavesAlone table middle) (later : middle.LeavesAlone table last) :
    first.LeavesAlone table last :=
  ⟨later.working.trans earlier.working, later.database.trans earlier.database,
    fun base => (later.journal base).trans (earlier.journal base)⟩

/-- A write leaves the other tables alone, committed and working. -/
theorem Direct.leavesAlone_write {write : Write} {table : Table}
    (elsewhere : write.table ≠ table) (direct : Direct) :
    direct.LeavesAlone table (direct.write write) := by
  refine ⟨write.apply_of_ne elsewhere direct.working, rfl, fun base => ?_⟩
  simp only [Direct.write, applyWrites_snoc, write.apply_of_ne elsewhere]

/-- So does an UPDATE. -/
theorem Direct.leavesAlone_updateRow {table written : Table} (elsewhere : written ≠ table)
    (direct : Direct) (id : Uuid) (assignments : List (Assignment written))
    (row : Row written) :
    direct.LeavesAlone table (direct.updateRow written id assignments row).2 := by
  unfold Direct.updateRow
  split
  · exact ⟨rfl, rfl, fun _ => rfl⟩
  · have apart : (Write.update written id assignments).table ≠ table := elsewhere
    exact direct.leavesAlone_write apart

/-- A statement leaves alone the tables that it does not write. -/
theorem directHandler_leavesAlone (table : Table) (Reply : Type) (op : Op Reply)
    (statement : op.isControl = false) (elsewhere : op.written? ≠ some table)
    (direct : Direct) : direct.LeavesAlone table (directHandler Reply op direct).2 := by
  have untouched : direct.LeavesAlone table direct.touch := ⟨rfl, rfl, fun _ => rfl⟩
  cases op with
  | select | selectText | count | refresh => exact untouched
  | flush written id assignments =>
      have apart : written ≠ table := fun same => elsewhere (congrArg some same)
      simp only [directHandler, Direct.flush]
      split
      · split
        · exact .refl table direct
        · exact direct.leavesAlone_updateRow apart ..
      · exact untouched
  | executeUpdate written id assignments =>
      have apart : written ≠ table := fun same => elsewhere (congrArg some same)
      simp only [directHandler, Direct.executeUpdate]
      split
      · exact direct.leavesAlone_updateRow apart ..
      · exact untouched
  | insert written row =>
      have apart : (Write.insert written row).table ≠ table :=
        fun same => elsewhere (congrArg some same)
      simp only [directHandler, Direct.insert]
      split
      · exact untouched
      · exact direct.leavesAlone_write apart
  | begin | commit | rollback => cases statement
  | rpc | now | serverNow | monotonic | today | uuid4 | tokenUrlsafe | writeFile | fileExists =>
      exact ⟨rfl, rfl, fun _ => rfl⟩

/-- A table without uncommitted writes is left alone, transactions included. -/
def Direct.Keeps (table : Table) (before after : Direct) : Prop :=
  before.working table = before.database table → before.LeavesAlone table after

/-- A session keeps a table when it does nothing. -/
theorem Direct.Keeps.refl (table : Table) (direct : Direct) : direct.Keeps table direct :=
  fun _ => .refl table direct

/-- A table that is kept twice is kept. -/
theorem Direct.Keeps.trans {table : Table} {first middle last : Direct}
    (earlier : first.Keeps table middle) (later : middle.Keeps table last) :
    first.Keeps table last := by
  intro settled
  have first := earlier settled
  have stillSettled : middle.working table = middle.database table := by
    rw [first.working, first.database, settled]
  exact first.trans (later stillSettled)

/-- An operation keeps the committed rows of the tables that it does not write. -/
theorem directHandler_keeps (table : Table) (Reply : Type) (op : Op Reply)
    (elsewhere : op.written? ≠ some table) (direct : Direct) :
    direct.Keeps table (directHandler Reply op direct).2 := by
  intro settled
  cases control : op.isControl with
  | false => exact directHandler_leavesAlone table Reply op control elsewhere direct
  | true =>
      cases op with
      | begin =>
          simp only [directHandler]
          split <;> exact ⟨rfl, rfl, fun _ => rfl⟩
      | commit => exact ⟨rfl, settled, fun _ => rfl⟩
      | rollback => exact ⟨settled.symm, rfl, fun _ => rfl⟩
      | _ => cases control

/-- A program that never writes a table keeps it. -/
theorem run_keeps {Value : Type} {table : Table} {program : Action Value}
    (elsewhere : program.Every fun _ op => op.written? ≠ some table) (direct : Direct) :
    direct.Keeps table (program.run directHandler direct).2 :=
  Program.run_respects (Direct.Keeps table) (Direct.Keeps.refl table) Direct.Keeps.trans
    (fun Reply op elsewhere direct => directHandler_keeps table Reply op elsewhere direct)
    elsewhere direct

/-- An UPDATE of a stored row keeps the rows valid. -/
theorem Direct.valid_updateRow {direct : Direct} (valid : direct.working.Valid) {table : Table}
    {id : Uuid} {row : Row table} (found : direct.working.find? table id = some row)
    (assignments : List (Assignment table)) :
    (direct.updateRow table id assignments row).2.database = direct.database ∧
      (direct.updateRow table id assignments row).2.working.Valid := by
  unfold Direct.updateRow
  split
  · exact ⟨rfl, valid⟩
  · rename_i accepted
    exact ⟨rfl, valid.update found accepted⟩

/-- The committed rows and the working copy are both valid. -/
structure Direct.Valid (direct : Direct) : Prop where
  database : direct.database.Valid
  working : direct.working.Valid

/-- Every operation keeps the rows valid. -/
theorem directHandler_valid (Reply : Type) (op : Op Reply) {direct : Direct}
    (valid : direct.Valid) : (directHandler Reply op direct).2.Valid := by
  obtain ⟨database, working⟩ := valid
  have updated : ∀ {table : Table} {id : Uuid} {row : Row table}
      (found : direct.working.find? table id = some row) (assignments : List (Assignment table)),
      (direct.updateRow table id assignments row).2.Valid := by
    intro table id row found assignments
    obtain ⟨sameDatabase, stillValid⟩ := Direct.valid_updateRow working found assignments
    exact ⟨sameDatabase ▸ database, stillValid⟩
  cases op with
  | flush table id assignments =>
      simp only [directHandler, Direct.flush]
      split
      · rename_i row found
        split
        · exact ⟨database, working⟩
        · exact updated found _
      · exact ⟨database, working⟩
  | executeUpdate table id assignments =>
      simp only [directHandler, Direct.executeUpdate]
      split
      · rename_i row found
        exact updated found _
      · exact ⟨database, working⟩
  | insert table row =>
      simp only [directHandler, Direct.insert]
      split
      · exact ⟨database, working⟩
      · rename_i accepted
        exact ⟨database, working.insert accepted⟩
  | begin =>
      simp only [directHandler]
      split <;> exact ⟨database, working⟩
  | commit => exact ⟨working, working⟩
  | rollback => exact ⟨database, database⟩
  | select | selectText | count | refresh | rpc | now | serverNow | monotonic | today | uuid4
  | tokenUrlsafe | writeFile | fileExists => exact ⟨database, working⟩

/-- No run leaves an invalid database. -/
theorem run_valid {Value : Type} (program : Action Value) {direct : Direct}
    (valid : direct.Valid) : (program.run directHandler direct).2.Valid :=
  Program.run_respects (fun before after => before.Valid → after.Valid)
    (fun _ => id) (fun earlier later => later ∘ earlier)
    (fun Reply op _ _ valid => directHandler_valid Reply op valid) program.every_true direct valid

/-- A call on a session of its own leaves a valid store. -/
theorem ValidStore.run_valid (store : ValidStore) (inputs : Inputs) {Value : Type}
    (program : Action Value) :
    (program.run sessionHandler (store.toStore, .fresh inputs)).2.1.database.Valid := by
  have bothValid : (Direct.fresh store.toStore inputs).Valid := ⟨store.valid, store.valid⟩
  have stillValid := (AcademicCredential.run_valid program bothValid).database
  rw [← (store.run_eq inputs program).2] at stillValid
  exact stillValid

/-- Every operation lets the chain grow. -/
theorem directHandler_grows (Reply : Type) (op : Op Reply) (direct : Direct) :
    Chain.Grows direct.chain (directHandler Reply op direct).2.chain := by
  have updated : ∀ {table : Table} (id : Uuid) (assignments : List (Assignment table)) row,
      Chain.Grows direct.chain (direct.updateRow table id assignments row).2.chain := by
    intro table id assignments row
    unfold Direct.updateRow
    split <;> exact .refl _
  cases op with
  | flush table id assignments =>
      simp only [directHandler, Direct.flush]
      split
      · split
        · exact .refl _
        · exact updated ..
      · exact .refl _
  | executeUpdate table id assignments =>
      simp only [directHandler, Direct.executeUpdate]
      split
      · exact updated ..
      · exact .refl _
  | insert table row =>
      simp only [directHandler, Direct.insert]
      split <;> exact .refl _
  | begin =>
      simp only [directHandler]
      split <;> exact .refl _
  | rpc call => exact Chain.grows_mineAll _ _
  | select | selectText | count | refresh | commit | rollback | now | serverNow | monotonic | today
  | uuid4 | tokenUrlsafe | writeFile | fileExists => exact .refl _

/-- The chain only grows during a run. -/
theorem run_grows {Value : Type} (program : Action Value) (direct : Direct) :
    Chain.Grows direct.chain (program.run directHandler direct).2.chain :=
  Program.run_respects (fun before after => Chain.Grows before.chain after.chain)
    (fun _ => .refl _) Chain.Grows.trans
    (fun Reply op _ direct => directHandler_grows Reply op direct) program.every_true direct

end AcademicCredential
