import AcademicCredential.Database.Direct
import Mathlib.Data.List.Pairwise

/-!
# Valid databases

A database PostgreSQL would hold: every row meets the constraints of its table and no
two rows share a UNIQUE key. An accepted statement keeps a database valid, so it is
valid in every state of a session. `ValidStore` carries the proof.

On a valid database a flush behaves as if it always wrote every attribute:
`Direct.Open.flush` is what the services' runs are computed with.
-/

namespace AcademicCredential

open AcademicCredential.Lib

/-- Two rows that may be stored side by side. -/
def Apart {table : Table} (left right : Row table) : Prop :=
  ∀ key ∈ uniqueKeys left, key ∉ uniqueKeys right

/-- Rows are apart in both orders. -/
theorem Apart.symm {table : Table} {left right : Row table} (apart : Apart left right) :
    Apart right left :=
  fun key inRight inLeft => apart key inLeft inRight

instance {table : Table} : Std.Symm (@Apart table) := ⟨fun _ _ apart => apart.symm⟩

/-- Rows that are apart have different primary keys. -/
theorem Apart.rowId_ne {table : Table} {left right : Row table} (apart : Apart left right) :
    rowId left ≠ rowId right := by
  intro same
  exact apart _ (primaryKey_mem left) (same ▸ primaryKey_mem right)

/-- Every constraint of the table accepts the row. -/
def Admissible {table : Table} (row : Row table) : Prop :=
  violation? (constraints table) row = none

/-- An admissible row passes every constraint. -/
theorem Admissible.passes {table : Table} {row : Row table} (admissible : Admissible row)
    {constraint : Constraint (Row table)} (member : constraint ∈ constraints table) :
    (constraint.truth row).passes = true :=
  violation?_eq_none.mp admissible constraint member

/-- Every row is admissible, and no two share a key. -/
structure Database.Valid (database : Database) : Prop where
  admissible : ∀ table, ∀ row ∈ database table, Admissible row
  apart : ∀ table, (database table).Pairwise Apart

/-- A store whose database PostgreSQL would hold. -/
structure ValidStore extends Store where
  valid : database.Valid

/-- The empty database is valid. -/
theorem Database.Valid.empty : Database.empty.Valid :=
  ⟨fun _ _ member => (nomatch member), fun _ => List.Pairwise.nil⟩

/-- Valid rows have different primary keys. -/
theorem Database.Valid.keyed {database : Database} (valid : database.Valid) :
    database.Keyed := by
  intro table
  refine List.Pairwise.map rowId ?_ (valid.apart table)
  exact fun _ _ apart => apart.rowId_ne

/-- A row that may be inserted is admissible. -/
theorem insertConstraints_admissible {today : Date} {table : Table} {row : Row table}
    (accepted : violation? (insertConstraints today table) row = none) : Admissible row := by
  refine violation?_eq_none.mpr fun constraint member => ?_
  refine violation?_eq_none.mp accepted constraint ?_
  cases table with
  | certificates => exact List.mem_append_left _ member
  | _ => exact member

/-- An admissible row whose keys are free may be inserted. -/
theorem checkInsert_of_free {today : Date} {database : Database} {table : Table}
    {row : Row table} (admissible : violation? (insertConstraints today table) row = none)
    (free : ∀ other ∈ database table, Apart row other) :
    checkInsert today database table row = .ok () := by
  have noConflict : conflict? row (database table) = none :=
    conflict?_eq_none.mpr fun key isKey other member => free other member key isKey
  simp only [checkInsert, admissible, noConflict]

/-- A UUID that is no key of a row: what `uuid4` draws. -/
def Unused (database : Database) (uuid : Uuid) : Prop :=
  ∀ table, ∀ row ∈ database table, ∀ key ∈ uniqueKeys row, key.value ≠ .uuid uuid

/-- An INSERT that is accepted keeps the rows valid. -/
theorem Database.Valid.insert {database : Database} (valid : database.Valid) {table : Table}
    {row : Row table} {today : Date}
    (accepted : checkInsert today database table row = .ok ()) :
    ((Write.insert table row).apply database).Valid := by
  obtain ⟨admissible, noConflict⟩ := checkInsert_ok accepted
  refine ⟨fun other stored member => ?_, fun other => ?_⟩
  · by_cases sameTable : other = table
    · subst sameTable
      simp only [Write.apply, Function.update_self, List.mem_append, List.mem_singleton] at member
      rcases member with old | rfl
      · exact valid.admissible other stored old
      · exact insertConstraints_admissible admissible
    · rw [Write.apply, Function.update_of_ne sameTable] at member
      exact valid.admissible other stored member
  · by_cases sameTable : other = table
    · subst sameTable
      simp only [Write.apply, Function.update_self]
      refine List.pairwise_append.mpr ⟨valid.apart other, List.pairwise_singleton _ _, ?_⟩
      intro stored member new isNew
      obtain rfl := List.mem_singleton.mp isNew
      exact Apart.symm fun key inRow => conflict?_eq_none.mp noConflict key inRow stored member
    · rw [Write.apply, Function.update_of_ne sameTable]
      exact valid.apart other

/-- An update is accepted when the new row is admissible and apart from the other rows. -/
theorem checkUpdated_ok {database : Database} {table : Table} {row : Row table} :
    checkUpdated database table row = .ok () ↔
      Admissible row ∧ ∀ other ∈ database table, rowId other ≠ rowId row → Apart row other := by
  unfold checkUpdated Admissible
  cases violated : violation? (constraints table) row with
  | some _ => simp
  | none =>
      cases conflicting :
          conflict? row ((database table).filter fun other => rowId other ≠ rowId row) with
      | some key =>
          simp only [reduceCtorEq, false_iff, not_and, true_implies]
          intro apart
          have free : conflict? row
              ((database table).filter fun other => rowId other ≠ rowId row) = none := by
            refine conflict?_eq_none.mpr fun key inRow other member inOther => ?_
            obtain ⟨stored, different⟩ := List.mem_filter.mp member
            exact apart other stored (by simpa using different) key inRow inOther
          rw [conflicting] at free
          cases free
      | none =>
          have free := conflict?_eq_none.mp conflicting
          simp only [true_and, true_iff]
          intro other member different key inRow
          exact free key inRow other
            (List.mem_filter.mpr ⟨member, by simpa using different⟩)

/-- An update that is accepted keeps the rows valid. -/
theorem Database.Valid.update {database : Database} (valid : database.Valid) {table : Table}
    {id : Uuid} {assignments : List (Assignment table)} {row : Row table}
    (found : database.find? table id = some row)
    (accepted : checkUpdated database table (assignAll row assignments) = .ok ()) :
    ((Write.update table id assignments).apply database).Valid := by
  obtain ⟨member, rfl⟩ := Database.find?_some found
  obtain ⟨admissible, apart⟩ := checkUpdated_ok.mp accepted
  have unique : ∀ stored ∈ database table, rowId stored = rowId row → stored = row :=
    fun stored isStored sameKey => valid.keyed.eq_of_rowId isStored member sameKey
  refine ⟨fun other stored isStored => ?_, fun other => ?_⟩
  · by_cases sameTable : other = table
    · subst sameTable
      simp only [Write.apply, Function.update_self, updateRows, List.mem_map] at isStored
      obtain ⟨old, isOld, rfl⟩ := isStored
      by_cases sameKey : rowId old = rowId row
      · obtain rfl := unique old isOld sameKey
        simpa using admissible
      · simpa [sameKey] using valid.admissible other old isOld
    · rw [Write.apply, Function.update_of_ne sameTable] at isStored
      exact valid.admissible other stored isStored
  · by_cases sameTable : other = table
    · subst sameTable
      simp only [Write.apply, Function.update_self, updateRows]
      refine List.pairwise_map.mpr ((valid.apart other).imp_of_mem ?_)
      intro left right isLeft isRight leftRight
      by_cases leftKey : rowId left = rowId row
      · obtain rfl := unique left isLeft leftKey
        have rightKey : rowId right ≠ rowId left := leftRight.rowId_ne.symm
        simpa [rightKey] using apart right isRight (by simpa using rightKey)
      · by_cases rightKey : rowId right = rowId row
        · obtain rfl := unique right isRight rightKey
          simpa [leftKey] using (apart left isLeft (by simpa using leftKey)).symm
        · simpa [leftKey, rightKey] using leftRight
    · rw [Write.apply, Function.update_of_ne sameTable]
      exact valid.apart other

/-- The column an assignment of `users` sets; two of them set the same. -/
def UserAssignment.column : UserAssignment → Nat
  | .passwordHash _ => 0
  | .isActive _ => 1
  | .lastLoginAt _ => 2
  | .lastLoginIp _ => 3
  | .failedLoginAttempts _ | .incrementFailedLoginAttempts => 4
  | .lockedUntil _ => 5

/-- The column an assignment sets. -/
def column : {table : Table} → Assignment table → Nat
  | .certificates, assignment => assignment.ctorIdx
  | .blockchainTransactions, assignment => assignment.ctorIdx
  | .qrVerifications, assignment => assignment.ctorIdx
  | .universities, assignment => assignment.ctorIdx
  | .employers, assignment => assignment.ctorIdx
  | .refreshTokens, assignment => assignment.ctorIdx
  | .users, assignment => assignment.column
  | .verificationLogs, assignment => nomatch assignment
  | .students, assignment => nomatch assignment

/-- Assignments to different columns commute. -/
theorem assign_comm {table : Table} (row : Row table) {first second : Assignment table}
    (different : column first ≠ column second) :
    assign (assign row first) second = assign (assign row second) first := by
  cases table with
  | certificates | blockchainTransactions | qrVerifications | universities | users | employers
  | refreshTokens =>
      cases first <;> cases second <;> first | rfl | exact absurd rfl different
  | verificationLogs | students => exact nomatch first

/-- Leaving out the attributes that keep their value leaves out nothing. -/
theorem assignAll_netChanges {table : Table} (row : Row table)
    {assignments : List (Assignment table)} (distinct : (assignments.map column).Nodup) :
    assignAll row (netChanges row assignments) = assignAll row assignments := by
  have general : ∀ (assignments : List (Assignment table)) (current : Row table),
      (assignments.map column).Nodup →
      (∀ assignment ∈ assignments, assign row assignment = row →
        assign current assignment = current) →
      assignAll current (assignments.filter fun assignment => assign row assignment ≠ row) =
        assignAll current assignments := by
    intro assignments
    induction assignments with
    | nil => intro current _ _; rfl
    | cons first rest inductionHypothesis =>
        intro current distinct idle
        obtain ⟨apart, distinct⟩ := List.nodup_cons.mp distinct
        by_cases unchanged : assign row first = row
        · have skipped := idle first List.mem_cons_self unchanged
          have tail := inductionHypothesis current distinct fun assignment member =>
            idle assignment (List.mem_cons_of_mem first member)
          simpa [unchanged, assignAll, skipped] using tail
        · have tail := inductionHypothesis (assign current first) distinct
            fun assignment member still => by
              have different : column first ≠ column assignment := fun same =>
                apart (List.mem_map.mpr ⟨assignment, member, same.symm⟩)
              rw [assign_comm current different,
                idle assignment (List.mem_cons_of_mem first member) still]
          simpa [unchanged, assignAll] using tail
  exact general assignments row distinct fun _ _ unchanged => unchanged

/-- An UPDATE of the one row with a primary key depends on the new row only. -/
theorem Database.Keyed.update_congr {database : Database} (keyed : database.Keyed)
    {table : Table} {id : Uuid} {row : Row table} (found : database.find? table id = some row)
    {left right : List (Assignment table)} (same : assignAll row left = assignAll row right) :
    (Write.update table id left).apply database = (Write.update table id right).apply database := by
  obtain ⟨member, rfl⟩ := Database.find?_some found
  simp only [Write.apply]
  congr 1
  refine List.map_congr_left fun stored isStored => ?_
  by_cases sameKey : rowId stored = rowId row
  · obtain rfl := keyed.eq_of_rowId isStored member sameKey
    simp [same]
  · simp [sameKey]

/-- An update without assignments changes nothing. -/
theorem updateRows_nil {table : Table} (id : Uuid) (rows : List (Row table)) :
    updateRows id [] rows = rows := by
  simp [updateRows, assignAll]

/-- What a refused statement raises. -/
theorem checkUpdated_error {database : Database} {table : Table} {row : Row table}
    {error : Exception} (refused : checkUpdated database table row = .error error) :
    error.isUnreachable = false := by
  unfold checkUpdated at refused
  split at refused
  · cases refused; rfl
  · split at refused
    · cases refused; rfl
    · cases refused

/-- Two different rows of a table are stored side by side. -/
theorem Database.Valid.apart_of_ne {database : Database} (valid : database.Valid)
    {table : Table} {left right : Row table} (leftMember : left ∈ database table)
    (rightMember : right ∈ database table) (different : left ≠ right) : Apart left right :=
  (valid.apart table).forall leftMember rightMember different

/-- A row that keeps its UNIQUE keys may be updated to any admissible one. -/
theorem Database.Valid.accepts {database : Database} (valid : database.Valid)
    {table : Table} {row new : Row table} (member : row ∈ database table)
    (sameKeys : uniqueKeys new = uniqueKeys row) (sameId : rowId new = rowId row)
    (admissible : Admissible new) : checkUpdated database table new = .ok () := by
  refine checkUpdated_ok.mpr ⟨admissible, ?_⟩
  intro other isStored different
  have otherRow : row ≠ other := fun same => different (same ▸ sameId.symm)
  intro key inNew
  exact valid.apart_of_ne member isStored otherRow key (sameKeys ▸ inNew)

/-- The UPDATE that a flush of `row` issues: none if every attribute keeps its value. -/
def netWrites {table : Table} (row : Row table) (assignments : List (Assignment table)) :
    List Write :=
  match netChanges row assignments with
  | [] => []
  | change :: changes => [.update table (rowId row) (change :: changes)]

namespace Direct

/-- A state inside a transaction, over valid rows. -/
structure Open (direct : Direct) : Prop where
  inTransaction : direct.inTransaction = true
  valid : direct.working.Valid

/-- The state after attributes of `row` have been set and flushed. -/
def stored (direct : Direct) {table : Table} (row : Row table)
    (assignments : List (Assignment table)) : Direct :=
  { direct with
    working := (Write.update table (rowId row) assignments).apply direct.working
    journal := direct.journal ++ netWrites row assignments }

/-- Storing a row is an UPDATE of the working rows. -/
@[simp] theorem working_stored (direct : Direct) {table : Table} (row : Row table)
    (assignments : List (Assignment table)) :
    (direct.stored row assignments).working =
      (Write.update table (rowId row) assignments).apply direct.working := rfl

/-- In its own table the stored row is updated. -/
@[simp] theorem stored_self (direct : Direct) {table : Table} (row : Row table)
    (assignments : List (Assignment table)) :
    (direct.stored row assignments).working table =
      updateRows (rowId row) assignments (direct.working table) := by
  simp [Write.apply]

variable {direct : Direct}

/-- A transaction that has begun is open. -/
theorem open_begun (store : ValidStore) (inputs : Inputs) :
    (begun store.toStore inputs).Open :=
  ⟨rfl, store.valid⟩

/-- Opening an open transaction changes nothing. -/
theorem Open.touch (opened : direct.Open) : direct.touch = direct := by
  simp [Direct.touch, ← opened.inTransaction]

/-- A transaction stays open when a row is stored. -/
theorem Open.stored (opened : direct.Open) {table : Table} {row : Row table}
    {assignments : List (Assignment table)}
    (found : direct.working.find? table (rowId row) = some row)
    (accepted : checkUpdated direct.working table (assignAll row assignments) = .ok ()) :
    (direct.stored row assignments).Open :=
  ⟨opened.inTransaction, opened.valid.update found accepted⟩

/-- A transaction stays open when a row is inserted. -/
theorem Open.write_insert (opened : direct.Open) {table : Table} {row : Row table}
    {today : Date} (accepted : checkInsert today direct.working table row = .ok ()) :
    (direct.write (.insert table row)).Open :=
  ⟨rfl, opened.valid.insert accepted⟩

/-- A transaction stays open when a row is updated. -/
theorem Open.write_update (opened : direct.Open) {table : Table} {row : Row table} {id : Uuid}
    {assignments : List (Assignment table)} (found : direct.working.find? table id = some row)
    (accepted : checkUpdated direct.working table (assignAll row assignments) = .ok ()) :
    (direct.write (.update table id assignments)).Open :=
  ⟨rfl, opened.valid.update found accepted⟩

/-- A flush inside a transaction sets the attributes exactly when the constraints accept
the new row. -/
theorem Open.flush (opened : direct.Open) {table : Table} {id : Uuid} {row : Row table}
    (found : direct.working.find? table id = some row)
    {assignments : List (Assignment table)} (distinct : (assignments.map column).Nodup) :
    direct.flush table id assignments =
      match checkUpdated direct.working table (assignAll row assignments) with
      | .ok () => (.ok (), direct.stored row assignments)
      | .error error => (.error error, direct) := by
  have net := assignAll_netChanges row distinct
  have sameUpdate := opened.valid.keyed.update_congr found net
  obtain ⟨member, rfl⟩ := Database.find?_some found
  cases changed : netChanges row assignments with
  | nil =>
      rw [changed] at net sameUpdate
      have unchanged : assignAll row assignments = row := net.symm
      have idle : (Write.update table (rowId row) assignments).apply direct.working =
          direct.working := by
        rw [← sameUpdate]
        simp [Write.apply, updateRows_nil]
      have accepted : checkUpdated direct.working table row = .ok () :=
        opened.valid.accepts member rfl rfl (opened.valid.admissible table row member)
      simp [Direct.flush, found, changed, unchanged, accepted, Direct.stored, netWrites, idle]
  | cons change changes =>
      rw [changed] at net sameUpdate
      cases accepted : checkUpdated direct.working table (assignAll row assignments) with
      | error error =>
          simp [Direct.flush, found, changed, Direct.updateRow, net, accepted, opened.touch]
      | ok _ =>
          simp [Direct.flush, found, changed, Direct.updateRow, net, accepted, Direct.stored,
            netWrites, Direct.write, sameUpdate, opened.inTransaction]

end Direct

/-- An attempt does what its operation does. -/
theorem run_attempt {Value : Type} (op : Op (Except Exception Value)) (direct : Direct) :
    (attempt op).run directHandler direct = directHandler _ op direct := by
  simp [attempt, Program.run_bind]

/-- The block commits what its body wrote, or rolls it back and raises. -/
theorem run_transaction {Value : Type} (body : Action Value) {direct : Direct}
    (closed : direct.inTransaction = false) :
    (transaction body).run directHandler direct =
      match body.run directHandler direct.touch with
      | (.ok value, after) => (.ok value, after.committed)
      | (.error error, after) => (.error error, after.rolledBack) := by
  simp only [transaction, Program.run_bind, run_attempt, directHandler, closed,
    Bool.false_eq_true, if_false, Program.run_catchError]
  rcases body.run directHandler direct.touch with ⟨_ | _, _⟩ <;> simp [directHandler]

/-- A transaction on a fresh session commits what its body leaves, or rolls it back. -/
theorem run_transaction_fresh {Value : Type} (body : Action Value) (store : Store)
    (inputs : Inputs) :
    (transaction body).run directHandler (.fresh store inputs) =
      match body.run directHandler (.begun store inputs) with
      | (.ok value, after) => (.ok value, after.committed)
      | (.error error, after) => (.error error, after.rolledBack) :=
  run_transaction body rfl

/-- A transaction that returns commits what its body has left. -/
theorem run_transaction_ok {Value : Type} {body : Action Value} {direct after : Direct}
    {value : Value} (closed : direct.inTransaction = false)
    (ran : (transaction body).run directHandler direct = (.ok value, after)) :
    ∃ left, body.run directHandler direct.touch = (.ok value, left) ∧ after = left.committed := by
  rw [run_transaction body closed] at ran
  rcases leaves : body.run directHandler direct.touch with ⟨error | result, left⟩
  · rw [leaves] at ran
    cases ran
  · rw [leaves] at ran
    cases ran
    exact ⟨left, rfl, rfl⟩

/-- A call on a fresh session, computed on the direct state. -/
theorem ValidStore.run_eq (store : ValidStore) (inputs : Inputs) {Value : Type}
    (program : Action Value) :
    let session := program.run sessionHandler (store.toStore, .fresh inputs)
    let direct := program.run directHandler (.fresh store.toStore inputs)
    session.1 = direct.1 ∧ Direct.of session.2.1 session.2.2 = direct.2 := by
  have undisturbed := undisturbed_fresh store.valid.keyed inputs
  obtain ⟨sameOutcome, -, described⟩ := run_session program undisturbed
  exact ⟨sameOutcome, described.symm⟩

end AcademicCredential
