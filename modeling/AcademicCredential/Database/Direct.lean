import AcademicCredential.Database.Session
import Mathlib.Data.List.Nodup

/-!
# Sessions without interference

When nothing else writes between two statements of a session, its identity map only
ever holds what the database would return anyway. `Direct` is that reading: the
committed database, the working copy the open transaction sees, and nothing cached.
`session_simulates` shows that the session handler and the direct one give every
program the same replies and the same effects, so what one call does on its own can be
computed on the simpler state.
-/

namespace AcademicCredential

open AcademicCredential.Lib

/-- Primary keys are unique in every table. -/
def Database.Keyed (database : Database) : Prop :=
  ∀ table, ((database table).map rowId).Nodup

/-- A session without an identity map: its working rows, and the committed ones. -/
structure Direct where
  database : Database
  /-- The committed rows with the open transaction's writes applied. -/
  working : Database
  chain : Chain
  files : List (String × List UInt8)
  inTransaction : Bool
  journal : List Write
  inputs : Inputs
  rpcCalls : List RpcCall
  reads : Nat

namespace Direct

/-- A session `get_db` has just handed out. -/
def fresh (store : Store) (inputs : Inputs) : Direct where
  database := store.database
  working := store.database
  chain := store.chain
  files := store.files
  inTransaction := false
  journal := []
  inputs
  rpcCalls := []
  reads := 0

/-- A statement that only reads. -/
def touch (direct : Direct) : Direct := { direct with inTransaction := true }

/-- A session right after its first `BEGIN`. -/
def begun (store : Store) (inputs : Inputs) : Direct := (fresh store inputs).touch

/-- The working rows with one more write. -/
def write (direct : Direct) (write : Write) : Direct :=
  { direct with
    inTransaction := true
    working := write.apply direct.working
    journal := direct.journal ++ [write] }

/-- A write is applied to the working rows. -/
@[simp] theorem working_write (direct : Direct) (write : Write) :
    (direct.write write).working = write.apply direct.working := rfl

/-- After a write the transaction is open anyway. -/
@[simp] theorem touch_write (direct : Direct) (write : Write) :
    (direct.write write).touch = direct.write write := rfl

/-- The UPDATE of a row, if the constraints accept the new row. -/
def updateRow (direct : Direct) (table : Table) (id : Uuid)
    (assignments : List (Assignment table)) (row : Row table) :
    Except Exception Unit × Direct :=
  match checkUpdated direct.working table (assignAll row assignments) with
  | .error error => (.error error, direct.touch)
  | .ok () => (.ok (), direct.write (.update table id assignments))

/-- An UPDATE of the attributes that change. -/
def flush (direct : Direct) (table : Table) (id : Uuid)
    (assignments : List (Assignment table)) : Except Exception Unit × Direct :=
  match direct.working.find? table id with
  | some row =>
      match netChanges row assignments with
      | [] => (.ok (), direct)
      | change :: changes => direct.updateRow table id (change :: changes) row
  | none => (.error .StaleDataError, direct.touch)

/-- `UPDATE … WHERE id = …` on the working rows. -/
def executeUpdate (direct : Direct) (table : Table) (id : Uuid)
    (assignments : List (Assignment table)) : Except Exception Unit × Direct :=
  match direct.working.find? table id with
  | some row => direct.updateRow table id assignments row
  | none => (.ok (), direct.touch)

/-- An INSERT into the working rows. -/
def insert (direct : Direct) (table : Table) (row : Row table) :
    Except Exception Unit × Direct :=
  match checkInsert (direct.inputs.today direct.reads) direct.working table row with
  | .error error => (.error error, direct.touch)
  | .ok () => (.ok (), direct.write (.insert table row))

/-- The chain when the next read is answered. -/
def nextChain (direct : Direct) : Chain :=
  direct.chain.mineAll (direct.inputs.rpc direct.rpcCalls.length).mined

/-- A read of the chain. -/
def rpc (direct : Direct) (call : RpcCall) : Except Exception call.Reply × Direct :=
  ((direct.inputs.rpc direct.rpcCalls.length).reply direct.nextChain call,
    { direct with chain := direct.nextChain, rpcCalls := direct.rpcCalls ++ [call] })

/-- One more read of a clock or a random source. -/
def read (direct : Direct) : Direct := { direct with reads := direct.reads + 1 }

/-- The working rows become the committed ones. -/
def committed (direct : Direct) : Direct :=
  { direct with database := direct.working, inTransaction := false }

/-- The working rows become what is committed. -/
def rolledBack (direct : Direct) : Direct :=
  { direct with working := direct.database, inTransaction := false }

end Direct

/-- The meaning of the operations on the direct state. -/
def directHandler : Program.Handler Op Direct := fun _ op direct =>
  match op with
  | .select table condition => ((direct.working table).filter condition, direct.touch)
  | .selectText table query => (query (direct.working table), direct.touch)
  | .count table condition => ((direct.working table).countP condition, direct.touch)
  | .flush table id assignments => direct.flush table id assignments
  | .executeUpdate table id assignments => direct.executeUpdate table id assignments
  | .insert table row => direct.insert table row
  | .refresh table id => (direct.working.find? table id, direct.touch)
  | .begin =>
      if direct.inTransaction then (.error .InvalidRequestError, direct) else (.ok (), direct.touch)
  | .commit => ((), direct.committed)
  | .rollback => ((), direct.rolledBack)
  | .rpc call => direct.rpc call
  | .now => (direct.inputs.wallClock direct.reads, direct.read)
  | .serverNow => (direct.inputs.databaseClock direct.reads, direct.read)
  | .monotonic => (direct.inputs.monotonic direct.reads, direct.read)
  | .today => (direct.inputs.today direct.reads, direct.read)
  | .uuid4 => (direct.inputs.uuid4 direct.reads, direct.read)
  | .tokenUrlsafe => (direct.inputs.tokenUrlsafe direct.reads, direct.read)
  | .writeFile path bytes =>
      ((), { direct with files := direct.files.filter (·.1 ≠ path) ++ [(path, bytes)] })
  | .fileExists path => (direct.files.any (·.1 = path), direct)

/-- In a keyed database a primary key is of one row. -/
theorem Database.Keyed.eq_of_rowId {database : Database} (keyed : database.Keyed)
    {table : Table} {left right : Row table} (leftMember : left ∈ database table)
    (rightMember : right ∈ database table) (sameKey : rowId left = rowId right) :
    left = right :=
  List.inj_on_of_nodup_map (keyed table) leftMember rightMember sameKey

/-- The row that is found has the key. -/
theorem Database.find?_some {database : Database} {table : Table} {id : Uuid}
    {row : Row table} (found : database.find? table id = some row) :
    row ∈ database table ∧ rowId row = id :=
  ⟨List.mem_of_find?_eq_some found, by simpa using List.find?_some found⟩

/-- In a keyed database a row is found by its key. -/
theorem Database.Keyed.find? {database : Database} (keyed : database.Keyed) {table : Table}
    {row : Row table} (member : row ∈ database table) :
    database.find? table (rowId row) = some row := by
  cases found : database.find? table (rowId row) with
  | none =>
      have noneFound := List.find?_eq_none.mp found row member
      simp at noneFound
  | some other =>
      obtain ⟨otherMember, sameKey⟩ := Database.find?_some found
      rw [keyed.eq_of_rowId otherMember member sameKey]

/-- An UPDATE changes no primary key. -/
@[simp] theorem map_rowId_updateRows {table : Table} (id : Uuid)
    (assignments : List (Assignment table)) (rows : List (Row table)) :
    (updateRows id assignments rows).map rowId = rows.map rowId := by
  simp only [updateRows, List.map_map]
  apply List.map_congr_left
  intro row _
  by_cases sameKey : rowId row = id <;> simp [sameKey]

/-- An UPDATE keeps a database keyed. -/
theorem Database.Keyed.update {database : Database} (keyed : database.Keyed) (table : Table)
    (id : Uuid) (assignments : List (Assignment table)) :
    ((Write.update table id assignments).apply database).Keyed := by
  intro other
  by_cases sameTable : other = table
  · subst sameTable
    simpa [Write.apply] using keyed other
  · simpa [Write.apply, Function.update_of_ne sameTable] using keyed other

/-- An INSERT that is accepted violates nothing and meets no key. -/
theorem checkInsert_ok {today : Date} {database : Database} {table : Table} {row : Row table}
    (accepted : checkInsert today database table row = .ok ()) :
    violation? (insertConstraints today table) row = none ∧
      conflict? row (database table) = none := by
  unfold checkInsert at accepted
  cases violated : violation? (insertConstraints today table) row with
  | some _ => simp [violated] at accepted
  | none =>
      cases conflicting : conflict? row (database table) with
      | some _ => simp [violated, conflicting] at accepted
      | none => exact ⟨rfl, rfl⟩

/-- An INSERT that is accepted keeps a database keyed. -/
theorem Database.Keyed.insert {database : Database} (keyed : database.Keyed) {table : Table}
    {row : Row table} {today : Date}
    (accepted : checkInsert today database table row = .ok ()) :
    ((Write.insert table row).apply database).Keyed := by
  intro other
  by_cases sameTable : other = table
  · subst sameTable
    have fresh : ∀ stored ∈ database other, rowId stored ≠ rowId row := by
      intro stored member sameKey
      have apart := conflict?_eq_none.mp (checkInsert_ok accepted).2 _ (primaryKey_mem row)
        stored member
      exact apart (sameKey ▸ primaryKey_mem stored)
    simp only [Write.apply, Function.update_self, List.map_append, List.map_cons, List.map_nil]
    refine List.nodup_append.mpr ⟨keyed other, List.nodup_singleton _, ?_⟩
    rintro _ stored _ new rfl
    obtain ⟨row, member, rfl⟩ := List.mem_map.mp stored
    simp only [List.mem_singleton] at new
    exact fresh row member new
  · simpa [Write.apply, Function.update_of_ne sameTable] using keyed other

/-- Every loaded row is the row the session sees now. -/
def Coherent (identityMap working : Database) : Prop :=
  ∀ table, ∀ row ∈ identityMap table, row ∈ working table

namespace Coherent

variable {identityMap working : Database} {table : Table}

/-- An empty identity map agrees with any rows. -/
theorem empty (working : Database) : Coherent .empty working := by
  intro table row member
  cases member

/-- A loaded instance is the row that is stored. -/
theorem find?_some (coherent : Coherent identityMap working) (keyed : working.Keyed)
    {id : Uuid} {loaded : Row table} (found : identityMap.find? table id = some loaded) :
    working.find? table id = some loaded := by
  obtain ⟨member, rfl⟩ := Database.find?_some found
  exact keyed.find? (coherent table loaded member)

/-- A flush starts from the stored row. -/
theorem instance? (coherent : Coherent identityMap working) (keyed : working.Keyed)
    (id : Uuid) :
    (identityMap.find? table id).or (working.find? table id) = working.find? table id := by
  cases found : identityMap.find? table id with
  | none => rfl
  | some loaded => simp [coherent.find?_some keyed found]

/-- Rows the database returns are the rows the identity map knows. -/
theorem loadedRows (coherent : Coherent identityMap working) (keyed : working.Keyed)
    {rows : List (Row table)} (seen : ∀ row ∈ rows, row ∈ working table) :
    loadedRows identityMap table rows = rows := by
  rw [AcademicCredential.loadedRows]
  refine List.map_congr_left (g := id) (fun row member => ?_) |>.trans (List.map_id rows)
  cases found : identityMap.find? table (rowId row) with
  | none => rfl
  | some loaded =>
      have same := (coherent.find?_some keyed found).symm.trans (keyed.find? (seen row member))
      simpa using same

/-- Loading rows that are seen keeps the identity map in agreement. -/
theorem load (coherent : Coherent identityMap working) {rows : List (Row table)}
    (seen : ∀ row ∈ rows, row ∈ working table) :
    Coherent (loadRows identityMap table rows) working := by
  intro other row member
  by_cases sameTable : other = table
  · subst sameTable
    simp only [loadRows, Function.update_self, List.mem_append, List.mem_filter] at member
    rcases member with known | ⟨new, -⟩
    · exact coherent other row known
    · exact seen row new
  · rw [loadRows, Function.update_of_ne sameTable] at member
    exact coherent other row member

/-- An UPDATE keeps the loaded instance equal to the row. -/
theorem update (coherent : Coherent identityMap working) (id : Uuid)
    (assignments : List (Assignment table)) :
    Coherent (Function.update identityMap table (updateRows id assignments (identityMap table)))
      ((Write.update table id assignments).apply working) := by
  intro other row member
  by_cases sameTable : other = table
  · subst sameTable
    simp only [Function.update_self, updateRows, List.mem_map] at member
    obtain ⟨loaded, known, rfl⟩ := member
    simp only [Write.apply, Function.update_self, updateRows, List.mem_map]
    exact ⟨loaded, coherent other loaded known, rfl⟩
  · rw [Function.update_of_ne sameTable] at member
    simpa [Write.apply, Function.update_of_ne sameTable] using coherent other row member

/-- So does inserting a row. -/
theorem insert (coherent : Coherent identityMap working) (row : Row table) :
    Coherent (loadRows identityMap table [row]) ((Write.insert table row).apply working) := by
  have grown : Coherent identityMap ((Write.insert table row).apply working) := by
    intro other stored member
    by_cases sameTable : other = table
    · subst sameTable
      simpa [Write.apply] using .inl (coherent other stored member)
    · simpa [Write.apply, Function.update_of_ne sameTable] using coherent other stored member
  exact grown.load (by simp [Write.apply])

/-- So does reloading one. -/
theorem refresh (coherent : Coherent identityMap working) (id : Uuid) :
    Coherent (Function.update identityMap table
      (((identityMap table).filter fun loaded => rowId loaded ≠ id) ++
        (working.find? table id).toList)) working := by
  intro other row member
  by_cases sameTable : other = table
  · subst sameTable
    simp only [Function.update_self, List.mem_append, List.mem_filter, Option.mem_toList] at member
    rcases member with ⟨known, -⟩ | found
    · exact coherent other row known
    · exact (Database.find?_some found).1
  · rw [Function.update_of_ne sameTable] at member
    exact coherent other row member

end Coherent

/-- The direct state a session over a store stands for. -/
def Direct.of (store : Store) (session : Session) : Direct where
  database := store.database
  working := visible store session
  chain := store.chain
  files := store.files
  inTransaction := session.inTransaction
  journal := session.journal
  inputs := session.inputs
  rpcCalls := session.rpcCalls
  reads := session.reads

/-- A session that has seen nothing but its own writes since it loaded its rows. -/
structure Undisturbed (state : Store × Session) : Prop where
  keyedDatabase : state.1.database.Keyed
  keyed : (visible state.1 state.2).Keyed
  coherent : Coherent state.2.identityMap (visible state.1 state.2)

/-- The session's state and the direct one that describes it. -/
def Describes (state : Store × Session) (direct : Direct) : Prop :=
  Undisturbed state ∧ direct = Direct.of state.1 state.2

/-- After a write a session sees the written row. -/
theorem visible_recordWrite (store : Store) (session : Session) (write : Write) :
    visible store (session.recordWrite write) = write.apply (visible store session) := by
  simp [visible, Session.recordWrite]

/-- The UPDATE of a row seen by the session is the direct one. -/
theorem updateRow_simulates {store : Store} {session : Session}
    (undisturbed : Undisturbed (store, session)) (table : Table) (id : Uuid)
    (assignments : List (Assignment table)) (row : Row table) :
    (session.updateRow store table id assignments row).1 =
        ((Direct.of store session).updateRow table id assignments row).1 ∧
      Describes (store, (session.updateRow store table id assignments row).2)
        ((Direct.of store session).updateRow table id assignments row).2 := by
  cases accepted :
      checkUpdated (visible store session) table (assignAll row assignments) with
  | error error =>
      simp only [Session.updateRow, Direct.updateRow, Direct.of, accepted]
      exact ⟨trivial, ⟨undisturbed.keyedDatabase, undisturbed.keyed, undisturbed.coherent⟩, rfl⟩
  | ok _ =>
      simp only [Session.updateRow, Direct.updateRow, Direct.of, accepted]
      have written := visible_recordWrite store session (.update table id assignments)
      refine ⟨trivial, ⟨undisturbed.keyedDatabase, ?_, ?_⟩, ?_⟩
      · exact written ▸ undisturbed.keyed.update table id assignments
      · exact written ▸ undisturbed.coherent.update id assignments
      · simp [Direct.of, Direct.write, Session.recordWrite, visible]

/-- Operation by operation, the session handler and the direct handler agree. -/
theorem session_simulates (Reply : Type) (op : Op Reply) (state : Store × Session)
    (direct : Direct) (described : Describes state direct) :
    (sessionHandler Reply op state).1 = (directHandler Reply op direct).1 ∧
      Describes (sessionHandler Reply op state).2 (directHandler Reply op direct).2 := by
  obtain ⟨store, session⟩ := state
  obtain ⟨undisturbed, rfl⟩ := described
  obtain ⟨keyedDatabase, keyed, coherent⟩ := id undisturbed
  have inputRead : Describes (store, { session with reads := session.reads + 1 })
      (Direct.of store session).read := ⟨⟨keyedDatabase, keyed, coherent⟩, rfl⟩
  cases op with
  | select table condition =>
      have seen : ∀ row ∈ (visible store session table).filter condition,
          row ∈ visible store session table := fun row member => List.mem_of_mem_filter member
      exact ⟨coherent.loadedRows keyed seen,
        ⟨keyedDatabase, keyed, coherent.load seen⟩, rfl⟩
  | selectText table query => exact ⟨rfl, ⟨keyedDatabase, keyed, coherent⟩, rfl⟩
  | count table condition => exact ⟨rfl, ⟨keyedDatabase, keyed, coherent⟩, rfl⟩
  | flush table id assignments =>
      have loaded : session.instance? store table id =
          (visible store session).find? table id := coherent.instance? keyed id
      cases found : (visible store session).find? table id with
      | none =>
          simp only [sessionHandler, directHandler, Direct.flush, Direct.of, loaded, found]
          exact ⟨trivial, ⟨keyedDatabase, keyed, coherent⟩, rfl⟩
      | some row =>
          cases changed : netChanges row assignments with
          | nil =>
              simp only [sessionHandler, directHandler, Direct.flush, Direct.of, loaded, found,
                changed]
              exact ⟨trivial, undisturbed, rfl⟩
          | cons change changes =>
              simp only [sessionHandler, directHandler, Direct.flush, Direct.of, loaded, found,
                changed]
              exact updateRow_simulates undisturbed table id (change :: changes) row
  | executeUpdate table id assignments =>
      cases found : (visible store session).find? table id with
      | none =>
          simp only [sessionHandler, directHandler, Direct.executeUpdate, Direct.of, found]
          exact ⟨trivial, ⟨keyedDatabase, keyed, coherent⟩, rfl⟩
      | some row =>
          simp only [sessionHandler, directHandler, Direct.executeUpdate, Direct.of, found]
          exact updateRow_simulates undisturbed table id assignments row
  | insert table row =>
      cases accepted : checkInsert (session.inputs.today session.reads) (visible store session)
          table row with
      | error error =>
          simp only [sessionHandler, directHandler, Direct.insert, Direct.of, accepted]
          exact ⟨trivial, ⟨keyedDatabase, keyed, coherent⟩, rfl⟩
      | ok _ =>
          simp only [sessionHandler, directHandler, Direct.insert, Direct.of, accepted]
          have written := visible_recordWrite store session (.insert table row)
          refine ⟨trivial, ⟨keyedDatabase, ?_, ?_⟩, ?_⟩
          · exact written ▸ keyed.insert accepted
          · exact written ▸ coherent.insert row
          · simp [Direct.of, Direct.write, Session.recordWrite, visible]
  | refresh table id => exact ⟨rfl, ⟨keyedDatabase, keyed, coherent.refresh id⟩, rfl⟩
  | begin =>
      cases opened : session.inTransaction with
      | true =>
          simp only [sessionHandler, directHandler, Direct.of, opened]
          exact ⟨rfl, undisturbed, by simp [Direct.of, opened]⟩
      | false =>
          simp only [sessionHandler, directHandler, Direct.of, opened]
          exact ⟨rfl, ⟨keyedDatabase, keyed, coherent⟩, rfl⟩
  | commit => exact ⟨rfl, ⟨keyed, keyed, coherent⟩, rfl⟩
  | rollback => exact ⟨rfl, ⟨keyedDatabase, keyedDatabase, .empty _⟩, rfl⟩
  | rpc call => exact ⟨rfl, ⟨keyedDatabase, keyed, coherent⟩, rfl⟩
  | now | serverNow | monotonic | today | uuid4 | tokenUrlsafe => exact ⟨rfl, inputRead⟩
  | writeFile path bytes => exact ⟨rfl, ⟨keyedDatabase, keyed, coherent⟩, rfl⟩
  | fileExists path => exact ⟨rfl, undisturbed, rfl⟩

/-- A program run on its own has the outcome and the effects of its direct run. -/
theorem run_session {Value : Type} (program : Action Value) {store : Store}
    {session : Session} (undisturbed : Undisturbed (store, session)) :
    (program.run sessionHandler (store, session)).1 =
        (program.run directHandler (Direct.of store session)).1 ∧
      Describes (program.run sessionHandler (store, session)).2
        (program.run directHandler (Direct.of store session)).2 :=
  Program.run_simulates session_simulates program ⟨undisturbed, rfl⟩

/-- A fresh session agrees with the store. -/
theorem undisturbed_fresh {store : Store} (keyed : store.database.Keyed) (inputs : Inputs) :
    Undisturbed (store, Session.fresh inputs) :=
  ⟨keyed, keyed, .empty _⟩

end AcademicCredential
