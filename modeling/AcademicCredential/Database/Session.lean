import AcademicCredential.Chain
import AcademicCredential.Database.Constraints
import AcademicCredential.Lib.Program
import Mathlib.Order.Monotone.Defs
import Mathlib.Order.Nat

/-!
# Database sessions

One `AsyncSession` over a shared store. A session sees the committed rows with its own
pending writes applied, as under READ COMMITTED, and keeps the rows it has loaded in an
identity map: a later SELECT returns the row as first loaded, and a flush writes only
the attributes that differ from it. The first statement opens a transaction, `begin`
refuses an open one, commit publishes the pending writes and rollback drops them.
`autoflush` and `expire_on_commit` are off, as `connection.py` sets them.

The operations are those the repositories and services perform, clocks, random sources
and reads of the chain included. What the outside answers is fixed by `Inputs`, over
which every statement about a session quantifies. Foreign keys are not modelled: no
modelled statement deletes a row or refers to one it has not read.

`journal` and `committed` record history and are read by no operation.
-/

namespace AcademicCredential

open AcademicCredential.Lib
open AcademicCredential.Contract

/-- The rows of every table, oldest first. -/
abbrev Database := (table : Table) → List (Row table)

namespace Database

/-- The database before anything is inserted. -/
def empty : Database := fun _ => []

/-- The row with a primary key. -/
def find? (database : Database) (table : Table) (id : Uuid) : Option (Row table) :=
  (database table).find? fun row => rowId row = id

end Database

/-- A data-modifying statement that the database has accepted. -/
inductive Write where
  | insert (table : Table) (row : Row table)
  | update (table : Table) (id : Uuid) (assignments : List (Assignment table))

/-- `UPDATE … WHERE id = …` on the rows of a table. -/
def updateRows {table : Table} (id : Uuid) (assignments : List (Assignment table))
    (rows : List (Row table)) : List (Row table) :=
  rows.map fun row => if rowId row = id then assignAll row assignments else row

/-- What an accepted write does to the rows. -/
def Write.apply (database : Database) : Write → Database
  | .insert table row => Function.update database table (database table ++ [row])
  | .update table id assignments =>
      Function.update database table (updateRows id assignments (database table))

/-- Writes, oldest first. -/
def applyWrites (database : Database) (writes : List Write) : Database :=
  writes.foldl Write.apply database

/-- No write changes nothing. -/
@[simp] theorem applyWrites_nil (database : Database) : applyWrites database [] = database := rfl

/-- The last write is applied last. -/
@[simp] theorem applyWrites_snoc (database : Database) (writes : List Write) (write : Write) :
    applyWrites database (writes ++ [write]) = write.apply (applyWrites database writes) := by
  simp [applyWrites]

/-- Whether an INSERT on a given day is accepted. -/
def checkInsert (today : Date) (database : Database) (table : Table) (row : Row table) :
    Except Exception Unit :=
  match violation? (insertConstraints today table) row with
  | some constraint => .error (.CheckViolation table.name constraint)
  | none =>
      match conflict? row (database table) with
      | some key => .error (.UniqueViolation table.name key.constraint)
      | none => .ok ()

/-- Whether a row may replace the stored row with its primary key. -/
def checkUpdated (database : Database) (table : Table) (row : Row table) :
    Except Exception Unit :=
  match violation? (constraints table) row with
  | some constraint => .error (.CheckViolation table.name constraint)
  | none =>
      match conflict? row ((database table).filter fun other => rowId other ≠ rowId row) with
      | some key => .error (.UniqueViolation table.name key.constraint)
      | none => .ok ()

/-- What the clocks, the random sources and the RPC node answer, in order. -/
structure Inputs where
  rpc : Nat → RpcOutcome
  /-- `datetime.now(timezone.utc)`. -/
  wallClock : Nat → Timestamp
  /-- The database server's `NOW()`. -/
  databaseClock : Nat → Timestamp
  /-- `time.monotonic()`, in milliseconds. -/
  monotonic : Nat → Nat
  monotonic_mono : Monotone monotonic
  today : Nat → Date
  uuid4 : Nat → Uuid
  tokenUrlsafe : Nat → String

/-- What one `AsyncSession` keeps. -/
structure Session where
  inTransaction : Bool
  identityMap : Database
  pending : List Write
  /-- Every write accepted so far, whether or not it was rolled back. -/
  journal : List Write
  /-- Every write committed so far. -/
  committed : List Write
  inputs : Inputs
  /-- The reads of the chain made so far; `inputs.rpc` says how the next one goes. -/
  rpcCalls : List RpcCall
  /-- How many reads of the other inputs have been made. -/
  reads : Nat

/-- The session `get_db` hands to a request. -/
def Session.fresh (inputs : Inputs) : Session where
  inTransaction := false
  identityMap := .empty
  pending := []
  journal := []
  committed := []
  inputs
  rpcCalls := []
  reads := 0

/-- What sessions share: the committed database, the chain and the upload folder. -/
structure Store where
  database : Database
  chain : Chain
  files : List (String × List UInt8)

/-- What a session's statements see. -/
def visible (store : Store) (session : Session) : Database :=
  applyWrites store.database session.pending

/-- What services and repositories ask of the database, the clocks, the chain and the folder. -/
inductive Op : Type → Type where
  /-- `SELECT` of whole rows, returned as ORM instances. -/
  | select (table : Table) (condition : Row table → Bool) : Op (List (Row table))
  /-- `SELECT` of one text column of one row of the result. -/
  | selectText (table : Table) (query : List (Row table) → Option String) : Op (Option String)
  /-- `SELECT COUNT(*)`. -/
  | count (table : Table) (condition : Row table → Bool) : Op Nat
  /-- Set attributes of a loaded instance and flush. -/
  | flush (table : Table) (id : Uuid) (assignments : List (Assignment table)) :
      Op (Except Exception Unit)
  /-- `UPDATE … WHERE id = …` executed as a statement. -/
  | executeUpdate (table : Table) (id : Uuid) (assignments : List (Assignment table)) :
      Op (Except Exception Unit)
  /-- `add` of a new instance and flush. -/
  | insert (table : Table) (row : Row table) : Op (Except Exception Unit)
  /-- Reload a loaded instance. -/
  | refresh (table : Table) (id : Uuid) : Op (Option (Row table))
  | begin : Op (Except Exception Unit)
  | commit : Op Unit
  | rollback : Op Unit
  | rpc (call : RpcCall) : Op (Except Exception call.Reply)
  | now : Op Timestamp
  | serverNow : Op Timestamp
  | monotonic : Op Nat
  | today : Op Date
  | uuid4 : Op Uuid
  | tokenUrlsafe : Op String
  | writeFile (path : String) (bytes : List UInt8) : Op Unit
  | fileExists (path : String) : Op Bool

/-- A program of the backend. -/
abbrev Action (Value : Type) := Program Op Exception Value

/-- Perform an operation whose reply may be an exception, and raise it. -/
def attempt {Value : Type} (op : Op (Except Exception Value)) : Action Value :=
  Program.perform op >>= Program.ofExcept

/-- The rows of a result, as the identity map knows them. -/
def loadedRows (identityMap : Database) (table : Table) (rows : List (Row table)) :
    List (Row table) :=
  rows.map fun row => (identityMap.find? table (rowId row)).getD row

/-- The identity map after loading rows: rows it knew stay as they were. -/
def loadRows (identityMap : Database) (table : Table) (rows : List (Row table)) : Database :=
  Function.update identityMap table
    (identityMap table ++ rows.filter fun row => (identityMap.find? table (rowId row)).isNone)

/-- The attributes that differ from their loaded values: what a flush writes. -/
def netChanges {table : Table} (row : Row table) (assignments : List (Assignment table)) :
    List (Assignment table) :=
  assignments.filter fun assignment => assign row assignment ≠ row

namespace Session

/-- The instance a flush starts from. -/
def instance? (store : Store) (session : Session) (table : Table) (id : Uuid) :
    Option (Row table) :=
  (session.identityMap.find? table id).or ((visible store session).find? table id)

/-- Record an accepted write. -/
def recordWrite (session : Session) (write : Write) : Session :=
  { session with
    inTransaction := true
    pending := session.pending ++ [write]
    journal := session.journal ++ [write] }

/-- An UPDATE of the visible row, with the loaded instance following it. -/
def updateRow (store : Store) (session : Session) (table : Table) (id : Uuid)
    (assignments : List (Assignment table)) (row : Row table) :
    Except Exception Unit × Session :=
  match checkUpdated (visible store session) table (assignAll row assignments) with
  | .error error => (.error error, { session with inTransaction := true })
  | .ok () =>
      (.ok (), { session.recordWrite (.update table id assignments) with
        identityMap := Function.update session.identityMap table
          (updateRows id assignments (session.identityMap table)) })

end Session

/-- The meaning of the operations for one session over the shared store. -/
def sessionHandler : Program.Handler Op (Store × Session) := fun _ op (store, session) =>
  match op with
  | .select table condition =>
      let rows := (visible store session table).filter condition
      (loadedRows session.identityMap table rows,
        (store, { session with
          inTransaction := true
          identityMap := loadRows session.identityMap table rows }))
  | .selectText table query =>
      (query (visible store session table), (store, { session with inTransaction := true }))
  | .count table condition =>
      ((visible store session table).countP condition,
        (store, { session with inTransaction := true }))
  | .flush table id assignments =>
      match session.instance? store table id, (visible store session).find? table id with
      | some loaded, some row =>
          match netChanges loaded assignments with
          | [] => (.ok (), (store, session))
          | change :: changes =>
              let (result, after) := session.updateRow store table id (change :: changes) row
              (result, (store, after))
      | _, _ => (.error .StaleDataError, (store, { session with inTransaction := true }))
  | .executeUpdate table id assignments =>
      match (visible store session).find? table id with
      | some row =>
          let (result, after) := session.updateRow store table id assignments row
          (result, (store, after))
      | none => (.ok (), (store, { session with inTransaction := true }))
  | .insert table row =>
      match checkInsert (session.inputs.today session.reads) (visible store session) table row with
      | .error error => (.error error, (store, { session with inTransaction := true }))
      | .ok () =>
          (.ok (), (store, { session.recordWrite (.insert table row) with
            identityMap := loadRows session.identityMap table [row] }))
  | .refresh table id =>
      let row := (visible store session).find? table id
      (row, (store, { session with
        inTransaction := true
        identityMap := Function.update session.identityMap table
          (((session.identityMap table).filter fun loaded => rowId loaded ≠ id) ++
            row.toList) }))
  | .begin =>
      if session.inTransaction then
        (.error .InvalidRequestError, (store, session))
      else
        (.ok (), (store, { session with inTransaction := true }))
  | .commit =>
      ((), ({ store with database := visible store session },
        { session with
          inTransaction := false
          pending := []
          committed := session.committed ++ session.pending }))
  | .rollback =>
      ((), (store, { session with
        inTransaction := false, pending := [], identityMap := .empty }))
  | .rpc call =>
      let outcome := session.inputs.rpc session.rpcCalls.length
      let chain := store.chain.mineAll outcome.mined
      (outcome.reply chain call,
        ({ store with chain }, { session with rpcCalls := session.rpcCalls ++ [call] }))
  | .now => (session.inputs.wallClock session.reads,
      (store, { session with reads := session.reads + 1 }))
  | .serverNow => (session.inputs.databaseClock session.reads,
      (store, { session with reads := session.reads + 1 }))
  | .monotonic => (session.inputs.monotonic session.reads,
      (store, { session with reads := session.reads + 1 }))
  | .today => (session.inputs.today session.reads,
      (store, { session with reads := session.reads + 1 }))
  | .uuid4 => (session.inputs.uuid4 session.reads,
      (store, { session with reads := session.reads + 1 }))
  | .tokenUrlsafe => (session.inputs.tokenUrlsafe session.reads,
      (store, { session with reads := session.reads + 1 }))
  | .writeFile path bytes =>
      ((), ({ store with files := store.files.filter (·.1 ≠ path) ++ [(path, bytes)] }, session))
  | .fileExists path => (store.files.any (·.1 = path), (store, session))

/-- `async with db.begin():` around `body`. An exception that leaves the block rolls it
back and is raised again; any other exit commits. -/
def transaction {Value : Type} (body : Action Value) : Action Value := do
  attempt .begin
  let value ← body.catchError fun error => do
    Program.perform .rollback
    Program.raise error
  Program.perform .commit
  return value

end AcademicCredential
