import AcademicCredential.Database.Runs
import AcademicCredential.Footprints
import AcademicCredential.Outlines

/-!
# Rows with companions

Some rows are inserted together with a row of another table that refers to them: a user with a
profile, a certificate with its transaction. Nothing in the schema asks for the second row; it is
the transaction that inserts both. A call that commits no owner without its companion, and no
companion without its owner, follows `Pairing.protocol`. `Pairing.paired_run`: in every run of such
calls, whatever the order of the statements, the committed companions are those of the committed
owners, one for each.
-/

namespace AcademicCredential

open AcademicCredential.Lib

/-- The rows of one table that need a row of another, and which of them that one refers to. -/
structure Pairing where
  owners : Table
  companions : Table
  needs : Row owners → Bool
  serves : Row companions → Option Uuid
  needs_assign : ∀ row assignment, needs (assign row assignment) = needs row
  serves_assign : ∀ row assignment, serves (assign row assignment) = serves row

/-- Where a transaction stands: an owner that it has inserted may still need its companion. -/
inductive PairingPhase where
  | settled
  | opened (owner : Uuid)
  /-- A row was read again under another key. -/
  | impossible

/-- The table that an operation inserts a row into. -/
def Op.insertsInto : {Reply : Type} → Op Reply → Option Table
  | _, .insert table _ => some table
  | _, _ => none

namespace Pairing

variable (pairing : Pairing)

/-- The owner that needs a companion once the row is inserted. -/
def need? {table : Table} (row : Row table) : Option Uuid :=
  if isOwner : table = pairing.owners then
    if pairing.needs (isOwner ▸ row) then some (rowId row) else none
  else
    none

/-- The owner whose companion the row is. -/
def serve? {table : Table} (row : Row table) : Option Uuid :=
  if isCompanion : table = pairing.companions then pairing.serves (isCompanion ▸ row) else none

/-- The owner that a write adds and that needs a companion. -/
def asks : Write → Option Uuid
  | .insert _ row => pairing.need? row
  | .update _ _ _ => none

/-- The owner whose companion a write adds. -/
def gives : Write → Option Uuid
  | .insert _ row => pairing.serve? row
  | .update _ _ _ => none

/-- The owners that need a companion. -/
def needed (database : Database) : List Uuid := (database pairing.owners).filterMap pairing.need?

/-- The owners that the companions refer to. -/
def served (database : Database) : List Uuid :=
  (database pairing.companions).filterMap pairing.serve?

/-- Every owner that needs a companion has one, and there are no others. -/
def Paired (database : Database) : Prop := (pairing.served database).Perm (pairing.needed database)

variable {pairing}

/-- An owner asks for a companion if it needs one. -/
theorem need?_owner (row : Row pairing.owners) :
    pairing.need? row = if pairing.needs row then some (rowId row) else none := by
  simp [need?]

/-- A companion serves its owner. -/
theorem serve?_companion (row : Row pairing.companions) :
    pairing.serve? row = pairing.serves row := by
  simp [serve?]

/-- Rows of other tables ask for nothing. -/
theorem need?_elsewhere {table : Table} (different : table ≠ pairing.owners) (row : Row table) :
    pairing.need? row = none := by
  simp [need?, different]

/-- Rows of other tables serve nobody. -/
theorem serve?_elsewhere {table : Table} (different : table ≠ pairing.companions)
    (row : Row table) : pairing.serve? row = none := by
  simp [serve?, different]

/-- An update does not change what a row asks for. -/
theorem need?_assignAll {table : Table} (row : Row table) (assignments : List (Assignment table)) :
    pairing.need? (assignAll row assignments) = pairing.need? row := by
  by_cases isOwner : table = pairing.owners
  · subst isOwner
    induction assignments generalizing row with
    | nil => rfl
    | cons first rest inductionHypothesis =>
        refine (inductionHypothesis (assign row first)).trans ?_
        rw [need?_owner, need?_owner, pairing.needs_assign, rowId_assign]
  · rw [need?_elsewhere isOwner, need?_elsewhere isOwner]

/-- An update does not change whom a row serves. -/
theorem serve?_assignAll {table : Table} (row : Row table)
    (assignments : List (Assignment table)) :
    pairing.serve? (assignAll row assignments) = pairing.serve? row := by
  by_cases isCompanion : table = pairing.companions
  · subst isCompanion
    induction assignments generalizing row with
    | nil => rfl
    | cons first rest inductionHypothesis =>
        refine (inductionHypothesis (assign row first)).trans ?_
        rw [serve?_companion, serve?_companion, pairing.serves_assign]
  · rw [serve?_elsewhere isCompanion, serve?_elsewhere isCompanion]

/-- What a write adds to a table, read in a way that no assignment changes. -/
theorem filterMap_apply {table : Table} {read : Row table → Option Uuid}
    (kept : ∀ row assignments, read (assignAll row assignments) = read row)
    {adds : Write → Option Uuid}
    (inserted : ∀ row, adds (.insert table row) = read row)
    (updated : ∀ other id assignments, adds (.update other id assignments) = none)
    (elsewhere : ∀ write, write.table ≠ table → adds write = none) (write : Write)
    (database : Database) :
    (write.apply database table).filterMap read =
      (database table).filterMap read ++ (adds write).toList := by
  by_cases inTable : write.table = table
  · cases write with
    | insert written row =>
        obtain rfl : written = table := inTable
        rw [inserted, Write.apply, Function.update_self, List.filterMap_append]
        cases isRead : read row <;> simp [isRead]
    | update written id assignments =>
        obtain rfl : written = table := inTable
        rw [updated, Option.toList_none, List.append_nil, Write.apply, Function.update_self,
          updateRows, List.filterMap_map]
        refine List.filterMap_congr fun row _ => ?_
        rw [Function.comp_apply]
        split
        · exact kept row assignments
        · rfl
  · rw [write.apply_of_ne inTable, elsewhere write inTable, Option.toList_none, List.append_nil]

/-- What is read of a table after some writes is what was read before and what each of them adds. -/
theorem filterMap_applyWrites {table : Table} {read : Row table → Option Uuid}
    {adds : Write → Option Uuid}
    (grows : ∀ (write : Write) (database : Database), (write.apply database table).filterMap read =
      (database table).filterMap read ++ (adds write).toList)
    (database : Database) (writes : List Write) :
    (applyWrites database writes table).filterMap read =
      (database table).filterMap read ++ writes.filterMap adds := by
  induction writes using List.reverseRecOn with
  | nil => simp [applyWrites]
  | append_singleton writes write inductionHypothesis =>
      rw [applyWrites_snoc, grows, inductionHypothesis, List.append_assoc, List.filterMap_append]
      cases isAdded : adds write <;> simp [isAdded]

/-- After some writes the owners in need are the old ones and the new. -/
theorem needed_applyWrites (database : Database) (writes : List Write) :
    pairing.needed (applyWrites database writes) =
      pairing.needed database ++ writes.filterMap pairing.asks := by
  refine filterMap_applyWrites (filterMap_apply need?_assignAll (fun _ => rfl)
    (fun _ _ _ => rfl) fun write different => ?_) database writes
  cases write with
  | insert table row => exact need?_elsewhere different row
  | update table id assignments => rfl

/-- After some writes the served owners are the old ones and the new. -/
theorem served_applyWrites (database : Database) (writes : List Write) :
    pairing.served (applyWrites database writes) =
      pairing.served database ++ writes.filterMap pairing.gives := by
  refine filterMap_applyWrites (filterMap_apply serve?_assignAll (fun _ => rfl)
    (fun _ _ _ => rfl) fun write different => ?_) database writes
  cases write with
  | insert table row => exact serve?_elsewhere different row
  | update table id assignments => rfl

/-- The writes insert as many companions as they insert owners that need them. -/
def Balanced (pairing : Pairing) (writes : List Write) : Prop :=
  (writes.filterMap pairing.gives).Perm (writes.filterMap pairing.asks)

/-- Balanced writes keep a database paired. -/
theorem Paired.applyWrites {database : Database} (paired : pairing.Paired database)
    {writes : List Write} (balanced : pairing.Balanced writes) :
    pairing.Paired (applyWrites database writes) := by
  rw [Paired, served_applyWrites, needed_applyWrites]
  exact paired.append balanced

/-- An owner has one companion if it needs one, and else none. -/
theorem Paired.countP_companions {database : Database} (paired : pairing.Paired database)
    (keyed : database.Keyed) {owner : Row pairing.owners} (member : owner ∈ database pairing.owners) :
    (database pairing.companions).countP (fun row => pairing.serves row = some (rowId owner)) =
      if pairing.needs owner then 1 else 0 := by
  have served : (pairing.served database).count (rowId owner) =
      (database pairing.companions).countP fun row => pairing.serves row = some (rowId owner) := by
    rw [Pairing.served, List.count_eq_countP, List.countP_filterMap]
    refine List.countP_congr fun row _ => ?_
    rw [serve?_companion]
    cases pairing.serves row <;> simp
  have needed : pairing.needed database =
      ((database pairing.owners).filter pairing.needs).map rowId := by
    rw [Pairing.needed, ← List.filterMap_eq_map, List.filterMap_filter]
    refine List.filterMap_congr fun row _ => ?_
    rw [need?_owner]
    rfl
  have once : (pairing.needed database).Nodup := by
    rw [needed]
    exact (keyed pairing.owners).sublist ((List.filter_sublist).map rowId)
  rw [← served, paired.count_eq]
  by_cases needs : pairing.needs owner = true
  · rw [if_pos needs, List.count_eq_one_of_mem once]
    rw [needed]
    exact List.mem_map_of_mem (List.mem_filter.mpr ⟨member, needs⟩)
  · rw [if_neg needs, List.count_eq_zero_of_not_mem]
    rw [needed]
    intro isNeeded
    obtain ⟨other, isOther, sameId⟩ := List.mem_map.mp isNeeded
    obtain ⟨isMember, otherNeeds⟩ := List.mem_filter.mp isOther
    exact needs (keyed.eq_of_rowId isMember member sameId ▸ otherNeeds)

/-- The owner of a companion is there, and needs it. -/
theorem Paired.exists_owner {database : Database} (paired : pairing.Paired database)
    {row : Row pairing.companions} (member : row ∈ database pairing.companions) {id : Uuid}
    (serves : pairing.serves row = some id) :
    ∃ owner ∈ database pairing.owners, rowId owner = id ∧ pairing.needs owner = true := by
  have served : id ∈ pairing.served database :=
    List.mem_filterMap.mpr ⟨row, member, (serve?_companion row).trans serves⟩
  obtain ⟨owner, isOwner, needed⟩ := List.mem_filterMap.mp (paired.mem_iff.mp served)
  rw [need?_owner] at needed
  split at needed
  · exact ⟨owner, isOwner, Option.some.inj needed, by assumption⟩
  · cases needed

/-- What a statement and its reply do to the phase. -/
def next (pairing : Pairing) : PairingPhase → {Reply : Type} → Op Reply → Reply → PairingPhase
  | .settled, _, .insert _ row, .ok () => (pairing.need? row).elim .settled .opened
  | .opened owner, _, .insert _ row, .ok () =>
      if pairing.serve? row = some owner then .settled else .opened owner
  | .opened owner, _, .refresh _ id, some row =>
      if rowId row = id then .opened owner else .impossible
  | .opened _, _, .rollback, _ => .settled
  | phase, _, _, _ => phase

/-- An owner is followed by its companion, and a companion by nothing else. -/
def permits (pairing : Pairing) : PairingPhase → {Reply : Type} → Op Reply → Prop
  | .settled, _, .insert _ row => pairing.serve? row = none
  | .opened owner, _, .insert _ row =>
      pairing.need? row = none ∧ (pairing.serve? row = none ∨ pairing.serve? row = some owner)
  | .opened _, _, .commit => False
  | _, _, _ => True

/-- The phases as a protocol. -/
def protocol (pairing : Pairing) : Protocol Op PairingPhase := ⟨pairing.permits, pairing.next⟩

/-- What the pending writes of a transaction add, in a phase. -/
def Holds (pairing : Pairing) (pending : List Write) : PairingPhase → Prop
  | .settled => pairing.Balanced pending
  | .opened owner =>
      (owner :: pending.filterMap pairing.gives).Perm (pending.filterMap pairing.asks)
  | .impossible => False

section session

variable {Reply : Type} {op : Op Reply} {store : Store} {session : Session} {phase : PairingPhase}

/-- An owner that is inserted opens the pairing, another row leaves it settled. -/
theorem next_insert_settled {table : Table} (row : Row table) :
    pairing.next .settled (.insert table row) (.ok ()) =
      (pairing.need? row).elim .settled .opened :=
  rfl

/-- The companion of the open owner settles the pairing. -/
theorem next_insert_opened (owner : Uuid) {table : Table} (row : Row table) :
    pairing.next (.opened owner) (.insert table row) (.ok ()) =
      if pairing.serve? row = some owner then .settled else .opened owner :=
  rfl

/-- An INSERT that is permitted keeps what the phase says of the pending writes. -/
theorem holds_insert {table : Table} {row : Row table} {pending : List Write}
    (holds : pairing.Holds pending phase) (permitted : pairing.permits phase (.insert table row)) :
    pairing.Holds (pending ++ [Write.insert table row])
      (pairing.next phase (.insert table row) (.ok ())) := by
  have gives : (pending ++ [Write.insert table row]).filterMap pairing.gives =
      pending.filterMap pairing.gives ++ (pairing.serve? row).toList := by
    cases isServed : pairing.serve? row <;> simp [gives, isServed]
  have asks : (pending ++ [Write.insert table row]).filterMap pairing.asks =
      pending.filterMap pairing.asks ++ (pairing.need? row).toList := by
    cases isNeeded : pairing.need? row <;> simp [asks, isNeeded]
  cases phase with
  | impossible => exact holds
  | settled =>
      have unserved : pairing.serve? row = none := permitted
      rw [unserved, Option.toList_none, List.append_nil] at gives
      have balanced : (pending.filterMap pairing.gives).Perm (pending.filterMap pairing.asks) := holds
      cases isNeeded : pairing.need? row with
      | none =>
          rw [isNeeded, Option.toList_none, List.append_nil] at asks
          rw [next_insert_settled, isNeeded]
          change List.Perm _ _
          rw [gives, asks]
          exact balanced
      | some owner =>
          rw [isNeeded] at asks
          rw [next_insert_settled, isNeeded]
          change List.Perm (owner :: _) _
          rw [gives, asks]
          exact (balanced.cons owner).trans (List.perm_append_singleton owner _).symm
  | opened owner =>
      obtain ⟨unneeded, served⟩ := permitted
      rw [unneeded, Option.toList_none, List.append_nil] at asks
      have open' : (owner :: pending.filterMap pairing.gives).Perm
        (pending.filterMap pairing.asks) := holds
      rcases served with unserved | isServed
      · rw [unserved, Option.toList_none, List.append_nil] at gives
        rw [next_insert_opened, if_neg (by simp [unserved])]
        change List.Perm (owner :: _) _
        rw [gives, asks]
        exact open'
      · rw [isServed] at gives
        rw [next_insert_opened, if_pos isServed]
        change List.Perm _ _
        rw [gives, asks]
        exact (List.perm_append_singleton owner _).trans open'

/-- An insertion is refused, or adds its row. -/
theorem sessionHandler_insert (table : Table) (row : Row table) (store : Store)
    (session : Session) :
    (∃ error, (sessionHandler _ (.insert table row) (store, session)).1 = .error error ∧
      (sessionHandler _ (.insert table row) (store, session)).2.2.pending = session.pending) ∨
    (sessionHandler _ (.insert table row) (store, session)).1 = .ok () ∧
      (sessionHandler _ (.insert table row) (store, session)).2.2.pending =
        session.pending ++ [.insert table row] := by
  simp only [sessionHandler]
  split
  · exact .inl ⟨_, rfl, rfl⟩
  · exact .inr ⟨rfl, rfl⟩

/-- Statements that change rows add updates, if anything. -/
theorem updateRow_pending (store : Store) (session : Session) (table : Table) (id : Uuid)
    (assignments : List (Assignment table)) (row : Row table) :
    ∃ updates : List Write, (session.updateRow store table id assignments row).2.pending =
        session.pending ++ updates ∧ updates.filterMap pairing.gives = [] ∧
      updates.filterMap pairing.asks = [] := by
  unfold Session.updateRow
  split
  · exact ⟨[], (List.append_nil _).symm, rfl, rfl⟩
  · exact ⟨[.update table id assignments], rfl, rfl, rfl⟩

/-- Updates keep what the phase says of the pending writes. -/
theorem Holds.updates {pending updates : List Write} (holds : pairing.Holds pending phase)
    (nothing : updates.filterMap pairing.gives = [] ∧ updates.filterMap pairing.asks = []) :
    pairing.Holds (pending ++ updates) phase := by
  have gives : (pending ++ updates).filterMap pairing.gives = pending.filterMap pairing.gives := by
    rw [List.filterMap_append, nothing.1, List.append_nil]
  have asks : (pending ++ updates).filterMap pairing.asks = pending.filterMap pairing.asks := by
    rw [List.filterMap_append, nothing.2, List.append_nil]
  cases phase with
  | impossible => exact holds
  | settled | opened =>
      change List.Perm _ _
      rw [gives, asks]
      exact holds

/-- A statement that is given up leaves the phase. -/
theorem pairing_next_cancelled {reply : Reply} (answer : op.cancelled? = some reply) :
    pairing.next phase op reply = phase := by
  cases op with
  | flush | executeUpdate => cases phase <;> rfl
  | insert =>
      obtain rfl := Option.some.inj answer
      cases phase <;> rfl
  | _ => cases answer

/-- A statement leads from one phase to the next. -/
theorem Holds.perform (holds : pairing.Holds session.pending phase)
    (permitted : pairing.permits phase op) :
    pairing.Holds (sessionHandler Reply op (store, session)).2.2.pending
      (pairing.next phase op (sessionHandler Reply op (store, session)).1) := by
  cases op with
  | insert table row =>
      rcases sessionHandler_insert table row store session with
        ⟨error, refused, pending⟩ | ⟨accepted, pending⟩
      · rw [refused, pending]
        cases phase <;> exact holds
      · rw [accepted, pending]
        exact holds_insert holds permitted
  | refresh table id =>
      cases phase with
      | settled | impossible => exact holds
      | opened owner =>
          cases found : (visible store session).find? table id with
          | none =>
              simp only [sessionHandler, found]
              exact holds
          | some row =>
              simp only [sessionHandler, found, next, (Database.find?_some found).2, if_true]
              exact holds
  | flush table id assignments =>
      have same : pairing.next phase (.flush table id assignments)
          (sessionHandler _ (.flush table id assignments) (store, session)).1 = phase := by
        cases phase <;> rfl
      rw [same]
      simp only [sessionHandler]
      split
      · split
        · exact holds
        · obtain ⟨updates, pending, nothing⟩ := @updateRow_pending pairing store session
            table id _ _
          dsimp only
          rw [pending]
          exact holds.updates nothing
      · exact holds
  | executeUpdate table id assignments =>
      have same : pairing.next phase (.executeUpdate table id assignments)
          (sessionHandler _ (.executeUpdate table id assignments) (store, session)).1 = phase := by
        cases phase <;> rfl
      rw [same]
      simp only [sessionHandler]
      split
      · obtain ⟨updates, pending, nothing⟩ := @updateRow_pending pairing store session
          table id assignments _
        dsimp only
        rw [pending]
        exact holds.updates nothing
      · exact holds
  | begin =>
      have same : ∀ reply, pairing.next phase .begin reply = phase := by
        intro reply
        cases phase <;> rfl
      rw [same]
      simp only [sessionHandler]
      split <;> exact holds
  | commit =>
      cases phase with
      | settled => exact List.Perm.nil
      | opened => exact permitted.elim
      | impossible => exact holds
  | rollback =>
      cases phase with
      | settled | opened => exact List.Perm.nil
      | impossible => exact holds
  | _ => cases phase <;> exact holds

/-- What a transaction commits is balanced. -/
theorem Holds.balanced (holds : pairing.Holds session.pending phase)
    (permitted : pairing.permits phase op) (isCommit : op.isCommit = true) :
    pairing.Balanced session.pending := by
  cases op with
  | commit =>
      cases phase with
      | settled => exact holds
      | opened => exact permitted.elim
      | impossible => exact holds.elim
  | _ => cases isCommit

end session

section programs

variable {Value : Type} {ends : PairingPhase → Except Exception Value → Prop}

/-- An operation that inserts neither an owner that needs a companion nor a companion. -/
def Unpaired (pairing : Pairing) : {Reply : Type} → Op Reply → Prop
  | _, .insert _ row => pairing.need? row = none ∧ pairing.serve? row = none
  | _, _ => True

/-- An operation that inserts rows into neither table. -/
theorem unpaired_of_insertsInto {Reply : Type} {op : Op Reply}
    (noOwner : op.insertsInto ≠ some pairing.owners)
    (noCompanion : op.insertsInto ≠ some pairing.companions) : pairing.Unpaired op := by
  cases op with
  | insert table row =>
      exact ⟨need?_elsewhere (fun same => noOwner (congrArg some same)) row,
        serve?_elsewhere (fun same => noCompanion (congrArg some same)) row⟩
  | _ => trivial

/-- Reading is not part of the pairing. -/
theorem unpaired_of_isReading (Reply : Type) (op : Op Reply) (isReading : op.isReading = true) :
    pairing.Unpaired op := by
  cases op with
  | insert => cases isReading
  | _ => trivial

/-- A program that touches neither table keeps the pairing settled. -/
theorem obeys_of_unpaired {program : Action Value}
    (every : program.Every fun _ op => pairing.Unpaired op)
    (everyEnd : ∀ result, ends .settled result) :
    program.Obeys pairing.protocol ends .settled := by
  refine Program.obeys_of_every (fun Reply op unpaired => ?_) (fun Reply op reply unpaired => ?_)
    everyEnd every
  · cases op with
    | insert table row => exact unpaired.2
    | _ => trivial
  · cases op with
    | insert table row =>
        cases reply with
        | error => rfl
        | ok =>
            refine (next_insert_settled row).trans ?_
            rw [unpaired.1]
            rfl
    | _ => rfl

/-- What a program returns does not matter to the pairing. -/
theorem obeys_map {Answer : Type} {transform : Value → Answer} {program : Action Value}
    (obeys : program.Obeys pairing.protocol (fun _ _ => True) .settled) :
    (transform <$> program).Obeys pairing.protocol (fun _ _ => True) .settled := by
  change Program.Obeys _ _ (program >>= fun value => pure (transform value)) _
  rw [Program.obeys_bind]
  refine obeys.mono fun phase result _ => ?_
  cases result <;> trivial

/-- A program that goes on after something impossible. -/
theorem obeys_impossible (program : Action Value) (everyEnd : ∀ result, ends .impossible result) :
    program.Obeys pairing.protocol ends .impossible := by
  induction program with
  | ret value => exact everyEnd _
  | raise error => exact everyEnd _
  | step op next inductionHypothesis => exact ⟨trivial, inductionHypothesis⟩

/-- The insertion of an owner, which needs its companion next. -/
theorem obeys_create_owner {table : Table} {row : Row table}
    {ends : PairingPhase → Except Exception (Row table) → Prop}
    (needed : pairing.need? row = some (rowId row)) (unserved : pairing.serve? row = none)
    (refused : ∀ error, ends .settled (.error error))
    (created : ∀ loaded : Row table, rowId loaded = rowId row →
      ends (.opened (rowId row)) (.ok loaded))
    (impossible : ∀ loaded, ends .impossible (.ok loaded)) :
    (BaseRepository.create table row).Obeys pairing.protocol ends .settled := by
  have opens : pairing.protocol.next .settled (.insert table row) (.ok ()) =
      .opened (rowId row) := by
    refine (next_insert_settled row).trans ?_
    rw [needed]
    rfl
  refine BaseRepository.obeys_create unserved refused ?_ fun loaded => ?_
  · rw [opens]
    trivial
  · rw [opens]
    cases loaded with
    | none => exact created row rfl
    | some loaded =>
        change ends (if rowId loaded = rowId row then .opened (rowId row) else .impossible) _
        split
        · rename_i same
          exact created loaded same
        · exact impossible loaded

/-- The insertion of the companion that is needed. -/
theorem obeys_create_companion {table : Table} {row : Row table} {owner : Uuid}
    {ends : PairingPhase → Except Exception (Row table) → Prop}
    (unneeded : pairing.need? row = none) (serves : pairing.serve? row = some owner)
    (refused : ∀ error, ends (.opened owner) (.error error))
    (created : ∀ loaded, ends .settled (.ok loaded)) :
    (BaseRepository.create table row).Obeys pairing.protocol ends (.opened owner) := by
  have settles : pairing.protocol.next (.opened owner) (.insert table row) (.ok ()) = .settled :=
    (next_insert_opened owner row).trans (if_pos serves)
  refine BaseRepository.obeys_create ⟨unneeded, .inr serves⟩ refused ?_ fun loaded => ?_
  · rw [settles]
    trivial
  · rw [settles]
    exact created _

/-- A block is not left without an error as long as an owner needs its companion. -/
def Closed : PairingPhase → Except Exception Value → Prop
  | .opened _, .ok _ => False
  | _, _ => True

/-- The phase that is never reached allows every end. -/
theorem closed_impossible (result : Except Exception Value) : Closed .impossible result := by
  cases result <;> trivial

/-- An error may end every phase. -/
theorem closed_error (phase : PairingPhase) (error : Exception) :
    Closed phase (.error error : Except Exception Value) := by
  cases phase <;> trivial

/-- A block that goes on after something that inserts neither. -/
theorem closed_bind {Answer : Type} {program : Action Answer} {rest : Answer → Action Value}
    (every : program.Every fun _ op => pairing.Unpaired op)
    (closed : ∀ answer, (rest answer).Obeys pairing.protocol Closed .settled) :
    (program >>= rest).Obeys pairing.protocol Closed .settled := by
  rw [Program.obeys_bind]
  refine obeys_of_unpaired every fun result => ?_
  cases result with
  | error error => exact @closed_error Value .settled error
  | ok answer => exact closed answer

/-- A transaction is settled when its body ends closed. -/
theorem obeys_transaction_of_closed {body : Action Value}
    (block : body.Obeys pairing.protocol Closed .settled)
    (everyEnd : ∀ phase result, ends phase result) :
    (transaction body).Obeys pairing.protocol ends .settled := by
  refine obeys_transaction trivial (fun _ => everyEnd _ _)
    (block.mono fun later result closed => ?_)
  cases result with
  | error error => exact ⟨by cases later <;> trivial, everyEnd _ _⟩
  | ok value =>
      cases later with
      | opened owner => exact closed.elim
      | settled | impossible => exact ⟨trivial, everyEnd _ _⟩

end programs

section runs

variable {Call Value : Type} {program : Call → Action Value}

/-- The pairing as an outline of every call. -/
def outline (pairing : Pairing) (Call Value : Type) :
    System.Outline Op Exception Value Call PairingPhase where
  protocol _ := pairing.protocol
  ends _ _ _ := True
  initial _ := .settled

/-- The committed rows are paired, and every transaction is where its phase says. -/
structure Pairs (pairing : Pairing) (world : World Op Exception Value Call Store Session)
    (phases : Nat → PairingPhase) : Prop where
  tracks : (pairing.outline Call Value).Tracks world phases
  calls : ∀ (index : Nat) thread, world.threads[index]? = some thread →
    pairing.Holds thread.own.pending (phases index)
  paired : pairing.Paired world.shared.database

namespace Pairs

variable {world : World Op Exception Value Call Store Session} {phases : Nat → PairingPhase}

/-- A turn keeps the committed rows paired: what it commits is balanced. -/
theorem paired_apply (pairs : pairing.Pairs world phases)
    {turn : Turn Call Inputs (List MinedTransaction)}
    {after : World Op Exception Value Call Store Session} {later : Nat → PairingPhase}
    (advance : System.Advance (readCommitted program) (pairing.outline Call Value) world phases
      turn after later) : pairing.Paired after.shared.database := by
  cases advance with
  | idle => exact pairs.paired
  | started | cancelled | changed => exact pairs.paired
  | @performed index thread Reply op next reaches passes permitted =>
      change pairing.Paired (sessionHandler Reply op (world.shared, thread.own)).2.1.database
      cases sessionHandler_effect op world.shared thread.own with
      | quiet database | wrote _ _ _ database | rolledBack database =>
          rw [database]
          exact pairs.paired
      | committed isCommit database =>
          rw [database]
          exact pairs.paired.applyWrites
            ((pairs.calls index thread reaches.found).balanced permitted isCommit)

/-- After a turn the threads are in phases of the pairing again. -/
theorem apply (obeys : ∀ call, (program call).Obeys pairing.protocol (fun _ _ => True) .settled)
    (pairs : pairing.Pairs world phases) (turn : Turn Call Inputs (List MinedTransaction)) :
    ∃ later, pairing.Pairs ((readCommitted program).apply world turn) later := by
  obtain ⟨later, advance, tracks⟩ : ∃ later,
      System.Advance (readCommitted program) (pairing.outline Call Value) world phases turn
        ((readCommitted program).apply world turn) later ∧
      (pairing.outline Call Value).Tracks ((readCommitted program).apply world turn) later :=
    System.exists_advance obeys pairs.tracks turn
  refine ⟨later, tracks, ?_, pairs.paired_apply advance⟩
  refine advance.holds (fun _ _ session phase => pairing.Holds session.pending phase)
    (fun _ _ _ => List.Perm.nil) ?_ (fun _ _ _ _ _ _ holds => holds) ?_
    (fun _ _ _ _ holds => holds) pairs.calls
  · intro index thread Reply op next isTurn reaches permitted holds
    exact holds.perform permitted
  · intro index thread Reply op next reply isTurn reaches answer waits permitted holds
    change pairing.Holds thread.own.pending (pairing.next (phases index) op reply)
    rw [pairing_next_cancelled answer]
    exact holds

end Pairs

/-- In every run of calls that follow the protocol, from paired rows, the committed rows are
paired. -/
theorem paired_run (obeys : ∀ call, (program call).Obeys pairing.protocol (fun _ _ => True) .settled)
    {start : Store} (paired : pairing.Paired start.database)
    (run : List (Turn Call Inputs (List MinedTransaction))) :
    pairing.Paired (stateAfter (readCommitted program).apply ⟨start, []⟩ run).shared.database := by
  obtain ⟨phases, pairs⟩ : ∃ phases, pairing.Pairs
      (stateAfter (readCommitted program).apply ⟨start, []⟩ run) phases := by
    induction run using List.reverseRecOn with
    | nil =>
        exact ⟨fun _ => .settled, fun _ _ found => by simp at found,
          fun _ _ found => by simp at found, paired⟩
    | append_singleton run turn inductionHypothesis =>
        obtain ⟨phases, pairs⟩ := inductionHypothesis
        rw [stateAfter_snoc]
        exact pairs.apply obeys turn
  exact pairs.paired

end runs

end Pairing
end AcademicCredential
