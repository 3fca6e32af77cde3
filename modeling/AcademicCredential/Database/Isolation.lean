import AcademicCredential.Database.Journal

/-!
# Writes side by side

Open transactions over one committed database. PostgreSQL lets a statement write a row
only when no other open transaction has written it or holds one of its UNIQUE keys;
`heldKeys` are the keys a transaction's pending writes hold. When two lists of writes
hold no key in common, committing one of them leaves the other's view of its own rows
and the keys it holds as they were, and the rows of both together are valid.

`Isolated` says that of any number of transactions, and keeps when one of them writes
under that rule, commits or rolls back. Every row that one of them sees is a `Version`;
only a write makes a new one.
-/

namespace AcademicCredential

open AcademicCredential.Lib

/-- The primary key of the row a write makes or changes. -/
def Write.id : Write → Uuid
  | .insert _ row => rowId row
  | .update _ id _ => id

/-- Some write is to the row of `table` with a primary key. -/
def Touches (writes : List Write) (table : Table) (id : Uuid) : Prop :=
  ∃ write ∈ writes, write.table = table ∧ write.id = id

instance (writes : List Write) (table : Table) (id : Uuid) : Decidable (Touches writes table id) :=
  inferInstanceAs (Decidable (∃ write ∈ writes, write.table = table ∧ write.id = id))

/-- No write touches nothing. -/
@[simp] theorem touches_nil (table : Table) (id : Uuid) : ¬ Touches [] table id := by
  simp [Touches]

/-- A further write touches its own row. -/
@[simp] theorem touches_snoc {writes : List Write} {write : Write} {table : Table} {id : Uuid} :
    Touches (writes ++ [write]) table id ↔
      Touches writes table id ∨ write.table = table ∧ write.id = id := by
  simp [Touches, or_and_right, exists_or]

/-- The UNIQUE keys of `table` that pending writes hold: the primary keys they write and
every key of the committed and the pending version of those rows. -/
def heldKeys (database : Database) (writes : List Write) (table : Table) : List UniqueKey :=
  ((writes.filter fun write => write.table = table).map fun write => ⟨"id", .uuid write.id⟩) ++
    ((database table ++ applyWrites database writes table).filter fun row =>
      Touches writes table (rowId row)).flatMap uniqueKeys

/-- The keys a transaction holds are the primary keys and the keys, old and new, of what it
touches. -/
theorem mem_heldKeys {database : Database} {writes : List Write} {table : Table}
    {key : UniqueKey} :
    key ∈ heldKeys database writes table ↔
      (∃ id, Touches writes table id ∧ key = ⟨"id", .uuid id⟩) ∨
        ∃ row, (row ∈ database table ∨ row ∈ applyWrites database writes table) ∧
          Touches writes table (rowId row) ∧ key ∈ uniqueKeys row := by
  simp only [heldKeys, List.mem_append, List.mem_map, List.mem_filter, List.mem_flatMap,
    decide_eq_true_eq, and_assoc]
  refine or_congr_left ?_
  constructor
  · rintro ⟨write, member, inTable, rfl⟩
    exact ⟨write.id, ⟨write, member, inTable, rfl⟩, rfl⟩
  · rintro ⟨id, ⟨write, member, inTable, rfl⟩, rfl⟩
    exact ⟨write, member, inTable, rfl⟩

/-- A transaction that has written nothing holds no key. -/
@[simp] theorem heldKeys_nil (database : Database) (table : Table) :
    heldKeys database [] table = [] := by
  simp [heldKeys]

/-- What a write makes of a row depends on that row alone. -/
theorem Write.find?_apply_congr {left right : Database} {table : Table} {id : Uuid}
    (same : left.find? table id = right.find? table id) (write : Write) :
    (write.apply left).find? table id = (write.apply right).find? table id := by
  by_cases inTable : write.table = table
  · cases write with
    | insert written row =>
        obtain rfl : written = table := inTable
        simp only [Database.find?] at same
        simp only [Database.find?, Write.apply, Function.update_self, List.find?_append, same]
    | update written key assignments =>
        obtain rfl : written = table := inTable
        rw [Database.find?_update, Database.find?_update, same]
  · rw [Database.find?_congr (write.apply_of_ne inTable left),
      Database.find?_congr (write.apply_of_ne inTable right), same]

/-- What writes make of a row depends on the row. -/
theorem find?_applyWrites_congr {left right : Database} {table : Table} {id : Uuid}
    (same : left.find? table id = right.find? table id) (writes : List Write) :
    (applyWrites left writes).find? table id = (applyWrites right writes).find? table id := by
  induction writes generalizing left right with
  | nil => exact same
  | cons first rest inductionHypothesis =>
      exact inductionHypothesis (first.find?_apply_congr same)

/-- A write leaves a row that it does not touch. -/
theorem Write.find?_apply_of_untouched {write : Write} {table : Table} {id : Uuid}
    (untouched : ¬ (write.table = table ∧ write.id = id)) (database : Database) :
    (write.apply database).find? table id = database.find? table id := by
  by_cases inTable : write.table = table
  · have apart : write.id ≠ id := fun same => untouched ⟨inTable, same⟩
    cases write with
    | insert written row =>
        obtain rfl : written = table := inTable
        have other : rowId row ≠ id := apart
        simp [Database.find?, Write.apply, List.find?_append, other]
    | update written key assignments =>
        obtain rfl : written = table := inTable
        have other : key ≠ id := apart
        rw [Database.find?_update]
        cases found : database.find? written id with
        | none => rfl
        | some row =>
            have key := (Database.find?_some found).2
            simp [key, other.symm]
  · exact Database.find?_congr (write.apply_of_ne inTable database) id

/-- Writes leave a row that they do not touch. -/
theorem find?_applyWrites_of_untouched {writes : List Write} {table : Table} {id : Uuid}
    (untouched : ¬ Touches writes table id) (database : Database) :
    (applyWrites database writes).find? table id = database.find? table id := by
  induction writes using List.reverseRecOn with
  | nil => rfl
  | append_singleton writes write inductionHypothesis =>
      rw [touches_snoc, not_or] at untouched
      rw [applyWrites_snoc, write.find?_apply_of_untouched untouched.2,
        inductionHypothesis untouched.1]

/-- The primary keys of the rows that writes add to a table. -/
def insertedIds (table : Table) (writes : List Write) : List Uuid :=
  writes.filterMap fun
    | .insert written row => if written = table then some (rowId row) else none
    | .update _ _ _ => none

/-- Writes keep the primary keys and add those they insert. -/
theorem map_rowId_applyWrites (database : Database) (writes : List Write) (table : Table) :
    (applyWrites database writes table).map rowId =
      (database table).map rowId ++ insertedIds table writes := by
  induction writes using List.reverseRecOn with
  | nil => simp [insertedIds]
  | append_singleton writes write inductionHypothesis =>
      have before := inductionHypothesis
      rw [applyWrites_snoc, insertedIds, List.filterMap_append, ← List.append_assoc]
      change _ = (_ ++ insertedIds table writes) ++ _
      rw [← before]
      by_cases inTable : write.table = table
      · cases write with
        | insert written row =>
            obtain rfl : written = table := inTable
            simp [Write.apply]
        | update written key assignments =>
            obtain rfl : written = table := inTable
            simp [Write.apply]
      · rw [write.apply_of_ne inTable]
        cases write with
        | insert written row =>
            have elsewhere : written ≠ table := inTable
            simp [elsewhere]
        | update written key assignments => simp

/-- A row that is inserted is touched. -/
theorem touches_of_mem_insertedIds {table : Table} {writes : List Write} {id : Uuid}
    (member : id ∈ insertedIds table writes) : Touches writes table id := by
  obtain ⟨write, isWrite, found⟩ := List.mem_filterMap.mp member
  cases write with
  | insert written row =>
      by_cases inTable : written = table
      · subst inTable
        simp only [if_true, Option.some.injEq] at found
        exact ⟨_, isWrite, rfl, found⟩
      · simp [inTable] at found
  | update written key assignments => simp at found

/-- Where a table is only added to, its rows are the old ones and those added. -/
theorem mem_applyWrites_of_inserts {database : Database} {writes : List Write} {table : Table}
    (inserts : ∀ write ∈ writes, write.table = table → ∃ row, write = .insert table row)
    {row : Row table} (member : row ∈ applyWrites database writes table) :
    row ∈ database table ∨ .insert table row ∈ writes := by
  induction writes using List.reverseRecOn with
  | nil => exact .inl member
  | append_singleton writes write inductionHypothesis =>
      have before : row ∈ applyWrites database writes table →
          row ∈ database table ∨ .insert table row ∈ writes ++ [write] := fun isOld =>
        (inductionHypothesis (fun other isOther => inserts other (List.mem_append_left _ isOther))
          isOld).imp_right fun isWrite => List.mem_append_left _ isWrite
      rw [applyWrites_snoc] at member
      by_cases inTable : write.table = table
      · obtain ⟨added, rfl⟩ := inserts write (by simp) inTable
        rw [Write.apply, Function.update_self, List.mem_append, List.mem_singleton] at member
        rcases member with isOld | rfl
        · exact before isOld
        · exact .inr (by simp)
      · rw [write.apply_of_ne inTable] at member
        exact before member

/-- Transactions that only add rows hold the keys of these. -/
theorem exists_insert_of_mem_heldKeys {database : Database} {writes : List Write} {table : Table}
    (inserts : ∀ write ∈ writes, write.table = table → ∃ row, write = .insert table row)
    (new : ∀ row, .insert table row ∈ writes → ∀ other ∈ database table, rowId other ≠ rowId row)
    {key : UniqueKey} (held : key ∈ heldKeys database writes table) :
    ∃ row, .insert table row ∈ writes ∧ key ∈ uniqueKeys row := by
  rcases mem_heldKeys.mp held with ⟨id, ⟨write, member, inTable, isId⟩, rfl⟩ |
    ⟨row, among, ⟨write, member, inTable, isId⟩, isKey⟩
  · obtain ⟨row, rfl⟩ := inserts write member inTable
    subst isId
    exact ⟨row, member, primaryKey_mem row⟩
  · obtain ⟨added, rfl⟩ := inserts write member inTable
    have fresh : row ∉ database table := fun stored => new added member row stored isId.symm
    have isAdded := (among.resolve_left fresh)
    exact ⟨row, (mem_applyWrites_of_inserts inserts isAdded).resolve_left fresh, isKey⟩

/-- In a keyed database a row is stored exactly when its key finds it. -/
theorem Database.Keyed.mem_iff {database : Database} (keyed : database.Keyed) {table : Table}
    {row : Row table} : row ∈ database table ↔ database.find? table (rowId row) = some row :=
  ⟨keyed.find?, fun found => (Database.find?_some found).1⟩

/-- A database is valid when each of its rows is, found by its key, and every two. -/
theorem Database.Valid.of_find? {database : Database} (keyed : database.Keyed)
    (admissible : ∀ table id row, database.find? table id = some row → Admissible row)
    (apart : ∀ table left right, ∀ leftRow rightRow : Row table, left ≠ right →
      database.find? table left = some leftRow → database.find? table right = some rightRow →
      Apart leftRow rightRow) :
    database.Valid where
  admissible table row member := admissible table (rowId row) row (keyed.find? member)
  apart table := by
    refine (List.pairwise_map.mp (keyed table)).imp_of_mem ?_
    intro left right isLeft isRight different
    exact apart table _ _ left right different (keyed.find? isLeft) (keyed.find? isRight)

/-- Rows with different primary keys share no key. -/
theorem Database.Valid.apart_of_find? {database : Database} (valid : database.Valid)
    {table : Table} {left right : Uuid} {leftRow rightRow : Row table} (different : left ≠ right)
    (foundLeft : database.find? table left = some leftRow)
    (foundRight : database.find? table right = some rightRow) : Apart leftRow rightRow := by
  obtain ⟨isLeft, leftKey⟩ := Database.find?_some foundLeft
  obtain ⟨isRight, rightKey⟩ := Database.find?_some foundRight
  refine valid.apart_of_ne isLeft isRight fun same => different ?_
  rw [← leftKey, ← rightKey, same]

/-- Pending writes of two transactions over one database, without a key in common. -/
structure SideBySide (database : Database) (mine theirs : List Write) : Prop where
  mineValid : (applyWrites database mine).Valid
  theirsValid : (applyWrites database theirs).Valid
  apart : ∀ table, ∀ key ∈ heldKeys database mine table, key ∉ heldKeys database theirs table

namespace SideBySide

variable {database : Database} {mine theirs : List Write}

/-- Transactions are side by side in both orders. -/
theorem symm (sideBySide : SideBySide database mine theirs) : SideBySide database theirs mine :=
  ⟨sideBySide.theirsValid, sideBySide.mineValid,
    fun table key inTheirs inMine => sideBySide.apart table key inMine inTheirs⟩

/-- No row is written by both. -/
theorem not_touches (sideBySide : SideBySide database mine theirs) {table : Table} {id : Uuid}
    (byTheirs : Touches theirs table id) : ¬ Touches mine table id := by
  intro byMine
  exact sideBySide.apart table ⟨"id", .uuid id⟩ (mem_heldKeys.mpr (.inl ⟨id, byMine, rfl⟩))
    (mem_heldKeys.mpr (.inl ⟨id, byTheirs, rfl⟩))

/-- After one commit the other transaction sees the rows it has written as before. -/
theorem find?_touched (sideBySide : SideBySide database mine theirs) {table : Table} {id : Uuid}
    (byTheirs : Touches theirs table id) :
    (applyWrites (applyWrites database mine) theirs).find? table id =
      (applyWrites database theirs).find? table id :=
  find?_applyWrites_congr
    (find?_applyWrites_of_untouched (sideBySide.not_touches byTheirs) database) theirs

/-- A row that the other transaction sees after one commit is one that either of them saw. -/
theorem find?_merged (sideBySide : SideBySide database mine theirs) (table : Table) (id : Uuid) :
    (applyWrites (applyWrites database mine) theirs).find? table id =
      if Touches theirs table id then (applyWrites database theirs).find? table id
      else (applyWrites database mine).find? table id := by
  by_cases byTheirs : Touches theirs table id
  · rw [if_pos byTheirs, sideBySide.find?_touched byTheirs]
  · rw [if_neg byTheirs, find?_applyWrites_of_untouched byTheirs]

/-- The rows that two transactions side by side leave are keyed. -/
theorem keyed (sideBySide : SideBySide database mine theirs) :
    (applyWrites (applyWrites database mine) theirs).Keyed := by
  intro table
  have mineKeyed := sideBySide.mineValid.keyed table
  have theirsKeyed := sideBySide.theirsValid.keyed table
  rw [map_rowId_applyWrites] at mineKeyed theirsKeyed
  rw [map_rowId_applyWrites, map_rowId_applyWrites]
  obtain ⟨-, theirsNodup, theirsNew⟩ := List.nodup_append.mp theirsKeyed
  refine List.nodup_append.mpr ⟨mineKeyed, theirsNodup, ?_⟩
  intro id member other inserted same
  subst same
  rcases List.mem_append.mp member with stored | byMine
  · exact theirsNew id stored id inserted rfl
  · exact sideBySide.not_touches (touches_of_mem_insertedIds inserted)
      (touches_of_mem_insertedIds byMine)

/-- A row the one transaction has written and a row it has not, which is as the other
transaction sees it. -/
theorem apart_of_touched (sideBySide : SideBySide database mine theirs) {table : Table}
    {left right : Uuid} {leftRow rightRow : Row table} (different : left ≠ right)
    (byTheirs : Touches theirs table left) (notTheirs : ¬ Touches theirs table right)
    (foundLeft : (applyWrites database theirs).find? table left = some leftRow)
    (foundRight : (applyWrites database mine).find? table right = some rightRow) :
    Apart leftRow rightRow := by
  by_cases byMine : Touches mine table right
  · intro key inLeft inRight
    obtain ⟨isLeft, rfl⟩ := Database.find?_some foundLeft
    obtain ⟨isRight, rfl⟩ := Database.find?_some foundRight
    exact sideBySide.apart table key
      (mem_heldKeys.mpr (.inr ⟨rightRow, .inr isRight, byMine, inRight⟩))
      (mem_heldKeys.mpr (.inr ⟨leftRow, .inr isLeft, byTheirs, inLeft⟩))
  · rw [find?_applyWrites_of_untouched byMine, ← find?_applyWrites_of_untouched notTheirs]
      at foundRight
    exact sideBySide.theirsValid.apart_of_find? different foundLeft foundRight

/-- The rows of both transactions together are valid. -/
theorem merged_valid (sideBySide : SideBySide database mine theirs) :
    (applyWrites (applyWrites database mine) theirs).Valid := by
  refine .of_find? sideBySide.keyed (fun table id row found => ?_) ?_
  · rw [sideBySide.find?_merged] at found
    split at found
    · have member := (Database.find?_some found).1
      exact sideBySide.theirsValid.admissible table row member
    · have member := (Database.find?_some found).1
      exact sideBySide.mineValid.admissible table row member
  · intro table left right leftRow rightRow different foundLeft foundRight
    rw [sideBySide.find?_merged] at foundLeft foundRight
    by_cases leftTouched : Touches theirs table left
    · rw [if_pos leftTouched] at foundLeft
      by_cases rightTouched : Touches theirs table right
      · rw [if_pos rightTouched] at foundRight
        exact sideBySide.theirsValid.apart_of_find? different foundLeft foundRight
      · rw [if_neg rightTouched] at foundRight
        exact sideBySide.apart_of_touched different leftTouched rightTouched foundLeft foundRight
    · rw [if_neg leftTouched] at foundLeft
      by_cases rightTouched : Touches theirs table right
      · rw [if_pos rightTouched] at foundRight
        exact (sideBySide.apart_of_touched different.symm rightTouched leftTouched foundRight
          foundLeft).symm
      · rw [if_neg rightTouched] at foundRight
        exact sideBySide.mineValid.apart_of_find? different foundLeft foundRight

/-- A commit of the one leaves the keys the other holds as they were. -/
theorem mem_heldKeys_merged (valid : database.Valid) (sideBySide : SideBySide database mine theirs)
    {table : Table} {key : UniqueKey} :
    key ∈ heldKeys (applyWrites database mine) theirs table ↔
      key ∈ heldKeys database theirs table := by
  rw [mem_heldKeys, mem_heldKeys]
  refine or_congr Iff.rfl (exists_congr fun row => ?_)
  rw [← and_assoc, ← and_assoc]
  refine and_congr_left fun _ => and_congr_left fun touched => ?_
  have committed : row ∈ applyWrites database mine table ↔ row ∈ database table := by
    have same := find?_applyWrites_of_untouched (sideBySide.not_touches touched) database
    rw [sideBySide.mineValid.keyed.mem_iff, valid.keyed.mem_iff, same]
  have pending : row ∈ applyWrites (applyWrites database mine) theirs table ↔
      row ∈ applyWrites database theirs table := by
    rw [sideBySide.keyed.mem_iff, sideBySide.theirsValid.keyed.mem_iff,
      sideBySide.find?_touched touched]
  rw [committed, pending]

end SideBySide

/-- A write holds keys of the table it writes only. -/
theorem heldKeys_snoc_of_ne {write : Write} {table : Table} (elsewhere : write.table ≠ table)
    (database : Database) (writes : List Write) :
    heldKeys database (writes ++ [write]) table = heldKeys database writes table := by
  have sameTouched : ∀ id, Touches (writes ++ [write]) table id ↔ Touches writes table id := by
    intro id
    simp [elsewhere]
  simp [heldKeys, elsewhere, sameTouched, write.apply_of_ne elsewhere]

/-- The pending writes of transactions without a key in common, each valid over the
committed rows. -/
structure Isolated (database : Database) (pending : Nat → List Write) : Prop where
  committed : database.Valid
  valid : ∀ index, (applyWrites database (pending index)).Valid
  apart : ∀ left right, left ≠ right → ∀ table, ∀ key ∈ heldKeys database (pending left) table,
    key ∉ heldKeys database (pending right) table

namespace Isolated

variable {database : Database} {pending : Nat → List Write}

/-- Transactions that have written nothing are isolated. -/
theorem idle (valid : database.Valid) : Isolated database fun _ => [] where
  committed := valid
  valid _ := valid
  apart _ _ _ table key holds := by simp at holds

/-- Two isolated transactions are side by side. -/
theorem sideBySide (isolated : Isolated database pending) {left right : Nat}
    (different : left ≠ right) : SideBySide database (pending left) (pending right) :=
  ⟨isolated.valid left, isolated.valid right, isolated.apart left right different⟩

/-- A transaction may write what the rows it sees accept, when no other transaction holds a
key of it. -/
theorem write (isolated : Isolated database pending) {index : Nat} {write : Write}
    (accepted : (write.apply (applyWrites database (pending index))).Valid)
    (free : ∀ other, other ≠ index →
      ∀ key ∈ heldKeys database (pending index ++ [write]) write.table,
        key ∉ heldKeys database (pending other) write.table) :
    Isolated database (Function.update pending index (pending index ++ [write])) := by
  have apart : ∀ other, other ≠ index → ∀ table,
      ∀ key ∈ heldKeys database (pending index ++ [write]) table,
        key ∉ heldKeys database (pending other) table := by
    intro other different table key holds
    by_cases inTable : write.table = table
    · subst inTable
      exact free other different key holds
    · rw [heldKeys_snoc_of_ne inTable] at holds
      exact isolated.apart index other different.symm table key holds
  refine ⟨isolated.committed, fun other => ?_, fun left right different table key holds => ?_⟩
  · by_cases same : other = index
    · subst same
      rw [Function.update_self, applyWrites_snoc]
      exact accepted
    · rw [Function.update_of_ne same]
      exact isolated.valid other
  · by_cases isLeft : left = index
    · subst isLeft
      rw [Function.update_self] at holds
      rw [Function.update_of_ne different.symm]
      exact apart right different.symm table key holds
    · rw [Function.update_of_ne isLeft] at holds
      by_cases isRight : right = index
      · subst isRight
        rw [Function.update_self]
        exact fun alsoHeld => apart left isLeft table key alsoHeld holds
      · rw [Function.update_of_ne isRight]
        exact isolated.apart left right different table key holds

/-- A rollback keeps transactions isolated. -/
theorem rollback (isolated : Isolated database pending) (index : Nat) :
    Isolated database (Function.update pending index []) := by
  refine ⟨isolated.committed, fun other => ?_, fun left right different table key holds => ?_⟩
  · by_cases same : other = index
    · subst same
      rw [Function.update_self]
      exact isolated.committed
    · rw [Function.update_of_ne same]
      exact isolated.valid other
  · by_cases isLeft : left = index
    · subst isLeft
      simp at holds
    · rw [Function.update_of_ne isLeft] at holds
      by_cases isRight : right = index
      · subst isRight
        simp
      · rw [Function.update_of_ne isRight]
        exact isolated.apart left right different table key holds

/-- A commit keeps transactions isolated. -/
theorem commit (isolated : Isolated database pending) (index : Nat) :
    Isolated (applyWrites database (pending index)) (Function.update pending index []) := by
  refine ⟨isolated.valid index, fun other => ?_, fun left right different table key holds => ?_⟩
  · by_cases same : other = index
    · subst same
      rw [Function.update_self]
      exact isolated.valid other
    · rw [Function.update_of_ne same]
      exact (isolated.sideBySide (Ne.symm same)).merged_valid
  · by_cases isLeft : left = index
    · subst isLeft
      simp at holds
    · rw [Function.update_of_ne isLeft] at holds
      by_cases isRight : right = index
      · subst isRight
        simp
      · rw [Function.update_of_ne isRight]
        have leftHolds := (isolated.sideBySide (Ne.symm isLeft)).mem_heldKeys_merged
          isolated.committed |>.mp holds
        rw [(isolated.sideBySide (Ne.symm isRight)).mem_heldKeys_merged isolated.committed]
        exact isolated.apart left right different table key leftHolds

/-- What a transaction does not see of the committed rows it has written itself. -/
theorem touches_of_unseen (isolated : Isolated database pending) {index : Nat} {table : Table}
    {row : Row table} (committed : row ∈ database table)
    (unseen : row ∉ applyWrites database (pending index) table) :
    Touches (pending index) table (rowId row) := by
  by_contra untouched
  have found := isolated.committed.keyed.find? committed
  rw [← find?_applyWrites_of_untouched untouched database] at found
  exact unseen (Database.find?_some found).1

/-- What a transaction sees and is not committed it has written. -/
theorem touches_of_uncommitted (isolated : Isolated database pending) {index : Nat}
    {table : Table} {row : Row table} (sees : row ∈ applyWrites database (pending index) table)
    (uncommitted : row ∉ database table) : Touches (pending index) table (rowId row) := by
  by_contra untouched
  have found := (isolated.valid index).keyed.find? sees
  rw [find?_applyWrites_of_untouched untouched database] at found
  exact uncommitted (Database.find?_some found).1

end Isolated

/-- A row that is committed or that some open transaction sees. -/
def Version (database : Database) (pending : Nat → List Write) {table : Table}
    (row : Row table) : Prop :=
  row ∈ database table ∨ ∃ index, row ∈ applyWrites database (pending index) table

namespace Version

variable {database : Database} {pending : Nat → List Write} {table : Table} {row : Row table}

/-- After a rollback no transaction sees a new version. -/
theorem of_rollback {index : Nat}
    (version : Version database (Function.update pending index []) row) :
    Version database pending row := by
  rcases version with committed | ⟨other, sees⟩
  · exact .inl committed
  · by_cases same : other = index
    · subst same
      rw [Function.update_self] at sees
      exact .inl sees
    · rw [Function.update_of_ne same] at sees
      exact .inr ⟨other, sees⟩

/-- A commit makes no new version: what the others see is what they or the one who commits
saw before. -/
theorem of_commit (isolated : Isolated database pending) {index : Nat}
    (version : Version (applyWrites database (pending index))
      (Function.update pending index []) row) :
    Version database pending row := by
  rcases version with committed | ⟨other, sees⟩
  · exact .inr ⟨index, committed⟩
  · by_cases same : other = index
    · subst same
      rw [Function.update_self] at sees
      exact .inr ⟨other, sees⟩
    · rw [Function.update_of_ne same] at sees
      have sideBySide := isolated.sideBySide (Ne.symm same)
      have found := sideBySide.keyed.find? sees
      rw [sideBySide.find?_merged] at found
      split at found
      · exact .inr ⟨other, (Database.find?_some found).1⟩
      · exact .inr ⟨index, (Database.find?_some found).1⟩

end Version

/-- A row after a write was there before, or the write touches it. -/
theorem Write.mem_apply {write : Write} {database : Database} {table : Table} {row : Row table}
    (member : row ∈ write.apply database table) :
    row ∈ database table ∨ write.table = table ∧ write.id = rowId row := by
  by_cases inTable : write.table = table
  · cases write with
    | insert written new =>
        obtain rfl : written = table := inTable
        simp only [Write.apply, Function.update_self, List.mem_append, List.mem_singleton]
          at member
        exact member.imp_right fun isNew => ⟨rfl, congrArg rowId isNew.symm⟩
    | update written id assignments =>
        obtain rfl : written = table := inTable
        simp only [Write.apply, Function.update_self, updateRows, List.mem_map] at member
        obtain ⟨old, isOld, rfl⟩ := member
        split
        · rename_i isRow
          exact .inr ⟨rfl, by rw [rowId_assignAll]; exact isRow.symm⟩
        · exact .inl isOld
  · rw [write.apply_of_ne inTable] at member
    exact .inl member

/-- A write makes one new version: the row it writes. -/
theorem Version.of_write {database : Database} {pending : Nat → List Write} {index : Nat}
    {write : Write} {table : Table} {row : Row table}
    (version : Version database (Function.update pending index (pending index ++ [write])) row) :
    Version database pending row ∨ write.table = table ∧ write.id = rowId row ∧
      row ∈ write.apply (applyWrites database (pending index)) table := by
  rcases version with committed | ⟨other, sees⟩
  · exact .inl (.inl committed)
  · by_cases same : other = index
    · subst same
      rw [Function.update_self, applyWrites_snoc] at sees
      rcases Write.mem_apply sees with seen | ⟨inTable, isRow⟩
      · exact .inl (.inr ⟨other, seen⟩)
      · exact .inr ⟨inTable, isRow, sees⟩
    · rw [Function.update_of_ne same] at sees
      exact .inl (.inr ⟨other, sees⟩)

end AcademicCredential
