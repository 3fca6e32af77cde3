import AcademicCredential.Database.Concurrency

/-!
# Runs of the database

What holds of the committed rows along every run of concurrent calls, whatever their programs.
-/

namespace AcademicCredential

open AcademicCredential.Lib

/-- Rows after writes follow rows that were there before or were inserted, in any way that UPDATE
statements follow. -/
theorem exists_source {table : Table} {follows : Row table → Row table → Prop}
    (reflexive : ∀ row, follows row row)
    (transitive : ∀ first middle last, follows first middle → follows middle last →
      follows first last)
    (kept : ∀ row assignments, follows row (assignAll row assignments)) {database : Database}
    {writes : List Write} {row : Row table} (member : row ∈ applyWrites database writes table) :
    ∃ source, follows source row ∧
      (source ∈ database table ∨ .insert table source ∈ writes) := by
  induction writes using List.reverseRecOn generalizing row with
  | nil => exact ⟨row, reflexive row, .inl member⟩
  | append_singleton writes write inductionHypothesis =>
      have before : ∀ {old : Row table}, old ∈ applyWrites database writes table →
          follows old row → ∃ source, follows source row ∧
            (source ∈ database table ∨ .insert table source ∈ writes ++ [write]) := by
        intro old isOld follow
        obtain ⟨source, toOld, origin⟩ := inductionHypothesis isOld
        exact ⟨source, transitive _ _ _ toOld follow,
          origin.imp_right fun inserted => List.mem_append_left _ inserted⟩
      rw [applyWrites_snoc] at member
      by_cases inTable : write.table = table
      · cases write with
        | insert written inserted =>
            obtain rfl : written = table := inTable
            rw [Write.apply, Function.update_self, List.mem_append, List.mem_singleton] at member
            rcases member with isOld | rfl
            · exact before isOld (reflexive row)
            · exact ⟨row, reflexive row, .inr (by simp)⟩
        | update written id assignments =>
            obtain rfl : written = table := inTable
            rw [Write.apply, Function.update_self, updateRows] at member
            obtain ⟨old, isOld, rfl⟩ := List.mem_map.mp member
            refine before isOld ?_
            split
            · exact kept old assignments
            · exact reflexive old
      · rw [write.apply_of_ne inTable] at member
        exact before member (reflexive row)

section session

variable {Reply : Type} {op : Op Reply} {store : Store} {session : Session} {table : Table}
variable {row : Row table}

/-- Only the operation that inserts a row asks for its insertion. -/
theorem Session.statement?_insert {Holds : (Reply : Type) → Op Reply → Prop}
    (asked : session.statement? store op = some (.insert table row))
    (inserts : Holds _ (.insert table row)) : Holds Reply op := by
  cases op with
  | insert written inserted =>
      cases asked
      exact inserts
  | flush written id assignments =>
      obtain ⟨_, _, _, impossible⟩ := Session.statement?_flush asked
      cases impossible
  | executeUpdate written id assignments =>
      obtain ⟨_, _, impossible⟩ := Option.map_eq_some_iff.mp asked
      cases impossible
  | _ => cases asked

/-- Rows that are pending after an operation were so before, or the operation inserts them. -/
theorem mem_pending_insert
    (member : .insert table row ∈ (sessionHandler Reply op (store, session)).2.2.pending) :
    .insert table row ∈ session.pending ∨
      session.statement? store op = some (.insert table row) := by
  cases sessionHandler_effect op store session with
  | quiet database pending => exact .inl (pending ▸ member)
  | wrote write asked accepted database pending =>
      rw [pending] at member
      rcases List.mem_append.mp member with before | isNew
      · exact .inl before
      · exact .inr (List.mem_singleton.mp isNew ▸ asked)
  | committed isCommit database pending | rolledBack database pending =>
      rw [pending] at member
      exact absurd member List.not_mem_nil

end session

variable {Call Value : Type} (program : Call → Action Value)

/-- Transactions are isolated in every run from valid rows. -/
theorem isolated_run {start : Store} (valid : start.database.Valid)
    (run : List (Turn Call Inputs (List MinedTransaction))) :
    Isolated (stateAfter (readCommitted program).apply ⟨start, []⟩ run).shared.database
      (pendingOf (stateAfter (readCommitted program).apply ⟨start, []⟩ run)) := by
  induction run using List.reverseRecOn with
  | nil =>
      have nothing : pendingOf (⟨start, []⟩ : World Op Exception Value Call Store Session) =
          fun _ => [] := by
        ext1 index
        simp [pendingOf]
      rw [stateAfter_nil, nothing]
      exact .idle valid
  | append_singleton run turn inductionHypothesis =>
      rw [stateAfter_snoc]
      exact isolated_apply inductionHypothesis turn

/-- A run leads from the committed rows to those after some writes. -/
theorem database_run (world : World Op Exception Value Call Store Session)
    (run : List (Turn Call Inputs (List MinedTransaction))) :
    ∃ writes, (stateAfter (readCommitted program).apply world run).shared.database =
      applyWrites world.shared.database writes := by
  induction run using List.reverseRecOn with
  | nil => exact ⟨[], rfl⟩
  | append_singleton run turn inductionHypothesis =>
      obtain ⟨writes, before⟩ := inductionHypothesis
      rw [stateAfter_snoc]
      cases @moves_apply _ _ program (stateAfter (readCommitted program).apply world run) turn with
      | quiet database | wrote _ _ _ _ _ database | rolledBack _ _ database =>
          exact ⟨writes, database.trans before⟩
      | committed index _ database =>
          let between := stateAfter (readCommitted program).apply world run
          refine ⟨writes ++ pendingOf between index, ?_⟩
          rw [database, before, applyWrites, applyWrites, applyWrites, List.foldl_append]

end AcademicCredential
