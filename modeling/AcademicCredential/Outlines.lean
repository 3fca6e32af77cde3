import AcademicCredential.Lib.Interleaving
import AcademicCredential.Repositories

/-!
# Proof outlines of repository calls

What is left to show when a service obeys a proof outline, for the transactions and the
repository methods it is made of.
-/

namespace AcademicCredential

open AcademicCredential.Lib

variable {Phase Value : Type} {protocol : Protocol Op Phase} {phase : Phase}

/-- An attempt obeys when its operation is permitted and every reply may end it. -/
theorem obeys_attempt {ends : Phase → Except Exception Value → Prop}
    {op : Op (Except Exception Value)} :
    (attempt op).Obeys protocol ends phase ↔
      protocol.permits phase op ∧ ∀ reply, ends (protocol.next phase op reply) reply := by
  rw [attempt, Program.obeys_bind, Program.obeys_perform]
  refine and_congr_right fun _ => forall_congr' fun reply => ?_
  rw [Program.thenObeys, Program.obeys_ofExcept]

/-- What is left to show when a transaction block is left. -/
def blockEnds (protocol : Protocol Op Phase) (ends : Phase → Except Exception Value → Prop)
    (phase : Phase) : Except Exception Value → Prop
  | .ok value => protocol.permits phase .commit ∧
      ends (protocol.next phase .commit ()) (.ok value)
  | .error error => protocol.permits phase .rollback ∧
      ends (protocol.next phase .rollback ()) (.error error)

/-- A transaction obeys when its body does, up to the commit or the rollback. -/
theorem obeys_transaction {ends : Phase → Except Exception Value → Prop} {body : Action Value}
    (begin : protocol.permits phase .begin)
    (refused : ∀ error, ends (protocol.next phase .begin (.error error)) (.error error))
    (block : body.Obeys protocol (blockEnds protocol ends)
      (protocol.next phase .begin (.ok ()))) :
    (transaction body).Obeys protocol ends phase := by
  rw [transaction, Program.obeys_bind, obeys_attempt]
  refine ⟨begin, fun reply => ?_⟩
  cases reply with
  | error error => exact refused error
  | ok _ =>
      rw [Program.thenObeys, Program.obeys_bind, Program.obeys_catchError]
      refine block.mono fun later outcome left => ?_
      cases outcome with
      | ok value => exact ⟨left.1, fun _ => left.2⟩
      | error error => exact ⟨left.1, fun _ => left.2⟩

namespace BaseRepository

/-- A query obeys when it is permitted and every result may end it. -/
theorem obeys_findOne {table : Table} {condition : Row table → Bool}
    {ends : Phase → Except Exception (Option (Row table)) → Prop} :
    (findOne table condition).Obeys protocol ends phase ↔
      protocol.permits phase (.select table condition) ∧
        ∀ rows, ends (protocol.next phase (.select table condition) rows) (.ok rows.head?) := by
  rw [findOne, Program.obeys_bind, Program.obeys_perform]
  exact Iff.rfl

/-- Creating a row obeys when the INSERT and the reading back do. -/
theorem obeys_create {table : Table} {row : Row table}
    {ends : Phase → Except Exception (Row table) → Prop}
    (insert : protocol.permits phase (.insert table row))
    (refused : ∀ error, ends (protocol.next phase (.insert table row) (.error error)) (.error error))
    (refresh : protocol.permits (protocol.next phase (.insert table row) (.ok ()))
      (.refresh table (rowId row)))
    (created : ∀ loaded, ends
      (protocol.next (protocol.next phase (.insert table row) (.ok ()))
        (.refresh table (rowId row)) loaded) (.ok (loaded.getD row))) :
    (create table row).Obeys protocol ends phase := by
  rw [create, Program.obeys_bind, obeys_attempt]
  refine ⟨insert, fun reply => ?_⟩
  cases reply with
  | error error => exact refused error
  | ok _ =>
      rw [Program.thenObeys, Program.obeys_bind, Program.obeys_perform]
      exact ⟨refresh, created⟩

end BaseRepository
end AcademicCredential
