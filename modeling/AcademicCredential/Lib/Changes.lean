import Mathlib.Data.List.Basic

/-!
# Logs of changes

A log holds the state before and after each change. `Linked` says that it is without gaps: every
change starts where the one before it ended. What a linked log leads to is then determined by the
log alone.
-/

namespace AcademicCredential.Lib

variable {State : Type}

/-- The changes lead from one state to another, each starting where the one before it ended. -/
def Linked : State → List (State × State) → State → Prop
  | before, [], after => before = after
  | before, (old, new) :: rest, after => old = before ∧ Linked new rest after

namespace Linked

/-- No changes lead to where one is. -/
theorem refl (state : State) : Linked state [] state := rfl

/-- One change leads from its old state to its new one. -/
theorem single (before after : State) : Linked before [(before, after)] after := ⟨rfl, rfl⟩

/-- Linked changes lead on from where the first ones end. -/
theorem trans {first middle last : State} {earlier later : List (State × State)}
    (before : Linked first earlier middle) (after : Linked middle later last) :
    Linked first (earlier ++ later) last := by
  induction earlier generalizing first with
  | nil =>
      obtain rfl : first = middle := before
      exact after
  | cons change rest inductionHypothesis => exact ⟨before.1, inductionHypothesis before.2⟩

/-- The state that a log leads to is the last one it names. -/
theorem eq_last {before after : State} {changes : List (State × State)}
    (linked : Linked before changes after) :
    after = (changes.getLast?.map Prod.snd).getD before := by
  induction changes generalizing before with
  | nil => exact Eq.symm linked
  | cons change rest inductionHypothesis =>
      rw [inductionHypothesis linked.2]
      cases rest with
      | nil => rfl
      | cons next others => simp [List.getLast?_cons]

end Linked
end AcademicCredential.Lib
