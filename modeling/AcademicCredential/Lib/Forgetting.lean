import AcademicCredential.Lib.Interleaving
import Mathlib.Data.List.InsertIdx

/-!
# Systems that carry more

A system may carry more state than another one: notes that its operations take and that no reply,
no wait and no call depends on. Forgetting them leads from its worlds to the worlds of the other
system, turn by turn (`Forgets.apply`) and run by run (`Forgets.run`), so that what holds in every
run of the other system holds here of what is left.
-/

namespace AcademicCredential.Lib

universe u v

variable {Op : Type → Type u} {Error Value : Type} {Call : Type v}
variable {Input Change Shared Own FineShared FineOwn : Type}

/-- The world without what its states carry more. -/
def World.forget (shared : FineShared → Shared) (own : FineOwn → Own)
    (world : World Op Error Value Call FineShared FineOwn) :
    World Op Error Value Call Shared Own where
  shared := shared world.shared
  threads := world.threads.map fun thread => ⟨thread.call, thread.program, own thread.own⟩

namespace System

/-- The states of `fine` carry more than those of `coarse`, and nothing depends on it. -/
structure Forgets (fine : System Op Error Value Call Input Change FineShared FineOwn)
    (coarse : System Op Error Value Call Input Change Shared Own)
    (shared : FineShared → Shared) (own : FineOwn → Own) : Prop where
  program : fine.program = coarse.program
  fresh : ∀ input, own (fine.fresh input) = coarse.fresh input
  handler : ∀ {Reply : Type} (op : Op Reply) (state : FineShared) (mine : FineOwn),
    coarse.handler Reply op (shared state, own mine) =
      ((fine.handler Reply op (state, mine)).1, shared (fine.handler Reply op (state, mine)).2.1,
        own (fine.handler Reply op (state, mine)).2.2)
  waits : ∀ {Reply : Type} (op : Op Reply) (state : FineShared) (mine : FineOwn)
    (others : List FineOwn),
    fine.waits op state mine others = coarse.waits op (shared state) (own mine) (others.map own)
  cancelled : ∀ {Reply : Type} (op : Op Reply), fine.cancelled op = coarse.cancelled op
  change : ∀ change state, shared (fine.change change state) = coarse.change change (shared state)

variable {fine : System Op Error Value Call Input Change FineShared FineOwn}
variable {coarse : System Op Error Value Call Input Change Shared Own}
variable {shared : FineShared → Shared} {own : FineOwn → Own}

/-- Forgetting commutes with going on. -/
theorem forget_resume (world : World Op Error Value Call FineShared FineOwn) (index : Nat)
    (thread : Thread Op Error Value Call FineOwn) (program : Program Op Error Value)
    (state : FineShared) (mine : FineOwn) :
    (world.resume index thread program state mine).forget shared own =
      (world.forget shared own).resume index ⟨thread.call, thread.program, own thread.own⟩ program
        (shared state) (own mine) := by
  simp [World.resume, World.forget, List.map_set]

/-- The other threads are forgotten one by one. -/
theorem others_forget (world : World Op Error Value Call FineShared FineOwn) (index : Nat) :
    (world.forget shared own).others index = (world.others index).map own := by
  simp only [World.others, World.forget, List.eraseIdx_map, List.map_map]
  rfl

namespace Forgets

variable (forgets : Forgets fine coarse shared own)

include forgets

/-- Forgetting changes nothing about waiting. -/
theorem waits_forget (world : World Op Error Value Call FineShared FineOwn) {Reply : Type}
    (op : Op Reply) (mine : FineOwn) (others : List FineOwn) :
    coarse.waits op (world.forget shared own).shared (own mine) (others.map own) =
      fine.waits op world.shared mine others :=
  (forgets.waits op world.shared mine others).symm

/-- Forgetting commutes with an operation. -/
theorem operate (world : World Op Error Value Call FineShared FineOwn) (index : Nat) :
    (fine.operate world index).forget shared own =
      coarse.operate (world.forget shared own) index := by
  have sameThread : (world.forget shared own).threads[index]? =
      world.threads[index]?.map fun thread => ⟨thread.call, thread.program, own thread.own⟩ := by
    simp [World.forget]
  unfold System.operate
  rw [sameThread]
  cases world.threads[index]? with
  | none => rfl
  | some thread =>
      obtain ⟨call, program, mine⟩ := thread
      cases program with
      | ret value => rfl
      | raise error => rfl
      | step op next =>
          dsimp only [Option.map_some]
          rw [others_forget, forgets.waits_forget]
          split
          · rfl
          · rw [forget_resume]
            change _ = World.resume _ index _ (next (coarse.handler _ op (shared world.shared,
              own mine)).1) (coarse.handler _ op (shared world.shared, own mine)).2.1
              (coarse.handler _ op (shared world.shared, own mine)).2.2
            rw [forgets.handler op world.shared mine]

/-- Forgetting commutes with giving an operation up. -/
theorem cancel (world : World Op Error Value Call FineShared FineOwn) (index : Nat) :
    (fine.cancel world index).forget shared own =
      coarse.cancel (world.forget shared own) index := by
  have sameThread : (world.forget shared own).threads[index]? =
      world.threads[index]?.map fun thread => ⟨thread.call, thread.program, own thread.own⟩ := by
    simp [World.forget]
  unfold System.cancel
  rw [sameThread]
  cases world.threads[index]? with
  | none => rfl
  | some thread =>
      obtain ⟨call, program, mine⟩ := thread
      cases program with
      | ret value => rfl
      | raise error => rfl
      | step op next =>
          dsimp only [Option.map_some]
          rw [← forgets.cancelled op]
          cases fine.cancelled op with
          | none => rfl
          | some reply =>
              dsimp only
              rw [others_forget, forgets.waits_forget]
              split
              · rw [forget_resume]
                rfl
              · rfl

/-- Forgetting commutes with a turn. -/
theorem apply (world : World Op Error Value Call FineShared FineOwn)
    (turn : Turn Call Input Change) :
    (fine.apply world turn).forget shared own = coarse.apply (world.forget shared own) turn := by
  cases turn with
  | start call input =>
      simp [System.apply, World.forget, forgets.program, forgets.fresh]
  | operate index => exact forgets.operate world index
  | cancel index => exact forgets.cancel world index
  | change change =>
      simp [System.apply, World.forget, forgets.change]

/-- A run is a run of the other system once what it carries is forgotten. -/
theorem run (world : World Op Error Value Call FineShared FineOwn)
    (turns : List (Turn Call Input Change)) :
    (stateAfter fine.apply world turns).forget shared own =
      stateAfter coarse.apply (world.forget shared own) turns := by
  induction turns using List.reverseRecOn with
  | nil => rfl
  | append_singleton turns turn inductionHypothesis =>
      rw [stateAfter_snoc, stateAfter_snoc, forgets.apply, inductionHypothesis]

end Forgets
end System
end AcademicCredential.Lib
