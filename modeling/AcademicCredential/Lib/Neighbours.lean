import AcademicCredential.Lib.Interleaving
import Mathlib.Data.List.Nodup

/-!
# Threads beside each other

`Advance.holds_beside` keeps an invariant of every thread where the other threads do not leave
what they share alone: an operation has to spare a neighbour only as far as its phase permits it
to be performed and the two threads differ. `Advance.keeps` is for what is not lost once a phase
has it, and `tags_run` for what a thread has from its start on.
-/

namespace AcademicCredential.Lib.System

universe u v

variable {Op : Type → Type u} {Error Value : Type} {Call : Type v}
variable {Input Change Shared Own Phase : Type}
variable {system : System Op Error Value Call Input Change Shared Own}
variable {world after : World Op Error Value Call Shared Own}
variable {outline : Outline Op Error Value Call Phase} {phases later : Nat → Phase}
variable {turn : Turn Call Input Change}

/-- What holds of every thread in its phase holds after a turn, when it does of a new thread, when
operations that a phase permits lead from one phase to the next, and when they spare every other
thread. -/
theorem Advance.holds_beside (advance : Advance system outline world phases turn after later)
    (Holds : Call → Shared → Own → Phase → Prop)
    (starts : ∀ call input, turn = .start call input →
      Holds call world.shared (system.fresh input) (outline.initial call))
    (performs : ∀ (index : Nat) thread (Reply : Type) (op : Op Reply)
      (next : Reply → Program Op Error Value), turn = .operate index →
      world.Reaches index thread op next →
      (outline.protocol thread.call).permits (phases index) op →
      Holds thread.call world.shared thread.own (phases index) →
        Holds thread.call (system.handler Reply op (world.shared, thread.own)).2.1
          (system.handler Reply op (world.shared, thread.own)).2.2
          ((outline.protocol thread.call).next (phases index) op
            (system.handler Reply op (world.shared, thread.own)).1))
    (spares : ∀ (index : Nat) thread (Reply : Type) (op : Op Reply)
      (next : Reply → Program Op Error Value), turn = .operate index →
      world.Reaches index thread op next →
      (outline.protocol thread.call).permits (phases index) op →
      ∀ (other : Nat) otherThread, other ≠ index → world.threads[other]? = some otherThread →
      Holds otherThread.call world.shared otherThread.own (phases other) →
        Holds otherThread.call (system.handler Reply op (world.shared, thread.own)).2.1
          otherThread.own (phases other))
    (cancels : ∀ (index : Nat) thread (Reply : Type) (op : Op Reply)
      (next : Reply → Program Op Error Value) (reply : Reply), turn = .cancel index →
      world.Reaches index thread op next → system.cancelled op = some reply →
      (outline.protocol thread.call).permits (phases index) op →
      Holds thread.call world.shared thread.own (phases index) →
        Holds thread.call world.shared thread.own
          ((outline.protocol thread.call).next (phases index) op reply))
    (changes : ∀ call own phase change, Holds call world.shared own phase →
      Holds call (system.change change world.shared) own phase)
    (holds : ∀ (index : Nat) thread, world.threads[index]? = some thread →
      Holds thread.call world.shared thread.own (phases index)) :
    ∀ (index : Nat) thread, after.threads[index]? = some thread →
      Holds thread.call after.shared thread.own (later index) := by
  intro other otherThread found
  cases advance with
  | idle => exact holds other otherThread found
  | started call input =>
      simp only [System.apply, List.getElem?_append] at found
      split at found
      · rename_i before
        rw [Function.update_of_ne (Nat.ne_of_lt before)]
        exact holds other otherThread found
      · have inside := (List.getElem?_eq_some_iff.mp found).1
        obtain rfl : other = world.threads.length := by simp at inside; omega
        rw [Function.update_self, List.mem_singleton.mp (List.mem_of_getElem? found)]
        exact starts call input rfl
  | @performed index thread Reply op next reaches passes permitted =>
      rw [System.performed, World.resume_threads reaches.found] at found
      by_cases same : other = index
      · subst same
        rw [if_pos rfl] at found
        cases found
        rw [Function.update_self]
        exact performs other thread Reply op next rfl reaches permitted
          (holds other thread reaches.found)
      · rw [if_neg same] at found
        rw [Function.update_of_ne same]
        exact spares index thread Reply op next rfl reaches permitted other otherThread same found
          (holds other otherThread found)
  | @cancelled index thread Reply op next reaches reply answer waits permitted =>
      rw [World.resume_threads reaches.found] at found
      by_cases same : other = index
      · subst same
        rw [if_pos rfl] at found
        cases found
        rw [Function.update_self]
        exact cancels other thread Reply op next reply rfl reaches answer permitted
          (holds other thread reaches.found)
      · rw [if_neg same] at found
        rw [Function.update_of_ne same]
        exact holds other otherThread found
  | changed change => exact changes _ _ _ change (holds other otherThread found)

/-- What every operation keeps of a phase is kept by a turn, and the thread stays. -/
theorem Advance.keeps (advance : Advance system outline world phases turn after later)
    {index : Nat} {thread : Thread Op Error Value Call Own}
    (found : world.threads[index]? = some thread) {Kept : Phase → Prop}
    (keeps : ∀ (Reply : Type) (op : Op Reply) (reply : Reply),
      Kept ((outline.protocol thread.call).next (phases index) op reply))
    (now : Kept (phases index)) :
    Kept (later index) ∧ ∃ again, after.threads[index]? = some again ∧ again.call = thread.call := by
  cases advance with
  | idle => exact ⟨now, thread, found, rfl⟩
  | started call input =>
      have before := (List.getElem?_eq_some_iff.mp found).1
      rw [Function.update_of_ne (Nat.ne_of_lt before)]
      refine ⟨now, thread, ?_, rfl⟩
      simp only [System.apply, List.getElem?_append_left before]
      exact found
  | @performed other otherThread Reply op next reaches passes permitted =>
      rw [System.performed, World.resume_threads reaches.found]
      by_cases same : index = other
      · subst same
        cases found.symm.trans reaches.found
        rw [Function.update_self, if_pos rfl]
        exact ⟨keeps Reply op _, _, rfl, rfl⟩
      · rw [Function.update_of_ne same, if_neg same]
        exact ⟨now, thread, found, rfl⟩
  | @cancelled other otherThread Reply op next reaches reply answer waits permitted =>
      rw [World.resume_threads reaches.found]
      by_cases same : index = other
      · subst same
        cases found.symm.trans reaches.found
        rw [Function.update_self, if_pos rfl]
        exact ⟨keeps Reply op _, _, rfl, rfl⟩
      · rw [Function.update_of_ne same, if_neg same]
        exact ⟨now, thread, found, rfl⟩
  | changed change => exact ⟨now, thread, found, rfl⟩

section tags

variable {Tag : Type} (tag : Call → Own → Tag)

/-- A tag of every thread, oldest first. -/
def tags (world : World Op Error Value Call Shared Own) : List Tag :=
  world.threads.map fun thread => tag thread.call thread.own

/-- The tag of the thread that a turn starts. -/
def turnTags (system : System Op Error Value Call Input Change Shared Own) :
    Turn Call Input Change → List Tag
  | .start call input => [tag call (system.fresh input)]
  | .operate _ | .cancel _ | .change _ => []

variable {tag}

/-- A thread that goes on with the same tag leaves all tags as they are. -/
theorem tags_resume {index : Nat} {thread : Thread Op Error Value Call Own}
    (found : world.threads[index]? = some thread) (program : Program Op Error Value)
    (shared : Shared) {own : Own} (same : tag thread.call own = tag thread.call thread.own) :
    tags tag (world.resume index thread program shared own) = tags tag world := by
  ext1 other
  rw [tags, tags, List.getElem?_map, List.getElem?_map, World.resume_threads found]
  by_cases isIndex : other = index
  · subst isIndex
    simp [found, same]
  · rw [if_neg isIndex]

variable (keeps : ∀ call (Reply : Type) (op : Op Reply) shared own,
  tag call (system.handler Reply op (shared, own)).2.2 = tag call own)

include keeps in
/-- Only a start adds a tag, where operations keep that of their thread. -/
theorem tags_apply (world : World Op Error Value Call Shared Own)
    (turn : Turn Call Input Change) :
    tags tag (system.apply world turn) = tags tag world ++ turnTags tag system turn := by
  cases turn with
  | start call input => simp [tags, turnTags, apply]
  | operate index =>
      rw [turnTags, List.append_nil]
      change tags tag (system.operate world index) = _
      rcases system.operate_cases world index with idle | busy
      · rw [idle]
      · obtain ⟨thread, Reply, op, next, reaches, -, operated⟩ := busy
        rw [operated]
        exact tags_resume reaches.found _ _ (keeps _ _ _ _ _)
  | cancel index =>
      rw [turnTags, List.append_nil]
      change tags tag (system.cancel world index) = _
      rcases system.cancel_cases world index with idle | busy
      · rw [idle]
      · obtain ⟨thread, Reply, op, next, reply, reaches, -, -, cancelled⟩ := busy
        rw [cancelled]
        exact tags_resume reaches.found _ _ rfl
  | change change => simp [tags, turnTags, apply]

include keeps in
/-- The tags after a run are those of its starts. -/
theorem tags_run (shared : Shared) (run : List (Turn Call Input Change)) :
    tags tag (stateAfter system.apply ⟨shared, []⟩ run) = run.flatMap (turnTags tag system) := by
  induction run using List.reverseRecOn with
  | nil => rfl
  | append_singleton run turn inductionHypothesis =>
      rw [stateAfter_snoc, tags_apply keeps, inductionHypothesis]
      simp

end tags

/-- Two threads whose tags are lists without a common element. -/
theorem disjoint_tags {Tag : Type} {tag : Call → Own → List Tag}
    (distinct : (tags tag world).flatten.Nodup) {left right : Nat}
    {leftThread rightThread : Thread Op Error Value Call Own} (different : left ≠ right)
    (foundLeft : world.threads[left]? = some leftThread)
    (foundRight : world.threads[right]? = some rightThread) :
    (tag leftThread.call leftThread.own).Disjoint (tag rightThread.call rightThread.own) := by
  obtain ⟨leftBound, rfl⟩ := List.getElem?_eq_some_iff.mp foundLeft
  obtain ⟨rightBound, rfl⟩ := List.getElem?_eq_some_iff.mp foundRight
  have apart := List.pairwise_iff_getElem.mp
    (List.pairwise_map.mp (List.nodup_flatten.mp distinct).2)
  rcases Nat.lt_or_gt_of_ne different with before | after
  · exact apart left right leftBound rightBound before
  · exact List.disjoint_symm (apart right left rightBound leftBound after)

/-- What was called in a run was started in it. -/
theorem exists_start {shared : Shared} {run : List (Turn Call Input Change)} {call : Call}
    (isCall : call ∈ (stateAfter system.apply ⟨shared, []⟩ run).calls) :
    ∃ input, Turn.start call input ∈ run := by
  induction run using List.reverseRecOn with
  | nil => exact absurd isCall List.not_mem_nil
  | append_singleton run turn inductionHypothesis =>
      rw [stateAfter_snoc, calls_apply, List.mem_append] at isCall
      rcases isCall with before | isNew
      · obtain ⟨input, member⟩ := inductionHypothesis before
        exact ⟨input, List.mem_append_left _ member⟩
      · cases turn with
        | start other input =>
            obtain rfl := List.mem_singleton.mp isNew
            exact ⟨input, by simp⟩
        | operate | cancel | change => exact absurd isNew List.not_mem_nil

end AcademicCredential.Lib.System
