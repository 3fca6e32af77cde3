import AcademicCredential.Lib.History
import AcademicCredential.Lib.Interruption
import Mathlib.Data.List.Basic

/-!
# Interleaved programs

Calls run as threads over a shared state, each with a state of its own, and take turns
one operation at a time. An operation may have to wait for what other threads hold; its
turn then does nothing, until the scheduler lets it pass or cancels it.

`Program.Obeys` is a proof outline for one thread: a ghost phase that every operation
and its reply move on. `Outline.Tracks` gives every thread of a world its phase, and
`System.exists_advance` keeps that along a run: an invariant of worlds with their phases
needs to look only at the operations that the phases permit.
-/

namespace AcademicCredential.Lib

universe u v

/-- How operations and their replies move a ghost phase. -/
structure Protocol (Op : Type → Type u) (Phase : Type) where
  permits : Phase → {Reply : Type} → Op Reply → Prop
  next : Phase → {Reply : Type} → Op Reply → Reply → Phase

namespace Program

variable {Op : Type → Type u} {Phase Error Value Result : Type}

/-- From `phase` on, every operation is permitted, whatever the replies, and every end is
one that `ends` allows in the phase it meets. -/
def Obeys (protocol : Protocol Op Phase) (ends : Phase → Except Error Value → Prop) :
    Program Op Error Value → Phase → Prop
  | .ret value, phase => ends phase (.ok value)
  | .raise error, phase => ends phase (.error error)
  | .step op next, phase => protocol.permits phase op ∧
      ∀ reply, (next reply).Obeys protocol ends (protocol.next phase op reply)

variable {protocol : Protocol Op Phase} {phase : Phase}

/-- A program that returns obeys when its value may end it. -/
@[simp] theorem obeys_pure {ends : Phase → Except Error Value → Prop} (value : Value) :
    (pure value : Program Op Error Value).Obeys protocol ends phase ↔ ends phase (.ok value) :=
  Iff.rfl

/-- A program that raises obeys when its error may end it. -/
@[simp] theorem obeys_raise {ends : Phase → Except Error Value → Prop} (error : Error) :
    (Program.raise error : Program Op Error Value).Obeys protocol ends phase ↔
      ends phase (.error error) :=
  Iff.rfl

/-- A result obeys when it may end the program. -/
@[simp] theorem obeys_ofExcept {ends : Phase → Except Error Value → Prop}
    (result : Except Error Value) :
    (ofExcept result : Program Op Error Value).Obeys protocol ends phase ↔ ends phase result := by
  cases result <;> rfl

/-- One operation obeys when it is permitted and every reply may end the program. -/
@[simp] theorem obeys_perform {Reply : Type} {ends : Phase → Except Error Reply → Prop}
    (op : Op Reply) :
    (perform op : Program Op Error Reply).Obeys protocol ends phase ↔
      protocol.permits phase op ∧ ∀ reply, ends (protocol.next phase op reply) (.ok reply) :=
  Iff.rfl

/-- What is left to show after the first part of a sequence. -/
def thenObeys (protocol : Protocol Op Phase) (ends : Phase → Except Error Result → Prop)
    (next : Value → Program Op Error Result) (phase : Phase) : Except Error Value → Prop
  | .ok value => (next value).Obeys protocol ends phase
  | .error error => ends phase (.error error)

/-- A sequence obeys when its first part does, and from each of its ends the rest. -/
@[simp] theorem obeys_bind {program : Program Op Error Value}
    {next : Value → Program Op Error Result} {ends : Phase → Except Error Result → Prop} :
    (program >>= next).Obeys protocol ends phase ↔
      program.Obeys protocol (thenObeys protocol ends next) phase := by
  change (program.bind next).Obeys protocol ends phase ↔ _
  induction program generalizing phase with
  | ret _ => exact Iff.rfl
  | raise _ => exact Iff.rfl
  | step op rest inductionHypothesis =>
      exact and_congr_right fun _ => forall_congr' fun reply => inductionHypothesis reply

/-- What is left to show when the first part ends in an error. -/
def elseObeys (protocol : Protocol Op Phase) (ends : Phase → Except Error Value → Prop)
    (handle : Error → Program Op Error Value) (phase : Phase) : Except Error Value → Prop
  | .ok value => ends phase (.ok value)
  | .error error => (handle error).Obeys protocol ends phase

/-- A handled program obeys when it does, and from each of its errors the handler. -/
@[simp] theorem obeys_catchError {program : Program Op Error Value}
    {handle : Error → Program Op Error Value} {ends : Phase → Except Error Value → Prop} :
    (program.catchError handle).Obeys protocol ends phase ↔
      program.Obeys protocol (elseObeys protocol ends handle) phase := by
  induction program generalizing phase with
  | ret _ => exact Iff.rfl
  | raise _ => exact Iff.rfl
  | step op rest inductionHypothesis =>
      exact and_congr_right fun _ => forall_congr' fun reply => inductionHypothesis reply

/-- A program obeys weaker conditions on its ends. -/
theorem Obeys.mono {ends weaker : Phase → Except Error Value → Prop}
    (implied : ∀ phase result, ends phase result → weaker phase result)
    {program : Program Op Error Value} (obeys : program.Obeys protocol ends phase) :
    program.Obeys protocol weaker phase := by
  induction program generalizing phase with
  | ret value => exact implied phase _ obeys
  | raise error => exact implied phase _ obeys
  | step op next inductionHypothesis =>
      exact ⟨obeys.1, fun reply => inductionHypothesis reply (obeys.2 reply)⟩

/-- A program that has ended has done so as it may in its phase. -/
theorem Obeys.ends_of_result? {ends : Phase → Except Error Value → Prop}
    {program : Program Op Error Value} (obeys : program.Obeys protocol ends phase)
    {result : Except Error Value} (ended : program.result? = some result) : ends phase result := by
  cases program with
  | ret value | raise error =>
      cases ended
      exact obeys
  | step op next => cases ended

/-- A program of operations that are permitted in some phases and do not lead out of these. -/
theorem obeys_of_every_among {allowed : (Reply : Type) → Op Reply → Prop} {among : Phase → Prop}
    (permitted : ∀ phase (Reply : Type) (op : Op Reply), among phase → allowed Reply op →
      protocol.permits phase op)
    (stays : ∀ phase (Reply : Type) (op : Op Reply) (reply : Reply), among phase →
      allowed Reply op → among (protocol.next phase op reply))
    {ends : Phase → Except Error Value → Prop}
    (everyEnd : ∀ phase result, among phase → ends phase result)
    {program : Program Op Error Value} (every : program.Every allowed) (inside : among phase) :
    program.Obeys protocol ends phase := by
  induction program generalizing phase with
  | ret _ => exact everyEnd _ _ inside
  | raise _ => exact everyEnd _ _ inside
  | step op next inductionHypothesis =>
      refine ⟨permitted _ _ op inside every.1, fun reply => ?_⟩
      exact inductionHypothesis reply (every.2 reply) (stays _ _ op reply inside every.1)

/-- A program of operations that are permitted in a phase and do not leave it. -/
theorem obeys_of_every {allowed : (Reply : Type) → Op Reply → Prop}
    (permitted : ∀ (Reply : Type) (op : Op Reply), allowed Reply op → protocol.permits phase op)
    (stays : ∀ (Reply : Type) (op : Op Reply) (reply : Reply), allowed Reply op →
      protocol.next phase op reply = phase)
    {ends : Phase → Except Error Value → Prop} (everyEnd : ∀ result, ends phase result)
    {program : Program Op Error Value} (every : program.Every allowed) :
    program.Obeys protocol ends phase := by
  refine @obeys_of_every_among _ _ _ _ protocol phase allowed (· = phase) ?_ ?_ ends ?_ program
    every rfl
  · rintro _ Reply op rfl
    exact permitted Reply op
  · rintro _ Reply op reply rfl
    exact stays Reply op reply
  · rintro _ result rfl
    exact everyEnd result

/-- The ends of a program that is broken off: its own, or a phase in which it had an operation
left. -/
def cutEnds (protocol : Protocol Op Phase) (ends : Phase → Except Error Value → Prop)
    (phase : Phase) : Except Error (Option Value) → Prop
  | .ok (some value) => ends phase (.ok value)
  | .ok none => ∃ (Reply : Type) (op : Op Reply), protocol.permits phase op
  | .error error => ends phase (.error error)

/-- A program that is broken off has obeyed so far. -/
theorem Obeys.cut {ends : Phase → Except Error Value → Prop} {program : Program Op Error Value}
    (obeys : program.Obeys protocol ends phase) (operations : Nat) :
    (program.cut operations).Obeys protocol (cutEnds protocol ends) phase := by
  induction program generalizing phase operations with
  | ret _ => exact obeys
  | raise _ => exact obeys
  | step op next inductionHypothesis =>
      cases operations with
      | zero => exact ⟨_, op, obeys.1⟩
      | succ operations =>
          exact ⟨obeys.1, fun reply => inductionHypothesis reply (obeys.2 reply) operations⟩

end Program

/-- A call under way: what was called, what is left to perform, and what only it changes. -/
structure Thread (Op : Type → Type u) (Error Value : Type) (Call : Type v) (Own : Type) where
  call : Call
  program : Program Op Error Value
  own : Own

/-- What the threads share, and the threads. -/
structure World (Op : Type → Type u) (Error Value : Type) (Call : Type v) (Shared Own : Type) where
  shared : Shared
  threads : List (Thread Op Error Value Call Own)

/-- What may happen next. -/
inductive Turn (Call : Type v) (Input Change : Type) where
  | start (call : Call) (input : Input)
  | operate (thread : Nat)
  /-- The operation a thread waits with is given up. -/
  | cancel (thread : Nat)
  /-- Something outside the threads changes the shared state. -/
  | change (change : Change)

/-- The call that a turn starts. -/
def Turn.started : Turn Call Input Change → List Call
  | .start call _ => [call]
  | .operate _ | .cancel _ | .change _ => []

/-- What calls and operations do, and when an operation waits for the other threads. -/
structure System (Op : Type → Type u) (Error Value : Type) (Call : Type v)
    (Input Change Shared Own : Type) where
  program : Call → Program Op Error Value
  fresh : Input → Own
  handler : Program.Handler Op (Shared × Own)
  waits : {Reply : Type} → Op Reply → Shared → Own → List Own → Bool
  /-- The reply to an operation that is given up, if it can be. -/
  cancelled : {Reply : Type} → Op Reply → Option Reply
  change : Change → Shared → Shared

variable {Op : Type → Type u} {Error Value : Type} {Call : Type v}
variable {Input Change Shared Own Phase : Type}

namespace World

variable (world : World Op Error Value Call Shared Own)

/-- What was called, in order. -/
def calls : List Call := world.threads.map Thread.call

/-- The states of the threads other than the one at `index`. -/
def others (index : Nat) : List Own := (world.threads.eraseIdx index).map Thread.own

/-- The others are the threads at the other positions. -/
theorem mem_others {index : Nat} {own : Own} :
    own ∈ world.others index ↔
      ∃ other thread, other ≠ index ∧ world.threads[other]? = some thread ∧ thread.own = own := by
  simp only [others, List.mem_map, List.mem_eraseIdx_iff_getElem?]
  constructor
  · rintro ⟨thread, ⟨other, apart, found⟩, same⟩
    exact ⟨other, thread, apart, found, same⟩
  · rintro ⟨other, thread, apart, found, same⟩
    exact ⟨thread, ⟨other, apart, found⟩, same⟩

/-- The thread at `index` is about to perform `op` and to go on as `next` says. -/
structure Reaches (index : Nat) (thread : Thread Op Error Value Call Own) {Reply : Type}
    (op : Op Reply) (next : Reply → Program Op Error Value) : Prop where
  found : world.threads[index]? = some thread
  program : thread.program = .step op next

/-- The world after a reply, with the states it left. -/
def resume (index : Nat) (thread : Thread Op Error Value Call Own)
    (program : Program Op Error Value) (shared : Shared) (own : Own) :
    World Op Error Value Call Shared Own where
  shared
  threads := world.threads.set index { thread with program, own }

variable {world} {index : Nat} {thread : Thread Op Error Value Call Own}

/-- A thread that goes on adds no call. -/
theorem calls_resume (found : world.threads[index]? = some thread)
    (program : Program Op Error Value) (shared : Shared) (own : Own) :
    (world.resume index thread program shared own).calls = world.calls := by
  obtain ⟨bound, rfl⟩ := List.getElem?_eq_some_iff.mp found
  rw [calls, resume, List.map_set]
  exact List.ext_getElem? fun other => by
    rw [List.getElem?_set]
    split
    · rename_i same
      subst same
      simp [calls, bound]
    · rfl

/-- A thread that goes on changes at its own position only. -/
theorem resume_threads {program : Program Op Error Value} {shared : Shared} {own : Own}
    (found : world.threads[index]? = some thread) (other : Nat) :
    (world.resume index thread program shared own).threads[other]? =
      if other = index then some { thread with program, own } else world.threads[other]? := by
  have bound := (List.getElem?_eq_some_iff.mp found).1
  by_cases same : other = index
  · subst same
    simp [resume, bound]
  · simp [resume, same, Ne.symm same]

end World

namespace System

variable (system : System Op Error Value Call Input Change Shared Own)

/-- The operation of a thread whose turn it is. -/
def operate (world : World Op Error Value Call Shared Own) (index : Nat) :
    World Op Error Value Call Shared Own :=
  match world.threads[index]? with
  | none => world
  | some thread =>
      match thread.program with
      | .ret _ | .raise _ => world
      | .step op next =>
          if system.waits op world.shared thread.own (world.others index) then
            world
          else
            let after := system.handler _ op (world.shared, thread.own)
            world.resume index thread (next after.1) after.2.1 after.2.2

/-- A waiting operation is given up. -/
def cancel (world : World Op Error Value Call Shared Own) (index : Nat) :
    World Op Error Value Call Shared Own :=
  match world.threads[index]? with
  | none => world
  | some thread =>
      match thread.program with
      | .ret _ | .raise _ => world
      | .step op next =>
          match system.cancelled op with
          | none => world
          | some reply =>
              if system.waits op world.shared thread.own (world.others index) then
                world.resume index thread (next reply) world.shared thread.own
              else
                world

/-- What a turn does to the world. -/
def apply (world : World Op Error Value Call Shared Own) :
    Turn Call Input Change → World Op Error Value Call Shared Own
  | .start call input =>
      { world with threads := world.threads ++ [⟨call, system.program call, system.fresh input⟩] }
  | .operate index => system.operate world index
  | .cancel index => system.cancel world index
  | .change change => { world with shared := system.change change world.shared }

/-- The world after the operation that a thread has reached. -/
def performed (system : System Op Error Value Call Input Change Shared Own)
    (world : World Op Error Value Call Shared Own) (index : Nat)
    (thread : Thread Op Error Value Call Own) {Reply : Type} (op : Op Reply)
    (next : Reply → Program Op Error Value) : World Op Error Value Call Shared Own :=
  world.resume index thread (next (system.handler _ op (world.shared, thread.own)).1)
    (system.handler _ op (world.shared, thread.own)).2.1
    (system.handler _ op (world.shared, thread.own)).2.2

/-- A turn that does something performs the operation its thread has reached, without
waiting. -/
theorem operate_cases (world : World Op Error Value Call Shared Own) (index : Nat) :
    system.operate world index = world ∨
      ∃ thread, ∃ (Reply : Type) (op : Op Reply) (next : Reply → Program Op Error Value),
        world.Reaches index thread op next ∧
          system.waits op world.shared thread.own (world.others index) = false ∧
          system.operate world index = system.performed world index thread op next := by
  unfold operate
  cases found : world.threads[index]? with
  | none => exact .inl rfl
  | some thread =>
      cases program : thread.program with
      | ret _ => simp [program]
      | raise _ => simp [program]
      | step op next =>
          cases waits : system.waits op world.shared thread.own (world.others index) with
          | true => simp [program, waits]
          | false =>
              refine .inr ⟨thread, _, op, next, ⟨found, program⟩, waits, ?_⟩
              simp [program, waits, performed]

/-- A thread that has reached an operation and need not wait performs it. -/
theorem operate_of_reaches {world : World Op Error Value Call Shared Own} {index : Nat}
    {thread : Thread Op Error Value Call Own} {Reply : Type} {op : Op Reply}
    {next : Reply → Program Op Error Value} (reaches : world.Reaches index thread op next)
    (passes : system.waits op world.shared thread.own (world.others index) = false) :
    system.operate world index = system.performed world index thread op next := by
  simp [operate, performed, reaches.found, reaches.program, passes]

/-- A cancellation that does something answers an operation that waits. -/
theorem cancel_cases (world : World Op Error Value Call Shared Own) (index : Nat) :
    system.cancel world index = world ∨
      ∃ thread, ∃ (Reply : Type) (op : Op Reply) (next : Reply → Program Op Error Value),
        ∃ reply, world.Reaches index thread op next ∧ system.cancelled op = some reply ∧
          system.waits op world.shared thread.own (world.others index) = true ∧
          system.cancel world index =
            world.resume index thread (next reply) world.shared thread.own := by
  unfold cancel
  cases found : world.threads[index]? with
  | none => exact .inl rfl
  | some thread =>
      cases program : thread.program with
      | ret _ => simp [program]
      | raise _ => simp [program]
      | step op next =>
          cases answer : system.cancelled op with
          | none => simp [program, answer]
          | some reply =>
              cases waits : system.waits op world.shared thread.own (world.others index) with
              | false => simp [program, answer, waits]
              | true =>
                  refine .inr ⟨thread, _, op, next, reply, ⟨found, program⟩, answer, waits, ?_⟩
                  simp [program, answer, waits]

/-- A waiting operation that can be given up is given up. -/
theorem cancel_of_reaches {world : World Op Error Value Call Shared Own} {index : Nat}
    {thread : Thread Op Error Value Call Own} {Reply : Type} {op : Op Reply}
    {next : Reply → Program Op Error Value} (reaches : world.Reaches index thread op next)
    {reply : Reply} (answer : system.cancelled op = some reply)
    (waits : system.waits op world.shared thread.own (world.others index) = true) :
    system.cancel world index =
      world.resume index thread (next reply) world.shared thread.own := by
  simp [cancel, reaches.found, reaches.program, answer, waits]

/-- The thread whose turn it is has nothing that it can do in it. -/
def Idles (world : World Op Error Value Call Shared Own) : Turn Call Input Change → Prop
  | .operate index => ∀ thread (Reply : Type) (op : Op Reply)
      (next : Reply → Program Op Error Value), world.Reaches index thread op next →
      system.waits op world.shared thread.own (world.others index) = true
  | .cancel index => ∀ thread (Reply : Type) (op : Op Reply)
      (next : Reply → Program Op Error Value) (reply : Reply), world.Reaches index thread op next →
      system.cancelled op = some reply →
      system.waits op world.shared thread.own (world.others index) = false
  | .start _ _ | .change _ => False

/-- Only a start adds to what was called. -/
theorem calls_apply (world : World Op Error Value Call Shared Own)
    (turn : Turn Call Input Change) :
    (system.apply world turn).calls = world.calls ++ turn.started := by
  cases turn with
  | start call input => simp [World.calls, apply, Turn.started]
  | operate index =>
      rw [Turn.started, List.append_nil]
      change (system.operate world index).calls = _
      rcases system.operate_cases world index with idle | busy
      · rw [idle]
      · obtain ⟨thread, Reply, op, next, reaches, -, operated⟩ := busy
        rw [operated]
        exact World.calls_resume reaches.found _ _ _
  | cancel index =>
      rw [Turn.started, List.append_nil]
      change (system.cancel world index).calls = _
      rcases system.cancel_cases world index with idle | busy
      · rw [idle]
      · obtain ⟨thread, Reply, op, next, reply, reaches, -, -, cancelled⟩ := busy
        rw [cancelled]
        exact World.calls_resume reaches.found _ _ _
  | change change => simp [World.calls, apply, Turn.started]

variable {system} {world : World Op Error Value Call Shared Own}

/-- Every thread performs only what its call may. -/
def Restricted (allowed : Call → (Reply : Type) → Op Reply → Prop)
    (world : World Op Error Value Call Shared Own) : Prop :=
  ∀ thread ∈ world.threads, thread.program.Every (allowed thread.call)

/-- What a restricted thread has reached, its call may perform, and so on after every reply. -/
theorem Restricted.reached {allowed : Call → (Reply : Type) → Op Reply → Prop}
    (restricted : Restricted allowed world) {index : Nat}
    {thread : Thread Op Error Value Call Own} {Reply : Type} {op : Op Reply}
    {next : Reply → Program Op Error Value} (reaches : world.Reaches index thread op next) :
    allowed thread.call Reply op ∧ ∀ reply, (next reply).Every (allowed thread.call) := by
  have every := restricted thread (List.mem_of_getElem? reaches.found)
  rw [reaches.program] at every
  exact every

/-- A restricted thread stays so when it goes on. -/
theorem Restricted.resume {allowed : Call → (Reply : Type) → Op Reply → Prop}
    (restricted : Restricted allowed world) {index : Nat}
    {thread : Thread Op Error Value Call Own} {Reply : Type} {op : Op Reply}
    {next : Reply → Program Op Error Value} (reaches : world.Reaches index thread op next)
    (reply : Reply) (shared : Shared) (own : Own) :
    Restricted allowed (world.resume index thread (next reply) shared own) := by
  intro other member
  rcases List.mem_or_eq_of_mem_set member with isOld | rfl
  · exact restricted other isOld
  · exact (restricted.reached reaches).2 reply

/-- Calls keep to what their programs may perform. -/
theorem Restricted.apply {allowed : Call → (Reply : Type) → Op Reply → Prop}
    (every : ∀ call, (system.program call).Every (allowed call))
    (restricted : Restricted allowed world) (turn : Turn Call Input Change) :
    Restricted allowed (system.apply world turn) := by
  cases turn with
  | start call input =>
      intro thread member
      rcases List.mem_append.mp member with isOld | isNew
      · exact restricted thread isOld
      · rw [List.mem_singleton.mp isNew]
        exact every call
  | operate index =>
      change Restricted allowed (system.operate world index)
      rcases system.operate_cases world index with idle | busy
      · rw [idle]
        exact restricted
      · obtain ⟨thread, Reply, op, next, reaches, -, operated⟩ := busy
        rw [operated]
        exact restricted.resume reaches _ _ _
  | cancel index =>
      change Restricted allowed (system.cancel world index)
      rcases system.cancel_cases world index with idle | busy
      · rw [idle]
        exact restricted
      · obtain ⟨thread, Reply, op, next, reply, reaches, -, -, cancelled⟩ := busy
        rw [cancelled]
        exact restricted.resume reaches _ _ _
  | change change => exact restricted

/-- A proof outline for every call. -/
structure Outline (Op : Type → Type u) (Error Value : Type) (Call : Type v) (Phase : Type) where
  protocol : Call → Protocol Op Phase
  ends : Call → Phase → Except Error Value → Prop
  initial : Call → Phase

namespace Outline

variable (outline : Outline Op Error Value Call Phase)

/-- The rest of the thread's program obeys the outline of its call. -/
def Follows (thread : Thread Op Error Value Call Own) (phase : Phase) : Prop :=
  thread.program.Obeys (outline.protocol thread.call) (outline.ends thread.call) phase

/-- Every thread obeys its outline from the phase it is in. -/
def Tracks (world : World Op Error Value Call Shared Own) (phases : Nat → Phase) : Prop :=
  ∀ (index : Nat) thread, world.threads[index]? = some thread →
    outline.Follows thread (phases index)

variable {outline} {phases : Nat → Phase}

/-- The operation a thread has reached is permitted, and so is the rest of its program after
every reply. -/
theorem Tracks.reached (tracks : outline.Tracks world phases) {index : Nat}
    {thread : Thread Op Error Value Call Own} {Reply : Type} {op : Op Reply}
    {next : Reply → Program Op Error Value} (reaches : world.Reaches index thread op next) :
    (outline.protocol thread.call).permits (phases index) op ∧
      ∀ reply, (next reply).Obeys (outline.protocol thread.call) (outline.ends thread.call)
        ((outline.protocol thread.call).next (phases index) op reply) := by
  have obeys := tracks index thread reaches.found
  rw [Follows, reaches.program] at obeys
  exact obeys

/-- A thread that goes on is in the phase after its operation. -/
theorem Tracks.resume (tracks : outline.Tracks world phases) {index : Nat}
    {thread : Thread Op Error Value Call Own} {Reply : Type} {op : Op Reply}
    {next : Reply → Program Op Error Value} (reaches : world.Reaches index thread op next)
    (reply : Reply) (shared : Shared) (own : Own) :
    outline.Tracks (world.resume index thread (next reply) shared own)
      (Function.update phases index
        ((outline.protocol thread.call).next (phases index) op reply)) := by
  intro other otherThread found
  rw [World.resume_threads reaches.found] at found
  by_cases same : other = index
  · subst same
    rw [if_pos rfl] at found
    cases found
    rw [Function.update_self]
    exact (tracks.reached reaches).2 reply
  · rw [if_neg same] at found
    rw [Function.update_of_ne same]
    exact tracks other otherThread found

end Outline

/-- What a turn does to a world and to the phases of its threads. -/
inductive Advance (system : System Op Error Value Call Input Change Shared Own)
    (outline : Outline Op Error Value Call Phase) (world : World Op Error Value Call Shared Own)
    (phases : Nat → Phase) :
    Turn Call Input Change → World Op Error Value Call Shared Own → (Nat → Phase) → Prop
  | idle {turn : Turn Call Input Change} (idles : system.Idles world turn) :
      Advance system outline world phases turn world phases
  | started (call : Call) (input : Input) :
      Advance system outline world phases (.start call input)
        (system.apply world (.start call input))
        (Function.update phases world.threads.length (outline.initial call))
  | performed {index : Nat} {thread : Thread Op Error Value Call Own} {Reply : Type}
      {op : Op Reply} {next : Reply → Program Op Error Value}
      (reaches : world.Reaches index thread op next)
      (passes : system.waits op world.shared thread.own (world.others index) = false)
      (permitted : (outline.protocol thread.call).permits (phases index) op) :
      Advance system outline world phases (.operate index)
        (system.performed world index thread op next)
        (Function.update phases index ((outline.protocol thread.call).next (phases index) op
          (system.handler Reply op (world.shared, thread.own)).1))
  | cancelled {index : Nat} {thread : Thread Op Error Value Call Own} {Reply : Type}
      {op : Op Reply} {next : Reply → Program Op Error Value}
      (reaches : world.Reaches index thread op next) {reply : Reply}
      (answer : system.cancelled op = some reply)
      (waits : system.waits op world.shared thread.own (world.others index) = true)
      (permitted : (outline.protocol thread.call).permits (phases index) op) :
      Advance system outline world phases (.cancel index)
        (world.resume index thread (next reply) world.shared thread.own)
        (Function.update phases index
          ((outline.protocol thread.call).next (phases index) op reply))
  | changed (change : Change) :
      Advance system outline world phases (.change change)
        (system.apply world (.change change)) phases

/-- After a turn the threads are in phases again. -/
theorem exists_advance {outline : Outline Op Error Value Call Phase} {phases : Nat → Phase}
    (starts : ∀ call, (system.program call).Obeys (outline.protocol call) (outline.ends call)
      (outline.initial call))
    (tracks : outline.Tracks world phases) (turn : Turn Call Input Change) :
    ∃ later, Advance system outline world phases turn (system.apply world turn) later ∧
      outline.Tracks (system.apply world turn) later := by
  cases turn with
  | start call input =>
      refine ⟨_, .started call input, fun index thread found => ?_⟩
      rw [apply, List.getElem?_append] at found
      split at found
      · rename_i before
        rw [Function.update_of_ne (Nat.ne_of_lt before)]
        exact tracks index thread found
      · rename_i notBefore
        have isNew := List.mem_singleton.mp (List.mem_of_getElem? found)
        have inside := (List.getElem?_eq_some_iff.mp found).1
        obtain rfl : index = world.threads.length := by simp at inside; omega
        rw [Function.update_self, isNew]
        exact starts call
  | operate index =>
      change ∃ later, Advance system outline world phases (.operate index)
        (system.operate world index) later ∧ outline.Tracks (system.operate world index) later
      by_cases busy : ∃ thread, ∃ (Reply : Type) (op : Op Reply)
          (next : Reply → Program Op Error Value), world.Reaches index thread op next ∧
            system.waits op world.shared thread.own (world.others index) = false
      · obtain ⟨thread, Reply, op, next, reaches, passes⟩ := busy
        rw [system.operate_of_reaches reaches passes]
        exact ⟨_, .performed reaches passes (tracks.reached reaches).1,
          tracks.resume reaches _ _ _⟩
      · rcases system.operate_cases world index with idle | moves
        · rw [idle]
          refine ⟨phases, .idle fun thread Reply op next reaches => ?_, tracks⟩
          refine (Bool.not_eq_false _).mp fun passes => ?_
          exact busy ⟨thread, Reply, op, next, reaches, passes⟩
        · obtain ⟨thread, Reply, op, next, reaches, passes, -⟩ := moves
          exact absurd ⟨thread, Reply, op, next, reaches, passes⟩ busy
  | cancel index =>
      change ∃ later, Advance system outline world phases (.cancel index)
        (system.cancel world index) later ∧ outline.Tracks (system.cancel world index) later
      by_cases busy : ∃ thread, ∃ (Reply : Type) (op : Op Reply)
          (next : Reply → Program Op Error Value) (reply : Reply),
          world.Reaches index thread op next ∧ system.cancelled op = some reply ∧
            system.waits op world.shared thread.own (world.others index) = true
      · obtain ⟨thread, Reply, op, next, reply, reaches, answer, waits⟩ := busy
        rw [system.cancel_of_reaches reaches answer waits]
        exact ⟨_, .cancelled reaches answer waits (tracks.reached reaches).1,
          tracks.resume reaches _ _ _⟩
      · rcases system.cancel_cases world index with idle | moves
        · rw [idle]
          refine ⟨phases, .idle fun thread Reply op next reply reaches answer => ?_, tracks⟩
          refine (Bool.not_eq_true _).mp fun waits => ?_
          exact busy ⟨thread, Reply, op, next, reply, reaches, answer, waits⟩
        · obtain ⟨thread, Reply, op, next, reply, reaches, answer, waits, -⟩ := moves
          exact absurd ⟨thread, Reply, op, next, reply, reaches, answer, waits⟩ busy
  | change change => exact ⟨phases, .changed change, tracks⟩

/-- What holds of every thread in its phase holds after a turn, when it does of a new thread, when
operations that a phase permits lead from one phase to the next, and when no thread is disturbed by
what others do. -/
theorem Advance.holds {outline : Outline Op Error Value Call Phase} {phases later : Nat → Phase}
    {turn : Turn Call Input Change} {after : World Op Error Value Call Shared Own}
    (advance : Advance system outline world phases turn after later)
    (Holds : Call → Shared → Own → Phase → Prop)
    (starts : ∀ call input, turn = .start call input →
      Holds call world.shared (system.fresh input) (outline.initial call))
    (performs : ∀ (index : Nat) thread (Reply : Type) (op : Op Reply)
      (next : Reply → Program Op Error Value), turn = .operate index →
      world.Reaches index thread op next →
      (outline.protocol thread.call).permits (phases index) op →
      Holds thread.call world.shared thread.own (phases index) →
        Holds thread.call (system.handler Reply op (world.shared, thread.own)).2.1
          (system.handler Reply op (world.shared, thread.own)).2.2
          ((outline.protocol thread.call).next (phases index) op
            (system.handler Reply op (world.shared, thread.own)).1))
    (undisturbed : ∀ call own phase (other : Own) (Reply : Type) (op : Op Reply),
      Holds call world.shared own phase →
        Holds call (system.handler Reply op (world.shared, other)).2.1 own phase)
    (cancels : ∀ (index : Nat) thread (Reply : Type) (op : Op Reply)
      (next : Reply → Program Op Error Value) (reply : Reply), turn = .cancel index →
      world.Reaches index thread op next → system.cancelled op = some reply →
      system.waits op world.shared thread.own (world.others index) = true →
      (outline.protocol thread.call).permits (phases index) op →
      Holds thread.call world.shared thread.own (phases index) →
        Holds thread.call world.shared thread.own
          ((outline.protocol thread.call).next (phases index) op reply))
    (changes : ∀ call own phase change, Holds call world.shared own phase →
      Holds call (system.change change world.shared) own phase)
    (holds : ∀ (index : Nat) thread, world.threads[index]? = some thread →
      Holds thread.call world.shared thread.own (phases index)) :
    ∀ (index : Nat) thread, after.threads[index]? = some thread →
      Holds thread.call after.shared thread.own (later index) := by
  intro other otherThread found
  cases advance with
  | idle => exact holds other otherThread found
  | started call input =>
      simp only [System.apply, List.getElem?_append] at found
      split at found
      · rename_i before
        rw [Function.update_of_ne (Nat.ne_of_lt before)]
        exact holds other otherThread found
      · have inside := (List.getElem?_eq_some_iff.mp found).1
        obtain rfl : other = world.threads.length := by simp at inside; omega
        rw [Function.update_self, List.mem_singleton.mp (List.mem_of_getElem? found)]
        exact starts call input rfl
  | @performed index thread Reply op next reaches passes permitted =>
      rw [System.performed, World.resume_threads reaches.found] at found
      by_cases same : other = index
      · subst same
        rw [if_pos rfl] at found
        cases found
        rw [Function.update_self]
        exact performs other thread Reply op next rfl reaches permitted
          (holds other thread reaches.found)
      · rw [if_neg same] at found
        rw [Function.update_of_ne same]
        exact undisturbed _ _ _ thread.own Reply op (holds other otherThread found)
  | @cancelled index thread Reply op next reaches reply answer waits permitted =>
      rw [World.resume_threads reaches.found] at found
      by_cases same : other = index
      · subst same
        rw [if_pos rfl] at found
        cases found
        rw [Function.update_self]
        exact cancels other thread Reply op next reply rfl reaches answer waits permitted
          (holds other thread reaches.found)
      · rw [if_neg same] at found
        rw [Function.update_of_ne same]
        exact holds other otherThread found
  | changed change => exact changes _ _ _ change (holds other otherThread found)

end System
end AcademicCredential.Lib
