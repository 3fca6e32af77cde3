import Mathlib.Logic.Relation

/-!
# Programs as trees of operations

A `Program` is the tree of operations a piece of effectful code may perform: it
returns, raises, or performs one operation and continues on the reply. Nothing is
said here about what an operation does. A `Handler` gives that meaning, and one
program can be run under several of them: `run_simulates` relates two handlers
operation by operation and `run_respects` lifts what each operation respects to whole
runs.
-/

namespace AcademicCredential.Lib

universe u v

/-- Finite trees over operations `Op`, with a reply type for each operation. -/
inductive Program (Op : Type → Type u) (Error Value : Type) : Type (max 1 u) where
  | ret (value : Value)
  | raise (error : Error)
  | step {Reply : Type} (op : Op Reply) (next : Reply → Program Op Error Value)

namespace Program

variable {Op : Type → Type u} {Error Value Result : Type}

/-- Sequencing: an error skips the continuation. -/
def bind : Program Op Error Value → (Value → Program Op Error Result) →
    Program Op Error Result
  | .ret value, next => next value
  | .raise error, _ => .raise error
  | .step op rest, next => .step op fun reply => (rest reply).bind next

instance : Monad (Program Op Error) where
  pure := .ret
  bind := bind

/-- One operation, returning its reply. -/
def perform {Reply : Type} (op : Op Reply) : Program Op Error Reply :=
  .step op .ret

/-- Turn an error reply into a raised error. -/
def ofExcept : Except Error Value → Program Op Error Value
  | .ok value => .ret value
  | .error error => .raise error

/-- What a program that has ended has come to. -/
def result? : Program Op Error Value → Option (Except Error Value)
  | .ret value => some (.ok value)
  | .raise error => some (.error error)
  | .step _ _ => none

/-- Run `handle` on the error of `body`, keeping every operation `body` performed. -/
def catchError : Program Op Error Value → (Error → Program Op Error Value) →
    Program Op Error Value
  | .ret value, _ => .ret value
  | .raise error, handle => handle error
  | .step op rest, handle => .step op fun reply => (rest reply).catchError handle

/-- A program that goes on by returning is the program. -/
theorem bind_ret (program : Program Op Error Value) : program.bind .ret = program := by
  induction program with
  | ret _ => rfl
  | raise _ => rfl
  | step op rest inductionHypothesis => simp only [bind, inductionHypothesis]

/-- Sequences associate. -/
theorem bind_assoc {Last : Type} (program : Program Op Error Value)
    (first : Value → Program Op Error Result) (second : Result → Program Op Error Last) :
    (program.bind first).bind second = program.bind fun value => (first value).bind second := by
  induction program with
  | ret _ => rfl
  | raise _ => rfl
  | step op rest inductionHypothesis => simp only [bind, inductionHypothesis]

instance : LawfulMonad (Program Op Error) :=
  LawfulMonad.mk' _ (fun program => bind_ret program) (fun _ _ => rfl)
    (fun program first second => bind_assoc program first second)

/-- The meaning of the operations over a state. -/
def Handler (Op : Type → Type u) (State : Type v) :=
  (Reply : Type) → Op Reply → State → Reply × State

variable {State : Type v} (handler : Handler Op State)

/-- Perform every operation through the handler until the program ends. -/
def run : Program Op Error Value → State → Except Error Value × State
  | .ret value, state => (.ok value, state)
  | .raise error, state => (.error error, state)
  | .step op next, state =>
      (next (handler _ op state).1).run (handler _ op state).2

/-- Running a value. -/
@[simp] theorem run_ret (value : Value) (state : State) :
    (Program.ret value : Program Op Error Value).run handler state = (.ok value, state) := rfl

/-- Running `pure`. -/
@[simp] theorem run_pure (value : Value) (state : State) :
    (pure value : Program Op Error Value).run handler state = (.ok value, state) := rfl

/-- Running an error. -/
@[simp] theorem run_raise (error : Error) (state : State) :
    (Program.raise error : Program Op Error Value).run handler state =
      (.error error, state) := rfl

/-- Running one operation. -/
@[simp] theorem run_perform {Reply : Type} (op : Op Reply) (state : State) :
    (perform op : Program Op Error Reply).run handler state =
      (.ok (handler _ op state).1, (handler _ op state).2) := rfl

/-- Running a result. -/
@[simp] theorem run_ofExcept (result : Except Error Value) (state : State) :
    (ofExcept result : Program Op Error Value).run handler state = (result, state) := by
  cases result <;> rfl

/-- A sequence runs its first part and continues only from a returned value. -/
theorem run_bind (program : Program Op Error Value)
    (next : Value → Program Op Error Result) (state : State) :
    (program >>= next).run handler state =
      match program.run handler state with
      | (.ok value, after) => (next value).run handler after
      | (.error error, after) => (.error error, after) := by
  change (program.bind next).run handler state = _
  induction program generalizing state with
  | ret _ => rfl
  | raise _ => rfl
  | step op rest inductionHypothesis => simp only [bind, run, inductionHypothesis]

/-- A sequence that returns was continued from a value its first part returned. -/
theorem run_bind_ok {program : Program Op Error Value} {next : Value → Program Op Error Result}
    {state after : State} {result : Result} :
    (program >>= next).run handler state = (.ok result, after) ↔
      ∃ value middle, program.run handler state = (.ok value, middle) ∧
        (next value).run handler middle = (.ok result, after) := by
  rw [run_bind]
  rcases program.run handler state with ⟨error | value, middle⟩
  · simp
  · constructor
    · exact fun rest => ⟨value, middle, rfl, rest⟩
    · rintro ⟨_, _, same, rest⟩
      cases same
      exact rest

/-- Mapping changes the returned value only. -/
theorem run_map (program : Program Op Error Value) (transform : Value → Result)
    (state : State) :
    (transform <$> program).run handler state =
      ((program.run handler state).1.map transform, (program.run handler state).2) := by
  rw [← bind_pure_comp, run_bind]
  rcases program.run handler state with ⟨_ | _, _⟩ <;> rfl

/-- A caught error runs the handler's program from the state the error left. -/
theorem run_catchError (program : Program Op Error Value)
    (handle : Error → Program Op Error Value) (state : State) :
    (program.catchError handle).run handler state =
      match program.run handler state with
      | (.ok value, after) => (.ok value, after)
      | (.error error, after) => (handle error).run handler after := by
  induction program generalizing state with
  | ret _ => rfl
  | raise _ => rfl
  | step op rest inductionHypothesis => simp only [catchError, run, inductionHypothesis]

/-- A relation that every operation maintains, with equal replies, is maintained
by whole runs, with equal outcomes. -/
theorem run_simulates {Abstract : Type v} {lower : Handler Op State}
    {upper : Handler Op Abstract} {related : State → Abstract → Prop}
    (simulates : ∀ (Reply : Type) (op : Op Reply) (state : State) (abstract : Abstract),
      related state abstract →
        (lower Reply op state).1 = (upper Reply op abstract).1 ∧
          related (lower Reply op state).2 (upper Reply op abstract).2)
    (program : Program Op Error Value) {state : State} {abstract : Abstract}
    (start : related state abstract) :
    (program.run lower state).1 = (program.run upper abstract).1 ∧
      related (program.run lower state).2 (program.run upper abstract).2 := by
  induction program generalizing state abstract with
  | ret _ => exact ⟨rfl, start⟩
  | raise _ => exact ⟨rfl, start⟩
  | step op next inductionHypothesis =>
      obtain ⟨sameReply, stillRelated⟩ := simulates _ op state abstract start
      have continued := inductionHypothesis (upper _ op abstract).1 stillRelated
      simpa only [run, sameReply] using continued

/-- Every operation in the tree, whatever the replies, satisfies `allowed`. -/
def Every (allowed : (Reply : Type) → Op Reply → Prop) : Program Op Error Value → Prop
  | .ret _ => True
  | .raise _ => True
  | .step op next => allowed _ op ∧ ∀ reply, (next reply).Every allowed

variable {allowed : (Reply : Type) → Op Reply → Prop}

/-- A value performs nothing. -/
@[simp] theorem every_pure (value : Value) :
    (pure value : Program Op Error Value).Every allowed := trivial

/-- An error performs nothing. -/
@[simp] theorem every_raise (error : Error) :
    (Program.raise error : Program Op Error Value).Every allowed := trivial

/-- One operation performs itself. -/
@[simp] theorem every_perform {Reply : Type} (op : Op Reply) :
    (perform op : Program Op Error Reply).Every allowed ↔ allowed _ op := by
  simp [perform, Every]

/-- A result performs nothing. -/
@[simp] theorem every_ofExcept (result : Except Error Value) :
    (ofExcept result : Program Op Error Value).Every allowed := by
  cases result <;> trivial

/-- A sequence performs what its parts do. -/
theorem every_bind {program : Program Op Error Value}
    {next : Value → Program Op Error Result}
    (first : program.Every allowed) (rest : ∀ value, (next value).Every allowed) :
    (program >>= next).Every allowed := by
  change (program.bind next).Every allowed
  induction program with
  | ret value => exact rest value
  | raise _ => trivial
  | step op tail inductionHypothesis =>
      exact ⟨first.1, fun reply => inductionHypothesis reply (first.2 reply)⟩

/-- A handled program performs what it and its handler do. -/
theorem every_catchError {program : Program Op Error Value}
    {handle : Error → Program Op Error Value}
    (first : program.Every allowed) (rest : ∀ error, (handle error).Every allowed) :
    (program.catchError handle).Every allowed := by
  induction program with
  | ret _ => trivial
  | raise error => exact rest error
  | step op tail inductionHypothesis =>
      exact ⟨first.1, fun reply => inductionHypothesis reply (first.2 reply)⟩

/-- What is always allowed is so under a weaker condition. -/
theorem Every.mono {other : (Reply : Type) → Op Reply → Prop}
    (weaker : ∀ (Reply : Type) (op : Op Reply), allowed Reply op → other Reply op)
    {program : Program Op Error Value} (every : program.Every allowed) : program.Every other := by
  induction program with
  | ret _ | raise _ => trivial
  | step op next inductionHypothesis =>
      exact ⟨weaker _ op every.1, fun reply => inductionHypothesis reply (every.2 reply)⟩

/-- Every program performs only operations. -/
theorem every_true (program : Program Op Error Value) : program.Every fun _ _ => True := by
  induction program with
  | ret _ | raise _ => trivial
  | step op next inductionHypothesis => exact ⟨trivial, inductionHypothesis⟩

/-- Every value the tree returns, whatever the replies, satisfies `holds`. -/
def Yields (holds : Value → Prop) : Program Op Error Value → Prop
  | .ret value => holds value
  | .raise _ => True
  | .step _ next => ∀ reply, (next reply).Yields holds

/-- A sequence returns what its second part does. -/
theorem yields_bind {first : Value → Prop} {holds : Result → Prop}
    {program : Program Op Error Value} {next : Value → Program Op Error Result}
    (yields : program.Yields first) (rest : ∀ value, first value → (next value).Yields holds) :
    (program >>= next).Yields holds := by
  change (program.bind next).Yields holds
  induction program with
  | ret value => exact rest value yields
  | raise _ => trivial
  | step op tail inductionHypothesis => exact fun reply => inductionHypothesis reply (yields reply)

/-- Every program returns some value. -/
theorem yields_true (program : Program Op Error Value) : program.Yields fun _ => True := by
  induction program with
  | ret _ | raise _ => trivial
  | step op next inductionHypothesis => exact inductionHypothesis

/-- A handled program returns what it or its handler does. -/
theorem yields_catchError {holds : Value → Prop} {program : Program Op Error Value}
    {handle : Error → Program Op Error Value} (yields : program.Yields holds)
    (handled : ∀ error, (handle error).Yields holds) :
    (program.catchError handle).Yields holds := by
  induction program with
  | ret value => exact yields
  | raise error => exact handled error
  | step op next inductionHypothesis => exact fun reply => inductionHypothesis reply (yields reply)

/-- A run returns only what the tree returns. -/
theorem Yields.run {handler : Handler Op State} {holds : Value → Prop}
    {program : Program Op Error Value} (yields : program.Yields holds) {state after : State}
    {value : Value} (returned : program.run handler state = (.ok value, after)) : holds value := by
  induction program generalizing state with
  | ret result =>
      cases returned
      exact yields
  | raise _ => cases returned
  | step op next inductionHypothesis => exact inductionHypothesis _ (yields _) returned

/-- Every operation the run performs holds in the state it is performed in. -/
def Along (handler : Handler Op State) (holds : (Reply : Type) → Op Reply → State → Prop) :
    Program Op Error Value → State → Prop
  | .ret _, _ => True
  | .raise _, _ => True
  | .step op next, state =>
      holds _ op state ∧ (next (handler _ op state).1).Along handler holds (handler _ op state).2

section along

variable {handler : Handler Op State} {holds : (Reply : Type) → Op Reply → State → Prop}
variable {state : State}

/-- Along a value nothing is performed. -/
@[simp] theorem along_pure (value : Value) :
    (pure value : Program Op Error Value).Along handler holds state := trivial

/-- Along an error nothing is performed. -/
@[simp] theorem along_raise (error : Error) :
    (Program.raise error : Program Op Error Value).Along handler holds state := trivial

/-- Along one operation it is performed in the state it meets. -/
@[simp] theorem along_perform {Reply : Type} (op : Op Reply) :
    (perform op : Program Op Error Reply).Along handler holds state ↔ holds _ op state := by
  simp [perform, Along]

/-- Along a result nothing is performed. -/
@[simp] theorem along_ofExcept (result : Except Error Value) :
    (ofExcept result : Program Op Error Value).Along handler holds state := by
  cases result <;> trivial

/-- A run of a sequence is a run of its first part and, where that returns, of the rest. -/
theorem along_bind {program : Program Op Error Value} {next : Value → Program Op Error Result} :
    (program >>= next).Along handler holds state ↔ program.Along handler holds state ∧
      ∀ value after, program.run handler state = (.ok value, after) →
        (next value).Along handler holds after := by
  change (program.bind next).Along handler holds state ↔ _
  induction program generalizing state with
  | ret value =>
      constructor
      · rintro rest
        refine ⟨trivial, fun _ _ returned => ?_⟩
        cases returned
        exact rest
      · exact fun both => both.2 value state rfl
  | raise _ =>
      refine iff_of_true trivial ⟨trivial, fun _ _ returned => ?_⟩
      cases returned
  | step op rest inductionHypothesis =>
      simp only [bind, Along, inductionHypothesis, run, and_assoc]

/-- What holds of every allowed operation holds along the program. -/
theorem along_of_every {allowed : (Reply : Type) → Op Reply → Prop}
    (each : ∀ (Reply : Type) (op : Op Reply) (state : State), allowed Reply op →
      holds Reply op state)
    {program : Program Op Error Value} (every : program.Every allowed) (state : State) :
    program.Along handler holds state := by
  induction program generalizing state with
  | ret _ | raise _ => trivial
  | step op next inductionHypothesis =>
      exact ⟨each _ op state every.1, inductionHypothesis _ (every.2 _) _⟩

end along

/-- What each allowed operation respects, a run of allowed operations respects. -/
theorem run_respects {handler : Handler Op State} (respects : State → State → Prop)
    (refl : ∀ state, respects state state)
    (trans : ∀ {first middle last}, respects first middle → respects middle last →
      respects first last)
    (each : ∀ (Reply : Type) (op : Op Reply), allowed Reply op →
      ∀ state, respects state (handler Reply op state).2)
    {program : Program Op Error Value} (every : program.Every allowed) (state : State) :
    respects state (program.run handler state).2 := by
  induction program generalizing state with
  | ret _ => exact refl state
  | raise _ => exact refl state
  | step op next inductionHypothesis =>
      exact trans (each _ op every.1 state) (inductionHypothesis _ (every.2 _) _)

end Program
end AcademicCredential.Lib
