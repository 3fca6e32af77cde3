import AcademicCredential.Lib.Program

/-!
# Programs that are broken off

A process may die between any two operations of a program. `cut` keeps the first
operations of every path through the tree and returns nothing where the path goes on. A
cut run either ends as the whole run does or leaves the state of a prefix of it, and the
cuts of a sequence fall into its first part or into its second.
-/

namespace AcademicCredential.Lib.Program

universe u v

variable {Op : Type → Type u} {Error Value Result : Type} {State : Type v}

/-- At most the given number of operations; nothing is returned when that is too few. -/
def cut : Program Op Error Value → Nat → Program Op Error (Option Value)
  | .ret value, _ => .ret (some value)
  | .raise error, _ => .raise error
  | .step _ _, 0 => .ret none
  | .step op next, operations + 1 => .step op fun reply => (next reply).cut operations

/-- A value cannot be broken off. -/
@[simp] theorem cut_pure (value : Value) (operations : Nat) :
    (pure value : Program Op Error Value).cut operations = pure (some value) := rfl

/-- An error cannot be broken off. -/
@[simp] theorem cut_raise (error : Error) (operations : Nat) :
    (raise error : Program Op Error Value).cut operations = raise error := rfl

/-- Mapping the value of a cut program maps the value of the program. -/
theorem cut_map (transform : Value → Result) (program : Program Op Error Value)
    (operations : Nat) :
    (transform <$> program).cut operations = Option.map transform <$> program.cut operations := by
  rw [← bind_pure_comp, ← bind_pure_comp]
  change (program.bind fun value => .ret (transform value)).cut operations =
    (program.cut operations).bind fun value => .ret (value.map transform)
  induction program generalizing operations with
  | ret _ | raise _ => rfl
  | step op next inductionHypothesis =>
      cases operations with
      | zero => rfl
      | succ operations => simp only [bind, cut, inductionHypothesis]

/-- A cut program performs nothing that the program does not. -/
theorem every_cut {allowed : (Reply : Type) → Op Reply → Prop} {program : Program Op Error Value}
    (every : program.Every allowed) (operations : Nat) : (program.cut operations).Every allowed := by
  induction program generalizing operations with
  | ret _ | raise _ => trivial
  | step op next inductionHypothesis =>
      cases operations with
      | zero => trivial
      | succ operations => exact ⟨every.1, fun reply => inductionHypothesis reply (every.2 reply) _⟩

variable (handler : Handler Op State)

/-- A cut run that returns a value is the whole run. -/
theorem run_of_cut_ok {program : Program Op Error Value} {operations : Nat} {state after : State}
    {value : Value} (ran : (program.cut operations).run handler state = (.ok (some value), after)) :
    program.run handler state = (.ok value, after) := by
  induction program generalizing operations state with
  | ret result =>
      cases ran
      rfl
  | raise _ => cases ran
  | step op next inductionHypothesis =>
      cases operations with
      | zero => cases ran
      | succ operations => exact inductionHypothesis _ ran

/-- So is one that raises. -/
theorem run_of_cut_error {program : Program Op Error Value} {operations : Nat}
    {state after : State} {error : Error}
    (ran : (program.cut operations).run handler state = (.error error, after)) :
    program.run handler state = (.error error, after) := by
  induction program generalizing operations state with
  | ret _ => cases ran
  | raise _ =>
      cases ran
      rfl
  | step op next inductionHypothesis =>
      cases operations with
      | zero => cases ran
      | succ operations => exact inductionHypothesis _ ran

/-- The cut of a sequence falls into its first part, or into what follows it. -/
theorem run_cut_bind (program : Program Op Error Value) (next : Value → Program Op Error Result)
    (operations : Nat) (state : State) :
    ∃ left, ((program >>= next).cut operations).run handler state =
      match (program.cut operations).run handler state with
      | (.ok (some value), after) => ((next value).cut left).run handler after
      | (.ok none, after) => (.ok none, after)
      | (.error error, after) => (.error error, after) := by
  change ∃ left, ((program.bind next).cut operations).run handler state = _
  induction program generalizing operations state with
  | ret value => exact ⟨operations, rfl⟩
  | raise _ => exact ⟨0, rfl⟩
  | step op rest inductionHypothesis =>
      cases operations with
      | zero => exact ⟨0, rfl⟩
      | succ operations => exact inductionHypothesis _ operations _

end AcademicCredential.Lib.Program
