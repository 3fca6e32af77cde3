import Mathlib.Data.Option.Basic

/-!
# Truth values with unknowns

The three-valued logic of SQL: a comparison with a missing value is neither true nor
false. A CHECK constraint refuses a row only when it evaluates to false, and `passes`
is that reading. The `passes_*` lemmas push it through the connectives, so that what
a constraint accepts can be read off as ordinary logic.
-/

namespace AcademicCredential.Lib

/-- A truth value; `none` is unknown. -/
abbrev Truth := Option Bool

namespace Truth

variable {α : Type}

/-- False if either side is false, unknown if either side is then unknown. -/
def and (left right : Truth) : Truth :=
  match left, right with
  | some false, _ => some false
  | _, some false => some false
  | some true, some true => some true
  | _, _ => none

/-- True if either side is true, unknown if either side is then unknown. -/
def or (left right : Truth) : Truth :=
  match left, right with
  | some true, _ => some true
  | _, some true => some true
  | some false, some false => some false
  | _, _ => none

/-- `IS NULL`. -/
def isNull (value : Option α) : Truth := some value.isNone

/-- `IS NOT NULL`. -/
def isNotNull (value : Option α) : Truth := some value.isSome

/-- A predicate of a column, unknown on a missing value. -/
def test (predicate : α → Bool) (value : Option α) : Truth := value.map predicate

/-- A predicate of a column that is never missing. -/
def certain (holds : Bool) : Truth := some holds

/-- A constraint accepts everything it does not evaluate to false. -/
def passes (truth : Truth) : Bool := truth != some false

/-- A conjunction passes when both parts do. -/
@[simp] theorem passes_and (left right : Truth) :
    (and left right).passes = (left.passes && right.passes) := by
  rcases left with _ | (_ | _) <;> rcases right with _ | (_ | _) <;> rfl

/-- A disjunction passes when one part does. -/
@[simp] theorem passes_or (left right : Truth) :
    (or left right).passes = (left.passes || right.passes) := by
  rcases left with _ | (_ | _) <;> rcases right with _ | (_ | _) <;> rfl

/-- `IS NULL` passes for NULL. -/
@[simp] theorem passes_isNull (value : Option α) : (isNull value).passes = value.isNone := by
  cases value <;> rfl

/-- `IS NOT NULL` passes for a value. -/
@[simp] theorem passes_isNotNull (value : Option α) :
    (isNotNull value).passes = value.isSome := by
  cases value <;> rfl

/-- A condition on a value passes when it holds. -/
@[simp] theorem passes_test_some (predicate : α → Bool) (value : α) :
    (test predicate (some value)).passes = predicate value := by
  cases holds : predicate value <;> simp [test, passes, holds]

/-- The unknown outcome passes: a CHECK on a missing value refuses nothing. -/
@[simp] theorem passes_test_none (predicate : α → Bool) :
    (test predicate none).passes = true := rfl

/-- A condition that is never unknown passes when it holds. -/
@[simp] theorem passes_certain (holds : Bool) : (certain holds).passes = holds := by
  cases holds <;> rfl

end Truth
end AcademicCredential.Lib
