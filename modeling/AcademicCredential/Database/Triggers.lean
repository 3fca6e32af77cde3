import AcademicCredential.Database.Decide
import AcademicCredential.Lib.History

/-!
# The triggers of `certificates`

What an arbitrary UPDATE may do to a certificate row: the two BEFORE UPDATE triggers of
the migration and the CHECK constraints, the triggers in the order of their names. The
triggers look at the status the row has now, and `core_apply` says what that leaves open.
-/

namespace AcademicCredential

open AcademicCredential.Lib

/-- Why an UPDATE of a certificate is refused. -/
inductive RefusedUpdate where
  /-- "Cannot modify sha256_hash of a CONFIRMED certificate." -/
  | confirmedHash (certificateId : Uuid) (currentHash : String)
  /-- "Core certificate fields cannot be modified after blockchain confirmation." -/
  | immutableField (certificateUid : String)
  | check (constraint : String)
  deriving DecidableEq, Repr

/-- `prevent_confirmed_hash_change`. -/
def preventConfirmedHashChange (old new : Certificate) : Except RefusedUpdate Certificate :=
  if old.blockchainStatus = .CONFIRMED ∧ old.sha256Hash ≠ new.sha256Hash then
    .error (.confirmedHash old.id old.sha256Hash)
  else
    .ok new

/-- `prevent_immutable_field_change`. -/
def preventImmutableFieldChange (old new : Certificate) : Except RefusedUpdate Certificate :=
  if old.blockchainStatus = .CONFIRMED then
    if old.recipientName ≠ new.recipientName ∨ old.degreeTitle ≠ new.degreeTitle ∨
        old.fieldOfStudy ≠ new.fieldOfStudy ∨ old.issueDate ≠ new.issueDate ∨
        old.universityId ≠ new.universityId ∨ old.studentId ≠ new.studentId ∨
        old.certificateUid ≠ new.certificateUid then
      .error (.immutableField old.certificateUid)
    else
      .ok new
  else
    .ok new

/-- The CHECK constraints, on a given day. -/
def checkConstraints (today : Date) (new : Certificate) : Except RefusedUpdate Certificate :=
  match violation? (insertConstraints today .certificates) new with
  | some constraint => .error (.check constraint)
  | none => .ok new

/-- `UPDATE certificates SET …`, as a function of the row, on the day it is executed. -/
structure UpdateStatement where
  today : Date
  set : Certificate → Certificate

namespace UpdateStatement

/-- The row an UPDATE would store, or why it is refused. -/
def outcome (statement : UpdateStatement) (row : Certificate) :
    Except RefusedUpdate Certificate := do
  let new ← preventImmutableFieldChange row (statement.set row)
  let new ← preventConfirmedHashChange row new
  checkConstraints statement.today new

/-- The row after a statement; a refused one changes nothing. -/
def apply (row : Certificate) (statement : UpdateStatement) : Certificate :=
  match statement.outcome row with
  | .ok new => new
  | .error _ => row

end UpdateStatement

/-- The columns a confirmation is meant to freeze. -/
structure CoreColumns where
  sha256Hash : String
  certificateUid : String
  universityId : Uuid
  studentId : Uuid
  recipientName : String
  degreeTitle : String
  fieldOfStudy : String
  issueDate : Date
  deriving DecidableEq, Repr

/-- The columns that a confirmed certificate keeps. -/
def Certificate.core (row : Certificate) : CoreColumns where
  sha256Hash := row.sha256Hash
  certificateUid := row.certificateUid
  universityId := row.universityId
  studentId := row.studentId
  recipientName := row.recipientName
  degreeTitle := row.degreeTitle
  fieldOfStudy := row.fieldOfStudy
  issueDate := row.issueDate

/-- A statement that sets a core column of a row which is not CONFIRMED now, to a row the
CHECK constraints accept. -/
def RewritesCore (row : Certificate) (statement : UpdateStatement) : Prop :=
  row.blockchainStatus ≠ .CONFIRMED ∧ (statement.set row).core ≠ row.core ∧
    violation? (insertConstraints statement.today .certificates) (statement.set row) = none

/-- The first trigger lets every change of an unconfirmed row pass. -/
theorem preventImmutableFieldChange_of_unconfirmed {old : Certificate}
    (unconfirmed : old.blockchainStatus ≠ .CONFIRMED) (new : Certificate) :
    preventImmutableFieldChange old new = .ok new := by
  simp [preventImmutableFieldChange, unconfirmed]

/-- The second trigger lets every change of an unconfirmed row pass. -/
theorem preventConfirmedHashChange_of_unconfirmed {old : Certificate}
    (unconfirmed : old.blockchainStatus ≠ .CONFIRMED) (new : Certificate) :
    preventConfirmedHashChange old new = .ok new := by
  simp [preventConfirmedHashChange, unconfirmed]

namespace UpdateStatement

variable {row : Certificate} {statement : UpdateStatement}

/-- On a row that is not CONFIRMED only the CHECK constraints speak. -/
theorem outcome_of_unconfirmed (unconfirmed : row.blockchainStatus ≠ .CONFIRMED) :
    statement.outcome row = checkConstraints statement.today (statement.set row) := by
  simp [outcome, preventImmutableFieldChange_of_unconfirmed unconfirmed,
    preventConfirmedHashChange_of_unconfirmed unconfirmed, bind, Except.bind]

/-- The triggers let no core column of a CONFIRMED row change. -/
theorem core_of_confirmed (confirmed : row.blockchainStatus = .CONFIRMED) {new : Certificate}
    (accepted : statement.outcome row = .ok new) : new.core = row.core := by
  by_cases sameFields : row.recipientName ≠ (statement.set row).recipientName ∨
      row.degreeTitle ≠ (statement.set row).degreeTitle ∨
      row.fieldOfStudy ≠ (statement.set row).fieldOfStudy ∨
      row.issueDate ≠ (statement.set row).issueDate ∨
      row.universityId ≠ (statement.set row).universityId ∨
      row.studentId ≠ (statement.set row).studentId ∨
      row.certificateUid ≠ (statement.set row).certificateUid
  · simp only [outcome, preventImmutableFieldChange, confirmed, if_true, if_pos sameFields, bind,
      Except.bind, reduceCtorEq] at accepted
  · by_cases sameHash : row.sha256Hash ≠ (statement.set row).sha256Hash
    · simp [outcome, preventImmutableFieldChange, preventConfirmedHashChange, confirmed,
        if_neg sameFields, sameHash, bind, Except.bind] at accepted
    · have checked : checkConstraints statement.today (statement.set row) = .ok new := by
        simpa [outcome, preventImmutableFieldChange, preventConfirmedHashChange, confirmed,
          if_neg sameFields, not_not.mp sameHash, bind, Except.bind] using accepted
      have isSet : statement.set row = new := by
        unfold checkConstraints at checked
        split at checked
        · cases checked
        · exact Except.ok.inj checked
      subst isSet
      push Not at sameFields sameHash
      obtain ⟨name, title, field, date, university, student, uid⟩ := sameFields
      simp only [Certificate.core, sameHash, name, title, field, date, university, student, uid]

/-- A statement leaves the core columns alone or rewrites them; it does the latter only to
a row whose status is not CONFIRMED at that moment. -/
theorem core_apply (row : Certificate) (statement : UpdateStatement) :
    (apply row statement).core ≠ row.core ↔ RewritesCore row statement := by
  by_cases confirmed : row.blockchainStatus = .CONFIRMED
  · refine iff_of_false (fun changed => changed ?_) fun rewrites => rewrites.1 confirmed
    unfold apply
    cases accepted : statement.outcome row with
    | error _ => rfl
    | ok new => exact core_of_confirmed confirmed accepted
  · unfold apply
    rw [outcome_of_unconfirmed confirmed, checkConstraints]
    cases violated : violation? (insertConstraints statement.today .certificates)
        (statement.set row) with
    | some constraint => simp [RewritesCore, violated]
    | none => simp [RewritesCore, violated, confirmed]

end UpdateStatement

/-- The row after a sequence of statements. -/
def rowAfter (start : Certificate) (statements : List UpdateStatement) : Certificate :=
  stateAfter UpdateStatement.apply start statements

/-- Once the row was CONFIRMED, its core columns stay as they were then. -/
def ConfirmedContentKept (start : Certificate) (statements : List UpdateStatement) : Prop :=
  ∀ first last, first ≤ last → last ≤ statements.length →
    (rowAfter start (statements.take first)).blockchainStatus = .CONFIRMED →
    (rowAfter start (statements.take last)).core = (rowAfter start (statements.take first)).core

/-- The statements are applied one after the other. -/
theorem rowAfter_take_succ {start : Certificate} {statements : List UpdateStatement} {index : Nat}
    {statement : UpdateStatement} (found : statements[index]? = some statement) :
    rowAfter start (statements.take (index + 1)) =
      UpdateStatement.apply (rowAfter start (statements.take index)) statement := by
  rw [List.take_add_one, found, Option.toList_some, rowAfter, stateAfter_snoc]
  rfl

/-- Over any sequence of UPDATEs the content of a certificate is frozen from its first
confirmation on exactly when no statement after that finds the row in another status than
CONFIRMED and rewrites a core column. -/
theorem confirmed_content_kept_iff (start : Certificate) (statements : List UpdateStatement) :
    ConfirmedContentKept start statements ↔
      ∀ first index, first ≤ index →
        (rowAfter start (statements.take first)).blockchainStatus = .CONFIRMED →
        ¬ OccursAt UpdateStatement.apply start statements RewritesCore index := by
  constructor
  · rintro kept first index order confirmed ⟨statement, found, rewrites⟩
    have inside : index < statements.length := (List.getElem?_eq_some_iff.mp found).1
    have before := kept first index order (Nat.le_of_lt inside) confirmed
    have after := kept first (index + 1) (Nat.le_succ_of_le order) inside confirmed
    rw [rowAfter_take_succ found] at after
    exact (UpdateStatement.core_apply _ statement).mpr rewrites (after.trans before.symm)
  · intro never first last order inside confirmed
    induction last, order using Nat.le_induction with
    | base => rfl
    | succ last order inductionHypothesis =>
        have found : statements[last]? = some statements[last] := List.getElem?_eq_getElem inside
        have earlier := inductionHypothesis (Nat.le_of_succ_le inside)
        rw [rowAfter_take_succ found, ← earlier]
        by_contra changed
        exact never first last order confirmed
          ⟨_, found, (UpdateStatement.core_apply _ _).mp changed⟩

namespace Sample

/-- A revocation, and a new name for the graduate afterwards. -/
def renameAfterRevocation : List UpdateStatement :=
  [{ today := 19700
     set := fun row => { row with
       isActive := false
       revocationReason := some "issued in error"
       revokedBy := some 2
       revokedAt := some 1
       blockchainStatus := .REVOKED } },
    { today := 19700, set := fun row => { row with recipientName := "Somebody Else" } }]

end Sample

/-- A certificate that was confirmed and then revoked gets another recipient. -/
theorem revoked_content_rewritten :
    ¬ ConfirmedContentKept (Sample.certificate .CONFIRMED) Sample.renameAfterRevocation := by
  intro kept
  have same := kept 0 2 (by decide) (by decide) rfl
  have renamed : (rowAfter (Sample.certificate .CONFIRMED) (Sample.renameAfterRevocation.take 2)).core ≠
      (Sample.certificate .CONFIRMED).core := by decide +kernel
  exact renamed same

end AcademicCredential
