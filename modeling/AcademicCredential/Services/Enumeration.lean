import AcademicCredential.Services.Lockout

/-!
# Whether a login tells that an account exists

The logins of someone who does not know the password, on a database with an account of
the email and on one without. An email without an account always gets the same error;
one with an account gets it as long as the failure can be counted, and another one when
the account is locked.
-/

namespace AcademicCredential

open AcademicCredential.Lib

/-- The class of an exception, without what it says. -/
inductive ExceptionType where
  | application (errorClass : ErrorClass)
  | InvalidRequestError
  | IntegrityError
  | StaleDataError
  | NoResultFound
  | ValueError
  | DBAPIError
  | RequestValidationError
  | RateLimitExceeded
  deriving DecidableEq, Repr

/-- The type of an exception. -/
def Exception.type : Exception → ExceptionType
  | .app errorClass _ => .application errorClass
  | .InvalidRequestError => .InvalidRequestError
  | .CheckViolation _ _ | .UniqueViolation _ _ => .IntegrityError
  | .StaleDataError => .StaleDataError
  | .NoResultFound => .NoResultFound
  | .ValueError => .ValueError
  | .DBAPIError => .DBAPIError
  | .RequestValidationError => .RequestValidationError
  | .RateLimitExceeded => .RateLimitExceeded

namespace Enumeration

/-- A login with a guessed password, at any instants. -/
structure Guess where
  password : String
  requestIp : String
  inputs : Inputs

/-- The store, with the types of the errors so far; a login that succeeds has none. -/
structure GuessRun where
  store : Store
  errors : List (Option ExceptionType)

section guesses

variable (security : Security) (email : String)

/-- How a guess ends, and the store it leaves. -/
def attemptGuess (store : Store) (guess : Guess) : Option Exception × Store :=
  AuthService.loginOutcome security email guess.password guess.requestIp store guess.inputs

/-- A guess, added to those made so far. -/
def GuessRun.guess (run : GuessRun) (guess : Guess) : GuessRun where
  store := (attemptGuess security email run.store guess).2
  errors := run.errors ++
    [(attemptGuess security email run.store guess).1.map Exception.type]

/-- The guesses, one after the other. -/
def guessesAfter (store : Store) (guesses : List Guess) : GuessRun :=
  stateAfter (GuessRun.guess security email) { store, errors := [] } guesses

/-- The guess meets an account that is locked, or whose next failure the constraints refuse. -/
def GivesAway (run : GuessRun) (guess : Guess) : Prop :=
  ∃ user ∈ accountOf run.store.database email,
    user.LockedAt (guess.inputs.wallClock 0) ∨
      ¬ user.Countable (guess.inputs.wallClock user.lockReads)

instance (run : GuessRun) (guess : Guess) : Decidable (GivesAway email run guess) :=
  inferInstanceAs (Decidable (∃ user ∈ accountOf run.store.database email, _))

variable {security email}

/-- Without an account every guess gets the same error and changes nothing. -/
theorem attemptGuess_absent {store : ValidStore} (absent : accountOf store.database email = none)
    (guess : Guess) :
    (attemptGuess security email store.toStore guess).1 =
        some ErrorClass.InvalidCredentialsError.default ∧
      (attemptGuess security email store.toStore guess).2.database = store.database := by
  have same := @AuthService.loginOutcome_eq security email guess.password guess.requestIp store
    guess.inputs
  rw [attemptGuess, same.1, same.2, AuthService.run_authenticateUser_absent absent]
  exact ⟨rfl, rfl⟩

/-- With an account a wrong guess gets that error exactly when it gives nothing away, and
leaves the account there with its password. -/
theorem attemptGuess_present {run : GuessRun} (valid : run.store.database.Valid) {user : User}
    (found : accountOf run.store.database email = some user) {guess : Guess}
    (wrong : security.verifyPassword guess.password user.passwordHash = false) :
    ((attemptGuess security email run.store guess).1.map Exception.type =
        some (.application .InvalidCredentialsError) ↔ ¬ GivesAway email run guess) ∧
      ∃ after ∈ accountOf (attemptGuess security email run.store guess).2.database email,
        after.passwordHash = user.passwordHash := by
  have same := @AuthService.loginOutcome_eq security email guess.password guess.requestIp
    ⟨run.store, valid⟩ guess.inputs
  rw [attemptGuess, same.1, same.2]
  by_cases locked : user.LockedAt (guess.inputs.wallClock 0)
  · rw [@AuthService.run_authenticateUser_locked user security _ _ _ ⟨run.store, valid⟩ _ found
      locked]
    have otherType : Exception.type ErrorClass.AccountLockedError.default ≠
        .application .InvalidCredentialsError := by decide
    refine ⟨iff_of_false (fun same => otherType (Option.some.inj same)) fun nothing =>
      nothing ⟨user, found, .inl locked⟩, user, found, rfl⟩
  · by_cases countable : user.Countable (guess.inputs.wallClock user.lockReads)
    · obtain ⟨after, ran, counted⟩ := @AuthService.run_authenticateUser_wrong user security _ _
        guess.requestIp ⟨run.store, valid⟩ guess.inputs found locked wrong countable
      rw [ran]
      refine ⟨iff_of_true rfl ?_, _, counted, User.passwordHash_afterFailure _ _⟩
      rintro ⟨other, isOther, givesAway⟩
      obtain rfl := Option.some.inj (found.symm.trans isOther)
      exact givesAway.elim locked (absurd countable)
    · obtain ⟨constraint, after, ran, unchanged⟩ := @AuthService.run_authenticateUser_refused user
        security _ _ guess.requestIp ⟨run.store, valid⟩ guess.inputs found locked wrong countable
      rw [ran, unchanged]
      refine ⟨iff_of_false (by simp [raisedBy, Exception.type]) fun nothing =>
        nothing ⟨user, found, .inr countable⟩, user, found, rfl⟩

/-- Without an account, a run of guesses is a run of the same error. -/
theorem guessesAfter_absent {store : ValidStore} (absent : accountOf store.database email = none)
    (guesses : List Guess) :
    (guessesAfter security email store.toStore guesses).store.database = store.database ∧
      (guessesAfter security email store.toStore guesses).errors =
        List.replicate guesses.length (some (.application .InvalidCredentialsError)) := by
  induction guesses using List.reverseRecOn with
  | nil => exact ⟨rfl, rfl⟩
  | append_singleton guesses guess inductionHypothesis =>
      obtain ⟨unchanged, errors⟩ := inductionHypothesis
      generalize reached : guessesAfter security email store.toStore guesses = run at *
      have valid : run.store.database.Valid := unchanged ▸ store.valid
      have stillAbsent : accountOf run.store.database email = none := unchanged ▸ absent
      obtain ⟨raised, database⟩ := @attemptGuess_absent security email ⟨run.store, valid⟩
        stillAbsent guess
      rw [guessesAfter, stateAfter_snoc, ← guessesAfter, reached]
      refine ⟨database.trans unchanged, ?_⟩
      rw [GuessRun.guess, errors, raised, List.length_append, List.length_singleton,
        List.replicate_succ']
      rfl

/-- The account stays, with its password. -/
theorem guessesAfter_present {store : ValidStore} {account : User}
    (registered : accountOf store.database email = some account) {guesses : List Guess}
    (wrong : ∀ guess ∈ guesses,
      security.verifyPassword guess.password account.passwordHash = false) :
    (guessesAfter security email store.toStore guesses).store.database.Valid ∧
      ∃ user ∈ accountOf (guessesAfter security email store.toStore guesses).store.database email,
        user.passwordHash = account.passwordHash := by
  induction guesses using List.reverseRecOn with
  | nil => exact ⟨store.valid, account, registered, rfl⟩
  | append_singleton guesses guess inductionHypothesis =>
      obtain ⟨valid, user, found, samePassword⟩ := inductionHypothesis fun other member =>
        wrong other (List.mem_append_left _ member)
      have isWrong := wrong guess (by simp)
      rw [← samePassword] at isWrong
      obtain ⟨-, after, stored, stillSame⟩ := attemptGuess_present valid found isWrong
      rw [guessesAfter, stateAfter_snoc]
      exact ⟨AuthService.loginOutcome_valid ⟨_, valid⟩ guess.inputs, after, stored,
        stillSame.trans samePassword⟩

end guesses

namespace Sample

open AcademicCredential.Sample

/-- The sample accounts without the administrator's. -/
def othersStore : ValidStore where
  database := Function.update accounts .users [graduate]
  chain := .deployed deployer
  files := []
  valid := by decide +kernel

/-- A guess of the administrator's password. -/
def guess : Guess where
  password := "guess"
  requestIp := "203.0.113.7"
  inputs := inputs answered

/-- The second guess in a row does not meet a locked account. -/
theorem secondGuess_nothing : ∀ index < 2, ∀ other ∈ [guess, guess][index]?,
    ¬ GivesAway "admin@uni.example" (guessesAfter security "admin@uni.example"
      Lockout.Sample.accountStore.toStore
      ([guess, guess].take index)) other := by
  decide +kernel

end Sample

end Enumeration
end AcademicCredential
