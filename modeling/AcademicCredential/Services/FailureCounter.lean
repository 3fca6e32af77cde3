import AcademicCredential.Services.Enumeration

/-!
# The range of the failure counter

Runs of `authenticate_user` on one account, at any instants. Only a successful login resets
`failed_login_attempts`; a lock that runs out leaves it, so wrong passwords drive it to the
end of its `SMALLINT` column. There the UPDATE is refused, and the lock with it.
-/

namespace AcademicCredential

open AcademicCredential.Lib

namespace FailureCounter

open Enumeration (Guess attemptGuess)

section logins

variable (security : Security) (email : String)

/-- The store after a call. -/
def login (store : Store) (call : Guess) : Store := (attemptGuess security email store call).2

/-- The store after the logins. -/
def loginsAfter (store : Store) (calls : List Guess) : Store :=
  stateAfter (login security email) store calls

/-- A wrong password for an account that is not locked. -/
def IsFailure (user : User) (call : Guess) : Prop :=
  ¬ user.LockedAt (call.inputs.wallClock 0) ∧
    security.verifyPassword call.password user.passwordHash = false

/-- A failure ends in the generic error, with its count and its lock committed. -/
def CommitsFailure (store : Store) (call : Guess) : Prop :=
  ∀ user ∈ accountOf store.database email, IsFailure security user call →
    (attemptGuess security email store call).1 =
        some ErrorClass.InvalidCredentialsError.default ∧
      accountOf (attemptGuess security email store call).2.database email =
        some (user.afterFailure (call.inputs.wallClock user.lockReads))

/-- A failure that meets a counter at the end of its column, or, where it would lock the account,
a clock that is at least ten minutes behind the account's creation. -/
def MeetsFullCounter (store : Store) (call : Guess) : Prop :=
  ∃ user ∈ accountOf store.database email, IsFailure security user call ∧
    ¬ user.Countable (call.inputs.wallClock user.lockReads)

variable {security email}

/-- A failure that cannot be counted ends in the database's error and leaves the account as it
was. -/
theorem attemptGuess_refused {store : Store} (valid : store.database.Valid) {call : Guess}
    {user : User} (found : accountOf store.database email = some user)
    (failure : IsFailure security user call)
    (uncountable : ¬ user.Countable (call.inputs.wallClock user.lockReads)) :
    (∃ constraint, (attemptGuess security email store call).1 =
        some (.CheckViolation "users" constraint)) ∧
      accountOf (attemptGuess security email store call).2.database email = some user := by
  have same := @AuthService.loginOutcome_eq security email call.password call.requestIp
    ⟨store, valid⟩ call.inputs
  obtain ⟨constraint, after, ran, unchanged⟩ := @AuthService.run_authenticateUser_refused user
    security _ _ call.requestIp ⟨store, valid⟩ call.inputs found failure.1 failure.2 uncountable
  rw [attemptGuess, same.1, same.2, ran]
  refine ⟨⟨constraint, rfl⟩, ?_⟩
  rw [unchanged]
  exact found

/-- A guess that fails is counted on the account. -/
theorem attemptGuess_counted {store : Store} (valid : store.database.Valid) {call : Guess}
    {user : User} (found : accountOf store.database email = some user)
    (failure : IsFailure security user call)
    (countable : user.Countable (call.inputs.wallClock user.lockReads)) :
    (attemptGuess security email store call).1 =
        some ErrorClass.InvalidCredentialsError.default ∧
      accountOf (attemptGuess security email store call).2.database email =
        some (user.afterFailure (call.inputs.wallClock user.lockReads)) := by
  have same := @AuthService.loginOutcome_eq security email call.password call.requestIp
    ⟨store, valid⟩ call.inputs
  obtain ⟨after, ran, counted⟩ := @AuthService.run_authenticateUser_wrong user security _ _
    call.requestIp ⟨store, valid⟩ call.inputs found failure.1 failure.2 countable
  rw [attemptGuess, same.1, same.2, ran]
  exact ⟨rfl, counted⟩

/-- A failure is committed exactly when the counter has room for it. -/
theorem commitsFailure_iff {store : Store} (valid : store.database.Valid) (call : Guess) :
    CommitsFailure security email store call ↔ ¬ MeetsFullCounter security email store call := by
  constructor
  · rintro commits ⟨user, found, failure, uncountable⟩
    obtain ⟨constraint, refused⟩ := (attemptGuess_refused valid found failure uncountable).1
    rw [(commits user found failure).1] at refused
    cases refused
  · intro room user found failure
    by_cases countable : user.Countable (call.inputs.wallClock user.lockReads)
    · exact attemptGuess_counted valid found failure countable
    · exact absurd ⟨user, found, failure, countable⟩ room

/-- The column keeps its range. -/
theorem attempts_inRange {database : Database} (valid : database.Valid) {user : User}
    (member : user ∈ database .users) : user.failedLoginAttempts < 2 ^ 15 := by
  have passes := violation?_eq_none.mp (valid.admissible .users user member)
  have inRange := passes ⟨"failed_login_attempts", fun row =>
    Truth.certain (isSmallInt row.failedLoginAttempts)⟩ (by
      simp only [constraints, User.constraints, List.mem_cons, true_or, or_true])
  simpa [isSmallInt] using inRange

/-- Logins keep the database valid. -/
theorem loginsAfter_valid (store : ValidStore) (calls : List Guess) :
    (loginsAfter security email store.toStore calls).database.Valid := by
  have preserved : ∀ (reached : Store) (call : Guess), reached.database.Valid →
      (login security email reached call).database.Valid := fun reached call valid =>
    AuthService.loginOutcome_valid ⟨reached, valid⟩ call.inputs
  exact stateAfter_invariant (login security email) preserved store.valid calls

end logins

/-- In every run of logins the counter stays within its column and every failure commits its
count and its lock, exactly if no failure of the run meets a counter that is full. -/
theorem failures_committed_iff (security : Security) (email : String) (store : ValidStore)
    (calls : List Guess) :
    (∀ count, ∀ user ∈ accountOf
        (loginsAfter security email store.toStore (calls.take count)).database email,
          user.failedLoginAttempts ≤ 32767) ∧
      (∀ index, ¬ OccursAt (login security email) store.toStore calls
        (fun reached call => ¬ CommitsFailure security email reached call) index) ↔
    ∀ index, ¬ OccursAt (login security email) store.toStore calls
      (MeetsFullCounter security email) index := by
  have inRange : ∀ count, ∀ user ∈ accountOf
      (loginsAfter security email store.toStore (calls.take count)).database email,
        user.failedLoginAttempts ≤ 32767 := by
    intro count user found
    have below := attempts_inRange (loginsAfter_valid store (calls.take count))
      (accountOf_some found).1
    omega
  have sameStep : ∀ index call,
      ¬ CommitsFailure security email (loginsAfter security email store.toStore
          (calls.take index)) call ↔
        MeetsFullCounter security email (loginsAfter security email store.toStore
          (calls.take index)) call := by
    intro index call
    rw [commitsFailure_iff (loginsAfter_valid store (calls.take index)), not_not]
  constructor
  · rintro ⟨-, commits⟩ index ⟨call, isCall, full⟩
    exact commits index ⟨call, isCall, (sameStep index call).mpr full⟩
  · intro room
    refine ⟨inRange, ?_⟩
    rintro index ⟨call, isCall, lost⟩
    exact room index ⟨call, isCall, (sameStep index call).mp lost⟩

namespace Sample

open AcademicCredential.Sample

/-- The instants are eleven minutes apart, so that every lock has run out. -/
def instantOf (index : Nat) : Timestamp := (index + 1) * (11 * microsecondsPerMinute)

/-- The guesses are eleven minutes apart. -/
theorem instantOf_succ (index : Nat) :
    instantOf (index + 1) = instantOf index + 11 * microsecondsPerMinute :=
  Nat.succ_mul (index + 1) _

/-- The guess of that index, with a wrong password. -/
def wrongGuess (index : Nat) : Guess where
  password := "guess"
  requestIp := "203.0.113.7"
  inputs := { inputs answered with
    wallClock := fun _ => instantOf index
    databaseClock := fun _ => instantOf index }

/-- So many wrong guesses. -/
def wrongGuesses (count : Nat) : List Guess := (List.range count).map wrongGuess

/-- The account after a number of failures. -/
structure Failed (count : Nat) (user : User) : Prop where
  attempts : user.failedLoginAttempts = count
  passwordHash : user.passwordHash = administrator.passwordHash
  createdAt : user.createdAt = administrator.createdAt
  lock : ∀ lockedUntil ∈ user.lockedUntil, lockedUntil ≤ instantOf count

/-- A further wrong guess fails and is counted. -/
theorem Failed.isFailure {count : Nat} {user : User} (failed : Failed count user) :
    IsFailure security user (wrongGuess count) := by
  constructor
  · rintro ⟨lockedUntil, isLock, ahead⟩
    exact absurd (failed.lock lockedUntil isLock) (Nat.not_le.mpr ahead)
  · rw [failed.passwordHash]
    rfl

/-- A further wrong guess brings the account to the next count. -/
theorem Failed.next {count : Nat} {user : User} (failed : Failed count user) :
    Failed (count + 1) (user.afterFailure (instantOf count)) := by
  refine ⟨?_, ?_, ?_, ?_⟩
  · rw [User.failedLoginAttempts_afterFailure, failed.attempts]
  · rw [User.passwordHash_afterFailure, failed.passwordHash]
  · rw [User.createdAt_afterFailure, failed.createdAt]
  · intro lockedUntil isLock
    rw [instantOf_succ]
    unfold User.afterFailure at isLock
    split at isLock
    · obtain rfl := Option.some.inj isLock
      exact Nat.add_le_add_left (Nat.mul_le_mul_right _ (by decide)) _
    · exact Nat.le_add_right_of_le (failed.lock lockedUntil isLock)

/-- The wrong guesses bring the account to their number, while the counter has room. -/
theorem wrongGuesses_failed (count : Nat) (room : count ≤ 32767) :
    ∃ user ∈ accountOf (loginsAfter security "admin@uni.example" Lockout.Sample.accountStore.toStore
      (wrongGuesses count)).database "admin@uni.example", Failed count user := by
  induction count with
  | zero => exact ⟨administrator, rfl, rfl, rfl, rfl, fun lockedUntil isLock => by cases isLock⟩
  | succ count inductionHypothesis =>
      obtain ⟨user, found, failed⟩ := inductionHypothesis (by omega)
      have valid := @loginsAfter_valid security "admin@uni.example" Lockout.Sample.accountStore
        (wrongGuesses count)
      have created : user.createdAt < instantOf count + 10 * microsecondsPerMinute := by
        rw [failed.createdAt]
        exact Nat.lt_of_lt_of_le (by decide) (Nat.le_add_left _ _)
      have countable : user.Countable (instantOf count) := by
        refine ⟨?_, fun _ => created⟩
        rw [failed.attempts]
        omega
      have counted := attemptGuess_counted valid found failed.isFailure countable
      refine ⟨user.afterFailure (instantOf count), ?_, failed.next⟩
      rw [wrongGuesses, List.range_succ, List.map_append, loginsAfter, List.map_singleton,
        stateAfter_snoc]
      exact counted.2

/-- The failure behind the last one the column has room for. -/
theorem wrongGuess_refused {count : Nat} (last : count = 32767) :
    let reached := loginsAfter security "admin@uni.example" Lockout.Sample.accountStore.toStore
      (wrongGuesses count)
    let ended := attemptGuess security "admin@uni.example" reached (wrongGuess count)
    (∃ constraint, ended.1 = some (.CheckViolation "users" constraint)) ∧
      ∃ user ∈ accountOf ended.2.database "admin@uni.example",
        user.failedLoginAttempts = 32767 ∧ ¬ user.LockedAt (instantOf count) := by
  intro reached ended
  obtain ⟨user, found, failed⟩ := wrongGuesses_failed count last.le
  have valid := @loginsAfter_valid security "admin@uni.example" Lockout.Sample.accountStore
    (wrongGuesses count)
  have full : ¬ user.Countable (instantOf count) := by
    rintro ⟨room, -⟩
    rw [failed.attempts, last] at room
    exact absurd room (Nat.lt_irrefl _)
  obtain ⟨refused, unchanged⟩ := attemptGuess_refused valid found failed.isFailure full
  exact ⟨refused, user, unchanged, failed.attempts.trans last, failed.isFailure.1⟩

end Sample

/-- After 32767 wrong passwords, eleven minutes apart, the next one ends in an error of the
database and leaves the account unlocked. -/
theorem full_counter_unlocked :
    let reached := loginsAfter AcademicCredential.Sample.security "admin@uni.example"
      Lockout.Sample.accountStore.toStore (Sample.wrongGuesses 32767)
    let last := attemptGuess AcademicCredential.Sample.security "admin@uni.example" reached
      (Sample.wrongGuess 32767)
    (∃ constraint, last.1 = some (.CheckViolation "users" constraint)) ∧
      ∃ user ∈ accountOf last.2.database "admin@uni.example",
        user.failedLoginAttempts = 32767 ∧ ¬ user.LockedAt (Sample.instantOf 32767) :=
  Sample.wrongGuess_refused rfl

end FailureCounter
end AcademicCredential
