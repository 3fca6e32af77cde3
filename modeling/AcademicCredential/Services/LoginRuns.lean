import AcademicCredential.RepositoryRuns
import AcademicCredential.Services.Auth

/-!
# What a login does

The runs of `authenticate_user` on an account that exists: a locked account is refused
and left as it is, a wrong password is counted in the first transaction, and a right one
resets the count in the second. The constraints of `users` accept every UPDATE a login
makes but the count past `SMALLINT` and a lock that ends before the account was created.
-/

namespace AcademicCredential

open AcademicCredential.Lib
open AcademicCredential.Contract

/-- The exception a call ended with, if any. -/
def raisedBy {Value : Type} : Except Exception Value → Option Exception
  | .ok _ => none
  | .error error => some error

/-- The row an email finds. -/
def accountOf (database : Database) (email : String) : Option User :=
  (database .users).find? fun row => row.email = email

namespace User

variable {user : User}

/-- `user.locked_until and user.locked_until > now`. -/
def LockedAt (user : User) (now : Timestamp) : Prop :=
  ∃ lockedUntil ∈ user.lockedUntil, now < lockedUntil

instance (user : User) (now : Timestamp) : Decidable (user.LockedAt now) :=
  inferInstanceAs (Decidable (∃ lockedUntil ∈ user.lockedUntil, now < lockedUntil))

/-- A lock that is over stays over. -/
theorem LockedAt.earlier {now later : Timestamp} (locked : user.LockedAt later)
    (ordered : now ≤ later) : user.LockedAt now := by
  obtain ⟨lockedUntil, isLock, before⟩ := locked
  exact ⟨lockedUntil, isLock, Nat.lt_of_le_of_lt ordered before⟩

/-- The row with one more failed login. -/
def failed (user : User) : User :=
  { user with failedLoginAttempts := user.failedLoginAttempts + 1 }

/-- The row after a counted failure: the fifth one and every later one locks it. -/
def afterFailure (user : User) (now : Timestamp) : User :=
  if maxFailedLoginAttempts ≤ user.failedLoginAttempts + 1 then
    { user.failed with lockedUntil := some (now + 10 * microsecondsPerMinute) }
  else
    user.failed

/-- A failure leaves the password. -/
@[simp] theorem passwordHash_afterFailure (user : User) (now : Timestamp) :
    (user.afterFailure now).passwordHash = user.passwordHash := by
  unfold afterFailure
  split <;> rfl

/-- A failure leaves the account active. -/
@[simp] theorem isActive_afterFailure (user : User) (now : Timestamp) :
    (user.afterFailure now).isActive = user.isActive := by
  unfold afterFailure
  split <;> rfl

/-- A failure leaves the time of registration. -/
@[simp] theorem createdAt_afterFailure (user : User) (now : Timestamp) :
    (user.afterFailure now).createdAt = user.createdAt := by
  unfold afterFailure
  split <;> rfl

/-- A failure is counted. -/
@[simp] theorem failedLoginAttempts_afterFailure (user : User) (now : Timestamp) :
    (user.afterFailure now).failedLoginAttempts = user.failedLoginAttempts + 1 := by
  unfold afterFailure
  split <;> rfl

/-- Once the old lock is over, only the failure itself can have locked the account. -/
theorem lockedAt_afterFailure {now later : Timestamp} (unlocked : ¬ user.LockedAt later) :
    (user.afterFailure now).LockedAt later ↔
      later < now + 10 * microsecondsPerMinute ∧
        maxFailedLoginAttempts ≤ user.failedLoginAttempts + 1 := by
  unfold afterFailure
  split
  · rename_i locks
    simp [LockedAt, locks]
  · rename_i below
    exact iff_of_false unlocked fun locks => below locks.2

/-- `reset_failed_attempts`, on the user's row. -/
def reset (user : User) : User := { user with failedLoginAttempts := 0 }

/-- The row after a successful login. -/
def afterLogin (user : User) (now : Timestamp) (requestIp : String) : User :=
  { user.reset with
    lastLoginAt := some now
    lastLoginIp := some requestIp }

/-- The constraints accept the count of one more failure, and the lock it may set. -/
def Countable (user : User) (now : Timestamp) : Prop :=
  user.failedLoginAttempts + 1 < 2 ^ 15 ∧
    (maxFailedLoginAttempts ≤ user.failedLoginAttempts + 1 →
      user.createdAt < now + 10 * microsecondsPerMinute)

instance (user : User) (now : Timestamp) : Decidable (user.Countable now) :=
  inferInstanceAs (Decidable (_ ∧ _))

/-- The counter takes one more failure exactly when it has room. -/
theorem admissible_failed (admissible : @Admissible .users user) :
    @Admissible .users user.failed ↔ user.failedLoginAttempts + 1 < 2 ^ 15 := by
  unfold Admissible at *
  rw [violation?_eq_none] at *
  simp only [AcademicCredential.constraints, User.constraints, List.forall_mem_cons,
    failed] at admissible ⊢
  simp [isSmallInt] at admissible ⊢
  grind

/-- A lock is admissible exactly when it ends after the registration. -/
theorem admissible_lock (admissible : @Admissible .users user) (lockedUntil : Timestamp) :
    @Admissible .users { user with lockedUntil := some lockedUntil } ↔
      user.createdAt < lockedUntil := by
  unfold Admissible at *
  rw [violation?_eq_none] at *
  simp only [AcademicCredential.constraints, User.constraints,
    List.forall_mem_cons] at admissible ⊢
  simp at admissible ⊢
  grind

/-- The counter may be reset. -/
theorem admissible_reset (admissible : @Admissible .users user) :
    @Admissible .users user.reset := by
  unfold Admissible at *
  rw [violation?_eq_none] at *
  simp only [AcademicCredential.constraints, User.constraints, List.forall_mem_cons,
    reset] at admissible ⊢
  simp [isSmallInt] at admissible ⊢
  grind

/-- The time and the place of a login are accepted if the place is a network address. -/
theorem admissible_lastLogin (admissible : @Admissible .users user) (now : Timestamp)
    (requestIp : String) :
    @Admissible .users (@assignAll .users user
        [.lastLoginAt (some now), .lastLoginIp (some requestIp)]) ↔
      Inet.isInetText requestIp = true := by
  unfold Admissible at *
  rw [violation?_eq_none] at *
  simp only [AcademicCredential.constraints, User.constraints, List.forall_mem_cons, assignAll,
    List.foldl, assign, UserAssignment.assign] at admissible ⊢
  simp at admissible ⊢
  grind

end User

/-- No assignment touches a UNIQUE column of `users`. -/
theorem uniqueKeys_assignAll_user (user : User) (assignments : List UserAssignment) :
    uniqueKeys (@assignAll .users user assignments) = @uniqueKeys .users user := by
  induction assignments generalizing user with
  | nil => rfl
  | cons first rest inductionHypothesis =>
      refine (inductionHypothesis (first.assign user)).trans ?_
      cases first <;> rfl

/-- No assignment changes the email address. -/
theorem email_assignAll (user : User) (assignments : List UserAssignment) :
    (@assignAll .users user assignments : User).email = user.email := by
  induction assignments generalizing user with
  | nil => rfl
  | cons first rest inductionHypothesis =>
      refine (inductionHypothesis (first.assign user)).trans ?_
      cases first <;> rfl

/-- The account of an address is stored under it. -/
theorem accountOf_some {database : Database} {email : String} {user : User}
    (found : accountOf database email = some user) :
    user ∈ database .users ∧ user.email = email :=
  ⟨List.mem_of_find?_eq_some found, by simpa using List.find?_some found⟩

/-- The account of an address is found by its identifier. -/
theorem Database.Keyed.find?_account {database : Database} (keyed : database.Keyed)
    {email : String} {user : User} (found : accountOf database email = some user) :
    database.find? .users user.id = some user :=
  @Database.Keyed.find? _ keyed .users _ (accountOf_some found).1

/-- After an UPDATE of the account's row, its email finds the new row. -/
theorem accountOf_update {database : Database} {email : String} {user : User}
    (found : accountOf database email = some user) (assignments : List UserAssignment) :
    accountOf ((Write.update .users user.id assignments).apply database) email =
      some (@assignAll .users user assignments) := by
  have sameEmail : ∀ row : User,
      (if @rowId .users row = user.id then @assignAll .users row assignments else row : User).email =
        row.email := by
    intro row
    split
    · exact email_assignAll row assignments
    · rfl
  have isUser : (database .users).find? (fun row => decide (row.email = email)) = some user :=
    found
  simp only [accountOf, Write.apply, Function.update_self, updateRows, List.find?_map,
    Function.comp_def, sameEmail, isUser, Option.map_some]
  exact congrArg some (if_pos rfl)

/-- Only the table of accounts says which account an email has. -/
theorem accountOf_write_of_ne {write : Write} (elsewhere : write.table ≠ .users)
    (database : Database) (email : String) :
    accountOf (write.apply database) email = accountOf database email := by
  rw [accountOf, write.apply_of_ne elsewhere, accountOf]

variable {direct : Direct} {user : User}

/-- The state after an UPDATE of an account. -/
def Direct.rewritten (direct : Direct) (user : User) (assignments : List UserAssignment) :
    Direct :=
  direct.write (.update .users user.id assignments)

/-- An update of the account leaves the inputs. -/
@[simp] theorem Direct.inputs_rewritten (direct : Direct) (user : User)
    (assignments : List UserAssignment) :
    (direct.rewritten user assignments).inputs = direct.inputs := rfl

/-- An update of the account reads no clock. -/
@[simp] theorem Direct.reads_rewritten (direct : Direct) (user : User)
    (assignments : List UserAssignment) :
    (direct.rewritten user assignments).reads = direct.reads := rfl

/-- An UPDATE of an account goes through when the constraints accept the new row. -/
theorem Direct.Open.rewrite (opened : direct.Open)
    (found : direct.working.find? .users user.id = some user) (assignments : List UserAssignment)
    (admissible : @Admissible .users (@assignAll .users user assignments)) :
    (direct.rewritten user assignments).Open ∧
      (attempt (.executeUpdate .users user.id assignments)).run directHandler direct =
        (.ok (), direct.rewritten user assignments) := by
  have member := (Database.find?_some found).1
  have accepted : checkUpdated direct.working .users (@assignAll .users user assignments) =
      .ok () :=
    opened.valid.accepts member (uniqueKeys_assignAll_user user assignments) (rowId_assignAll ..)
      admissible
  refine ⟨opened.write_update found accepted, ?_⟩
  rw [run_attempt]
  simp [directHandler, Direct.executeUpdate, found, Direct.updateRow, accepted, Direct.rewritten]

/-- Otherwise the database names the constraint that refuses it. -/
theorem Direct.Open.rewrite_refused (opened : direct.Open)
    (found : direct.working.find? .users user.id = some user) (assignments : List UserAssignment)
    (inadmissible : ¬ @Admissible .users (@assignAll .users user assignments)) :
    ∃ constraint, (attempt (.executeUpdate .users user.id assignments)).run directHandler direct =
      (.error (.CheckViolation "users" constraint), direct) := by
  obtain ⟨constraint, violated⟩ := Option.ne_none_iff_exists'.mp inadmissible
  refine ⟨constraint, ?_⟩
  rw [run_attempt]
  simp [directHandler, Direct.executeUpdate, found, Direct.updateRow, checkUpdated, violated,
    opened.touch, Table.name]

/-- How often the clock is read before a new lock is computed: the lock an account has is
compared with it once. -/
def User.lockReads (user : User) : Nat := if user.lockedUntil.isSome then 1 else 0

/-- The state after the lock of an account, if it has one, was compared with the clock. -/
def Direct.lockSeen (direct : Direct) (user : User) : Direct :=
  { direct with reads := direct.reads + user.lockReads }

/-- The state after a failure was counted. -/
def Direct.counted (direct : Direct) (user : User) : Direct :=
  let increased := direct.rewritten user [.incrementFailedLoginAttempts]
  if maxFailedLoginAttempts ≤ user.failedLoginAttempts + 1 then
    increased.read.rewritten user.failed
      [.lockedUntil (some (direct.inputs.wallClock direct.reads + 10 * microsecondsPerMinute))]
  else
    increased

/-- A transaction stays open when the lock is looked at. -/
theorem Direct.Open.lockSeen (opened : direct.Open) (user : User) :
    (direct.lockSeen user).Open :=
  ⟨opened.inTransaction, opened.valid⟩

/-- A counted failure is the account's new row. -/
theorem accountOf_counted {email : String} (found : accountOf direct.working email = some user) :
    accountOf (direct.counted user).working email =
      some (user.afterFailure (direct.inputs.wallClock direct.reads)) := by
  have increased : accountOf (direct.rewritten user [.incrementFailedLoginAttempts]).working
      email = some user.failed := accountOf_update found _
  unfold Direct.counted User.afterFailure
  split
  · exact @accountOf_update _ _ user.failed increased _
  · exact increased

namespace AuthService

variable {security : Security} {email password requestIp : String}

/-- What the first transaction does about a wrong password. -/
def countFailure (user : User) : Action (User × Bool) := do
  let attempts ← UserRepository.incrementFailedAttempts user.id
  if maxFailedLoginAttempts ≤ attempts then
    let now ← Program.perform .now
    UserRepository.setAccountLock user.id (now + 10 * microsecondsPerMinute)
  return (user, false)

/-- `get_by_email` finds the account of the address. -/
theorem run_getByEmail (opened : direct.Open) (email : String) :
    (UserRepository.getByEmail email).run directHandler direct =
      (.ok (accountOf direct.working email), direct) :=
  BaseRepository.run_findOne opened .users _

/-- Without an account the credentials are refused. -/
theorem run_credentialBlock_absent (opened : direct.Open)
    (absent : accountOf direct.working email = none) :
    (credentialBlock security email password).run directHandler direct =
      (.error ErrorClass.InvalidCredentialsError.default, direct) := by
  simp [credentialBlock, Program.run_bind, run_getByEmail opened, absent]

/-- A locked account refuses the credentials. -/
theorem run_credentialBlock_locked (opened : direct.Open)
    (found : accountOf direct.working email = some user)
    (locked : user.LockedAt (direct.inputs.wallClock direct.reads)) :
    (credentialBlock security email password).run directHandler direct =
      (.error ErrorClass.AccountLockedError.default, direct.read) := by
  obtain ⟨lockedUntil, isLock, before⟩ := locked
  simp only [Option.mem_def] at isLock
  simp [credentialBlock, Program.run_bind, run_getByEmail opened, found, isLock, directHandler,
    before]

/-- An open account is decided by the password. -/
theorem run_credentialBlock_unlocked (opened : direct.Open)
    (found : accountOf direct.working email = some user)
    (unlocked : ¬ user.LockedAt (direct.inputs.wallClock direct.reads)) :
    (credentialBlock security email password).run directHandler direct =
      if security.verifyPassword password user.passwordHash then
        (.ok (user, true), direct.lockSeen user)
      else
        (countFailure user).run directHandler (direct.lockSeen user) := by
  cases lock : user.lockedUntil with
  | none =>
      have seen : direct.lockSeen user = direct := by simp [Direct.lockSeen, User.lockReads, lock]
      simp only [credentialBlock, Program.run_bind, run_getByEmail opened, found, lock, seen]
      split <;> simp [countFailure]
  | some lockedUntil =>
      have passed : ¬ direct.inputs.wallClock direct.reads < lockedUntil := fun before =>
        unlocked ⟨lockedUntil, lock, before⟩
      have seen : direct.lockSeen user = direct.read := by
        simp [Direct.lockSeen, User.lockReads, lock, Direct.read]
      simp only [credentialBlock, Program.run_bind, run_getByEmail opened, found, lock, seen,
        Program.run_perform, directHandler, passed, if_false]
      split <;> simp [countFailure]

/-- A failure is counted on the account. -/
theorem run_incrementFailedAttempts (opened : direct.Open)
    (found : direct.working.find? .users user.id = some user)
    (inRange : user.failedLoginAttempts + 1 < 2 ^ 15) :
    (direct.rewritten user [.incrementFailedLoginAttempts]).Open ∧
      (direct.rewritten user [.incrementFailedLoginAttempts]).working.find? .users user.id =
        some user.failed ∧
      (UserRepository.incrementFailedAttempts user.id).run directHandler direct =
        (.ok (user.failedLoginAttempts + 1),
          direct.rewritten user [.incrementFailedLoginAttempts]) := by
  have admissible := opened.valid.admissible .users user (Database.find?_some found).1
  have accepted : @Admissible .users (@assignAll .users user [.incrementFailedLoginAttempts]) :=
    (User.admissible_failed admissible).mpr inRange
  obtain ⟨stillOpen, ran⟩ := opened.rewrite found _ accepted
  have reloaded : (direct.rewritten user [.incrementFailedLoginAttempts]).working.find? .users
      user.id = some user.failed := Database.find?_update_self found _
  refine ⟨stillOpen, reloaded, ?_⟩
  simp [UserRepository.incrementFailedAttempts, UserRepository.getById, Program.run_bind, ran,
    BaseRepository.run_getById stillOpen, reloaded, User.failed]

/-- A failure the constraints let through is counted, and locks the account from the
fifth on. -/
theorem run_countFailure (opened : direct.Open)
    (found : direct.working.find? .users user.id = some user)
    (countable : user.Countable (direct.inputs.wallClock direct.reads)) :
    (countFailure user).run directHandler direct = (.ok (user, false), direct.counted user) := by
  obtain ⟨inRange, lockable⟩ := countable
  obtain ⟨stillOpen, reloaded, ran⟩ := run_incrementFailedAttempts opened found inRange
  by_cases locks : maxFailedLoginAttempts ≤ user.failedLoginAttempts + 1
  · have admissible := stillOpen.valid.admissible .users _ (Database.find?_some reloaded).1
    have accepted := (User.admissible_lock admissible _).mpr (lockable locks)
    have locked := (@Direct.Open.rewrite _ user.failed stillOpen.read reloaded
      [.lockedUntil (some _)] accepted).2
    have sameId : user.failed.id = user.id := rfl
    rw [sameId] at locked
    simp only [countFailure, Program.run_bind, ran, locks, if_true, Program.run_perform,
      directHandler, UserRepository.setAccountLock]
    simp [Direct.counted, locks, Direct.rewritten, Direct.write] at locked ⊢
    simp [locked]
  · simp [countFailure, Program.run_bind, ran, locks, Direct.counted]

/-- A failure they do not let through ends the login with the database's error. -/
theorem run_countFailure_refused (opened : direct.Open)
    (found : direct.working.find? .users user.id = some user)
    (uncountable : ¬ user.Countable (direct.inputs.wallClock direct.reads)) :
    ∃ constraint after, (countFailure user).run directHandler direct =
        (.error (.CheckViolation "users" constraint), after) ∧
      after.database = direct.database := by
  have admissible := opened.valid.admissible .users user (Database.find?_some found).1
  by_cases inRange : user.failedLoginAttempts + 1 < 2 ^ 15
  · obtain ⟨stillOpen, reloaded, ran⟩ := run_incrementFailedAttempts opened found inRange
    have locks : maxFailedLoginAttempts ≤ user.failedLoginAttempts + 1 := by
      by_contra below
      exact uncountable ⟨inRange, fun locks => absurd locks below⟩
    have stillAdmissible := stillOpen.valid.admissible .users _ (Database.find?_some reloaded).1
    have refused : ¬ @Admissible .users { user.failed with
        lockedUntil := some (direct.inputs.wallClock direct.reads + 10 * microsecondsPerMinute) } :=
      fun accepted => uncountable
        ⟨inRange, fun _ => (User.admissible_lock stillAdmissible _).mp accepted⟩
    obtain ⟨constraint, notLocked⟩ := @Direct.Open.rewrite_refused _ user.failed stillOpen.read
      reloaded [.lockedUntil (some _)] refused
    refine ⟨constraint, (direct.rewritten user [.incrementFailedLoginAttempts]).read, ?_, rfl⟩
    simp only [countFailure, Program.run_bind, ran, locks, if_true, Program.run_perform,
      directHandler, UserRepository.setAccountLock]
    have sameId : user.failed.id = user.id := rfl
    simp only [sameId, Direct.rewritten, Direct.write] at notLocked ⊢
    rw [notLocked]
  · have refused : ¬ @Admissible .users
        (@assignAll .users user [.incrementFailedLoginAttempts]) :=
      fun accepted => inRange ((User.admissible_failed admissible).mp accepted)
    obtain ⟨constraint, ran⟩ := opened.rewrite_refused found _ refused
    refine ⟨constraint, direct, ?_, rfl⟩
    simp [countFailure, UserRepository.incrementFailedAttempts, Program.run_bind, ran]

/-- What the random sources and the clocks must answer for a refresh token to be stored:
an id and a hash that no stored token has, and an end that lies ahead. -/
structure FreshToken (security : Security) (database : Database) (inputs : Inputs) : Prop where
  id : ∀ row ∈ database .refreshTokens, ∀ read, row.id ≠ inputs.uuid4 read
  hash : ∀ row ∈ database .refreshTokens, ∀ read,
    row.tokenHash ≠ security.hashToken (inputs.tokenUrlsafe read)
  lasts : ∀ made ended, inputs.databaseClock made <
    inputs.wallClock ended + security.jwtRefreshTokenExpireDays * microsecondsPerDay

/-- The tokens a login answers, issued in a given state. -/
def tokensFor (security : Security) (direct : Direct) (user : User) : TokenPair where
  accessToken := security.encodeToken {
    subject := user.id
    role := user.role
    universityId := user.universityId
    email := user.email
    jti := direct.inputs.uuid4 (direct.reads + 1)
    issuedAt := direct.inputs.wallClock direct.reads
    expiresAt := direct.inputs.wallClock direct.reads +
      security.jwtAccessTokenExpireMinutes * microsecondsPerMinute }
  tokenType := "bearer"
  refreshToken := direct.inputs.tokenUrlsafe (direct.reads + 2)

/-- The row of the refresh token among them. -/
def refreshTokenRow (security : Security) (direct : Direct) (user : User) (requestIp : String) :
    RefreshToken where
  id := direct.inputs.uuid4 (direct.reads + 4)
  userId := user.id
  tokenHash := security.hashToken (direct.inputs.tokenUrlsafe (direct.reads + 2))
  isRevoked := false
  replacedBy := none
  createdAt := direct.inputs.databaseClock (direct.reads + 5)
  expiresAt := direct.inputs.wallClock (direct.reads + 3) +
    security.jwtRefreshTokenExpireDays * microsecondsPerDay
  revokedAt := none
  createdIp := some requestIp

/-- A fresh token of a request with an address is admissible. -/
theorem admissible_refreshTokenRow
    (fresh : FreshToken security direct.working direct.inputs) (user : User)
    {requestIp : String} (address : Inet.isInetText requestIp = true) :
    @Admissible .refreshTokens (refreshTokenRow security direct user requestIp) := by
  have length (bytes : Bytes32) : (hexText bytes.1).length = 64 := by
    simp [hexText, Hex.encode_length, bytes.2]
  have lasts := fresh.lasts (direct.reads + 5) (direct.reads + 3)
  unfold Admissible
  rw [violation?_eq_none]
  simp [constraints, RefreshToken.constraints, refreshTokenRow, Security.hashToken, lasts, length,
    address]

/-- The tokens are issued and their row is inserted. -/
theorem run_issueTokens (opened : direct.Open)
    (fresh : FreshToken security direct.working direct.inputs) (user : User)
    {requestIp : String} (address : Inet.isInetText requestIp = true) :
    ∃ after, (issueTokens security user requestIp).run directHandler direct =
        (.ok (tokensFor security direct user, refreshTokenRow security direct user requestIp),
          after) ∧
      after.working = (Write.insert .refreshTokens
        (refreshTokenRow security direct user requestIp)).apply direct.working := by
  let asked := direct.read.read.read.read.read.read
  have askedOpen : asked.Open := opened.read.read.read.read.read.read
  have accepted : checkInsert (asked.inputs.today asked.reads) asked.working .refreshTokens
      (refreshTokenRow security direct user requestIp) = .ok () := by
    refine checkInsert_of_free (admissible_refreshTokenRow fresh user address) ?_
    intro row member key isKey sameKey
    have otherId := fresh.id row member (direct.reads + 4)
    have otherHash := fresh.hash row member (direct.reads + 2)
    simp only [uniqueKeys, refreshTokenRow, List.mem_cons, List.not_mem_nil, or_false] at isKey
    rcases isKey with rfl | rfl <;> simp_all [uniqueKeys]
  have created := @BaseRepository.run_create asked askedOpen .refreshTokens
    (refreshTokenRow security direct user requestIp)
  rw [accepted] at created
  refine ⟨asked.write (.insert .refreshTokens (refreshTokenRow security direct user requestIp)),
    ?_, rfl⟩
  simp only [issueTokens, Security.createAccessToken, Security.generateRefreshToken,
    RefreshTokenRepository.create, Program.run_bind, Program.run_perform, Program.run_pure,
    directHandler]
  erw [created]
  rfl

/-- A token is fresh as far as the refresh tokens go. -/
theorem FreshToken.congr {left right : Database} {inputs : Inputs}
    (same : left .refreshTokens = right .refreshTokens)
    (fresh : FreshToken security right inputs) : FreshToken security left inputs :=
  ⟨same ▸ fresh.id, same ▸ fresh.hash, fresh.lasts⟩

/-- The state after the second transaction's UPDATEs. -/
def loggedIn (direct : Direct) (user : User) (requestIp : String) : Direct :=
  (direct.rewritten user [.failedLoginAttempts 0]).read.rewritten user
    [.lastLoginAt (some (direct.inputs.wallClock direct.reads)), .lastLoginIp (some requestIp)]

/-- Recording the login leaves the refresh tokens. -/
theorem loggedIn_refreshTokens (direct : Direct) (user : User) (requestIp : String) :
    (loggedIn direct user requestIp).working .refreshTokens =
      direct.working .refreshTokens := by
  have elsewhere : Table.users ≠ .refreshTokens := by decide
  have apart (assignments : List UserAssignment) :
      (Write.update .users user.id assignments).table ≠ .refreshTokens := elsewhere
  simp only [loggedIn, Direct.rewritten, Direct.working_write, Direct.read,
    Write.apply_of_ne (apart _)]

/-- The second transaction resets the count and notes the login. -/
theorem run_successBlock (opened : direct.Open)
    (found : accountOf direct.working email = some user) (active : user.isActive = true)
    (fresh : FreshToken security direct.working direct.inputs)
    (address : Inet.isInetText requestIp = true) :
    ∃ after, (successBlock security user requestIp).run directHandler direct =
        (.ok (tokensFor security (loggedIn direct user requestIp) user), after) ∧
      accountOf after.working email =
        some (user.afterLogin (direct.inputs.wallClock direct.reads) requestIp) := by
  have foundById := opened.valid.keyed.find?_account found
  have admissible := opened.valid.admissible .users user (Database.find?_some foundById).1
  obtain ⟨resetOpen, reset⟩ := opened.rewrite foundById [.failedLoginAttempts 0]
    (User.admissible_reset admissible)
  have resetFound : accountOf (direct.rewritten user [.failedLoginAttempts 0]).working email =
      some user.reset := accountOf_update found _
  have resetFoundById := resetOpen.valid.keyed.find?_account resetFound
  have stillAdmissible := resetOpen.valid.admissible .users _ (Database.find?_some resetFoundById).1
  obtain ⟨loginOpen, rewrites⟩ := resetOpen.read.rewrite resetFoundById
    [.lastLoginAt (some (direct.inputs.wallClock direct.reads)), .lastLoginIp (some requestIp)]
    ((User.admissible_lastLogin stillAdmissible _ _).mpr address)
  have login : (attempt (.executeUpdate .users user.id
      [.lastLoginAt (some (direct.inputs.wallClock direct.reads)),
        .lastLoginIp (some requestIp)])).run directHandler
      (direct.rewritten user [.failedLoginAttempts 0]).read =
        (.ok (), loggedIn direct user requestIp) := rewrites
  have loginFound : accountOf (loggedIn direct user requestIp).working email =
      some (user.afterLogin (direct.inputs.wallClock direct.reads) requestIp) :=
    accountOf_update resetFound _
  have stillFresh : FreshToken security (loggedIn direct user requestIp).working direct.inputs :=
    fresh.congr (loggedIn_refreshTokens direct user requestIp)
  obtain ⟨after, issued, stored⟩ := @run_issueTokens (loggedIn direct user requestIp)
    security loginOpen stillFresh user _ address
  refine ⟨after, ?_, ?_⟩
  · simp only [successBlock, active, Bool.not_true, Bool.false_eq_true, if_false,
      UserRepository.resetFailedAttempts, UserRepository.updateLastLogin, Program.run_bind, reset,
      Program.run_perform, directHandler, Direct.inputs_rewritten, Direct.reads_rewritten, login,
      issued, Program.run_pure]
  · have elsewhere : Table.refreshTokens ≠ .users := by decide
    rw [stored]
    exact (@accountOf_write_of_ne (.insert .refreshTokens _) elsewhere _ _).trans loginFound

/-- A request from no network address ends the second transaction with the database's error. -/
theorem run_successBlock_refused (opened : direct.Open)
    (found : accountOf direct.working email = some user) (active : user.isActive = true)
    (noAddress : Inet.isInetText requestIp = false) :
    ∃ constraint after, (successBlock security user requestIp).run directHandler direct =
        (.error (.CheckViolation "users" constraint), after) ∧
      after.database = direct.database := by
  have foundById := opened.valid.keyed.find?_account found
  have admissible := opened.valid.admissible .users user (Database.find?_some foundById).1
  obtain ⟨resetOpen, reset⟩ := opened.rewrite foundById [.failedLoginAttempts 0]
    (User.admissible_reset admissible)
  have resetFound : accountOf (direct.rewritten user [.failedLoginAttempts 0]).working email =
      some user.reset := accountOf_update found _
  have resetFoundById := resetOpen.valid.keyed.find?_account resetFound
  have stillAdmissible := resetOpen.valid.admissible .users _ (Database.find?_some resetFoundById).1
  have refused : ¬ @Admissible .users (@assignAll .users user.reset
      [.lastLoginAt (some (direct.inputs.wallClock direct.reads)), .lastLoginIp (some requestIp)]) :=
    fun accepted => by
      rw [(User.admissible_lastLogin stillAdmissible _ _).mp accepted] at noAddress
      cases noAddress
  obtain ⟨constraint, ran⟩ := @Direct.Open.rewrite_refused _ user.reset resetOpen.read
    resetFoundById _ refused
  have login : (attempt (.executeUpdate .users user.id
      [.lastLoginAt (some (direct.inputs.wallClock direct.reads)),
        .lastLoginIp (some requestIp)])).run directHandler
      (direct.rewritten user [.failedLoginAttempts 0]).read =
        (.error (.CheckViolation "users" constraint),
          (direct.rewritten user [.failedLoginAttempts 0]).read) := ran
  refine ⟨constraint, (direct.rewritten user [.failedLoginAttempts 0]).read, ?_, rfl⟩
  simp only [successBlock, active, Bool.not_true, Bool.false_eq_true, if_false,
    UserRepository.resetFailedAttempts, UserRepository.updateLastLogin, Program.run_bind, reset,
    Program.run_perform, directHandler, Direct.inputs_rewritten, Direct.reads_rewritten, login]

variable {store : ValidStore} {inputs : Inputs}

/-- A login without an account changes nothing. -/
theorem run_authenticateUser_absent (absent : accountOf store.database email = none) :
    (authenticateUser security email password requestIp).run directHandler
        (.fresh store.toStore inputs) =
      (.error ErrorClass.InvalidCredentialsError.default,
        (Direct.begun store.toStore inputs).rolledBack) := by
  simp only [authenticateUser, Program.run_bind, run_transaction_fresh,
    run_credentialBlock_absent (Direct.open_begun store inputs) absent]

/-- A login to a locked account changes nothing. -/
theorem run_authenticateUser_locked (found : accountOf store.database email = some user)
    (locked : user.LockedAt (inputs.wallClock 0)) :
    (authenticateUser security email password requestIp).run directHandler
        (.fresh store.toStore inputs) =
      (.error ErrorClass.AccountLockedError.default,
        (Direct.begun store.toStore inputs).read.rolledBack) := by
  simp only [authenticateUser, Program.run_bind, run_transaction_fresh,
    run_credentialBlock_locked (Direct.open_begun store inputs) found locked]

section wrongPassword

variable (found : accountOf store.database email = some user)
  (unlocked : ¬ user.LockedAt (inputs.wallClock 0))
  (wrong : security.verifyPassword password user.passwordHash = false)

include found unlocked wrong

/-- A wrong password is counted and the count is committed before the error is raised. -/
theorem run_authenticateUser_wrong (countable : user.Countable (inputs.wallClock user.lockReads)) :
    ∃ after, (authenticateUser security email password requestIp).run directHandler
        (.fresh store.toStore inputs) =
        (.error ErrorClass.InvalidCredentialsError.default, after) ∧
      accountOf after.database email =
        some (user.afterFailure (inputs.wallClock user.lockReads)) := by
  have opened := Direct.open_begun store inputs
  have seen := opened.lockSeen user
  have foundById := store.valid.keyed.find?_account found
  have sameRead : ((Direct.begun store.toStore inputs).lockSeen user).reads = user.lockReads :=
    Nat.zero_add _
  have counts := run_countFailure seen foundById (sameRead.symm ▸ countable)
  refine ⟨(((Direct.begun store.toStore inputs).lockSeen user).counted user).committed, ?_, ?_⟩
  · simp only [authenticateUser, Program.run_bind, run_transaction_fresh,
      run_credentialBlock_unlocked opened found unlocked, wrong, Bool.false_eq_true, if_false,
      counts]
    simp
  · have counted := @accountOf_counted ((Direct.begun store.toStore inputs).lockSeen user) user
      email found
    rw [sameRead] at counted
    exact counted

/-- What the constraints refuse ends the login with the database's error instead. -/
theorem run_authenticateUser_refused
    (uncountable : ¬ user.Countable (inputs.wallClock user.lockReads)) :
    ∃ constraint after, (authenticateUser security email password requestIp).run directHandler
        (.fresh store.toStore inputs) = (.error (.CheckViolation "users" constraint), after) ∧
      after.database = store.database := by
  have opened := Direct.open_begun store inputs
  have seen := opened.lockSeen user
  have foundById := store.valid.keyed.find?_account found
  have sameRead : ((Direct.begun store.toStore inputs).lockSeen user).reads = user.lockReads :=
    Nat.zero_add _
  obtain ⟨constraint, after, refused, sameDatabase⟩ := run_countFailure_refused seen foundById
    (sameRead.symm ▸ uncountable)
  refine ⟨constraint, after.rolledBack, ?_, sameDatabase⟩
  simp only [authenticateUser, Program.run_bind, run_transaction_fresh,
    run_credentialBlock_unlocked opened found unlocked, wrong, Bool.false_eq_true, if_false,
    refused]

end wrongPassword

/-- The right password of an active account is accepted, from a network address. -/
theorem run_authenticateUser_right (found : accountOf store.database email = some user)
    (unlocked : ¬ user.LockedAt (inputs.wallClock 0))
    (right : security.verifyPassword password user.passwordHash = true)
    (active : user.isActive = true) (fresh : FreshToken security store.database inputs)
    (address : Inet.isInetText requestIp = true) :
    ∃ tokens after, (authenticateUser security email password requestIp).run directHandler
        (.fresh store.toStore inputs) = (.ok (tokens, user), after) ∧
      accountOf after.database email =
        some (user.afterLogin (inputs.wallClock user.lockReads) requestIp) := by
  have opened := Direct.open_begun store inputs
  let checked := ((Direct.begun store.toStore inputs).lockSeen user).committed
  have checkedOpen : checked.touch.Open := ⟨rfl, store.valid⟩
  have sameRead : checked.touch.reads = user.lockReads := Nat.zero_add _
  obtain ⟨after, succeeds, noted⟩ := run_successBlock checkedOpen found active fresh address
  rw [sameRead] at noted
  have closed : checked.inTransaction = false := rfl
  refine ⟨tokensFor security (loggedIn checked.touch user requestIp) user, after.committed, ?_,
    noted⟩
  simp only [authenticateUser, Program.run_bind, run_transaction_fresh,
    run_credentialBlock_unlocked opened found unlocked, right, if_true, Bool.not_true,
    Bool.false_eq_true, if_false]
  rw [run_transaction _ closed, succeeds]
  rfl

/-- The right password from no network address ends in the database's error. -/
theorem run_authenticateUser_unrecorded (found : accountOf store.database email = some user)
    (unlocked : ¬ user.LockedAt (inputs.wallClock 0))
    (right : security.verifyPassword password user.passwordHash = true)
    (active : user.isActive = true) (noAddress : Inet.isInetText requestIp = false) :
    ∃ constraint after, (authenticateUser security email password requestIp).run directHandler
        (.fresh store.toStore inputs) = (.error (.CheckViolation "users" constraint), after) ∧
      after.database = store.database := by
  have opened := Direct.open_begun store inputs
  let checked := ((Direct.begun store.toStore inputs).lockSeen user).committed
  have checkedOpen : checked.touch.Open := ⟨rfl, store.valid⟩
  obtain ⟨constraint, after, refused, sameDatabase⟩ :=
    @run_successBlock_refused _ user security email requestIp checkedOpen found active noAddress
  have closed : checked.inTransaction = false := rfl
  refine ⟨constraint, after.rolledBack, ?_, sameDatabase⟩
  simp only [authenticateUser, Program.run_bind, run_transaction_fresh,
    run_credentialBlock_unlocked opened found unlocked, right, if_true, Bool.not_true,
    Bool.false_eq_true, if_false]
  rw [run_transaction _ closed, refused]

/-- How a login ends, and the store it leaves. -/
def loginOutcome (security : Security) (email password requestIp : String) (store : Store)
    (inputs : Inputs) : Option Exception × Store :=
  let ended := (authenticateUser security email password requestIp).run sessionHandler
    (store, .fresh inputs)
  (raisedBy ended.1, ended.2.1)

/-- The outcome and the committed rows are those of the direct run. -/
theorem loginOutcome_eq (store : ValidStore) (inputs : Inputs) :
    let ended := (authenticateUser security email password requestIp).run directHandler
      (.fresh store.toStore inputs)
    (loginOutcome security email password requestIp store.toStore inputs).1 = raisedBy ended.1 ∧
      (loginOutcome security email password requestIp store.toStore inputs).2.database =
        ended.2.database := by
  obtain ⟨sameOutcome, sameState⟩ := store.run_eq inputs
    (authenticateUser security email password requestIp)
  exact ⟨congrArg raisedBy sameOutcome, congrArg Direct.database sameState⟩

/-- A login keeps the database valid. -/
theorem loginOutcome_valid (store : ValidStore) (inputs : Inputs) :
    (loginOutcome security email password requestIp store.toStore inputs).2.database.Valid :=
  store.run_valid inputs _

end AuthService
end AcademicCredential
