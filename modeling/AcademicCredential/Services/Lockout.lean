import AcademicCredential.Services.LoginRuns
import AcademicCredential.Services.Ownership

/-!
# Account lockout

Whether a login is refused as locked, told from the history of the account's logins. The
count of failures is not reset when a lock runs out, and a successful login leaves the
old lock in place; `Tracks` says how the two columns nevertheless follow the history. A right
password is refused by the database when the request has no network address: the router then
passes the text `unknown`, which the columns of type `INET` do not take.
-/

namespace AcademicCredential

open AcademicCredential.Lib

/-- What is remembered of a login. -/
structure LoginRecord where
  instant : Timestamp
  passwordRight : Bool
  raised : Option Exception

namespace LoginRecord

/-- The login was turned away by the lock. -/
def Rejected (record : LoginRecord) : Prop :=
  record.raised = some ErrorClass.AccountLockedError.default

/-- The login succeeded. -/
def Succeeded (record : LoginRecord) : Prop := record.raised = none

/-- A wrong password that was not itself rejected. -/
def Counted (record : LoginRecord) : Prop := record.passwordRight = false ∧ ¬ record.Rejected

instance (record : LoginRecord) : Decidable record.Succeeded :=
  inferInstanceAs (Decidable (_ = _))

instance (record : LoginRecord) : Decidable record.Counted :=
  inferInstanceAs (Decidable (_ ∧ ¬ (_ = _)))

end LoginRecord

namespace Lockout

/-- How many records of a kind there are since the last successful login. -/
def sinceLogin (kind : LoginRecord → Prop) [DecidablePred kind] (history : List LoginRecord) :
    Nat :=
  history.foldl (fun run record =>
    if record.Succeeded then 0 else if kind record then run + 1 else run) 0

/-- The run of wrong passwords a history ends with. -/
def wrongRun (history : List LoginRecord) : Nat :=
  sinceLogin (fun record => record.passwordRight = false) history

/-- The failures among them that were counted. -/
def countedRun (history : List LoginRecord) : Nat := sinceLogin LoginRecord.Counted history

/-- The latest failure that was not itself rejected is less than ten minutes old and ended
a run of at least five wrong passwords. -/
def LockedOut (history : List LoginRecord) (now : Timestamp) : Prop :=
  ∃ earlier failure later, history = earlier ++ failure :: later ∧ failure.Counted ∧
    (∀ record ∈ later, ¬ record.Counted) ∧
    now < failure.instant + 10 * microsecondsPerMinute ∧
    maxFailedLoginAttempts ≤ wrongRun (earlier ++ [failure])

section histories

variable {history : List LoginRecord} {record : LoginRecord} {now : Timestamp}

/-- A further login adds to the count since the last success, or ends it. -/
theorem sinceLogin_snoc (kind : LoginRecord → Prop) [DecidablePred kind]
    (history : List LoginRecord) (record : LoginRecord) :
    sinceLogin kind (history ++ [record]) =
      if record.Succeeded then 0
      else if kind record then sinceLogin kind history + 1
      else sinceLogin kind history := by
  simp [sinceLogin]

/-- Without a history nothing is locked. -/
theorem not_lockedOut_nil (now : Timestamp) : ¬ LockedOut [] now := by
  rintro ⟨earlier, failure, later, impossible, -⟩
  simp at impossible

/-- A record that is not counted locks and unlocks nothing. -/
theorem lockedOut_snoc_of_not_counted (uncounted : ¬ record.Counted) :
    LockedOut (history ++ [record]) now ↔ LockedOut history now := by
  constructor
  · rintro ⟨earlier, failure, later, split, counted, rest, recent, run⟩
    rcases List.eq_nil_or_concat later with rfl | ⟨later, last, rfl⟩
    · obtain ⟨rfl, last⟩ := List.append_inj' split rfl
      obtain rfl := List.singleton_inj.mp last
      exact absurd counted uncounted
    · rw [List.concat_eq_append, ← List.cons_append, ← List.append_assoc] at split
      obtain ⟨rfl, -⟩ := List.append_inj' split rfl
      refine ⟨earlier, failure, later, rfl, counted, ?_, recent, run⟩
      intro record member
      exact rest record (by simp [member])
  · rintro ⟨earlier, failure, later, rfl, counted, rest, recent, run⟩
    refine ⟨earlier, failure, later ++ [record], by simp, counted, ?_, recent, run⟩
    intro other member
    rcases List.mem_append.mp member with before | isLast
    · exact rest other before
    · obtain rfl := List.mem_singleton.mp isLast
      exact uncounted

/-- A counted record decides on its own whether the account is locked out after it. -/
theorem lockedOut_snoc_of_counted (counted : record.Counted) :
    LockedOut (history ++ [record]) now ↔
      now < record.instant + 10 * microsecondsPerMinute ∧
        maxFailedLoginAttempts ≤ wrongRun (history ++ [record]) := by
  constructor
  · rintro ⟨earlier, failure, later, split, isCounted, rest, recent, run⟩
    rcases List.eq_nil_or_concat later with rfl | ⟨later, last, rfl⟩
    · obtain ⟨rfl, last⟩ := List.append_inj' split rfl
      obtain rfl := List.singleton_inj.mp last
      exact ⟨recent, run⟩
    · rw [List.concat_eq_append, ← List.cons_append, ← List.append_assoc] at split
      obtain ⟨-, last⟩ := List.append_inj' split rfl
      obtain rfl := List.singleton_inj.mp last
      exact absurd counted (rest _ (by simp))
  · rintro ⟨recent, run⟩
    exact ⟨history, record, [], rfl, counted, fun _ none => (List.not_mem_nil none).elim, recent,
      run⟩

/-- No more failures were counted than passwords were wrong. -/
theorem countedRun_le_wrongRun (history : List LoginRecord) :
    countedRun history ≤ wrongRun history := by
  induction history using List.reverseRecOn with
  | nil => exact Nat.le_refl 0
  | append_singleton history record inductionHypothesis =>
      rw [countedRun, wrongRun, sinceLogin_snoc, sinceLogin_snoc]
      by_cases succeeded : record.Succeeded
      · simp [succeeded]
      · rw [if_neg succeeded, if_neg succeeded]
        by_cases counted : record.Counted
        · rw [if_pos counted, if_pos counted.1]
          exact Nat.succ_le_succ inductionHypothesis
        · rw [if_neg counted]
          split
          · exact Nat.le_succ_of_le inductionHypothesis
          · exact inductionHypothesis

end histories

/-- A login that is seen as happening at one instant. -/
structure LoginCall where
  instant : Timestamp
  password : String
  requestIp : String
  /-- What the random sources answer. -/
  answers : Inputs

/-- The inputs of a login. -/
def LoginCall.inputs (call : LoginCall) : Inputs :=
  { call.answers with
    wallClock := fun _ => call.instant
    databaseClock := fun _ => call.instant }

/-- The store, with the history of one account's logins. -/
structure LoginRun where
  store : Store
  history : List LoginRecord

section logins

variable (security : Security) (account : User)

/-- How a call ends, and the store it leaves. -/
def attemptLogin (store : Store) (call : LoginCall) : Option Exception × Store :=
  AuthService.loginOutcome security account.email call.password call.requestIp store call.inputs

/-- What is recorded of a call. -/
def loginRecord (store : Store) (call : LoginCall) : LoginRecord where
  instant := call.instant
  passwordRight := security.verifyPassword call.password account.passwordHash
  raised := (attemptLogin security account store call).1

/-- A login, added to those made so far. -/
def LoginRun.login (run : LoginRun) (call : LoginCall) : LoginRun where
  store := (attemptLogin security account run.store call).2
  history := run.history ++ [loginRecord security account run.store call]

/-- The logins, one after the other. -/
def loginsAfter (store : Store) (calls : List LoginCall) : LoginRun :=
  stateAfter (LoginRun.login security account) { store, history := [] } calls

/-- The call would count one failure more than the column holds. -/
def Overflows (run : LoginRun) (call : LoginCall) : Prop :=
  ∃ user ∈ accountOf run.store.database account.email, ¬ user.LockedAt call.instant ∧
    security.verifyPassword call.password account.passwordHash = false ∧
    2 ^ 15 ≤ user.failedLoginAttempts + 1

instance (run : LoginRun) (call : LoginCall) : Decidable (Overflows security account run call) :=
  inferInstanceAs (Decidable (∃ user ∈ accountOf run.store.database account.email, _))

/-- The random sources answer with the id or the text of a token that is stored already. -/
def RepeatsToken (run : LoginRun) (call : LoginCall) : Prop :=
  ∃ row ∈ run.store.database .refreshTokens, ∃ read, row.id = call.answers.uuid4 read ∨
    row.tokenHash = security.hashToken (call.answers.tokenUrlsafe read)

/-- How one login ends, and the row it leaves, by what the account's row says. -/
inductive LoginEffect (user : User) (call : LoginCall) : Option Exception → User → Prop where
  | rejected (locked : user.LockedAt call.instant) :
      LoginEffect user call (some ErrorClass.AccountLockedError.default) user
  | counted (unlocked : ¬ user.LockedAt call.instant)
      (wrong : security.verifyPassword call.password user.passwordHash = false) :
      LoginEffect user call (some ErrorClass.InvalidCredentialsError.default)
        (user.afterFailure call.instant)
  | accepted (unlocked : ¬ user.LockedAt call.instant)
      (right : security.verifyPassword call.password user.passwordHash = true)
      (address : Inet.isInetText call.requestIp = true) :
      LoginEffect user call none (user.afterLogin call.instant call.requestIp)
  | unrecorded (constraint : String) (unlocked : ¬ user.LockedAt call.instant)
      (right : security.verifyPassword call.password user.passwordHash = true)
      (noAddress : Inet.isInetText call.requestIp = false) :
      LoginEffect user call (some (.CheckViolation "users" constraint)) user

variable {security account}

/-- A login does to the account what its lock and its password say. -/
theorem attemptLogin_effect {store : Store} (valid : store.database.Valid) {call : LoginCall}
    {user : User} (found : accountOf store.database account.email = some user)
    (active : user.isActive = true) (created : user.createdAt ≤ call.instant)
    (lasts : 0 < security.jwtRefreshTokenExpireDays)
    (inRange : ¬ user.LockedAt call.instant →
      security.verifyPassword call.password user.passwordHash = false →
      user.failedLoginAttempts + 1 < 2 ^ 15)
    (fresh : ∀ history, ¬ RepeatsToken security { store, history } call) :
    ∃ after, accountOf (attemptLogin security account store call).2.database account.email =
        some after ∧
      LoginEffect security user call (attemptLogin security account store call).1 after := by
  have same := @AuthService.loginOutcome_eq security account.email call.password call.requestIp
    ⟨store, valid⟩ call.inputs
  rw [attemptLogin, same.1, same.2]
  by_cases locked : user.LockedAt call.instant
  · rw [@AuthService.run_authenticateUser_locked user security _ _ _ ⟨store, valid⟩ call.inputs
      found locked]
    exact ⟨user, found, .rejected locked⟩
  · cases right : security.verifyPassword call.password user.passwordHash with
    | false =>
        have ahead : call.instant < call.instant + 10 * microsecondsPerMinute :=
          Nat.lt_add_of_pos_right (by decide)
        have countable : user.Countable call.instant :=
          ⟨inRange locked right, fun _ => Nat.lt_of_le_of_lt created ahead⟩
        obtain ⟨after, ran, counted⟩ := @AuthService.run_authenticateUser_wrong user security _ _
          call.requestIp
          ⟨store, valid⟩ call.inputs found locked right countable
        rw [ran]
        exact ⟨_, counted, .counted locked right⟩
    | true =>
        have freshToken : AuthService.FreshToken security store.database call.inputs := by
          refine ⟨fun row member read same => ?_, fun row member read same => ?_, fun _ _ => ?_⟩
          · exact fresh [] ⟨row, member, read, .inl same⟩
          · exact fresh [] ⟨row, member, read, .inr same⟩
          · exact Nat.lt_add_of_pos_right (Nat.mul_pos lasts (by decide))
        cases address : Inet.isInetText call.requestIp with
        | true =>
            obtain ⟨tokens, after, ran, noted⟩ := @AuthService.run_authenticateUser_right user
              security _ _ call.requestIp ⟨store, valid⟩ call.inputs found locked right active
              freshToken address
            rw [ran]
            exact ⟨_, noted, .accepted locked right address⟩
        | false =>
            obtain ⟨constraint, after, ran, same⟩ := @AuthService.run_authenticateUser_unrecorded
              user security _ _ call.requestIp ⟨store, valid⟩ call.inputs found locked right active
              address
            rw [ran, same]
            exact ⟨user, found, .unrecorded constraint locked right address⟩

section effects

variable {user after : User} {call : LoginCall} {raised : Option Exception}

/-- A login is turned away by the lock exactly when the account is locked. -/
theorem LoginEffect.rejected_iff (effect : LoginEffect security user call raised after) :
    raised = some ErrorClass.AccountLockedError.default ↔ user.LockedAt call.instant := by
  cases effect with
  | rejected locked => exact iff_of_true rfl locked
  | counted unlocked _ => exact iff_of_false (by decide) unlocked
  | accepted unlocked _ _ => exact iff_of_false (by decide) unlocked
  | unrecorded _ unlocked _ _ => exact iff_of_false (fun same => by cases same) unlocked

/-- A login to an open account succeeds with the right password and an address for the request. -/
theorem LoginEffect.succeeded_iff (effect : LoginEffect security user call raised after)
    (unlocked : ¬ user.LockedAt call.instant) :
    raised = none ↔ security.verifyPassword call.password user.passwordHash = true ∧
      Inet.isInetText call.requestIp = true := by
  cases effect with
  | rejected locked => exact absurd locked unlocked
  | counted _ wrong => exact iff_of_false (by decide) (by simp [wrong])
  | accepted _ right address => exact iff_of_true rfl ⟨right, address⟩
  | unrecorded _ _ _ noAddress => exact iff_of_false (by simp) (by simp [noAddress])

/-- A wrong password that is not rejected raises and is in the row that is committed. -/
theorem LoginEffect.counts (effect : LoginEffect security user call raised after)
    (wrong : security.verifyPassword call.password user.passwordHash = false)
    (notRejected : raised ≠ some ErrorClass.AccountLockedError.default) :
    raised ≠ none ∧ after.failedLoginAttempts = user.failedLoginAttempts + 1 := by
  cases effect with
  | rejected _ => exact absurd rfl notRejected
  | counted _ _ => exact ⟨by decide, user.failedLoginAttempts_afterFailure call.instant⟩
  | accepted _ right _ | unrecorded _ _ right _ =>
      rw [wrong] at right
      cases right

end effects

/-- How the account's row follows the history of its logins. -/
structure Tracks (account : User) (history : List LoginRecord) (user : User) : Prop where
  passwordHash : user.passwordHash = account.passwordHash
  isActive : user.isActive = account.isActive
  createdAt : user.createdAt = account.createdAt
  attempts : user.failedLoginAttempts = countedRun history
  /-- The lock tells the history, from the instant of the latest login on. -/
  lock : ∀ now, (∀ record ∈ history, record.instant ≤ now) →
    (user.LockedAt now ↔ LockedOut history now)
  /-- While it lasts, the failures that set it are still counted. -/
  held : ∀ now, (∀ record ∈ history, record.instant ≤ now) → user.LockedAt now →
    maxFailedLoginAttempts ≤ countedRun history
  /-- A rejected failure is in the run only once five others were counted. -/
  run : wrongRun history = countedRun history ∨ maxFailedLoginAttempts ≤ countedRun history

/-- A login keeps the account and its history in step. -/
theorem LoginEffect.tracks {history : List LoginRecord} {user after : User} {call : LoginCall}
    {raised : Option Exception} (effect : LoginEffect security user call raised after)
    (tracks : Tracks account history user)
    (ordered : ∀ record ∈ history, record.instant ≤ call.instant) :
    let record : LoginRecord :=
      { instant := call.instant
        passwordRight := security.verifyPassword call.password account.passwordHash
        raised }
    Tracks account (history ++ [record]) after := by
  intro record
  obtain ⟨passwordHash, isActive, createdAt, attempts, lock, held, run⟩ := tracks
  have before {now : Timestamp} (upTo : ∀ other ∈ history ++ [record], other.instant ≤ now) :
      (∀ other ∈ history, other.instant ≤ now) ∧ call.instant ≤ now :=
    ⟨fun other member => upTo other (List.mem_append_left _ member),
      upTo record (List.mem_append_right _ (List.mem_singleton_self _))⟩
  have neverAgain {now : Timestamp} (unlocked : ¬ user.LockedAt call.instant)
      (later : call.instant ≤ now) : ¬ user.LockedAt now :=
    fun locked => unlocked (locked.earlier later)
  cases effect with
  | rejected locked =>
      have uncounted : ¬ record.Counted := fun counted => counted.2 rfl
      have notSucceeded : ¬ record.Succeeded := fun succeeded => by cases succeeded
      have sameCount : countedRun (history ++ [record]) = countedRun history := by
        rw [countedRun, sinceLogin_snoc, if_neg notSucceeded, if_neg uncounted, countedRun]
      refine ⟨passwordHash, isActive, createdAt, sameCount ▸ attempts, ?_, ?_, ?_⟩
      · intro now upTo
        rw [lockedOut_snoc_of_not_counted uncounted]
        exact lock now (before upTo).1
      · intro now upTo
        rw [sameCount]
        exact held now (before upTo).1
      · exact .inr (sameCount ▸ held call.instant ordered locked)
  | counted unlocked wrong =>
      rw [passwordHash] at wrong
      have isWrong : record.passwordRight = false := wrong
      have counted : record.Counted := ⟨isWrong, fun rejected => by cases rejected⟩
      have notSucceeded : ¬ record.Succeeded := fun succeeded => by cases succeeded
      have oneMore : countedRun (history ++ [record]) = countedRun history + 1 := by
        rw [countedRun, sinceLogin_snoc, if_neg notSucceeded, if_pos counted, countedRun]
      have oneMoreWrong : wrongRun (history ++ [record]) = wrongRun history + 1 := by
        rw [wrongRun, sinceLogin_snoc, if_neg notSucceeded, if_pos isWrong, wrongRun]
      have enough : maxFailedLoginAttempts ≤ wrongRun history + 1 ↔
          maxFailedLoginAttempts ≤ countedRun history + 1 := by
        have atMost := countedRun_le_wrongRun history
        rcases run with same | five
        · rw [same]
        · omega
      have newLock {now : Timestamp} (upTo : ∀ other ∈ history ++ [record], other.instant ≤ now) :
          (user.afterFailure call.instant).LockedAt now ↔
            now < call.instant + 10 * microsecondsPerMinute ∧
              maxFailedLoginAttempts ≤ countedRun history + 1 := by
        rw [User.lockedAt_afterFailure (neverAgain unlocked (before upTo).2), attempts]
      refine ⟨?_, ?_, ?_, ?_, ?_, ?_, ?_⟩
      · rw [User.passwordHash_afterFailure, passwordHash]
      · rw [User.isActive_afterFailure, isActive]
      · rw [User.createdAt_afterFailure, createdAt]
      · rw [User.failedLoginAttempts_afterFailure, oneMore, attempts]
      · intro now upTo
        rw [newLock upTo, lockedOut_snoc_of_counted counted, oneMoreWrong, enough]
      · intro now upTo locked
        rw [oneMore]
        exact ((newLock upTo).mp locked).2
      · rw [oneMore, oneMoreWrong]
        exact run.imp (congrArg (· + 1)) Nat.le_succ_of_le
  | unrecorded constraint unlocked right noAddress =>
      rw [passwordHash] at right
      have isRight : record.passwordRight = true := right
      have uncounted : ¬ record.Counted := fun counted => by
        rw [counted.1] at isRight
        cases isRight
      have notSucceeded : ¬ record.Succeeded := fun succeeded => by cases succeeded
      have sameCount : countedRun (history ++ [record]) = countedRun history := by
        rw [countedRun, sinceLogin_snoc, if_neg notSucceeded, if_neg uncounted, countedRun]
      have sameWrong : wrongRun (history ++ [record]) = wrongRun history := by
        rw [wrongRun, sinceLogin_snoc, if_neg notSucceeded, if_neg (by simp [isRight]), wrongRun]
      refine ⟨passwordHash, isActive, createdAt, sameCount ▸ attempts, ?_, ?_, ?_⟩
      · intro now upTo
        rw [lockedOut_snoc_of_not_counted uncounted]
        exact lock now (before upTo).1
      · intro now upTo
        rw [sameCount]
        exact held now (before upTo).1
      · rw [sameCount, sameWrong]
        exact run
  | accepted unlocked right address =>
      rw [passwordHash] at right
      have isRight : record.passwordRight = true := right
      have uncounted : ¬ record.Counted := fun counted => by
        rw [counted.1] at isRight
        cases isRight
      have reset (kind : LoginRecord → Prop) [DecidablePred kind] :
          sinceLogin kind (history ++ [record]) = 0 := by
        rw [sinceLogin_snoc, if_pos (show record.Succeeded from rfl)]
      refine ⟨passwordHash, isActive, createdAt, (reset _).symm, ?_, ?_, .inl ?_⟩
      · intro now upTo
        rw [lockedOut_snoc_of_not_counted uncounted]
        exact lock now (before upTo).1
      · intro now upTo locked
        exact absurd locked (neverAgain unlocked (before upTo).2)
      · rw [wrongRun, countedRun, reset, reset]

variable (security account) in
/-- Calls at nondecreasing instants on an account that exists, with a counter that stays in
its column's range and random sources that do not repeat a stored token. -/
structure Orderly (store : Store) (calls : List LoginCall) : Prop where
  ordered : (calls.map LoginCall.instant).Pairwise (· ≤ ·)
  created : ∀ call ∈ calls, account.createdAt ≤ call.instant
  inRange : ∀ index, ¬ OccursAt (LoginRun.login security account) { store, history := [] } calls
    (Overflows security account) index
  fresh : ∀ index, ¬ OccursAt (LoginRun.login security account) { store, history := [] } calls
    (RepeatsToken security) index

/-- The logins before the last are in order as well. -/
theorem Orderly.before {store : Store} {calls : List LoginCall} {call : LoginCall}
    (orderly : Orderly security account store (calls ++ [call])) :
    Orderly security account store calls := by
  obtain ⟨ordered, created, inRange, fresh⟩ := orderly
  rw [List.map_append, List.pairwise_append] at ordered
  refine ⟨ordered.1, fun other member => created other (List.mem_append_left _ member), ?_, ?_⟩
  · exact fun index occurred => inRange index ((occursAt_snoc ..).mpr (.inl occurred))
  · exact fun index occurred => fresh index ((occursAt_snoc ..).mpr (.inl occurred))

/-- The records of a run bear the instants of its calls. -/
theorem instants_loginsAfter (store : Store) (calls : List LoginCall) :
    (loginsAfter security account store calls).history.map LoginRecord.instant =
      calls.map LoginCall.instant := by
  induction calls using List.reverseRecOn with
  | nil => rfl
  | append_singleton calls call inductionHypothesis =>
      rw [loginsAfter, stateAfter_snoc, List.map_append, ← inductionHypothesis]
      simp [LoginRun.login, loginsAfter, loginRecord]

/-- No earlier call of orderly calls happened after the last one. -/
theorem Orderly.upTo {store : Store} {calls : List LoginCall} {call : LoginCall}
    (orderly : Orderly security account store (calls ++ [call])) :
    ∀ record ∈ (loginsAfter security account store calls).history,
      record.instant ≤ call.instant := by
  intro record member
  have instants := orderly.ordered
  rw [List.map_append, List.pairwise_append] at instants
  refine instants.2.2 record.instant ?_ call.instant (by simp)
  rw [← instants_loginsAfter store calls]
  exact List.mem_map_of_mem member

/-- What the last of orderly calls does to an account whose history its row tracks. -/
theorem Orderly.last_effect {store : Store} {calls : List LoginCall} {call : LoginCall}
    {user : User} (orderly : Orderly security account store (calls ++ [call]))
    (lasts : 0 < security.jwtRefreshTokenExpireDays) (active : account.isActive = true)
    (valid : (loginsAfter security account store calls).store.database.Valid)
    (found : accountOf (loginsAfter security account store calls).store.database account.email =
      some user)
    (tracks : Tracks account (loginsAfter security account store calls).history user) :
    ∃ after, accountOf (loginsAfter security account store (calls ++ [call])).store.database
          account.email = some after ∧
      LoginEffect security user call (attemptLogin security account
        (loginsAfter security account store calls).store call).1 after ∧
      Tracks account (loginsAfter security account store (calls ++ [call])).history after := by
  have isLast : ∀ {occurs : LoginRun → LoginCall → Prop},
      (∀ index, ¬ OccursAt (LoginRun.login security account) { store, history := [] }
        (calls ++ [call]) occurs index) →
      ¬ occurs (loginsAfter security account store calls) call :=
    fun never occurs => never calls.length ((occursAt_snoc ..).mpr (.inr ⟨rfl, occurs⟩))
  have created : user.createdAt ≤ call.instant :=
    tracks.createdAt.symm ▸ orderly.created call (by simp)
  have inRange : ¬ user.LockedAt call.instant →
      security.verifyPassword call.password user.passwordHash = false →
      user.failedLoginAttempts + 1 < 2 ^ 15 := by
    intro unlocked wrong
    by_contra beyond
    rw [tracks.passwordHash] at wrong
    exact isLast orderly.inRange ⟨user, found, unlocked, wrong, Nat.le_of_not_lt beyond⟩
  have fresh : ∀ history, ¬ RepeatsToken security
      { store := (loginsAfter security account store calls).store, history } call :=
    fun _ repeats => isLast orderly.fresh repeats
  obtain ⟨after, stored, effect⟩ := attemptLogin_effect valid found
    (tracks.isActive.trans active) created lasts inRange fresh
  refine ⟨after, ?_, effect, ?_⟩
  · rw [loginsAfter, stateAfter_snoc]
    exact stored
  · rw [loginsAfter, stateAfter_snoc]
    exact effect.tracks tracks orderly.upTo

/-- An account without failures is in step with an empty history. -/
theorem Tracks.initial (noFailures : account.failedLoginAttempts = 0)
    (noLock : account.lockedUntil = none) : Tracks account [] account := by
  have unlocked (now : Timestamp) : ¬ account.LockedAt now := by
    rintro ⟨lockedUntil, isLock, -⟩
    rw [noLock] at isLock
    cases isLock
  refine ⟨rfl, rfl, rfl, noFailures, ?_, ?_, .inl rfl⟩
  · exact fun now _ => iff_of_false (unlocked now) (not_lockedOut_nil now)
  · exact fun now _ locked => absurd locked (unlocked now)

/-- A stored row is the account of its email. -/
theorem accountOf_of_mem {database : Database} (valid : database.Valid)
    (registered : account ∈ database .users) :
    accountOf database account.email = some account := by
  cases found : accountOf database account.email with
  | none =>
      have absent := List.find?_eq_none.mp found account registered
      simp at absent
  | some other =>
      obtain ⟨isUser, sameEmail⟩ := accountOf_some found
      by_contra different
      have apart := @Database.Valid.apart_of_ne database valid .users _ _ isUser registered
        fun same => different (congrArg some same)
      refine apart ⟨"email", .text other.email⟩ ?_ ?_ <;> simp [uniqueKeys, sameEmail]

/-- After every orderly run the account's row tracks its history. -/
theorem loginsAfter_tracks {store : ValidStore} (registered : account ∈ store.database .users)
    (active : account.isActive = true) (noFailures : account.failedLoginAttempts = 0)
    (noLock : account.lockedUntil = none) (lasts : 0 < security.jwtRefreshTokenExpireDays)
    {calls : List LoginCall} (orderly : Orderly security account store.toStore calls) :
    (loginsAfter security account store.toStore calls).store.database.Valid ∧
      ∃ user, accountOf (loginsAfter security account store.toStore calls).store.database
          account.email = some user ∧
        Tracks account (loginsAfter security account store.toStore calls).history user := by
  induction calls using List.reverseRecOn with
  | nil => exact ⟨store.valid, account, accountOf_of_mem store.valid registered,
      .initial noFailures noLock⟩
  | append_singleton calls call inductionHypothesis =>
      obtain ⟨valid, user, found, tracks⟩ := inductionHypothesis orderly.before
      obtain ⟨after, stored, -, stillTracks⟩ := orderly.last_effect lasts active valid found tracks
      refine ⟨?_, after, stored, stillTracks⟩
      rw [loginsAfter, stateAfter_snoc]
      exact AuthService.loginOutcome_valid ⟨_, valid⟩ call.inputs

variable (security account) in
/-- The history tells how a call ends: it is rejected as locked exactly when the history locks the
account out, otherwise it succeeds exactly when the password is right, and a failure that counts
is committed although the call raises. -/
structure ToldByHistory (before : LoginRun) (call : LoginCall) : Prop where
  rejected : (loginRecord security account before.store call).Rejected ↔
    LockedOut before.history call.instant
  succeeded : ¬ LockedOut before.history call.instant →
    ((loginRecord security account before.store call).Succeeded ↔
      security.verifyPassword call.password account.passwordHash = true)
  raises : (loginRecord security account before.store call).Counted →
    ¬ (loginRecord security account before.store call).Succeeded
  durable : (loginRecord security account before.store call).Counted →
    ∃ old ∈ accountOf before.store.database account.email,
      ∃ new ∈ accountOf (before.login security account call).store.database account.email,
        new.failedLoginAttempts = old.failedLoginAttempts + 1
  kept : ∃ new ∈ accountOf (before.login security account call).store.database account.email,
    new.failedLoginAttempts = countedRun (before.login security account call).history

/-- In every run of logins on a new, active account the history tells how a call ends, exactly when
the right password of an account that is not locked out comes from a network address. -/
theorem told_by_history_iff (security : Security) (store : ValidStore) (account : User)
    (registered : account ∈ store.database .users) (active : account.isActive = true)
    (noFailures : account.failedLoginAttempts = 0) (noLock : account.lockedUntil = none)
    (lasts : 0 < security.jwtRefreshTokenExpireDays) (calls : List LoginCall) (call : LoginCall)
    (orderly : Orderly security account store.toStore (calls ++ [call])) :
    ToldByHistory security account (loginsAfter security account store.toStore calls) call ↔
      (¬ LockedOut (loginsAfter security account store.toStore calls).history call.instant →
        security.verifyPassword call.password account.passwordHash = true →
          Inet.isInetText call.requestIp = true) := by
  obtain ⟨valid, user, found, tracks⟩ := loginsAfter_tracks registered active noFailures noLock
    lasts orderly.before
  obtain ⟨row, stored, effect, stillTracks⟩ := orderly.last_effect lasts active valid found tracks
  have sameLock := tracks.lock call.instant orderly.upTo
  have succeeds := effect.succeeded_iff
  rw [sameLock, tracks.passwordHash] at succeeds
  have isLast : loginsAfter security account store.toStore (calls ++ [call]) =
      (loginsAfter security account store.toStore calls).login security account call := by
    rw [loginsAfter, stateAfter_snoc]
    rfl
  rw [isLast] at stored stillTracks
  constructor
  · intro told unlocked right
    exact ((succeeds unlocked).mp ((told.succeeded unlocked).mpr right)).2
  · intro fromAddress
    refine ⟨effect.rejected_iff.trans sameLock, fun unlocked => (succeeds unlocked).trans
      ⟨And.left, fun right => ⟨right, fromAddress unlocked right⟩⟩, ?_, ?_, row, stored,
        stillTracks.attempts⟩
    all_goals
      rintro ⟨wrong, notRejected⟩
      have isWrong : security.verifyPassword call.password user.passwordHash = false :=
        tracks.passwordHash.symm ▸ wrong
      obtain ⟨raises, oneMore⟩ := effect.counts isWrong notRejected
    · exact raises
    · exact ⟨user, found, row, stored, oneMore⟩

end logins

namespace Sample

open AcademicCredential.Sample

/-- A login of the sample administrator, whose password is the text of the stored hash. -/
def loginCall (instant : Timestamp) (password : String) : LoginCall where
  instant
  password
  requestIp := "203.0.113.7"
  answers := inputs answered

/-- Five guesses within five minutes. -/
def guesses : List LoginCall := [1, 2, 3, 4, 5].map fun minute =>
  loginCall (minute * microsecondsPerMinute) "guess"

/-- The right password, a minute after the last guess. -/
def rightPassword : LoginCall := loginCall (6 * microsecondsPerMinute) passwordHash

/-- The right password of a request without a client. -/
def unknownClient : LoginCall :=
  { loginCall microsecondsPerMinute passwordHash with requestIp := "unknown" }

/-- A store with the account of the administrator. -/
def accountStore : ValidStore where
  database := accounts
  chain := .deployed deployer
  files := []
  valid := valid_accounts

/-- No guess comes near the range of the counter, and no token is stored. -/
theorem guesses_facts : ∀ index < 6, ∀ call ∈ (guesses ++ [rightPassword])[index]?,
    ¬ Overflows security administrator
        (loginsAfter security administrator accountStore.toStore
          ((guesses ++ [rightPassword]).take index)) call ∧
      (loginsAfter security administrator accountStore.toStore
        ((guesses ++ [rightPassword]).take index)).store.database .refreshTokens = [] := by
  decide +kernel

/-- The guesses and the right password are in order. -/
theorem guesses_orderly :
    Orderly security administrator accountStore.toStore (guesses ++ [rightPassword]) := by
  refine ⟨by decide, by decide, ?_, ?_⟩
  · intro index occurred
    have bound := occurred.lt_length
    obtain ⟨call, isCall, overflows⟩ := occurred
    exact (guesses_facts index bound call isCall).1 overflows
  · intro index occurred
    have bound := occurred.lt_length
    obtain ⟨call, isCall, row, member, -⟩ := occurred
    have none := (guesses_facts index bound call isCall).2
    rw [loginsAfter] at none
    rw [none] at member
    cases member

end Sample

/-- The history tells how the right password after five guesses ends. -/
theorem told_by_history_guesses :
    ToldByHistory AcademicCredential.Sample.security AcademicCredential.Sample.administrator
      (loginsAfter AcademicCredential.Sample.security AcademicCredential.Sample.administrator
        Sample.accountStore.toStore Sample.guesses) Sample.rightPassword :=
  (told_by_history_iff AcademicCredential.Sample.security Sample.accountStore
    AcademicCredential.Sample.administrator (by decide) rfl rfl rfl (by decide) Sample.guesses
    Sample.rightPassword Sample.guesses_orderly).mpr fun _ _ => by decide

/-- A right password with the text that the router passes when the request has no client: nothing
locks the account out, and the login raises. -/
theorem unknown_client_refused :
    ¬ LockedOut (loginsAfter AcademicCredential.Sample.security
        AcademicCredential.Sample.administrator Sample.accountStore.toStore []).history
        Sample.unknownClient.instant ∧
      AcademicCredential.Sample.security.verifyPassword Sample.unknownClient.password
        AcademicCredential.Sample.administrator.passwordHash = true ∧
      ¬ ToldByHistory AcademicCredential.Sample.security AcademicCredential.Sample.administrator
        (loginsAfter AcademicCredential.Sample.security AcademicCredential.Sample.administrator
          Sample.accountStore.toStore []) Sample.unknownClient := by
  have unlocked := not_lockedOut_nil Sample.unknownClient.instant
  have right : AcademicCredential.Sample.security.verifyPassword Sample.unknownClient.password
      AcademicCredential.Sample.administrator.passwordHash = true := by decide +kernel
  have fails : ¬ (loginRecord AcademicCredential.Sample.security
      AcademicCredential.Sample.administrator Sample.accountStore.toStore
        Sample.unknownClient).Succeeded := by decide +kernel
  exact ⟨unlocked, right, fun told => fails ((told.succeeded unlocked).mpr right)⟩

end Lockout
end AcademicCredential
