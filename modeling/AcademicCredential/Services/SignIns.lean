import AcademicCredential.Services.Lockout
import AcademicCredential.Services.TokenRows

/-!
# What ends a sign-in

Logins, refreshes, logouts, password changes and deactivations, transaction by transaction in any
order. A login is two transactions: one checks the password, the other stores the refresh token,
for the user as the first one read them; `authenticateUser_store` puts the two together.
`old_signIns_end` says what a change of the password or a deactivation ends, and when: in every
run in which no login stores its token after the password that it checked was changed.
-/

namespace AcademicCredential

open AcademicCredential.Lib
open AcademicCredential.AuthService
open AcademicCredential.UserService

/-- A session between two transactions. -/
def Session.Closed (session : Session) : Prop :=
  session.inTransaction = false ∧ session.pending = []

/-- An operation that depends on the rows that the session has loaded. -/
def Op.loads : {Reply : Type} → Op Reply → Bool
  | _, .select _ _ | _, .flush _ _ _ => true
  | _, _ => false

/-- Without a load a session goes as one that is alone. -/
theorem unloaded_simulates {Reply : Type} (op : Op Reply) (unloaded : op.loads = false)
    (store : Store) (session : Session) :
    (sessionHandler _ op (store, session)).1 = (directHandler _ op (.of store session)).1 ∧
      Direct.of (sessionHandler _ op (store, session)).2.1 (sessionHandler _ op (store, session)).2.2 =
        (directHandler _ op (.of store session)).2 := by
  have updated : ∀ {table : Table} (id : Uuid) (assignments : List (Assignment table)) row,
      (session.updateRow store table id assignments row).1 =
          ((Direct.of store session).updateRow table id assignments row).1 ∧
        Direct.of store (session.updateRow store table id assignments row).2 =
          ((Direct.of store session).updateRow table id assignments row).2 := by
    intro table id assignments row
    cases accepted : checkUpdated (visible store session) table (assignAll row assignments) with
    | error error =>
        simp only [Session.updateRow, Direct.updateRow, Direct.of, accepted]
        exact ⟨trivial, rfl⟩
    | ok _ =>
        simp only [Session.updateRow, Direct.updateRow, Direct.of, accepted]
        exact ⟨trivial, by simp [Direct.write, Session.recordWrite, visible]⟩
  cases op with
  | select | flush => cases unloaded
  | executeUpdate table id assignments =>
      cases found : (visible store session).find? table id with
      | none =>
          simp only [sessionHandler, directHandler, Direct.executeUpdate, Direct.of, found]
          exact ⟨trivial, rfl⟩
      | some row =>
          simp only [sessionHandler, directHandler, Direct.executeUpdate, Direct.of, found]
          exact updated id assignments row
  | insert table row =>
      cases accepted : checkInsert (session.inputs.today session.reads) (visible store session)
          table row with
      | error error =>
          simp only [sessionHandler, directHandler, Direct.insert, Direct.of, accepted]
          exact ⟨trivial, rfl⟩
      | ok _ =>
          simp only [sessionHandler, directHandler, Direct.insert, Direct.of, accepted]
          refine ⟨trivial, ?_⟩
          simp [Direct.write, Session.recordWrite, visible]
  | begin =>
      cases opened : session.inTransaction with
      | true => simp [sessionHandler, directHandler, Direct.of, opened]
      | false =>
          simp only [sessionHandler, directHandler, Direct.of, opened]
          exact ⟨rfl, rfl⟩
  | selectText | count | refresh | commit | rollback | rpc | now | serverNow | monotonic | today
  | uuid4 | tokenUrlsafe | writeFile | fileExists => exact ⟨rfl, rfl⟩

/-- A login after its first transaction, and the turn in which its password was checked. -/
structure PendingLogin where
  session : Session
  user : User
  checkedAt : Nat

/-- When the password of a sign-in was checked, and when its first refresh token was stored. -/
structure SignIn where
  checkedAt : Nat
  obtainedAt : Nat

/-- The refresh token was obtained by the sign-in, or by rotation of a token that was. -/
structure Grant where
  tokenId : Uuid
  signIn : SignIn

/-- A change of the user's password, or their deactivation, and its turn. -/
structure Ending where
  userId : Uuid
  turn : Nat

/-- The store and the logins under way, with a record of what the calls have done. -/
structure AccountsWorld where
  store : Store
  logins : List PendingLogin
  turns : Nat
  grants : List Grant
  passwordChanges : List Ending
  deactivations : List Ending

/-- One transaction. -/
inductive AccountTurn where
  | checkPassword (email password : String) (inputs : Inputs)
  | storeToken (login : Nat) (requestIp : String)
  | refresh (refreshTokenRaw requestIp : String) (inputs : Inputs)
  | logout (refreshTokenRaw : String) (inputs : Inputs)
  | changePassword (userId : Uuid) (oldPassword newPassword : String) (currentUser : User)
      (inputs : Inputs)
  | deactivate (userId : Uuid) (currentUser : User) (inputs : Inputs)

/-- The rows of `after` that `before` has not. -/
def newTokens (before after : Database) : List RefreshToken :=
  (after .refreshTokens).filter fun row => (before .refreshTokens).all fun old => old.id ≠ row.id

/-- The grants behind the tokens of the sign-ins. -/
def grantsOf (signIns : List SignIn) (rows : List RefreshToken) : List Grant :=
  rows.flatMap fun row => signIns.map fun signIn => ⟨row.id, signIn⟩

namespace AccountsWorld

/-- Tokens of the store count as obtained before the first turn. -/
def initial (store : Store) : AccountsWorld where
  store
  logins := []
  turns := 1
  grants := grantsOf [⟨0, 0⟩] (store.database .refreshTokens)
  passwordChanges := []
  deactivations := []

/-- After a transaction that leaves the store, with the new tokens granted to the sign-ins. -/
def after (world : AccountsWorld) (store : Store) (signIns : List SignIn) : AccountsWorld :=
  { world with
    store
    turns := world.turns + 1
    grants := world.grants ++
      grantsOf signIns (newTokens world.store.database store.database) }

/-- The sign-ins that obtained the token with a hash. -/
def signInsOf (world : AccountsWorld) (tokenHash : String) : List SignIn :=
  match (world.store.database .refreshTokens).find? fun row => row.tokenHash = tokenHash with
  | none => []
  | some stored => (world.grants.filter fun grant => grant.tokenId = stored.id).map (·.signIn)

variable (security : Security)

/-- A step of the accounts. -/
def apply (world : AccountsWorld) : AccountTurn → AccountsWorld
  | .checkPassword email password inputs =>
      let ended := (transaction (credentialBlock security email password)).run sessionHandler
        (world.store, .fresh inputs)
      let next := world.after ended.2.1 []
      match ended.1 with
      | .ok (user, true) =>
          { next with logins := next.logins ++ [⟨ended.2.2, user, world.turns⟩] }
      | _ => next
  | .storeToken login requestIp =>
      match world.logins[login]? with
      | none => world.after world.store []
      | some pending =>
          let ended := (transaction (successBlock security pending.user requestIp)).run
            sessionHandler (world.store, pending.session)
          { world.after ended.2.1 [⟨pending.checkedAt, world.turns⟩] with
            logins := world.logins.eraseIdx login }
  | .refresh refreshTokenRaw requestIp inputs =>
      let ended := (refreshAccessToken security refreshTokenRaw requestIp).run sessionHandler
        (world.store, .fresh inputs)
      world.after ended.2.1 (world.signInsOf (security.hashToken refreshTokenRaw))
  | .logout refreshTokenRaw inputs =>
      let ended := (AuthService.logout security refreshTokenRaw).run sessionHandler
        (world.store, .fresh inputs)
      world.after ended.2.1 []
  | .changePassword userId oldPassword newPassword currentUser inputs =>
      let ended := (UserService.changePassword security userId oldPassword newPassword
        currentUser).run sessionHandler (world.store, .fresh inputs)
      let next := world.after ended.2.1 []
      match ended.1 with
      | .ok () =>
          { next with passwordChanges := next.passwordChanges ++ [⟨userId, world.turns⟩] }
      | .error _ => next
  | .deactivate userId currentUser inputs =>
      let ended := (deactivateAccount userId currentUser).run sessionHandler
        (world.store, .fresh inputs)
      let next := world.after ended.2.1 []
      match ended.1 with
      | .ok () => { next with deactivations := next.deactivations ++ [⟨userId, world.turns⟩] }
      | .error _ => next

/-- The password of the user was changed after the sign-in checked it, or the user was deactivated
after it obtained its first token. -/
def Ends (world : AccountsWorld) (userId : Uuid) (signIn : SignIn) : Prop :=
  (∃ change ∈ world.passwordChanges, change.userId = userId ∧ signIn.checkedAt < change.turn) ∨
    ∃ deactivation ∈ world.deactivations, deactivation.userId = userId ∧
      signIn.obtainedAt < deactivation.turn

/-- No token is live that was obtained by a sign-in that has ended, or by rotation. -/
def OldSignInsEnded (world : AccountsWorld) : Prop :=
  ∀ row ∈ world.store.database .refreshTokens, ∀ grant ∈ world.grants, grant.tokenId = row.id →
    world.Ends row.userId grant.signIn → ∀ now, ¬ row.Live now

/-- The turn stores the token of a login whose password was changed since it was checked. -/
def Overtaken (world : AccountsWorld) (turn : AccountTurn) : Prop :=
  ∃ login requestIp pending, turn = .storeToken login requestIp ∧
    world.logins[login]? = some pending ∧ pending.user.isActive = true ∧
    ∃ change ∈ world.passwordChanges, change.userId = pending.user.id ∧
      pending.checkedAt < change.turn

/-- Every grant is of a stored token, and the tokens of sign-ins that have ended are revoked. -/
structure Sound (world : AccountsWorld) : Prop where
  valid : world.store.database.Valid
  logins : ∀ pending ∈ world.logins, pending.session.Closed
  past : ∀ deactivation ∈ world.deactivations, deactivation.turn < world.turns
  stored : ∀ grant ∈ world.grants, ∃ row ∈ world.store.database .refreshTokens,
    row.id = grant.tokenId
  ended : ∀ row ∈ world.store.database .refreshTokens, ∀ grant ∈ world.grants,
    grant.tokenId = row.id → world.Ends row.userId grant.signIn → row.isRevoked = true

/-- The grants are the tokens of the sign-ins. -/
theorem mem_grantsOf {signIns : List SignIn} {rows : List RefreshToken} {grant : Grant} :
    grant ∈ grantsOf signIns rows ↔
      ∃ row ∈ rows, grant.tokenId = row.id ∧ grant.signIn ∈ signIns := by
  simp only [grantsOf, List.mem_flatMap, List.mem_map]
  constructor
  · rintro ⟨row, isRow, signIn, isSignIn, rfl⟩
    exact ⟨row, isRow, rfl, isSignIn⟩
  · rintro ⟨row, isRow, sameId, isSignIn⟩
    refine ⟨row, isRow, grant.signIn, isSignIn, ?_⟩
    rw [← sameId]

/-- A new token is one that was not stored before. -/
theorem mem_newTokens {before after : Database} {row : RefreshToken} :
    row ∈ newTokens before after ↔
      row ∈ after .refreshTokens ∧ ∀ old ∈ before .refreshTokens, old.id ≠ row.id := by
  simp [newTokens]

namespace Sound

variable {world : AccountsWorld}

/-- The accounts are sound before the first step. -/
theorem initial (store : ValidStore) : (initial store.toStore).Sound where
  valid := store.valid
  logins pending member := absurd member List.not_mem_nil
  past deactivation member := absurd member List.not_mem_nil
  stored grant member := by
    obtain ⟨row, isRow, sameId, -⟩ := mem_grantsOf.mp member
    exact ⟨row, isRow, sameId.symm⟩
  ended row _ grant _ _ ends := by
    rcases ends with ⟨change, member, -⟩ | ⟨deactivation, member, -⟩
    · exact absurd member List.not_mem_nil
    · exact absurd member List.not_mem_nil

/-- In a sound world the sign-ins before a change of password have ended. -/
theorem oldSignInsEnded (sound : world.Sound) : world.OldSignInsEnded := by
  intro row isRow grant isGrant sameId ends now live
  have revoked := sound.ended row isRow grant isGrant sameId ends
  exact absurd (revoked.symm.trans live.1) Bool.true_eq_false.mp

/-- A transaction that issues tokens to sign-ins that have not ended keeps the world sound. -/
theorem after (sound : world.Sound) {store : Store} {signIns : List SignIn} {owner : Uuid → Prop}
    (valid : store.database.Valid)
    (tokens : TokensAfter owner world.store.database store.database)
    (under : ∀ signIn ∈ signIns, ∀ userId, owner userId → ¬ world.Ends userId signIn) :
    (world.after store signIns).Sound where
  valid := valid
  logins := sound.logins
  past deactivation member := Nat.lt_succ_of_lt (sound.past deactivation member)
  stored grant member := by
    rcases List.mem_append.mp member with old | new
    · obtain ⟨row, isRow, sameId⟩ := sound.stored grant old
      obtain ⟨later, isLater, since⟩ := tokens.kept row isRow
      exact ⟨later, isLater, since.id.trans sameId⟩
    · obtain ⟨row, isRow, sameId, -⟩ := mem_grantsOf.mp new
      exact ⟨row, (mem_newTokens.mp isRow).1, sameId.symm⟩
  ended row isRow grant member sameId ends := by
    rcases List.mem_append.mp member with old | new
    · obtain ⟨earlier, isEarlier, isToken⟩ := sound.stored grant old
      have since := tokens.later_of_id valid.keyed isRow isEarlier
        (sameId.symm.trans isToken.symm)
      rw [since.userId] at ends
      exact since.isRevoked (sound.ended earlier isEarlier grant old isToken.symm ends)
    · obtain ⟨issued, isIssued, isToken, isSignIn⟩ := mem_grantsOf.mp new
      obtain ⟨isStored, unknown⟩ := mem_newTokens.mp isIssued
      obtain rfl : row = issued :=
        @Database.Keyed.eq_of_rowId _ valid.keyed .refreshTokens _ _ isRow isStored
          (sameId.symm.trans isToken)
      rcases tokens.each row isRow with isOwner | ⟨earlier, isEarlier, since⟩
      · exact absurd ends (under _ isSignIn _ isOwner)
      · exact absurd since.id.symm (unknown earlier isEarlier)

/-- A transaction that issues no token keeps it sound. -/
theorem quiet (sound : world.Sound) {store : Store} (valid : store.database.Valid)
    (tokens : TokensAfter (fun _ => False) world.store.database store.database) :
    (world.after store []).Sound :=
  sound.after valid tokens fun _ member => absurd member List.not_mem_nil

/-- Logins that wait outside a transaction keep the world sound. -/
theorem withLogins (sound : world.Sound) {logins : List PendingLogin}
    (closed : ∀ pending ∈ logins, pending.session.Closed) :
    { world with logins }.Sound :=
  ⟨sound.valid, closed, sound.past, sound.stored, sound.ended⟩

/-- A change of the password, or a deactivation, that leaves no token of the user unrevoked. -/
theorem withEnding (sound : world.Sound) {userId : Uuid} {turn : Nat} (before : turn < world.turns)
    (revoked : ∀ row ∈ world.store.database .refreshTokens, row.userId = userId →
      row.isRevoked = true) {later : AccountsWorld} (sameStore : later.store = world.store)
    (sameLogins : later.logins = world.logins) (sameTurns : later.turns = world.turns)
    (sameGrants : later.grants = world.grants)
    (changes : ∀ change ∈ later.passwordChanges,
      change ∈ world.passwordChanges ∨ change = ⟨userId, turn⟩)
    (deactivations : ∀ deactivation ∈ later.deactivations,
      deactivation ∈ world.deactivations ∨ deactivation = ⟨userId, turn⟩) : later.Sound where
  valid := sameStore ▸ sound.valid
  logins := sameLogins ▸ sound.logins
  past deactivation member := by
    rw [sameTurns]
    rcases deactivations deactivation member with old | rfl
    · exact sound.past deactivation old
    · exact before
  stored := by
    rw [sameStore, sameGrants]
    exact sound.stored
  ended row isRow grant member sameId ends := by
    rw [sameStore] at isRow
    rw [sameGrants] at member
    rcases ends with ⟨change, isChange, ofUser, after⟩ | ⟨deactivation, isEnding, ofUser, after⟩
    · rcases changes change isChange with old | rfl
      · exact sound.ended row isRow grant member sameId (.inl ⟨change, old, ofUser, after⟩)
      · exact revoked row isRow ofUser.symm
    · rcases deactivations deactivation isEnding with old | rfl
      · exact sound.ended row isRow grant member sameId (.inr ⟨deactivation, old, ofUser, after⟩)
      · exact revoked row isRow ofUser.symm

end Sound

section fresh

variable {Value : Type} {body : Action Value} {owner : Uuid → Prop}

/-- The tokens issued by a transaction are fresh. -/
theorem fresh_tokensAfter (issues : body.Every fun _ op => op.Issues owner) (store : ValidStore)
    (inputs : Inputs) :
    TokensAfter owner store.database
      ((transaction body).run sessionHandler (store.toStore, .fresh inputs)).2.1.database := by
  have same := congrArg Direct.database (store.run_eq inputs (transaction body)).2
  have tokens := @transaction_tokensAfter _ _ _ issues (.fresh store.toStore inputs) rfl rfl
  rw [← same] at tokens
  exact tokens

/-- A transaction that returns has committed what its body left. -/
theorem fresh_ok {value : Value} {store : ValidStore} {inputs : Inputs} {after : Store × Session}
    (ran : (transaction body).run sessionHandler (store.toStore, .fresh inputs) =
      (.ok value, after)) :
    ∃ left, body.run directHandler (.begun store.toStore inputs) = (.ok value, left) ∧
      after.1.database = left.working := by
  obtain ⟨sameOutcome, sameState⟩ := store.run_eq inputs (transaction body)
  rw [ran] at sameOutcome sameState
  obtain ⟨left, isLeft, isAfter⟩ := @run_transaction_ok _ _ (.fresh store.toStore inputs) _ _ rfl
    (Prod.ext sameOutcome.symm rfl)
  refine ⟨left, isLeft, ?_⟩
  exact (congrArg Direct.database sameState).trans (congrArg Direct.database isAfter)

/-- A transaction that returns has closed its session. -/
theorem transaction_closes {value : Value} {state after : Store × Session}
    (ran : (transaction body).run sessionHandler state = (.ok value, after)) :
    after.2.Closed := by
  obtain ⟨_, begun, -, rest⟩ := (Program.run_bind_ok sessionHandler).mp ran
  obtain ⟨_, left, -, rest⟩ := (Program.run_bind_ok sessionHandler).mp rest
  obtain ⟨_, ended, commits, rest⟩ := (Program.run_bind_ok sessionHandler).mp rest
  cases rest
  cases commits
  exact ⟨rfl, rfl⟩

end fresh

/-- A program that loads no rows runs as the direct one, whatever the session has loaded before. -/
theorem run_unloaded {Value : Type} {program : Action Value}
    (unloaded : program.Every fun _ op => op.loads = false) (store : Store) (session : Session) :
    let ended := program.run sessionHandler (store, session)
    let direct := program.run directHandler (.of store session)
    ended.1 = direct.1 ∧ Direct.of ended.2.1 ended.2.2 = direct.2 := by
  induction program generalizing store session with
  | ret _ | raise _ => exact ⟨rfl, rfl⟩
  | step op next inductionHypothesis =>
      obtain ⟨sameReply, sameState⟩ := unloaded_simulates op unloaded.1 store session
      have continued := inductionHypothesis (directHandler _ op (.of store session)).1
        (unloaded.2 _) (sessionHandler _ op (store, session)).2.1
        (sessionHandler _ op (store, session)).2.2
      simp only [Program.run]
      rw [sameReply, ← sameState]
      exact continued

/-- The second transaction of a login loads nothing. -/
theorem unloaded_successBlock (security : Security) (user : User) (requestIp : String) :
    (transaction (successBlock security user requestIp)).Every fun _ op => op.loads = false := by
  refine every_transaction ?_ rfl rfl rfl
  unfold successBlock
  split
  · trivial
  refine Program.every_bind (every_attempt rfl) fun _ => ?_
  refine Program.every_bind ?_ fun _ => ?_
  · exact Program.every_bind (Program.every_perform _ |>.mpr rfl) fun now => every_attempt rfl
  refine Program.every_bind ?_ fun tokens => trivial
  refine Program.every_bind ?_ fun accessToken => ?_
  · refine Program.every_bind (Program.every_perform _ |>.mpr rfl) fun now => ?_
    exact Program.every_bind (Program.every_perform _ |>.mpr rfl) fun jti => trivial
  refine Program.every_bind (Program.every_perform _ |>.mpr rfl) fun refreshTokenRaw => ?_
  refine Program.every_bind (Program.every_perform _ |>.mpr rfl) fun now => ?_
  refine Program.every_bind ?_ fun row => trivial
  refine Program.every_bind (Program.every_perform _ |>.mpr rfl) fun id => ?_
  refine Program.every_bind (Program.every_perform _ |>.mpr rfl) fun createdAt => ?_
  refine Program.every_bind (every_attempt rfl) fun _ => ?_
  exact Program.every_bind (Program.every_perform _ |>.mpr rfl) fun _ => trivial

/-- A closed session stores at most tokens of its user, and only if they were active. -/
theorem storeToken_tokensAfter (security : Security) (store : ValidStore) {session : Session}
    (closed : session.Closed) (user : User) (requestIp : String) :
    let database := ((transaction (successBlock security user requestIp)).run sessionHandler
      (store.toStore, session)).2.1.database
    database.Valid ∧ TokensAfter (fun userId => user.isActive = true ∧ userId = user.id)
      store.database database := by
  intro database
  obtain ⟨-, sameState⟩ := run_unloaded (unloaded_successBlock security user requestIp)
    store.toStore session
  have isDatabase : database =
      ((transaction (successBlock security user requestIp)).run directHandler
        (.of store.toStore session)).2.database := congrArg Direct.database sameState
  have settled : visible store.toStore session = store.database := by
    rw [visible, closed.2]
    rfl
  have bothValid : (Direct.of store.toStore session).Valid :=
    ⟨store.valid, by
      change (visible store.toStore session).Valid
      rw [settled]
      exact store.valid⟩
  rw [isDatabase]
  refine ⟨(run_valid _ bothValid).database, ?_⟩
  refine @transaction_tokensAfter _ _ _ ?_ (.of store.toStore session) closed.1 settled
  by_cases active : user.isActive = true
  · exact every_successBlock security ⟨active, rfl⟩ requestIp
  · have refused : successBlock security user requestIp =
        Program.raise ErrorClass.InvalidCredentialsError.default := by
      simp [successBlock, active]
    rw [refused]
    trivial

/-- A refused transaction leaves the refresh tokens. -/
theorem transaction_refused {Value : Type} {body : Action Value} {owner : Uuid → Prop}
    (issues : body.Every fun _ op => op.Issues owner) {store : ValidStore} {inputs : Inputs}
    {after : Store × Session} {error : Exception}
    (ran : (transaction body).run sessionHandler (store.toStore, .fresh inputs) =
      (.error error, after)) : after.1.database = store.database := by
  obtain ⟨sameOutcome, sameState⟩ := store.run_eq inputs (transaction body)
  rw [ran] at sameOutcome sameState
  exact (congrArg Direct.database sameState).trans
    (@transaction_error _ _ _ issues (.fresh store.toStore inputs) _ _ rfl
      (Prod.ext sameOutcome.symm rfl))

namespace Sound

variable {security : Security} {world : AccountsWorld}

/-- A checked password keeps the world sound. -/
theorem checkPassword (sound : world.Sound) (email password : String) (inputs : Inputs) :
    (world.apply security (.checkPassword email password inputs)).Sound := by
  let store : ValidStore := ⟨world.store, sound.valid⟩
  have quiet := sound.quiet
    (store.run_valid inputs (transaction (credentialBlock security email password)))
    (fresh_tokensAfter (every_credentialBlock security email password) store inputs)
  simp only [AccountsWorld.apply]
  split
  · rename_i user returned
    refine quiet.withLogins fun pending member => ?_
    rcases List.mem_append.mp member with old | new
    · exact sound.logins pending old
    · rw [List.mem_singleton.mp new]
      exact transaction_closes (Prod.ext returned rfl)
  · exact quiet

/-- A token stored in order keeps the world sound. -/
theorem storeToken (sound : world.Sound) {login : Nat} {requestIp : String}
    (inOrder : ¬ world.Overtaken (.storeToken login requestIp)) :
    (world.apply security (.storeToken login requestIp)).Sound := by
  simp only [AccountsWorld.apply]
  split
  · exact sound.quiet sound.valid (.of_eq rfl)
  · rename_i pending found
    obtain ⟨valid, tokens⟩ := storeToken_tokensAfter security ⟨world.store, sound.valid⟩
      (sound.logins pending (List.mem_of_getElem? found)) pending.user requestIp
    refine (sound.after valid tokens ?_).withLogins fun other member =>
      sound.logins other (List.mem_of_mem_eraseIdx member)
    rintro signIn isSignIn userId ⟨active, rfl⟩ ends
    obtain rfl := List.mem_singleton.mp isSignIn
    rcases ends with ⟨change, isChange, ofUser, after⟩ | ⟨deactivation, isEnding, -, after⟩
    · exact inOrder ⟨login, requestIp, pending, rfl, found, active, change, isChange, ofUser, after⟩
    · exact absurd (sound.past deactivation isEnding) (Nat.lt_asymm after)

/-- A refreshed token keeps the world sound. -/
theorem refresh (sound : world.Sound) (refreshTokenRaw requestIp : String) (inputs : Inputs) :
    (world.apply security (.refresh refreshTokenRaw requestIp inputs)).Sound := by
  let store : ValidStore := ⟨world.store, sound.valid⟩
  have valid := store.run_valid inputs (refreshAccessToken security refreshTokenRaw requestIp)
  simp only [AccountsWorld.apply]
  rcases ran : (refreshAccessToken security refreshTokenRaw requestIp).run sessionHandler
    (world.store, .fresh inputs) with ⟨error | tokens, after⟩
  · have same := @transaction_refused _ _ _ (every_refreshBlock security refreshTokenRaw requestIp)
      store _ _ _ ran
    refine @Sound.after _ sound _ _ (fun _ => False) ?_ (.of_eq ?_) fun _ _ _ never => never.elim
    · rw [same]
      exact sound.valid
    · rw [same]
  · obtain ⟨left, isLeft, database⟩ := @fresh_ok _ _ _ store _ _ ran
    obtain ⟨stored, found, live, rotates⟩ := refreshBlock_rotates security
      (Direct.open_begun store inputs) isLeft
    have isStored : (world.store.database .refreshTokens).find? (fun row =>
        row.tokenHash = security.hashToken refreshTokenRaw) = some stored := found
    have later : TokensAfter (· = stored.userId) world.store.database after.1.database := by
      rw [database]
      exact rotates
    rw [show (refreshAccessToken security refreshTokenRaw requestIp).run sessionHandler
      (store.toStore, .fresh inputs) = (.ok tokens, after) from ran] at valid
    refine sound.after valid later ?_
    rintro signIn isSignIn userId rfl ends
    simp only [signInsOf, isStored, List.mem_map, List.mem_filter, decide_eq_true_eq] at isSignIn
    obtain ⟨grant, ⟨isGrant, sameId⟩, rfl⟩ := isSignIn
    have revoked := sound.ended stored (List.mem_of_find?_eq_some isStored) grant isGrant sameId ends
    exact absurd (revoked.symm.trans live) Bool.true_eq_false.mp

/-- A transaction that revokes all tokens of a user before it returns. -/
theorem revoking (sound : world.Sound) {userId : Uuid} {body : Action Unit}
    (issues : body.Every fun _ op => op.Issues fun _ => False)
    (revokes : ∀ direct after : Direct, body.run directHandler direct = (.ok (), after) →
      ∀ stored ∈ after.working .refreshTokens, stored.userId = userId → stored.isRevoked = true)
    (inputs : Inputs) :
    let ended := (transaction body).run sessionHandler (world.store, .fresh inputs)
    (world.after ended.2.1 []).Sound ∧ (ended.1 = .ok () →
      ∀ row ∈ ended.2.1.database .refreshTokens, row.userId = userId → row.isRevoked = true) := by
  let store : ValidStore := ⟨world.store, sound.valid⟩
  intro ended
  refine ⟨sound.quiet (store.run_valid inputs (transaction body))
    (fresh_tokensAfter issues store inputs), fun returned => ?_⟩
  obtain ⟨left, isLeft, database⟩ := @fresh_ok _ _ _ store inputs _ (Prod.ext returned rfl)
  intro row isRow ofUser
  have isStored : row ∈ left.working .refreshTokens := by
    rw [← database]
    exact isRow
  exact revokes _ left isLeft row isStored ofUser

/-- A changed password keeps the world sound. -/
theorem changePassword (sound : world.Sound) (userId : Uuid) (oldPassword newPassword : String)
    (currentUser : User) (inputs : Inputs) :
    (world.apply security
      (.changePassword userId oldPassword newPassword currentUser inputs)).Sound := by
  simp only [AccountsWorld.apply, UserService.changePassword]
  by_cases owner : currentUser.id = userId
  · obtain ⟨quiet, revoked⟩ := sound.revoking
      (every_passwordBlock security userId oldPassword newPassword)
      (fun _ _ => passwordBlock_revokes security) inputs
    simp only [owner, ne_eq, not_true_eq_false, if_false]
    split
    · rename_i returned
      refine quiet.withEnding (Nat.lt_succ_self _) (revoked returned) rfl rfl rfl rfl
        (fun change member => ?_) fun deactivation => .inl
      exact (List.mem_append.mp member).imp_right List.mem_singleton.mp
    · exact quiet
  · simp only [owner, ne_eq, not_false_eq_true, if_true]
    exact sound.quiet sound.valid (.of_eq rfl)

/-- A deactivated account keeps the world sound. -/
theorem deactivate (sound : world.Sound) (userId : Uuid) (currentUser : User) (inputs : Inputs) :
    (world.apply security (.deactivate userId currentUser inputs)).Sound := by
  simp only [AccountsWorld.apply, UserService.deactivateAccount]
  by_cases refused : (currentUser.id ≠ userId && currentUser.role ≠ .SUPER_ADMIN) = true
  · simp only [refused, if_true]
    exact sound.quiet sound.valid (.of_eq rfl)
  · obtain ⟨quiet, revoked⟩ := sound.revoking (every_deactivationBlock userId)
      (fun _ _ => deactivationBlock_revokes) inputs
    simp only [refused]
    split
    · rename_i returned
      refine quiet.withEnding (Nat.lt_succ_self _) (revoked returned) rfl rfl rfl rfl
        (fun change => .inl) fun deactivation member => ?_
      exact (List.mem_append.mp member).imp_right List.mem_singleton.mp
    · exact quiet

/-- A turn keeps the world sound unless it stores the token of an overtaken login. -/
theorem apply (sound : world.Sound) {turn : AccountTurn} (inOrder : ¬ world.Overtaken turn) :
    (world.apply security turn).Sound := by
  cases turn with
  | checkPassword email password inputs => exact sound.checkPassword email password inputs
  | storeToken login requestIp => exact sound.storeToken inOrder
  | refresh refreshTokenRaw requestIp inputs => exact sound.refresh refreshTokenRaw requestIp inputs
  | logout refreshTokenRaw inputs =>
      let store : ValidStore := ⟨world.store, sound.valid⟩
      exact sound.quiet (store.run_valid inputs (AuthService.logout security refreshTokenRaw))
        (fresh_tokensAfter (every_logoutBlock security refreshTokenRaw) store inputs)
  | changePassword userId oldPassword newPassword currentUser inputs =>
      exact sound.changePassword userId oldPassword newPassword currentUser inputs
  | deactivate userId currentUser inputs => exact sound.deactivate userId currentUser inputs

end Sound

/-- The world after some turns, from a store at rest. -/
def runFrom (security : Security) (store : Store) (turns : List AccountTurn) : AccountsWorld :=
  stateAfter (AccountsWorld.apply security) (initial store) turns

end AccountsWorld

open AccountsWorld

/-- A login whose two transactions follow each other is `authenticate_user`. -/
theorem authenticateUser_store (security : Security) (store : Store)
    (email password requestIp : String) (inputs : Inputs) :
    (runFrom security store
        [.checkPassword email password inputs, .storeToken 0 requestIp]).store =
      ((authenticateUser security email password requestIp).run sessionHandler
        (store, .fresh inputs)).2.1 := by
  simp only [runFrom, stateAfter, List.foldl_cons, List.foldl_nil, authenticateUser,
    Program.run_bind]
  rcases ran : (transaction (credentialBlock security email password)).run sessionHandler
    (store, .fresh inputs) with ⟨error | ⟨user, passwordOk⟩, after⟩
  · simp only [AccountsWorld.apply, initial, ran]
    rfl
  · cases passwordOk with
    | false =>
        simp only [AccountsWorld.apply, initial, ran]
        rfl
    | true =>
        simp only [AccountsWorld.apply, initial, ran]
        simp only [AccountsWorld.after, List.nil_append, List.getElem?_cons_zero, Bool.not_true,
          Bool.false_eq_true, if_false, Program.run_bind]
        rcases (transaction (successBlock security user requestIp)).run sessionHandler after with
          ⟨_ | _, _⟩ <;> rfl

/-- In every run in which no login stores its token after its password was changed, a change of the
password and a deactivation end the sign-ins before them. -/
theorem old_signIns_end (security : Security) (store : ValidStore) (turns : List AccountTurn)
    (inOrder : ∀ index, ¬ OccursAt (AccountsWorld.apply security) (initial store.toStore) turns
      Overtaken index) :
    (runFrom security store.toStore turns).OldSignInsEnded := by
  have sound : (runFrom security store.toStore turns).Sound :=
    @stateAfter_invariant_of_never _ _ (AccountsWorld.apply security) Sound Overtaken
      (fun _ _ sound inOrder => sound.apply inOrder) _ (.initial store) _ inOrder
  exact sound.oldSignInsEnded

namespace SignIns.Sample

open AcademicCredential.Sample

/-- The text of the hash of another password. -/
def newPassword : String := "$2b$12$N0ZyT7rVq1bQ8mWc5xKd2u4sEoHfGjLpRaYtBiCvDnMwXzUqSeI9k"

/-- The password is checked. -/
def check : AccountTurn := .checkPassword "admin@uni.example" passwordHash (inputs answered)

/-- The password is changed. -/
def change : AccountTurn :=
  .changePassword 2 passwordHash newPassword administrator (inputs answered)

/-- The password is changed between the two transactions of a login. -/
def overtaken : List AccountTurn := [check, change, .storeToken 0 "203.0.113.7"]

/-- The password is changed after the login. -/
def inTime : List AccountTurn := [check, .storeToken 0 "203.0.113.7", change]

end SignIns.Sample

/-- A login that has stored its token is ended by the change. -/
theorem old_signIns_end_inTime :
    (runFrom AcademicCredential.Sample.security Lockout.Sample.accountStore.toStore
      SignIns.Sample.inTime).OldSignInsEnded := by
  refine old_signIns_end AcademicCredential.Sample.security Lockout.Sample.accountStore
    SignIns.Sample.inTime fun index occurred => ?_
  obtain ⟨turn, isTurn, login, requestIp, pending, rfl, -, -, change, isChange, -⟩ := occurred
  have unchanged : (runFrom AcademicCredential.Sample.security
      Lockout.Sample.accountStore.toStore [SignIns.Sample.check]).passwordChanges.length = 0 := by
    decide +kernel
  rcases index with _ | _ | _ | index
  · cases isTurn
  · have member : change ∈ (runFrom AcademicCredential.Sample.security
        Lockout.Sample.accountStore.toStore [SignIns.Sample.check]).passwordChanges := isChange
    rw [List.eq_nil_of_length_eq_zero unchanged] at member
    cases member
  · cases isTurn
  · cases isTurn

/-- The login with the old password leaves a live token. -/
theorem old_signIn_survives :
    ¬ (runFrom AcademicCredential.Sample.security Lockout.Sample.accountStore.toStore
      SignIns.Sample.overtaken).OldSignInsEnded := by
  intro ended
  have live : ∃ row ∈ (runFrom AcademicCredential.Sample.security
      Lockout.Sample.accountStore.toStore SignIns.Sample.overtaken).store.database .refreshTokens,
      ∃ grant ∈ (runFrom AcademicCredential.Sample.security
        Lockout.Sample.accountStore.toStore SignIns.Sample.overtaken).grants,
        ∃ change ∈ (runFrom AcademicCredential.Sample.security
          Lockout.Sample.accountStore.toStore SignIns.Sample.overtaken).passwordChanges,
          grant.tokenId = row.id ∧ change.userId = row.userId ∧
            grant.signIn.checkedAt < change.turn ∧ row.isRevoked = false ∧
              1700000000000000 ≤ row.expiresAt := by
    decide +kernel
  obtain ⟨row, isRow, grant, isGrant, change, isChange, sameId, ofUser, after, live⟩ := live
  exact ended row isRow grant isGrant sameId (.inl ⟨change, isChange, ofUser, after⟩) _ live

end AcademicCredential
