import AcademicCredential.Footprints
import AcademicCredential.Services.LoginRuns

/-!
# The rows of refresh tokens

What the calls that write `refresh_tokens` make of its rows: a row keeps its id and its user, one
that is revoked stays revoked, and a new one belongs to the user that it was issued to.
-/

namespace AcademicCredential

open AcademicCredential.Lib

namespace RefreshToken

/-- The token can be exchanged for another one. -/
def Live (row : RefreshToken) (now : Timestamp) : Prop :=
  row.isRevoked = false ∧ now ≤ row.expiresAt

/-- The row of the same token, with what was written since. -/
structure Later (later row : RefreshToken) : Prop where
  id : later.id = row.id
  userId : later.userId = row.userId
  isRevoked : row.isRevoked = true → later.isRevoked = true

/-- A row is later than itself. -/
theorem Later.refl (row : RefreshToken) : row.Later row := ⟨rfl, rfl, fun revoked => revoked⟩

/-- What is later than a later row is later. -/
theorem Later.trans {last middle row : RefreshToken} (later : last.Later middle)
    (earlier : middle.Later row) : last.Later row :=
  ⟨later.id.trans earlier.id, later.userId.trans earlier.userId,
    fun revoked => later.isRevoked (earlier.isRevoked revoked)⟩

/-- The assignments of an UPDATE that revokes. -/
structure Revokes (assignments : List RefreshTokenAssignment) : Prop where
  revokes : .isRevoked true ∈ assignments
  onlyRevokes : .isRevoked false ∉ assignments

/-- An update that gives nothing back leaves a later row. -/
theorem later_assignAll {assignments : List RefreshTokenAssignment}
    (revokes : .isRevoked false ∉ assignments) (row : RefreshToken) :
    RefreshToken.Later (@assignAll .refreshTokens row assignments) row := by
  induction assignments generalizing row with
  | nil => exact .refl row
  | cons first rest inductionHypothesis =>
      have restRevokes := fun member => revokes (List.mem_cons_of_mem first member)
      refine (inductionHypothesis restRevokes (first.assign row)).trans ?_
      cases first with
      | isRevoked value =>
          cases value with
          | false => exact absurd List.mem_cons_self revokes
          | true => exact ⟨rfl, rfl, fun _ => rfl⟩
      | revokedAt _ | replacedBy _ => exact ⟨rfl, rfl, fun revoked => revoked⟩

/-- A revoking update leaves the row revoked. -/
theorem Revokes.isRevoked {assignments : List RefreshTokenAssignment} (revokes : Revokes assignments)
    (row : RefreshToken) : (@assignAll .refreshTokens row assignments : RefreshToken).isRevoked =
    true := by
  obtain ⟨isSet, onlyRevokes⟩ := revokes
  induction assignments generalizing row with
  | nil => exact absurd isSet List.not_mem_nil
  | cons first rest inductionHypothesis =>
      have restRevokes := fun member => onlyRevokes (List.mem_cons_of_mem first member)
      rcases List.mem_cons.mp isSet with rfl | inRest
      · exact (later_assignAll restRevokes _).isRevoked rfl
      · exact inductionHypothesis (first.assign row) inRest restRevokes

end RefreshToken

/-- The tokens of a later database are those of the earlier one and new ones of `owner`. -/
structure TokensAfter (owner : Uuid → Prop) (before after : Database) : Prop where
  kept : ∀ row ∈ before .refreshTokens, ∃ later ∈ after .refreshTokens, later.Later row
  each : ∀ row ∈ after .refreshTokens,
    owner row.userId ∨ ∃ earlier ∈ before .refreshTokens, row.Later earlier

namespace TokensAfter

variable {owner : Uuid → Prop} {first middle last : Database}

/-- Tokens that stay as they are come after themselves. -/
theorem of_eq (same : last .refreshTokens = first .refreshTokens) :
    TokensAfter owner first last := by
  constructor
  · exact fun row member => ⟨row, same ▸ member, .refl row⟩
  · exact fun row member => .inr ⟨row, same ▸ member, .refl row⟩

/-- What comes after what came after comes after. -/
theorem trans (earlier : TokensAfter owner first middle) (later : TokensAfter owner middle last) :
    TokensAfter owner first last := by
  constructor
  · intro row member
    obtain ⟨between, isBetween, since⟩ := earlier.kept row member
    obtain ⟨final, isFinal, after⟩ := later.kept between isBetween
    exact ⟨final, isFinal, after.trans since⟩
  · intro row member
    rcases later.each row member with issued | ⟨between, isBetween, since⟩
    · exact .inl issued
    · rcases earlier.each between isBetween with issued | ⟨old, isOld, before⟩
      · exact .inl (since.userId ▸ issued)
      · exact .inr ⟨old, isOld, since.trans before⟩

/-- With keys, the row that keeps a token's id is the later row of that token. -/
theorem later_of_id (tokens : TokensAfter owner first last) (keyed : last.Keyed)
    {row earlier : RefreshToken} (member : row ∈ last .refreshTokens)
    (isEarlier : earlier ∈ first .refreshTokens) (sameId : row.id = earlier.id) :
    row.Later earlier := by
  obtain ⟨later, isLater, since⟩ := tokens.kept earlier isEarlier
  have same : row = later :=
    @Database.Keyed.eq_of_rowId _ keyed .refreshTokens _ _ member isLater
      (sameId.trans since.id.symm)
  rw [same]
  exact since

/-- The tokens come after for any wider set of owners. -/
theorem mono {wider : Uuid → Prop} (implied : ∀ userId, owner userId → wider userId)
    (tokens : TokensAfter owner first last) : TokensAfter wider first last :=
  ⟨tokens.kept, fun row member => (tokens.each row member).imp_left (implied _)⟩

end TokensAfter

/-- Tokens are inserted for `owner` only, and updated only to revoke them. -/
def Write.Issues (owner : Uuid → Prop) : Write → Prop
  | .insert .refreshTokens row => owner row.userId
  | .update .refreshTokens _ assignments => RefreshToken.Revokes assignments
  | _ => True

/-- A write that issues leaves tokens that come after. -/
theorem Write.Issues.tokensAfter {owner : Uuid → Prop} {write : Write} (issues : write.Issues owner)
    (database : Database) : TokensAfter owner database (write.apply database) := by
  by_cases isTokens : write.table = .refreshTokens
  · cases write with
    | insert table row =>
        obtain rfl : table = .refreshTokens := isTokens
        constructor
        · intro earlier member
          refine ⟨earlier, ?_, .refl earlier⟩
          simp [Write.apply, member]
        · intro stored member
          simp only [Write.apply, Function.update_self, List.mem_append, List.mem_singleton]
            at member
          rcases member with old | rfl
          · exact .inr ⟨stored, old, .refl stored⟩
          · exact .inl issues
    | update table id assignments =>
        obtain rfl : table = .refreshTokens := isTokens
        have later : ∀ row : RefreshToken, RefreshToken.Later
            (if @rowId .refreshTokens row = id then @assignAll .refreshTokens row assignments
              else row) row := by
          intro row
          split
          · exact RefreshToken.later_assignAll issues.onlyRevokes row
          · exact .refl row
        constructor
        · intro earlier member
          refine ⟨_, ?_, later earlier⟩
          simp only [Write.apply, Function.update_self, updateRows]
          exact List.mem_map_of_mem member
        · intro stored member
          simp only [Write.apply, Function.update_self, updateRows] at member
          obtain ⟨earlier, isEarlier, rfl⟩ := List.mem_map.mp member
          exact .inr ⟨earlier, isEarlier, later earlier⟩
  · exact .of_eq (write.apply_of_ne isTokens database)

/-- A statement that asks for such a write. -/
def Op.Issues (owner : Uuid → Prop) : {Reply : Type} → Op Reply → Prop
  | _, .begin | _, .commit | _, .rollback | _, .flush .refreshTokens _ _ => False
  | _, .insert .refreshTokens row => owner row.userId
  | _, .executeUpdate .refreshTokens _ assignments => RefreshToken.Revokes assignments
  | _, _ => True

/-- An operation that only reads issues nothing. -/
theorem Op.issues_of_isReading (owner : Uuid → Prop) (Reply : Type) (op : Op Reply)
    (isReading : op.isReading = true) : op.Issues owner := by
  cases op <;> trivial

/-- An updated row leaves tokens that come after. -/
theorem Direct.updateRow_tokensAfter {owner : Uuid → Prop} {table : Table} {id : Uuid}
    {assignments : List (Assignment table)}
    (issues : (Write.update table id assignments).Issues owner) (direct : Direct) (row : Row table) :
    TokensAfter owner direct.working (direct.updateRow table id assignments row).2.working := by
  unfold Direct.updateRow
  split
  · exact .of_eq rfl
  · exact issues.tokensAfter direct.working

/-- An operation that issues leaves tokens that come after. -/
theorem directHandler_tokensAfter {owner : Uuid → Prop} (Reply : Type) (op : Op Reply)
    (issues : op.Issues owner) (direct : Direct) :
    TokensAfter owner direct.working (directHandler Reply op direct).2.working := by
  cases op with
  | flush table id assignments =>
      have elsewhere : table ≠ .refreshTokens := by
        rintro rfl
        cases issues
      exact .of_eq (directHandler_leavesAlone .refreshTokens _ (.flush table id assignments) rfl
        (fun same => elsewhere (Option.some.inj same)) direct).working
  | executeUpdate table id assignments =>
      have writes : (Write.update table id assignments).Issues owner := by
        cases table <;> exact issues
      simp only [directHandler, Direct.executeUpdate]
      split
      · exact Direct.updateRow_tokensAfter writes direct _
      · exact .of_eq rfl
  | insert table row =>
      have writes : (Write.insert table row).Issues owner := by
        cases table <;> exact issues
      simp only [directHandler, Direct.insert]
      split
      · exact .of_eq rfl
      · exact writes.tokensAfter direct.working
  | begin | commit | rollback => cases issues
  | select | selectText | count | refresh | rpc | now | serverNow | monotonic | today | uuid4
  | tokenUrlsafe | writeFile | fileExists => exact .of_eq rfl

/-- A program that issues leaves tokens that come after. -/
theorem run_tokensAfter {Value : Type} {owner : Uuid → Prop} {program : Action Value}
    (issues : program.Every fun _ op => op.Issues owner) (direct : Direct) :
    TokensAfter owner direct.working (program.run directHandler direct).2.working :=
  Program.run_respects (fun before after : Direct => TokensAfter owner before.working after.working)
    (fun _ => .of_eq rfl) TokensAfter.trans
    (fun Reply op issues direct => directHandler_tokensAfter Reply op issues direct) issues direct

/-- Where nobody is issued a token, each row is a later one of before. -/
theorem later_only {before after : Database} (tokens : TokensAfter (fun _ => False) before after)
    {row : RefreshToken} (member : row ∈ after .refreshTokens) :
    ∃ earlier ∈ before .refreshTokens, row.Later earlier :=
  (tokens.each row member).resolve_left id

namespace RefreshTokenRepository

/-- `revoke` writes no token back to life. -/
theorem every_revoke (owner : Uuid → Prop) (tokenId : Uuid) (replacedBy : Option Uuid) :
    (revoke tokenId replacedBy).Every fun _ op => op.Issues owner := by
  refine Program.every_bind (Program.every_perform _ |>.mpr trivial) fun now => ?_
  exact every_attempt ⟨by simp, by simp⟩

/-- Revoking each token issues none. -/
theorem every_revokeEach (owner : Uuid → Prop) (now : Timestamp) (rows : List RefreshToken) :
    (revokeEach now rows).Every fun _ op => op.Issues owner := by
  induction rows with
  | nil => trivial
  | cons row rows inductionHypothesis =>
      exact Program.every_bind (every_attempt ⟨by simp, by simp⟩) fun _ => inductionHypothesis

/-- Revoking the tokens of a user issues none. -/
theorem every_revokeAllForUser (owner : Uuid → Prop) (userId : Uuid) :
    (revokeAllForUser userId).Every fun _ op => op.Issues owner := by
  refine Program.every_bind (Program.every_perform _ |>.mpr trivial) fun now => ?_
  refine Program.every_bind (Program.every_perform _ |>.mpr trivial) fun rows => ?_
  exact Program.every_bind (every_revokeEach owner now rows) fun _ => trivial

/-- The update leaves its row revoked. -/
theorem updateRow_revokes {now : Timestamp} {id : Uuid} {direct after : Direct}
    (ran : (attempt (.executeUpdate .refreshTokens id [.isRevoked true, .revokedAt (some now)])).run
      directHandler direct = (.ok (), after)) {stored : RefreshToken}
    (isStored : stored ∈ after.working .refreshTokens) (sameId : stored.id = id) :
    stored.isRevoked = true := by
  rw [run_attempt] at ran
  simp only [directHandler, Direct.executeUpdate] at ran
  split at ran
  · rename_i row found
    simp only [Direct.updateRow] at ran
    split at ran
    · cases ran
    · cases ran
      simp only [Direct.write, Write.apply, Function.update_self, updateRows] at isStored
      obtain ⟨earlier, -, rfl⟩ := List.mem_map.mp isStored
      split
      · rfl
      · rename_i other
        rw [if_neg other] at sameId
        exact absurd sameId other
  · rename_i missing
    cases ran
    have found := List.find?_eq_none.mp missing stored isStored
    exact absurd (decide_eq_true sameId) found

/-- The rows of a list are revoked once every UPDATE has gone through. -/
theorem revokeEach_revokes {now : Timestamp} {rows : List RefreshToken} {direct after : Direct}
    (ran : (revokeEach now rows).run directHandler direct = (.ok (), after)) :
    ∀ row ∈ rows, ∀ stored ∈ after.working .refreshTokens, stored.id = row.id →
      stored.isRevoked = true := by
  induction rows generalizing direct with
  | nil => exact fun row member => absurd member List.not_mem_nil
  | cons first rows inductionHypothesis =>
      obtain ⟨_, middle, updated, rest⟩ := (Program.run_bind_ok directHandler).mp ran
      intro row member stored isStored sameId
      rcases List.mem_cons.mp member with rfl | isLater
      · have since := run_tokensAfter (every_revokeEach (fun _ => False) now rows) middle
        rw [rest] at since
        obtain ⟨earlier, isEarlier, later⟩ := later_only since isStored
        exact later.isRevoked (updateRow_revokes updated isEarlier (later.id.symm.trans sameId))
      · exact inductionHypothesis rest row isLater stored isStored sameId

/-- All tokens of the user are revoked once `revoke_all_for_user` returns. -/
theorem revokeAllForUser_revokes {userId : Uuid} {count : Nat} {direct after : Direct}
    (ran : (revokeAllForUser userId).run directHandler direct = (.ok count, after)) :
    ∀ stored ∈ after.working .refreshTokens, stored.userId = userId → stored.isRevoked = true := by
  intro stored isStored ofUser
  have since := run_tokensAfter (every_revokeAllForUser (fun _ => False) userId) direct
  rw [ran] at since
  obtain ⟨earlier, isEarlier, later⟩ := later_only since isStored
  by_cases revoked : earlier.isRevoked = true
  · exact later.isRevoked revoked
  obtain ⟨now, middle, clock, rest⟩ := (Program.run_bind_ok directHandler).mp ran
  cases clock
  obtain ⟨rows, looked, selected, rest⟩ := (Program.run_bind_ok directHandler).mp rest
  cases selected
  obtain ⟨_, ended, revokes, rest⟩ := (Program.run_bind_ok directHandler).mp rest
  cases rest
  refine revokeEach_revokes revokes earlier ?_ stored isStored later.id
  refine List.mem_filter.mpr ⟨isEarlier, ?_⟩
  simp [later.userId.symm.trans ofUser, revoked]

end RefreshTokenRepository

/-- An operation that issues does not control the transaction. -/
theorem isControl_of_issues {owner : Uuid → Prop} (Reply : Type) (op : Op Reply)
    (issues : op.Issues owner) : op.isControl = false := by
  cases op <;> first | rfl | cases issues

/-- A transaction that is rolled back leaves the tokens as they were; one that commits leaves what
its statements made of them. -/
theorem transaction_tokensAfter {Value : Type} {owner : Uuid → Prop} {body : Action Value}
    (issues : body.Every fun _ op => op.Issues owner) {direct : Direct}
    (closed : direct.inTransaction = false) (settled : direct.working = direct.database) :
    TokensAfter owner direct.database ((transaction body).run directHandler direct).2.database := by
  have since := run_tokensAfter issues direct.touch
  have follows := run_follows (Program.Every.mono isControl_of_issues issues) direct.touch
  have started : direct.touch.working = direct.database := settled
  rw [started] at since
  rw [run_transaction body closed]
  generalize body.run directHandler direct.touch = ended at since follows
  rcases ended with ⟨error | value, left⟩
  · exact .of_eq (congrFun follows.1 .refreshTokens)
  · exact since

/-- A transaction that fails leaves the store as it was. -/
theorem transaction_error {Value : Type} {owner : Uuid → Prop} {body : Action Value}
    (issues : body.Every fun _ op => op.Issues owner) {direct after : Direct} {error : Exception}
    (closed : direct.inTransaction = false)
    (ran : (transaction body).run directHandler direct = (.error error, after)) :
    after.database = direct.database := by
  have follows := run_follows (Program.Every.mono isControl_of_issues issues) direct.touch
  rw [run_transaction body closed] at ran
  generalize body.run directHandler direct.touch = ended at ran follows
  rcases ended with ⟨_ | value, left⟩
  · cases ran
    exact follows.1
  · cases ran

/-- One permitted operation is permitted. -/
theorem every_asked {Reply : Type} {owner : Uuid → Prop} {op : Op Reply} (issues : op.Issues owner) :
    (Program.perform op : Action Reply).Every fun _ op => op.Issues owner :=
  (Program.every_perform op).mpr issues

namespace AuthService

variable (security : Security) {owner : Uuid → Prop}

/-- Counting a failure issues nothing. -/
theorem every_countFailure (user : User) :
    (countFailure user).Every fun _ op => op.Issues owner := by
  refine Program.every_bind ?_ fun attempts => ?_
  · refine Program.every_bind (every_attempt trivial) fun _ => ?_
    refine Program.every_bind (BaseRepository.every_getById (Op.issues_of_isReading owner) _ _)
      fun found => ?_
    cases found <;> trivial
  · split
    · refine Program.every_bind (every_asked trivial) fun now => ?_
      exact Program.every_bind (every_attempt trivial) fun _ => trivial
    · trivial

/-- Checking the credentials issues nothing. -/
theorem every_credentialBlock (email password : String) :
    (credentialBlock security email password).Every fun _ op => op.Issues owner := by
  refine Program.every_bind (BaseRepository.every_findOne (Op.issues_of_isReading owner) _ _)
    fun found => ?_
  cases found with
  | none => trivial
  | some user =>
      have checked : (if security.verifyPassword password user.passwordHash then
          (return (user, true) : Action (User × Bool)) else countFailure user).Every
            fun _ op => op.Issues owner := by
        split
        · trivial
        · exact every_countFailure user
      dsimp only
      cases user.lockedUntil with
      | none => exact checked
      | some lockedUntil =>
          refine Program.every_bind (every_asked trivial) fun now => ?_
          split
          · trivial
          · exact checked

/-- The tokens are issued to their owner. -/
theorem every_issueTokens {user : User} (isOwner : owner user.id) (requestIp : String) :
    (issueTokens security user requestIp).Every fun _ op => op.Issues owner := by
  refine Program.every_bind ?_ fun accessToken => ?_
  · refine Program.every_bind (every_asked trivial) fun now => ?_
    exact Program.every_bind (every_asked trivial) fun jti => trivial
  refine Program.every_bind (every_asked trivial) fun refreshTokenRaw => ?_
  refine Program.every_bind (every_asked trivial) fun now => ?_
  refine Program.every_bind ?_ fun row => trivial
  refine Program.every_bind (every_asked trivial) fun id => ?_
  refine Program.every_bind (every_asked trivial) fun createdAt => ?_
  exact BaseRepository.every_create (Op.issues_of_isReading owner) isOwner

/-- A success issues tokens to the user. -/
theorem every_successBlock {user : User} (isOwner : owner user.id) (requestIp : String) :
    (successBlock security user requestIp).Every fun _ op => op.Issues owner := by
  unfold successBlock
  split
  · trivial
  · refine Program.every_bind (every_attempt trivial) fun _ => ?_
    refine Program.every_bind ?_ fun _ => ?_
    · exact Program.every_bind (every_asked trivial) fun now => every_attempt trivial
    · exact Program.every_bind (every_issueTokens security isOwner requestIp) fun tokens => trivial

/-- A refresh issues tokens. -/
theorem every_refreshBlock (refreshTokenRaw requestIp : String) :
    (refreshBlock security refreshTokenRaw requestIp).Every fun _ op => op.Issues fun _ => True := by
  have reading := Op.issues_of_isReading fun _ => True
  refine Program.every_bind (BaseRepository.every_findOne reading _ _) fun found => ?_
  cases found with
  | none => trivial
  | some stored =>
      dsimp only
      split
      · trivial
      refine Program.every_bind (every_asked trivial) fun now => ?_
      split
      · trivial
      refine Program.every_bind (BaseRepository.every_getById reading _ _) fun account => ?_
      cases account with
      | none => trivial
      | some user =>
          dsimp only
          split
          · trivial
          refine Program.every_bind (every_issueTokens security trivial requestIp) fun issued => ?_
          exact Program.every_bind (RefreshTokenRepository.every_revoke _ _ _) fun _ => trivial

/-- A refresh that goes through exchanges a token that is not revoked for one of its user. -/
theorem refreshBlock_rotates {refreshTokenRaw requestIp : String} {direct after : Direct}
    {tokens : TokenPair} (opened : direct.Open)
    (ran : (refreshBlock security refreshTokenRaw requestIp).run directHandler direct =
      (.ok tokens, after)) :
    ∃ stored : RefreshToken, (direct.working .refreshTokens).find? (fun row =>
        row.tokenHash = security.hashToken refreshTokenRaw) = some stored ∧
      stored.isRevoked = false ∧
      TokensAfter (· = stored.userId) direct.working after.working := by
  obtain ⟨found, read, looked, rest⟩ := (Program.run_bind_ok directHandler).mp ran
  obtain ⟨isFound, sameState⟩ := Prod.mk.inj
    (looked.symm.trans (BaseRepository.run_findOne opened .refreshTokens _))
  obtain rfl := Except.ok.inj isFound
  rw [sameState] at rest
  generalize (direct.working .refreshTokens).find? _ = found at rest ⊢
  cases found with
  | none => cases rest
  | some stored =>
      refine ⟨stored, rfl, ?_⟩
      dsimp only at rest
      split at rest
      · cases rest
      rename_i live
      refine ⟨by simpa using live, ?_⟩
      obtain ⟨now, clocked, clock, rest⟩ := (Program.run_bind_ok directHandler).mp rest
      cases clock
      split at rest
      · cases rest
      obtain ⟨account, loaded, isAccount, rest⟩ := (Program.run_bind_ok directHandler).mp rest
      obtain ⟨isUser, sameState⟩ := Prod.mk.inj
        (isAccount.symm.trans (BaseRepository.run_getById opened.read .users stored.userId))
      rw [sameState, Except.ok.inj isUser] at rest
      cases found : direct.read.working.find? .users stored.userId with
      | none =>
          rw [found] at rest
          cases rest
      | some user =>
          rw [found] at rest
          dsimp only at rest
          split at rest
          · cases rest
          have isOwner : user.id = stored.userId := (Database.find?_some found).2
          have issues : (do
              let issued ← issueTokens security user requestIp
              RefreshTokenRepository.revoke stored.id (some issued.2.id)
              return issued.1 : Action TokenPair).Every fun _ op => op.Issues (· = stored.userId) :=
            Program.every_bind (every_issueTokens security isOwner requestIp) fun issued =>
              Program.every_bind (RefreshTokenRepository.every_revoke _ _ _) fun _ => trivial
          have since := run_tokensAfter issues direct.read
          rw [rest] at since
          exact since

/-- A logout issues none. -/
theorem every_logoutBlock (refreshTokenRaw : String) :
    (logoutBlock security refreshTokenRaw).Every fun _ op => op.Issues owner := by
  refine Program.every_bind (BaseRepository.every_findOne (Op.issues_of_isReading owner) _ _)
    fun found => ?_
  cases found with
  | none => trivial
  | some stored =>
      dsimp only
      split
      · exact RefreshTokenRepository.every_revoke owner stored.id none
      · trivial

end AuthService

namespace UserService

variable (security : Security) {owner : Uuid → Prop}

/-- A change of password issues none. -/
theorem every_passwordBlock (userId : Uuid) (oldPassword newPassword : String) :
    (passwordBlock security userId oldPassword newPassword).Every fun _ op => op.Issues owner := by
  have reading := Op.issues_of_isReading owner
  refine Program.every_bind (BaseRepository.every_getById reading _ _) fun found => ?_
  cases found with
  | none => trivial
  | some user =>
      dsimp only
      split
      · trivial
      · refine Program.every_bind ?_ fun newHash => ?_
        · exact Program.every_bind (every_asked trivial) fun salt => trivial
        refine Program.every_bind (BaseRepository.every_modify_return reading trivial) fun _ => ?_
        exact Program.every_bind (RefreshTokenRepository.every_revokeAllForUser owner userId)
          fun count => trivial

/-- A deactivation issues none. -/
theorem every_deactivationBlock (userId : Uuid) :
    (deactivationBlock userId).Every fun _ op => op.Issues owner := by
  have reading := Op.issues_of_isReading owner
  refine Program.every_bind (BaseRepository.every_getById reading _ _) fun found => ?_
  cases found with
  | none => trivial
  | some user =>
      refine Program.every_bind ?_ fun _ => ?_
      · refine Program.every_bind (BaseRepository.every_getById reading _ _) fun again => ?_
        cases again with
        | none => trivial
        | some _ => exact every_attempt trivial
      · exact Program.every_bind (RefreshTokenRepository.every_revokeAllForUser owner userId)
          fun count => trivial

/-- A password change that goes through leaves no token of the user unrevoked. -/
theorem passwordBlock_revokes {userId : Uuid} {oldPassword newPassword : String}
    {direct after : Direct}
    (ran : (passwordBlock security userId oldPassword newPassword).run directHandler direct =
      (.ok (), after)) :
    ∀ stored ∈ after.working .refreshTokens, stored.userId = userId → stored.isRevoked = true := by
  obtain ⟨found, read, -, rest⟩ := (Program.run_bind_ok directHandler).mp ran
  cases found with
  | none => cases rest
  | some user =>
      dsimp only at rest
      split at rest
      · cases rest
      · obtain ⟨newHash, hashed, -, rest⟩ := (Program.run_bind_ok directHandler).mp rest
        obtain ⟨_, stored, -, rest⟩ := (Program.run_bind_ok directHandler).mp rest
        obtain ⟨count, ended, revokes, rest⟩ := (Program.run_bind_ok directHandler).mp rest
        cases rest
        exact RefreshTokenRepository.revokeAllForUser_revokes revokes

/-- Nor does a deactivation. -/
theorem deactivationBlock_revokes {userId : Uuid} {direct after : Direct}
    (ran : (deactivationBlock userId).run directHandler direct = (.ok (), after)) :
    ∀ stored ∈ after.working .refreshTokens, stored.userId = userId → stored.isRevoked = true := by
  obtain ⟨found, read, -, rest⟩ := (Program.run_bind_ok directHandler).mp ran
  cases found with
  | none => cases rest
  | some user =>
      obtain ⟨_, deleted, -, rest⟩ := (Program.run_bind_ok directHandler).mp rest
      obtain ⟨count, ended, revokes, rest⟩ := (Program.run_bind_ok directHandler).mp rest
      cases rest
      exact RefreshTokenRepository.revokeAllForUser_revokes revokes

end UserService

end AcademicCredential
