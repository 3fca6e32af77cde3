import AcademicCredential.Database.Updates
import AcademicCredential.Services.Ownership
import AcademicCredential.Services.TokenRows

/-!
# Refreshes and logouts side by side

`refresh_access_token` and `logout`, any number of them at the same time, statement by statement.
Both revoke the token that they looked up with an UPDATE that does not ask whether it still is
unrevoked. `tokens_singleUse`: in every run in which no UPDATE finds its token revoked, a token has
at most one successor, and none that descends from a token that was logged out is live.
-/

namespace AcademicCredential

open AcademicCredential.Lib
open AcademicCredential.AuthService

/-- A refresh, or a logout. -/
inductive TokenCall where
  | refresh (refreshTokenRaw requestIp : String)
  | logout (refreshTokenRaw : String)
  deriving DecidableEq

/-- The answers of the two calls. -/
inductive TokenAnswer where
  | refreshed (tokens : TokenPair)
  | loggedOut

/-- What a call runs. -/
def TokenCall.action (security : Security) : TokenCall → Action TokenAnswer
  | .refresh refreshTokenRaw requestIp =>
      .refreshed <$> refreshAccessToken security refreshTokenRaw requestIp
  | .logout refreshTokenRaw => (fun _ => .loggedOut) <$> AuthService.logout security refreshTokenRaw

/-- The calls side by side, with the store they share. -/
abbrev TokenWorld := Lib.World Op Exception TokenAnswer TokenCall Store Session

/-- One turn of the calls side by side. -/
abbrev TokenTurn := Turn TokenCall Inputs (List MinedTransaction)

/-- The calls side by side, over the operations of a session. -/
def tokenSystem (security : Security) :
    System Op Exception TokenAnswer TokenCall Inputs (List MinedTransaction) Store Session :=
  readCommitted (TokenCall.action security)

/-- What `revoke` sets. -/
def revocationOf (now : Timestamp) (replacedBy : Option Uuid) : List RefreshTokenAssignment :=
  [.isRevoked true, .revokedAt (some now), .replacedBy replacedBy]

/-- A refresh of `old` that issued `new` has committed. -/
def Successor (world : TokenWorld) (old new : Uuid) : Prop :=
  ∃ thread ∈ world.threads, (∃ refreshTokenRaw requestIp,
      thread.call = .refresh refreshTokenRaw requestIp) ∧
    ∃ now, .update .refreshTokens old (revocationOf now (some new)) ∈ thread.own.committed

/-- A logout that found the token unrevoked has committed. -/
def LoggedOut (world : TokenWorld) (token : Uuid) : Prop :=
  ∃ thread ∈ world.threads, (∃ refreshTokenRaw, thread.call = .logout refreshTokenRaw) ∧
    ∃ now, .update .refreshTokens token (revocationOf now none) ∈ thread.own.committed

/-- A token has at most one successor, and nothing that descends from one that was logged out is
live. -/
structure SingleUse (world : TokenWorld) : Prop where
  successor : ∀ old new other, Successor world old new → Successor world old other → new = other
  final : ∀ token, LoggedOut world token →
    ∀ descendant, Relation.ReflTransGen (Successor world) token descendant →
      ∀ row ∈ world.shared.database .refreshTokens, row.id = descendant → ∀ now, ¬ row.Live now

/-- The turn updates a token that is revoked already. -/
def RevokesAgain (world : TokenWorld) (turn : TokenTurn) : Prop :=
  ∃ index thread id assignments, turn = .operate index ∧
    Writes world index thread (.update .refreshTokens id assignments) ∧
    ∃ row : RefreshToken,
      (visible world.shared thread.own).find? .refreshTokens id = some row ∧ row.isRevoked = true

/-- Any user may be issued a token. -/
def RevokesTokens (write : Write) : Prop := write.Issues fun _ => True

/-- An operation that issues tokens only revokes the others. -/
theorem writesOnly_of_issues (Reply : Type) (op : Op Reply) (issues : op.Issues fun _ => True) :
    op.WritesOnly RevokesTokens := by
  intro store session write asked
  cases op with
  | flush table id assignments =>
      obtain ⟨changes, -, -, rfl⟩ := Session.statement?_flush asked
      cases table <;> trivial
  | executeUpdate table id assignments =>
      simp only [Session.statement?, Option.map_eq_some_iff] at asked
      obtain ⟨row, -, rfl⟩ := asked
      cases table <;> exact issues
  | insert table row =>
      simp only [Session.statement?, Option.some.injEq] at asked
      rw [← asked]
      cases table <;> exact issues
  | _ => cases asked

/-- A transaction that issues tokens only revokes the others. -/
theorem writesOnly_transaction {Value : Type} {body : Action Value}
    (issues : body.Every fun _ op => op.Issues fun _ => True) :
    (transaction body).Every fun _ op => op.WritesOnly RevokesTokens :=
  every_transaction (Program.Every.mono writesOnly_of_issues issues)
    (Op.writesOnly_of_unwritten rfl) (Op.writesOnly_of_unwritten rfl)
    (Op.writesOnly_of_unwritten rfl)

/-- Each call only revokes the stored tokens. -/
theorem every_action (security : Security) (call : TokenCall) :
    (call.action security).Every fun _ op => op.WritesOnly RevokesTokens := by
  cases call with
  | refresh refreshTokenRaw requestIp =>
      rw [TokenCall.action, ← bind_pure_comp]
      exact Program.every_bind (writesOnly_transaction
        (every_refreshBlock security refreshTokenRaw requestIp)) fun _ => trivial
  | logout refreshTokenRaw =>
      rw [TokenCall.action, ← bind_pure_comp]
      exact Program.every_bind (writesOnly_transaction
        (every_logoutBlock security refreshTokenRaw)) fun _ => trivial

/-- Tokens are revoked once, by calls that write nothing else to them. -/
structure Rotating (world : TokenWorld) : Prop where
  once : @SpentOnce .refreshTokens _ _ (fun row : RefreshToken => row.isRevoked = true) world
  confined : Confined (fun _ write => RevokesTokens write) world

namespace Rotating

variable {security : Security} {world : TokenWorld}

/-- A turn keeps it unless it updates a token that is revoked already. -/
theorem apply (rotating : Rotating world) {turn : TokenTurn} (first : ¬ RevokesAgain world turn) :
    Rotating ((tokenSystem security).apply world turn) := by
  refine ⟨rotating.once.apply fun index thread write isTurn writes id assignments isUpdate => ?_,
    rotating.confined.apply (every_action security) turn⟩
  subst isUpdate
  have revokes : RefreshToken.Revokes assignments := rotating.confined.writes writes
  obtain ⟨row, found, -⟩ := writes.accepted
  refine ⟨row, found, fun revoked => ?_, revokes.isRevoked row⟩
  rw [pendingOf_of_found writes.found] at found
  exact first ⟨index, thread, id, assignments, isTurn, writes, row, found, revoked⟩

/-- The invariant makes every token one of single use. -/
theorem singleUse (rotating : Rotating world) : SingleUse world := by
  have logged : ∀ thread ∈ world.threads, ∀ write ∈ thread.own.committed,
      ∃ index, write ∈ committedOf world index := by
    intro thread isThread write isLogged
    obtain ⟨index, found⟩ := List.mem_iff_getElem?.mp isThread
    exact ⟨index, by rw [committedOf_of_found found]; exact isLogged⟩
  have unique : ∀ old now later replacedBy other, ∀ first ∈ world.threads, ∀ second ∈ world.threads,
      .update .refreshTokens old (revocationOf now replacedBy) ∈ first.own.committed →
      .update .refreshTokens old (revocationOf later other) ∈ second.own.committed →
        replacedBy = other := by
    intro old now later replacedBy other first isFirst second isSecond firstLogged secondLogged
    obtain ⟨left, leftLogged⟩ := logged first isFirst _ firstLogged
    obtain ⟨right, rightLogged⟩ := logged second isSecond _ secondLogged
    have updates : ∀ assignments : List RefreshTokenAssignment,
        Write.updates .refreshTokens old (.update .refreshTokens old assignments) = true :=
      fun _ => decide_eq_true ⟨rfl, rfl⟩
    have same := rotating.once.committed_unique leftLogged (updates _) rightLogged (updates _)
    simp only [Write.update.injEq, heq_eq_eq, true_and, revocationOf, List.cons.injEq,
      RefreshTokenAssignment.replacedBy.injEq, and_true] at same
    exact same.2
  constructor
  · rintro old new other ⟨first, isFirst, -, now, firstLogged⟩
      ⟨second, isSecond, -, later, secondLogged⟩
    exact Option.some.inj (unique old now later _ _ first isFirst second isSecond firstLogged
      secondLogged)
  · rintro token ⟨thread, isThread, -, now, isLogged⟩ descendant descends row isRow sameId instant
      live
    have same : descendant = token := by
      cases descends.cases_head with
      | inl same => exact same.symm
      | inr next =>
          obtain ⟨new, ⟨second, isSecond, -, later, secondLogged⟩, -⟩ := next
          cases unique token now later _ _ thread isThread second isSecond isLogged secondLogged
    obtain ⟨index, isIndex⟩ := logged thread isThread _ isLogged
    obtain ⟨stored, found, revoked⟩ := rotating.once.committed index token
      ⟨_, isIndex, decide_eq_true ⟨rfl, rfl⟩⟩
    have isStored := @Database.Keyed.find? _ rotating.once.isolated.committed.keyed .refreshTokens
      row isRow
    have isToken : @rowId .refreshTokens row = token := sameId.trans same
    rw [isToken] at isStored
    obtain rfl := Option.some.inj (isStored.symm.trans found)
    exact absurd (revoked.symm.trans live.1) Bool.true_eq_false.mp

end Rotating

/-- In every run in which no UPDATE finds its token revoked, tokens are used once, and a logout is
final. -/
theorem tokens_singleUse (security : Security) (store : ValidStore) (run : List TokenTurn)
    (inOrder : ∀ index, ¬ OccursAt (tokenSystem security).apply ⟨store.toStore, []⟩ run
      RevokesAgain index) :
    SingleUse (stateAfter (tokenSystem security).apply ⟨store.toStore, []⟩ run) := by
  have rotating : Rotating (stateAfter (tokenSystem security).apply ⟨store.toStore, []⟩ run) :=
    @stateAfter_invariant_of_never _ _ (tokenSystem security).apply Rotating RevokesAgain
      (fun _ _ rotating first => rotating.apply first) _ ⟨.idle store.valid, .idle _⟩ _ inOrder
  exact rotating.singleUse

/-- The token that the UPDATE of `revoke` is for, with what it sets. -/
def Write.revocation? : Write → Option (Uuid × Timestamp × Option Uuid)
  | .update .refreshTokens id [.isRevoked true, .revokedAt (some now), .replacedBy replacedBy] =>
      some (id, now, replacedBy)
  | _ => none

/-- A write that revokes is the update of `revoke`. -/
theorem Write.of_revocation? {write : Write} {id : Uuid} {now : Timestamp}
    {replacedBy : Option Uuid} (isRevocation : write.revocation? = some (id, now, replacedBy)) :
    write = .update .refreshTokens id (revocationOf now replacedBy) := by
  unfold Write.revocation? at isRevocation
  split at isRevocation
  · cases isRevocation
    rfl
  · cases isRevocation

/-- A revocation with a successor is a refresh. -/
theorem successor_of_revocation? {world : TokenWorld} {old new : Uuid} {now : Timestamp}
    {refreshTokenRaw requestIp : String}
    (logged : ∃ thread ∈ world.threads, thread.call = .refresh refreshTokenRaw requestIp ∧
      ∃ write ∈ thread.own.committed, write.revocation? = some (old, now, some new)) :
    Successor world old new := by
  obtain ⟨thread, isThread, isCall, write, isLogged, isRevocation⟩ := logged
  rw [Write.of_revocation? isRevocation] at isLogged
  exact ⟨thread, isThread, ⟨_, _, isCall⟩, now, isLogged⟩

/-- Whether the thread asks to update a token that it sees revoked. -/
def mayRevokeAgain (world : TokenWorld) : TokenTurn → Bool
  | .operate index =>
      match world.threads[index]? with
      | none => false
      | some thread =>
          match thread.program with
          | .step op _ =>
              match thread.own.statement? world.shared op with
              | some (.update .refreshTokens id _) =>
                  ((visible world.shared thread.own).find? .refreshTokens id).any fun row =>
                    RefreshToken.isRevoked row
              | _ => false
          | _ => false
  | _ => false

/-- A turn that passes the check revokes nothing again. -/
theorem not_revokesAgain {world : TokenWorld} {turn : TokenTurn}
    (checked : mayRevokeAgain world turn = false) : ¬ RevokesAgain world turn := by
  rintro ⟨index, thread, id, assignments, rfl, writes, row, found, revoked⟩
  obtain ⟨Reply, op, next, reaches, asked⟩ := writes.asked
  simp only [mayRevokeAgain, writes.found, reaches.program, asked, found, Option.any_some] at checked
  exact absurd (checked.symm.trans revoked) Bool.false_ne_true

namespace TokenRotation.Sample

open AcademicCredential.Sample
open AcademicCredential.Contract

/-- The first token, as it is sent. -/
def firstRaw : String := "AAECAwQFBgcICQoLDA0ODxAREhMUFRYXGBkaGxwdHh8"

/-- The second token, as it is sent. -/
def secondRaw : String := "ICEiIyQlJicoKSorLC0uLzAxMjM0NTY3ODk6Ozw9Pj8"

/-- The third token, as it is sent. -/
def thirdRaw : String := "QEFCQ0RFRkdISUpLTE1OT1BRUlNUVVZXWFlaW1xdXl8"

/-- SHA-256 of the three tokens. -/
def sha256 (bytes : List UInt8) : Bytes32 :=
  if bytes = firstRaw.toUTF8.toList then
    ⟨[0xea, 0x86, 0x6a, 0x75, 0x7e, 0x4c, 0x38, 0xba, 0xbf, 0xa8, 0x12, 0x7c, 0xbe, 0x9a, 0x40, 0x9d,
      0x3e, 0x1f, 0x93, 0xa0, 0x0f, 0xf1, 0x48, 0x8f, 0xf7, 0x35, 0xfc, 0xf9, 0x17, 0xaf, 0xff, 0xd0],
      rfl⟩
  else if bytes = secondRaw.toUTF8.toList then
    ⟨[0xcf, 0x09, 0x31, 0xe1, 0x68, 0xb4, 0x9e, 0x98, 0x75, 0x03, 0xca, 0xf1, 0x8a, 0xf6, 0xfe, 0x25,
      0x3b, 0x6b, 0x3d, 0x82, 0xa8, 0x10, 0x08, 0xc3, 0xe8, 0xe1, 0xee, 0x67, 0xc7, 0xc8, 0xdc, 0x55],
      rfl⟩
  else
    ⟨[0xf4, 0x5d, 0xc8, 0x2a, 0x75, 0x23, 0xd1, 0x49, 0x74, 0xce, 0xa0, 0x50, 0xe3, 0x02, 0x8e, 0x8b,
      0xf0, 0x6a, 0x8e, 0xe8, 0x55, 0xa9, 0xd6, 0x30, 0x34, 0xeb, 0xb4, 0xfb, 0x9e, 0xcc, 0x23, 0x05],
      rfl⟩

/-- The security of the run, with its hash. -/
def rotation : Security := { security with sha256 }

/-- The refresh token of a login of the sample administrator. -/
def firstToken : RefreshToken where
  id := 50
  userId := 2
  tokenHash := "ea866a757e4c38babfa8127cbe9a409d3e1f93a00ff1488ff735fcf917afffd0"
  isRevoked := false
  replacedBy := none
  createdAt := 1700000000000000
  expiresAt := 1700600000000000
  revokedAt := none
  createdIp := some "203.0.113.7"

/-- The row of the first token is accepted. -/
theorem firstToken_accepted : checkInsert 19700 accounts .refreshTokens firstToken = .ok () := by
  decide +kernel

/-- A store with the first token. -/
def loggedIn : ValidStore where
  database := (Write.insert .refreshTokens firstToken).apply accounts
  chain := .deployed deployer
  files := []
  valid := valid_accounts.insert firstToken_accepted

/-- Answers of the random sources with ids from `base` on and one new token. -/
def answers (base : Nat) (token : String) : Inputs :=
  { inputs answered with
    uuid4 := fun read => base + read
    tokenUrlsafe := fun _ => token }

/-- A refresh with the token. -/
def refresh (base : Nat) (token : String) : TokenTurn :=
  .start (.refresh firstRaw "203.0.113.7") (answers base token)

/-- As many operations of a thread as a refresh has. -/
def operations (thread count : Nat) : List TokenTurn := List.replicate count (.operate thread)

/-- Two refreshes with one token, which both have read it before either revokes it. -/
def twice : List TokenTurn :=
  [refresh 100 secondRaw, refresh 200 thirdRaw] ++ operations 0 2 ++ operations 1 2 ++
    operations 0 13 ++ operations 1 13

/-- A refresh, and a logout with its token. -/
def inTurn : List TokenTurn :=
  [refresh 100 secondRaw, .start (.logout secondRaw) (answers 200 thirdRaw)] ++ operations 0 15 ++
    operations 1 5

/-- No turn of the refreshes in turn revokes again. -/
theorem inTurn_checked : ∀ index < 22, ∀ turn ∈ inTurn[index]?,
    mayRevokeAgain (stateAfter (tokenSystem rotation).apply ⟨loggedIn.toStore, []⟩
      (inTurn.take index)) turn = false := by
  decide +kernel

end TokenRotation.Sample

/-- One after the other, they use each token once. -/
theorem tokens_singleUse_inTurn :
    SingleUse (stateAfter (tokenSystem TokenRotation.Sample.rotation).apply
      ⟨TokenRotation.Sample.loggedIn.toStore, []⟩ TokenRotation.Sample.inTurn) := by
  refine tokens_singleUse TokenRotation.Sample.rotation TokenRotation.Sample.loggedIn
    TokenRotation.Sample.inTurn fun index occurred => ?_
  have bound : index < 22 := occurred.lt_length
  obtain ⟨turn, isTurn, revokesAgain⟩ := occurred
  exact not_revokesAgain (TokenRotation.Sample.inTurn_checked index bound turn isTurn) revokesAgain

/-- Two refreshes that have read the token before either revokes it both commit, each with a
successor of its own. -/
theorem token_rotated_twice :
    ¬ SingleUse (stateAfter (tokenSystem TokenRotation.Sample.rotation).apply
      ⟨TokenRotation.Sample.loggedIn.toStore, []⟩ TokenRotation.Sample.twice) := by
  intro singleUse
  have first : Successor (stateAfter (tokenSystem TokenRotation.Sample.rotation).apply
      ⟨TokenRotation.Sample.loggedIn.toStore, []⟩ TokenRotation.Sample.twice) 50 105 :=
    @successor_of_revocation? _ _ _ 1700000000000000 TokenRotation.Sample.firstRaw "203.0.113.7"
      (by decide +kernel)
  have second : Successor (stateAfter (tokenSystem TokenRotation.Sample.rotation).apply
      ⟨TokenRotation.Sample.loggedIn.toStore, []⟩ TokenRotation.Sample.twice) 50 205 :=
    @successor_of_revocation? _ _ _ 1700000000000000 TokenRotation.Sample.firstRaw "203.0.113.7"
      (by decide +kernel)
  exact absurd (singleUse.successor 50 105 205 first second) (by decide)

end AcademicCredential
