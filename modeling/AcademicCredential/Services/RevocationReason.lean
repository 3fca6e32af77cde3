import AcademicCredential.Services.RowsEffect

/-!
# The reason of a revocation

Phase 1 puts the reason into the `error_message` of a new REVOKE_HASH row, and phase 2
takes it from the newest open row. `ReasonsKept` is what any sequence of the two calls
keeps: the rows carry the reasons in the order of the initiations, and all of them stay
open until the certificate is revoked.
-/

namespace AcademicCredential

open AcademicCredential.Lib

namespace CertificateRevocationService

/-- `REVOCATION_REASON_MIN_LENGTH` and `REVOCATION_REASON_MAX_LENGTH`. -/
def revocationReasonMinLength : Nat := 10

/-- The greatest length of a reason. -/
def revocationReasonMaxLength : Nat := 500

/-- `RevokeRequest`, as the endpoint accepts it. -/
structure RevokeRequest where
  reason : String
  minLength : revocationReasonMinLength ≤ reason.length
  maxLength : reason.length ≤ revocationReasonMaxLength

/-- The row submits a revocation of the certificate. -/
def isRevocationOf (certId : Uuid) (tx : BlockchainTransaction) : Bool :=
  tx.certificateId = some certId && tx.txType = .REVOKE_HASH

/-- Its REVOKE_HASH rows, in the order in which they were committed. -/
def revocationsOf (database : Database) (certId : Uuid) : List BlockchainTransaction :=
  (database .blockchainTransactions).filter (isRevocationOf certId)

/-- A row that a confirmation goes on with. -/
def isOpen (tx : BlockchainTransaction) : Bool :=
  tx.status = .PENDING || tx.status = .SUBMITTED

/-- Updates leave the reason of a row alone, and what the row belongs to. -/
theorem assignAll_note (tx : BlockchainTransaction) (assignments : List TransactionAssignment)
    (certId : Uuid) :
    let updated := @assignAll .blockchainTransactions tx assignments
    isRevocationOf certId updated = isRevocationOf certId tx ∧
      updated.errorMessage = tx.errorMessage ∧ updated.submittedAt = tx.submittedAt := by
  induction assignments generalizing tx with
  | nil => exact ⟨rfl, rfl, rfl⟩
  | cons assignment assignments inductionHypothesis =>
      obtain ⟨same, note, time⟩ := inductionHypothesis (@assign .blockchainTransactions tx assignment)
      have first : isRevocationOf certId (@assign .blockchainTransactions tx assignment) =
            isRevocationOf certId tx ∧
          (@assign .blockchainTransactions tx assignment).errorMessage = tx.errorMessage ∧
          (@assign .blockchainTransactions tx assignment).submittedAt = tx.submittedAt := by
        cases assignment <;> exact ⟨rfl, rfl, rfl⟩
      exact ⟨same.trans first.1, note.trans first.2.1, time.trans first.2.2⟩

/-- What a confirmation writes to a transaction row keeps the reasons in their order. -/
theorem notes_recordedRows (rows : List BlockchainTransaction)
    (tx? : Option BlockchainTransaction) (assignments : List TransactionAssignment)
    (certId : Uuid) :
    ((recordedRows tx? assignments rows).filter (isRevocationOf certId)).map
        (fun tx => (tx.errorMessage, tx.submittedAt)) =
      (rows.filter (isRevocationOf certId)).map (fun tx => (tx.errorMessage, tx.submittedAt)) := by
  cases tx? with
  | none => rfl
  | some tx =>
      simp only [recordedRows, updateRows]
      induction rows with
      | nil => rfl
      | cons row rows inductionHypothesis =>
          obtain ⟨same, note, time⟩ := assignAll_note row assignments certId
          simp only [List.map_cons, List.filter_cons]
          by_cases isRow : @rowId .blockchainTransactions row = tx.id
          · simp only [isRow, if_true, same]
            split
            · simp only [List.map_cons, note, time, inductionHypothesis]
            · exact inductionHypothesis
          · simp only [isRow, if_false]
            split
            · simp only [List.map_cons, inductionHypothesis]
            · exact inductionHypothesis

/-- Nothing in a list sorted in descending order precedes the first hit. -/
theorem le_of_find?_sorted {Item : Type*} {precedes : Item → Item → Prop}
    {items : List Item} (sorted : items.Pairwise precedes) (reflexive : ∀ item, precedes item item)
    {hit : Item → Bool} {first : Item} (found : items.find? hit = some first) {item : Item}
    (member : item ∈ items) (isHit : hit item = true) : precedes first item := by
  induction items with
  | nil => cases member
  | cons head rest inductionHypothesis =>
      obtain ⟨before, sortedRest⟩ := List.pairwise_cons.mp sorted
      by_cases headHit : hit head = true
      · rw [List.find?_cons_of_pos headHit] at found
        cases found
        rcases List.mem_cons.mp member with rfl | later
        · exact reflexive _
        · exact before item later
      · rw [List.find?_cons_of_neg headHit] at found
        rcases List.mem_cons.mp member with rfl | later
        · exact absurd isHit headHit
        · exact inductionHypothesis sortedRest found later

/-- The submissions are listed from the latest on. -/
theorem bySubmission_sorted (rows : List BlockchainTransaction) :
    (BlockchainTransactionRepository.bySubmission rows).Pairwise
      fun left right => right.submittedAt ≤ left.submittedAt := by
  have : Std.Total fun left right : BlockchainTransaction =>
      right.submittedAt ≤ left.submittedAt := ⟨fun left right => le_total _ _⟩
  have : IsTrans BlockchainTransaction fun left right => right.submittedAt ≤ left.submittedAt :=
    ⟨fun _ _ _ earlier later => le_trans later earlier⟩
  exact List.pairwise_insertionSort _ rows

/-- The row a confirmation takes is the last one, when all rows are open and were submitted
one after the other. -/
theorem revokeTx?_eq_getLast? {database : Database} {certId : Uuid}
    (opened : ∀ tx ∈ revocationsOf database certId, isOpen tx = true)
    (inOrder : ((revocationsOf database certId).map (·.submittedAt)).Pairwise (· < ·)) :
    revokeTx? database certId = (revocationsOf database certId).getLast? := by
  have listed : ∀ {tx : BlockchainTransaction}, tx ∈ revocationsOf database certId →
      tx ∈ BlockchainTransactionRepository.bySubmission
          ((database .blockchainTransactions).filter fun row => row.certificateId = some certId) ∧
        (tx.txType = .REVOKE_HASH && (tx.status = .PENDING || tx.status = .SUBMITTED)) = true := by
    intro tx member
    have isOpen := opened tx member
    simp only [revocationsOf, isRevocationOf, List.mem_filter, Bool.and_eq_true,
      decide_eq_true_iff] at member
    refine ⟨?_, ?_⟩
    · rw [BlockchainTransactionRepository.bySubmission, List.mem_insertionSort, List.mem_filter]
      exact ⟨member.1, by simpa using member.2.1⟩
    · rw [member.2.2]
      exact isOpen
  cases found : revokeTx? database certId with
  | none =>
      symm
      rw [List.getLast?_eq_none_iff, List.eq_nil_iff_forall_not_mem]
      intro tx member
      exact List.find?_eq_none.mp found tx (listed member).1 (listed member).2
  | some tx =>
      have isRow : tx ∈ revocationsOf database certId := by
        obtain ⟨member, sameCertificate, isRevocation⟩ := revokeTx?_row found
        simp [revocationsOf, isRevocationOf, member, sameCertificate, isRevocation]
      obtain ⟨earlier, last, isLast⟩ := List.eq_nil_or_concat' (revocationsOf database certId)
        |>.resolve_left (List.ne_nil_of_mem isRow)
      have lastIn : last ∈ revocationsOf database certId := by simp [isLast]
      have later : last.submittedAt ≤ tx.submittedAt := by
        refine le_of_find?_sorted (bySubmission_sorted _) (fun _ => le_refl _) found
          (listed lastIn).1 (listed lastIn).2
      rw [isLast] at isRow inOrder ⊢
      rw [List.getLast?_concat]
      rcases List.mem_append.mp isRow with isEarlier | isTx
      · rw [List.map_append, List.pairwise_append] at inOrder
        have before := inOrder.2.2 _ (List.mem_map_of_mem isEarlier) last.submittedAt (by simp)
        exact absurd before (not_lt.mpr later)
      · rw [List.mem_singleton.mp isTx]

/-- One call on the certificate, on a session of its own. -/
inductive RevocationTurn where
  | initiate (request : RevokeRequest) (user : User) (blockchainService : Bool) (inputs : Inputs)
  | confirm (txHash : String) (user : User) (inputs : Inputs)

/-- A store, with the requests of the initiations committed so far. -/
structure RevocationWorld where
  store : ValidStore
  requests : List RevokeRequest

/-- The reasons given so far. -/
def RevocationWorld.reasons (world : RevocationWorld) : List String :=
  world.requests.map (·.reason)

/-- An initiation is committed when it returns. -/
def RevocationWorld.turn (runtime : Runtime) (certId : Uuid) (world : RevocationWorld) :
    RevocationTurn → RevocationWorld
  | .initiate request user blockchainService inputs =>
      let call := initiateRevocation runtime certId request.reason user blockchainService
      let ended := call.run sessionHandler (world.store.toStore, .fresh inputs)
      { store := ⟨ended.2.1, world.store.run_valid inputs call⟩
        requests := world.requests ++ (ended.1.toOption.map fun _ => request).toList }
  | .confirm txHash user inputs =>
      let call := confirmRevocation runtime certId txHash user
      let ended := call.run sessionHandler (world.store.toStore, .fresh inputs)
      { world with store := ⟨ended.2.1, world.store.run_valid inputs call⟩ }

/-- The reasons are kept in the rows, and the rows are open until the revocation. -/
structure ReasonsKept (certId : Uuid) (database : Database) (reasons : List String) : Prop where
  notes : (revocationsOf database certId).map (·.errorMessage) = reasons.map some
  opened : (∀ certificate ∈ database.find? .certificates certId, certificate.isActive = true) →
    ∀ tx ∈ revocationsOf database certId, isOpen tx = true

/-- The ledger is all that matters. -/
theorem ReasonsKept.congr {certId : Uuid} {before after : Database} {reasons : List String}
    (kept : ReasonsKept certId before reasons) (same : SameLedger after before) :
    ReasonsKept certId after reasons := by
  have sameRows : revocationsOf after certId = revocationsOf before certId := by
    rw [revocationsOf, revocationsOf, same.2]
  refine ⟨by rw [sameRows, kept.notes], fun active => ?_⟩
  rw [sameRows]
  exact kept.opened fun certificate found =>
    active certificate ((Database.find?_congr same.1 certId).trans found)

/-- An initiation commits a row with its reason, or nothing. -/
theorem initiateRevocation_settles {runtime : Runtime} (store : ValidStore) (inputs : Inputs)
    (certId : Uuid) (reason : String) (user : User) (blockchainService : Bool) :
    let ended := (initiateRevocation runtime certId reason user blockchainService).run
      directHandler (.fresh store.toStore inputs)
    ((∃ error, ended.1 = .error error) ∧ SameLedger ended.2.database store.database) ∨
    (∃ ticket revokeTx, ended.1 = .ok ticket ∧ IsRevokeRow certId revokeTx ∧
      revokeTx.errorMessage = some reason ∧
      ended.2.database .certificates = store.database .certificates ∧
      ended.2.database .blockchainTransactions =
        store.database .blockchainTransactions ++ [revokeTx]) := by
  have statements := every_initiateBlock Op.not_isControl_of_isReading runtime certId reason user
    blockchainService fun _ _ _ => rfl
  simp only [initiateRevocation, Program.run_bind, run_transaction_fresh]
  rcases ran : (initiateBlock runtime certId reason user blockchainService).run directHandler
    (.begun store.toStore inputs) with ⟨error | answer, left⟩
  · have sameDatabase := (run_follows statements (.begun store.toStore inputs)).1
    rw [ran] at sameDatabase
    exact .inl ⟨⟨error, rfl⟩, congrFun sameDatabase .certificates,
      congrFun sameDatabase .blockchainTransactions⟩
  · obtain ⟨certificate, revokeTx, -, ⟨isRevokeRow, note⟩, certificates, transactions⟩ :=
      initiateBlock_rows (Direct.open_begun store inputs) ran
    exact .inr ⟨_, revokeTx, rfl, isRevokeRow, note, certificates, transactions⟩

/-- One more open row with its reason. -/
theorem ReasonsKept.initiated {certId : Uuid} {before after : Database} {reasons : List String}
    {reason : String} {revokeTx : BlockchainTransaction} (kept : ReasonsKept certId before reasons)
    (isRevokeRow : IsRevokeRow certId revokeTx) (note : revokeTx.errorMessage = some reason)
    (certificates : after .certificates = before .certificates)
    (transactions : after .blockchainTransactions =
      before .blockchainTransactions ++ [revokeTx]) :
    ReasonsKept certId after (reasons ++ [reason]) := by
  have isRow : isRevocationOf certId revokeTx = true := by
    simp [isRevocationOf, isRevokeRow.certificateId, isRevokeRow.txType]
  have rows : revocationsOf after certId = revocationsOf before certId ++ [revokeTx] := by
    simp [revocationsOf, transactions, isRow]
  refine ⟨by simp [rows, kept.notes, note], fun active tx member => ?_⟩
  rw [rows, List.mem_append, List.mem_singleton] at member
  rcases member with old | rfl
  · exact kept.opened (fun certificate found =>
      active certificate ((Database.find?_congr certificates certId).trans found)) tx old
  · simp [isOpen, isRevokeRow.unstamped.1]

/-- A confirmation keeps the reasons, and the rows open unless it revokes the certificate. -/
theorem ReasonsKept.confirmed {runtime : Runtime} {certId : Uuid} {reasons : List String}
    (store : ValidStore) (kept : ReasonsKept certId store.database reasons) (inputs : Inputs)
    (txHash : String) (user : User) :
    ReasonsKept certId ((confirmRevocation runtime certId txHash user).run directHandler
      (.fresh store.toStore inputs)).2.database reasons := by
  rcases @confirmRevocation_settles runtime store inputs certId txHash user with
    same | ⟨response, left, path, isLeft⟩
  · exact kept.congr same
  rw [isLeft]
  obtain ⟨certificate, assignments, marks, revocable, -, mark, certificates, transactions⟩ :=
    path.ledger
  have keyed := store.valid.keyed
  have notes : (revocationsOf left.working certId).map (·.errorMessage) = reasons.map some := by
    have same := notes_recordedRows (store.database .blockchainTransactions)
      (revokeTx? store.database certId) assignments certId
    have sameNotes := congrArg (List.map Prod.fst) same
    simp only [List.map_map, Function.comp_def] at sameNotes
    rw [revocationsOf, transactions]
    exact sameNotes.trans kept.notes
  refine ⟨notes, fun active tx member => ?_⟩
  cases mark with
  | submitted =>
      have before : ∀ certificate ∈ store.database.find? .certificates certId,
          certificate.isActive = true := by
        intro certificate found
        refine active certificate ((Database.find?_congr ?_ certId).trans found)
        exact certificates.trans (@updateRows_nil .certificates _ _)
      have rows : revocationsOf left.working certId = (recordedRows (revokeTx? store.database
          certId) [.status .SUBMITTED, .txHash (some txHash)]
            (store.database .blockchainTransactions)).filter (isRevocationOf certId) := by
        rw [revocationsOf, transactions]
        rfl
      have isRow : tx ∈ (recordedRows (revokeTx? store.database certId)
          [.status .SUBMITTED, .txHash (some txHash)] (store.database
            .blockchainTransactions)).filter (isRevocationOf certId) := rows ▸ member
      obtain ⟨stored, isRevocation⟩ := List.mem_filter.mp isRow
      rcases mem_recordedRows keyed (fun row found => (revokeTx?_row found).1) stored with
        old | ⟨row, -, rfl⟩
      · exact kept.opened before tx (List.mem_filter.mpr ⟨old, isRevocation⟩)
      · rfl
  | revoked isRevoked reason now receipt time =>
      have found := @find?_updated store.database left.working .certificates certId certificate _
        revocable.found certificates
      have impossible := active _ found
      cases impossible

/-- Every turn keeps them. -/
theorem ReasonsKept.turn {runtime : Runtime} {certId : Uuid} (world : RevocationWorld)
    (kept : ReasonsKept certId world.store.database world.reasons) (turn : RevocationTurn) :
    ReasonsKept certId (world.turn runtime certId turn).store.database
      (world.turn runtime certId turn).reasons := by
  cases turn with
  | initiate request user blockchainService inputs =>
      obtain ⟨sameOutcome, described⟩ := world.store.run_eq inputs
        (initiateRevocation runtime certId request.reason user blockchainService)
      have sameDatabase := congrArg Direct.database described
      have isAfter : (world.turn runtime certId (.initiate request user blockchainService
          inputs)).store.database = ((initiateRevocation runtime certId request.reason user
            blockchainService).run directHandler (.fresh world.store.toStore inputs)).2.database :=
        sameDatabase
      have isRequests : (world.turn runtime certId (.initiate request user blockchainService
          inputs)).requests = world.requests ++ (((initiateRevocation runtime certId request.reason
            user blockchainService).run directHandler (.fresh world.store.toStore
              inputs)).1.toOption.map fun _ => request).toList := by
        rw [← sameOutcome]
        rfl
      rw [isAfter, RevocationWorld.reasons, isRequests]
      rcases @initiateRevocation_settles runtime world.store inputs certId request.reason user
        blockchainService with
        ⟨⟨error, failed⟩, same⟩ |
        ⟨ticket, revokeTx, returned, isRevokeRow, note, certificates, transactions⟩
      · rw [failed]
        simpa [Except.toOption, RevocationWorld.reasons] using kept.congr same
      · rw [returned]
        simpa [Except.toOption, RevocationWorld.reasons] using
          kept.initiated isRevokeRow note certificates transactions
  | confirm txHash user inputs =>
      have described := (world.store.run_eq inputs
        (confirmRevocation runtime certId txHash user)).2
      have isAfter : (world.turn runtime certId (.confirm txHash user inputs)).store.database =
          ((confirmRevocation runtime certId txHash user).run directHandler
            (.fresh world.store.toStore inputs)).2.database := congrArg Direct.database described
      rw [isAfter]
      exact kept.confirmed world.store inputs txHash user

/-- What a confirmation that revokes the certificate has read and committed. -/
structure Revocation (runtime : Runtime) (store : Store) (inputs : Inputs) (certId : Uuid)
    (txHash : String) (user : User) (revokedAt : Timestamp) (ended : Direct)
    (certificate : Certificate) (record : ChainCertificateRecord) (asked after : Direct) : Prop where
  revocable : Revocable store.database certId user certificate
  received : ∃ receipt, receiptLookup runtime (.begun store inputs) txHash =
    (.ok (some receipt), asked)
  answered : recordLookup runtime asked certificate.certificateUid = (.ok (some record), after)
  isRevoked : record.status = "REVOKED"
  returned : revokedAt = confirmedAt after record
  certificates : ended.database .certificates = @updateRows .certificates certId
    (CertificateRepository.revocation (originalReason (revokeTx? store.database certId)) user.id
      ((timed after record).inputs.wallClock (timed after record).reads))
    (store.database .certificates)
  transactions : ∃ receipt, ended.database .blockchainTransactions =
    recordedRows (revokeTx? store.database certId)
      (.status .CONFIRMED :: CertificateIssuanceService.confirmationData txHash receipt revokedAt)
      (store.database .blockchainTransactions)
  chain : ended.chain = after.chain

/-- A confirmation that returns has revoked with the reason on the row. -/
theorem confirmRevocation_revoked {runtime : Runtime} {store : ValidStore} {inputs : Inputs}
    {certId id : Uuid} {txHash : String} {user : User} {revokedAt : Timestamp}
    (confirmed : ((confirmRevocation runtime certId txHash user).run directHandler
      (.fresh store.toStore inputs)).1 = .ok (.revoked id revokedAt)) :
    ∃ certificate record asked after, Revocation runtime store.toStore inputs certId txHash user
      revokedAt ((confirmRevocation runtime certId txHash user).run directHandler
        (.fresh store.toStore inputs)).2 certificate record asked after := by
  have path := @confirmBlock_path runtime _ (Direct.open_begun store inputs) certId txHash user
  have receiptSame := receiptLookup_working runtime (.begun store.toStore inputs) txHash
  rw [confirmRevocation, run_transaction_fresh] at confirmed ⊢
  rcases ran : (confirmBlock runtime certId txHash user).run directHandler
    (.begun store.toStore inputs) with ⟨error | response, left⟩
  · rw [ran] at confirmed
    cases confirmed
  rw [ran] at confirmed path
  cases confirmed
  cases path with
  | completed revocable path =>
      rename_i certificate
      have isId : certificate.id = certId := (Database.find?_some revocable.found).2
      cases path with
      | revoked found succeeded answered isRevoked accepted =>
          rename_i receipt asked record after
          rw [found] at receiptSame
          have afterSame : after.working = store.database :=
            (congrArg (·.2.working) answered).symm.trans receiptSame
          have timedSame := (timed_working after record).trans afterSame
          refine ⟨certificate, record, asked, after, revocable, ⟨receipt, found⟩, answered, isRevoked,
            rfl, ?_, ⟨receipt, ?_⟩, ?_⟩
          · change Direct.working _ .certificates = _
            rw [Direct.recorded_certificates, revokedState, Direct.revoked_certificates, timedSame,
              isId]
            rfl
          · change Direct.working _ .blockchainTransactions = _
            rw [Direct.recorded_transactions, revokedState, Direct.revoked_transactions, timedSame]
            rfl
          · change Direct.chain (Direct.recorded _ _ _) = _
            rw [(Direct.recorded_sameOutside _ _ _).chain, revokedState]
            unfold timed
            split <;> rfl

/-- The reason of a revocation that goes through is that of the latest initiation committed
before it, or the generic text. -/
theorem revocation_reason_survives (runtime : Runtime) (certId : Uuid) (start : ValidStore)
    (unrevoked : revocationsOf start.database certId = []) (turns : List RevocationTurn)
    (world : RevocationWorld)
    (reached : world = stateAfter (RevocationWorld.turn runtime certId) ⟨start, []⟩ turns)
    (inOrder : ((revocationsOf world.store.database certId).map (·.submittedAt)).Pairwise (· < ·))
    (inputs : Inputs) (txHash : String) (user : User) (id : Uuid) (revokedAt : Timestamp)
    (confirmed : ((confirmRevocation runtime certId txHash user).run sessionHandler
      (world.store.toStore, .fresh inputs)).1 = .ok (.revoked id revokedAt)) :
    ∃ certificate, ((confirmRevocation runtime certId txHash user).run sessionHandler
        (world.store.toStore, .fresh inputs)).2.1.database.find? .certificates certId =
          some certificate ∧
      certificate.revocationReason =
        some (world.reasons.getLast?.getD "Revocation confirmed on blockchain") := by
  have kept : ReasonsKept certId world.store.database world.reasons := by
    rw [reached]
    refine @stateAfter_invariant _ _ (RevocationWorld.turn runtime certId)
      (fun world => ReasonsKept certId world.store.database world.reasons)
      (fun world turn kept => kept.turn world turn) ⟨start, []⟩ ?_ turns
    refine ⟨by simp [unrevoked, RevocationWorld.reasons], fun _ tx member => ?_⟩
    rw [unrevoked] at member
    cases member
  obtain ⟨sameOutcome, described⟩ := world.store.run_eq inputs
    (confirmRevocation runtime certId txHash user)
  have sameDatabase := congrArg Direct.database described
  rw [show ((confirmRevocation runtime certId txHash user).run sessionHandler
    (world.store.toStore, .fresh inputs)).2.1.database = _ from sameDatabase]
  rw [sameOutcome] at confirmed
  obtain ⟨certificate, record, asked, after, committed⟩ := confirmRevocation_revoked confirmed
  have found := @find?_updated world.store.database _ .certificates certId certificate _
    committed.revocable.found committed.certificates
  refine ⟨_, found, ?_⟩
  change some (originalReason (revokeTx? world.store.database certId)) = _
  have active : ∀ other ∈ world.store.database.find? .certificates certId,
      other.isActive = true := by
    intro other isFound
    rw [committed.revocable.found] at isFound
    cases isFound
    exact committed.revocable.active
  rw [revokeTx?_eq_getLast? (kept.opened active) inOrder]
  have last := congrArg List.getLast? kept.notes
  rw [List.getLast?_map, List.getLast?_map] at last
  rw [RevocationWorld.reasons, List.getLast?_map] at last ⊢
  cases isLast : world.requests.getLast? with
  | none =>
      rw [isLast] at last
      rw [Option.map_eq_none_iff.mp last]
      rfl
  | some request =>
      rw [isLast] at last
      obtain ⟨tx, isTx, note⟩ := Option.map_eq_some_iff.mp last
      have given : request.reason ≠ "" := by
        intro empty
        have long := request.minLength
        rw [empty] at long
        exact absurd long (by decide)
      have noted : tx.errorMessage = some request.reason := note
      rw [isTx]
      simp [originalReason, noted, Option.filter, given]

end CertificateRevocationService

namespace Sample

open CertificateRevocationService

/-- A certificate that is stored on chain and was never revoked. -/
def standing : ValidStore where
  database := database .CONFIRMED [transaction 5 .STORE_HASH .SUBMITTED (some txHash)]
  chain := chain [authorization, storage "UNI-2024-00001"]
  files := []
  valid := valid_submitted

/-- An initiation with UUIDs and a database clock of its own. -/
def reinitiation (request : RevokeRequest) (uuid : Uuid) : RevocationTurn :=
  .initiate request administrator true
    { inputs answered with
      uuid4 := fun read => uuid + read
      databaseClock := fun _ => 1700000000000000 + uuid }

/-- The revocation is mined just before the receipt is looked up. -/
def minedMeanwhile (read : Nat) : RpcOutcome where
  mined := if read = 0 then [revocation "UNI-2024-00001"] else []
  failure := none

/-- The first request to revoke. -/
def firstRequest : RevokeRequest := ⟨"Issued in error", by decide, by decide⟩

/-- The second request to revoke, with another reason. -/
def secondRequest : RevokeRequest := ⟨"Awarded to another student", by decide, by decide⟩

/-- Two initiations, one after the other. -/
def reinitiated : RevocationWorld :=
  stateAfter (RevocationWorld.turn Runtime.sample 3) ⟨standing, []⟩
    [reinitiation firstRequest 200, reinitiation secondRequest 300]

/-- No revocation of the certificate is submitted. -/
theorem standing_unrevoked : revocationsOf standing.database 3 = [] := by decide +kernel

/-- The facts after the revocation was initiated twice. -/
theorem reinitiated_facts :
    ((revocationsOf reinitiated.store.database 3).map (·.submittedAt)).Pairwise (· < ·) ∧
      reinitiated.reasons.getLast? = some "Awarded to another student" ∧
      ((CertificateRevocationService.confirmRevocation Runtime.sample 3 revocationTxHash
        administrator).run sessionHandler
          (reinitiated.store.toStore, .fresh (inputs minedMeanwhile))).1 =
            .ok (.revoked 3 1700000003000000) := by decide +kernel

end Sample

namespace CertificateRevocationService

/-- The second of two reasons is the one that is kept. -/
theorem revocation_reason_survives_second :
    ∃ certificate, ((confirmRevocation Runtime.sample 3 Sample.revocationTxHash
        Sample.administrator).run sessionHandler (Sample.reinitiated.store.toStore,
          .fresh (Sample.inputs Sample.minedMeanwhile))).2.1.database.find? .certificates 3 =
            some certificate ∧
      certificate.revocationReason = some "Awarded to another student" := by
  obtain ⟨inOrder, reasons, confirmed⟩ := Sample.reinitiated_facts
  obtain ⟨certificate, found, reason⟩ := revocation_reason_survives Runtime.sample 3
    Sample.standing Sample.standing_unrevoked _ Sample.reinitiated rfl inOrder
    (Sample.inputs Sample.minedMeanwhile) Sample.revocationTxHash Sample.administrator 3
    1700000003000000 confirmed
  rw [reasons] at reason
  exact ⟨certificate, found, reason⟩

end CertificateRevocationService
end AcademicCredential
