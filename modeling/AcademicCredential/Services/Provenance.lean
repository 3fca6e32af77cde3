import AcademicCredential.Services.LedgerEffect
import AcademicCredential.Services.TransactionRows

/-!
# Where confirmed transaction hashes come from

`World` adds to a store the transactions that were mined on its chain, which no operation
reads. A confirmation compares the record under the certificate's UID with the row but
never asks which transaction wrote it, so the recorded hash is that of the storing
transaction exactly as far as the callers submit it.
-/

namespace AcademicCredential

open AcademicCredential.Lib
open AcademicCredential.Contract

/-- A store, and every transaction mined on its chain since the deployment. -/
structure World where
  store : Store
  history : List MinedTransaction

/-- What is mined while the first RPC calls of a request are answered. -/
def minedDuring (inputs : Inputs) (calls : Nat) : List MinedTransaction :=
  (List.range calls).flatMap fun call => (inputs.rpc call).mined

/-- The other tables change without the transaction rows: only the four calls write them. -/
def World.apply (runtime : Runtime) (world : World) : Event → World
  | .request call inputs =>
      let outcome := ((call.action runtime).run sessionHandler (world.store, .fresh inputs)).2
      { store := outcome.1
        history := world.history ++ minedDuring inputs outcome.2.rpcCalls.length }
  | .mined transactions =>
      { store := Event.apply runtime world.store (.mined transactions)
        history := world.history ++ transactions }
  | .elsewhere database =>
      if database .blockchainTransactions = world.store.database .blockchainTransactions then
        { world with store := Event.apply runtime world.store (.elsewhere database) }
      else
        world

/-- The world before the first request. -/
def initialWorld (deployer : Address) : World where
  store := initialStore deployer
  history := []

/-- The world after a run. -/
def worldAfter (runtime : Runtime) (deployer : Address) (events : List Event) : World :=
  stateAfter (World.apply runtime) (initialWorld deployer) events

/-- The later state's chain is the earlier one's with what the reads in between mined. -/
def Direct.Mines (before after : Direct) : Prop :=
  after.inputs = before.inputs ∧ ∃ calls, after.rpcCalls.length = before.rpcCalls.length + calls ∧
    after.chain = before.chain.mineAll
      ((List.range' before.rpcCalls.length calls).flatMap fun call => (before.inputs.rpc call).mined)

/-- Nothing is mined by nothing. -/
theorem Direct.Mines.refl (direct : Direct) : direct.Mines direct :=
  ⟨rfl, 0, rfl, rfl⟩

/-- What two spans mine is mined by both. -/
theorem Direct.Mines.trans {first middle last : Direct} (earlier : first.Mines middle)
    (later : middle.Mines last) : first.Mines last := by
  obtain ⟨sameEarlier, earlierCalls, earlierLength, earlierChain⟩ := earlier
  obtain ⟨sameLater, laterCalls, laterLength, laterChain⟩ := later
  refine ⟨sameLater.trans sameEarlier, earlierCalls + laterCalls, by omega, ?_⟩
  rw [laterChain, earlierChain, sameEarlier, earlierLength, ← Chain.mineAll_append,
    ← List.flatMap_append, List.range'_append_1]

/-- An operation mines what its inputs hold, or nothing. -/
theorem directHandler_mines (Reply : Type) (op : Op Reply) (direct : Direct) :
    direct.Mines (directHandler Reply op direct).2 := by
  have updated : ∀ {table : Table} (id : Uuid) (assignments : List (Assignment table)) row,
      direct.Mines (direct.updateRow table id assignments row).2 := by
    intro table id assignments row
    unfold Direct.updateRow
    split <;> exact ⟨rfl, 0, rfl, rfl⟩
  cases op with
  | flush table id assignments =>
      simp only [directHandler, Direct.flush]
      split
      · split
        · exact .refl direct
        · exact updated ..
      · exact ⟨rfl, 0, rfl, rfl⟩
  | executeUpdate table id assignments =>
      simp only [directHandler, Direct.executeUpdate]
      split
      · exact updated ..
      · exact ⟨rfl, 0, rfl, rfl⟩
  | insert table row =>
      simp only [directHandler, Direct.insert]
      split <;> exact ⟨rfl, 0, rfl, rfl⟩
  | begin =>
      simp only [directHandler]
      split <;> exact ⟨rfl, 0, rfl, rfl⟩
  | rpc call =>
      refine ⟨rfl, 1, by simp [directHandler, Direct.rpc], ?_⟩
      simp [directHandler, Direct.rpc, Direct.nextChain]
  | select | selectText | count | refresh | commit | rollback | now | serverNow | monotonic | today
  | uuid4 | tokenUrlsafe | writeFile | fileExists => exact ⟨rfl, 0, rfl, rfl⟩

/-- A program mines what its inputs hold. -/
theorem run_mines {Value : Type} (program : Action Value) (direct : Direct) :
    direct.Mines (program.run directHandler direct).2 :=
  Program.run_respects Direct.Mines Direct.Mines.refl Direct.Mines.trans
    (fun Reply op _ direct => directHandler_mines Reply op direct) program.every_true direct

/-- What a request does to the world, computed on the direct state. -/
theorem World.apply_request (runtime : Runtime) (world : World) (valid : world.store.database.Valid)
    (call : CertificateCall) (inputs : Inputs) :
    let after := ((call.action runtime).run directHandler (.fresh world.store inputs)).2
    let later := world.apply runtime (.request call inputs)
    later.store.database = after.database ∧ later.store.chain = after.chain ∧
      later.history = world.history ++ minedDuring inputs after.rpcCalls.length ∧
      after.chain = world.store.chain.mineAll (minedDuring inputs after.rpcCalls.length) := by
  have described := (ValidStore.run_eq ⟨world.store, valid⟩ inputs (call.action runtime)).2
  have mines := run_mines (call.action runtime) (.fresh world.store inputs)
  obtain ⟨-, calls, length, chain⟩ := mines
  have calls_eq : calls = ((call.action runtime).run directHandler
      (.fresh world.store inputs)).2.rpcCalls.length := by
    simpa [Direct.fresh] using length.symm
  have sameCalls := congrArg (fun direct : Direct => direct.rpcCalls.length) described
  refine ⟨congrArg Direct.database described, congrArg Direct.chain described, ?_, ?_⟩
  · simp only [World.apply, ← sameCalls, Direct.of]
  · rw [chain, ← calls_eq, minedDuring, List.range_eq_range']
    rfl

/-- The transaction calls `storeCertificate` with the certificate's UID. -/
def StoresUid (mined : MinedTransaction) (certUid : String) : Prop :=
  ∃ transaction hash, mined.call = .registry transaction ∧
    transaction.call = .storeCertificate (solidityString certUid) hash

/-- The row's hash and block are those of the transaction that executed `storeCertificate`
with the UID and the hash of the row's certificate. -/
structure ProvenBy (runtime : Runtime) (deployer : Address) (world : World)
    (tx : BlockchainTransaction) (certificate : Certificate) (mined : MinedTransaction) : Prop where
  stored : certificate ∈ world.store.database .certificates
  certificateId : tx.certificateId = some certificate.id
  executed : Chain.MinedIn (.deployed deployer) world.history mined true
  stores : ∃ transaction hash, mined.call = .registry transaction ∧
    transaction.call = .storeCertificate (solidityString certificate.certificateUid) hash ∧
    hexText hash.1 = certificate.sha256Hash
  txHash : ∃ text, tx.txHash = some text ∧
    runtime.transactionHashBytes text = .ok mined.transactionHash
  blockNumber : tx.blockNumber = some mined.blockNumber

/-- A confirmed STORE_HASH row. -/
def ConfirmedStore (tx : BlockchainTransaction) : Prop :=
  tx.txType = .STORE_HASH ∧ tx.status = .CONFIRMED

instance (tx : BlockchainTransaction) : Decidable (ConfirmedStore tx) :=
  inferInstanceAs (Decidable (_ ∧ _))

/-- Every confirmed STORE_HASH row records the transaction that stored its certificate. -/
def Proven (runtime : Runtime) (deployer : Address) (world : World) : Prop :=
  ∀ tx ∈ world.store.database .blockchainTransactions, ConfirmedStore tx →
    ∃ certificate mined, ProvenBy runtime deployer world tx certificate mined

/-- No transaction hash is recorded as confirmed for two certificates, however it is
spelled. -/
def ConfirmedOnce (world : World) : Prop :=
  ∀ tx ∈ world.store.database .blockchainTransactions,
    ∀ other ∈ world.store.database .blockchainTransactions,
      ConfirmedStore tx → ConfirmedStore other → ∀ text otherText, tx.txHash = some text →
        other.txHash = some otherText → lower text = lower otherText →
          tx.certificateId = other.certificateId

/-- What every state of a run with the condition has. -/
structure World.Consistent (runtime : Runtime) (deployer : Address) (world : World) : Prop where
  valid : world.store.database.Valid
  chain : world.store.chain = (Chain.deployed deployer).mineAll world.history
  proven : Proven runtime deployer world

/-- The event is a confirmation of storage that goes on with the certificate, finds its
record and hash on chain, and was given the hash of a successful transaction that is no
`storeCertificate` for its UID. -/
def SubmitsOther (runtime : Runtime) (deployer : Address) (world : World) (event : Event) : Prop :=
  ∃ certId txHash user inputs certificate mined,
    event = .request (.confirmStorage certId txHash user) inputs ∧
    CertificateIssuanceService.Confirmable world.store.database certId user certificate ∧
    OnChain (world.apply runtime event).store.chain certificate ∧
    Chain.MinedIn (.deployed deployer) (world.apply runtime event).history mined true ∧
    runtime.transactionHashBytes txHash = .ok mined.transactionHash ∧
    ¬ StoresUid mined certificate.certificateUid

/-- Stored certificates stay, with their UID and hash. -/
def Preserves (before after : List Certificate) : Prop :=
  ∀ certificate ∈ before, ∃ later ∈ after, later.id = certificate.id ∧
    later.certificateUid = certificate.certificateUid ∧ later.sha256Hash = certificate.sha256Hash

/-- Rows that stay as they are are preserved. -/
theorem Preserves.of_eq {before after : List Certificate} (same : after = before) :
    Preserves before after :=
  fun certificate member => ⟨certificate, same ▸ member, rfl, rfl, rfl⟩

/-- Rows that are only added to are preserved. -/
theorem Extends.preserves {before after : List Certificate}
    (extended : Extends (fun _ => True) before after) : Preserves before after := by
  obtain ⟨new, -, rfl⟩ := extended
  exact fun certificate member => ⟨certificate, List.mem_append_left new member, rfl, rfl, rfl⟩

/-- An update preserves the content of the rows. -/
theorem preserves_updateRows (id : Uuid) (marks : List CertificateAssignment)
    (rows : List Certificate) : Preserves rows (@updateRows .certificates id marks rows) := by
  intro certificate member
  refine ⟨_, List.mem_map.mpr ⟨certificate, member, rfl⟩, ?_⟩
  by_cases isRow : @rowId .certificates certificate = id
  · rw [if_pos isRow]
    exact ⟨@rowId_assignAll .certificates certificate marks,
      sameContent_assignAll certificate marks⟩
  · rw [if_neg isRow]
    exact ⟨rfl, rfl, rfl⟩

/-- A proven row stays proven. -/
theorem ProvenBy.later {runtime : Runtime} {deployer : Address} {before after : World}
    {tx : BlockchainTransaction} {certificate : Certificate} {mined : MinedTransaction}
    (proven : ProvenBy runtime deployer before tx certificate mined)
    (preserves : Preserves (before.store.database .certificates)
      (after.store.database .certificates)) {more : List MinedTransaction}
    (history : after.history = before.history ++ more) :
    ∃ certificate, ProvenBy runtime deployer after tx certificate mined := by
  obtain ⟨later, member, sameId, sameUid, sameHash⟩ := preserves certificate proven.stored
  refine ⟨later, member, sameId ▸ proven.certificateId, history ▸ proven.executed.append more, ?_,
    proven.txHash, proven.blockNumber⟩
  rw [sameUid, sameHash]
  exact proven.stores

/-- A confirmed row that a confirmation has just stamped is proven, if the hash it was
given is that of a `storeCertificate` for the certificate's UID. -/
theorem Stamp.proven {runtime : Runtime} {deployer : Address} {world : World} {chain : Chain}
    {certificate kept : Certificate} {txHash : String} {tx : BlockchainTransaction}
    {assignments : List TransactionAssignment}
    (stamp : Stamp runtime chain certificate txHash tx.txType assignments)
    (isChain : chain = (Chain.deployed deployer).mineAll world.history)
    (stored : kept ∈ world.store.database .certificates)
    (sameContent : kept.certificateUid = certificate.certificateUid ∧
      kept.sha256Hash = certificate.sha256Hash)
    (certificateId : tx.certificateId = some kept.id)
    (submits : ∀ mined, OnChain chain certificate →
      Chain.MinedIn (.deployed deployer) world.history mined true →
      runtime.transactionHashBytes txHash = .ok mined.transactionHash →
      StoresUid mined certificate.certificateUid)
    (confirmed : ConfirmedStore (@assignAll .blockchainTransactions tx assignments)) :
    ∃ mined, ProvenBy runtime deployer world (@assignAll .blockchainTransactions tx assignments)
      kept mined := by
  cases stamp with
  | submitted => cases confirmed.2
  | @confirmed transactionHash receipt time denotes found succeeded agrees =>
      have isStore : tx.txType = .STORE_HASH := confirmed.1
      have onChain := agrees isStore
      obtain ⟨mined, ended, minedIn, rfl, rfl⟩ := Chain.exists_minedIn rfl (isChain ▸ found)
      have success : ended = true := by
        cases ended with
        | false => exact absurd rfl succeeded
        | true => rfl
      subst success
      obtain ⟨transaction, hash, isCall, stores⟩ := submits mined onChain minedIn denotes
      have onRecord := minedIn.stored isCall stores
      rw [← isChain] at onRecord
      have sameHash : hexText hash.1 = certificate.sha256Hash := by
        rw [← onRecord.2]
        exact onChain.sameHash
      refine ⟨mined, stored, certificateId, minedIn, ⟨transaction, hash, isCall, ?_, ?_⟩,
        ⟨txHash, rfl, denotes⟩, rfl⟩
      · rw [sameContent.1]
        exact stores
      · rw [sameContent.2]
        exact sameHash

/-- One event that meets the condition keeps the world consistent. -/
theorem World.apply_consistent {runtime : Runtime} {deployer : Address} {world : World}
    (consistent : world.Consistent runtime deployer) (event : Event)
    (submits : ¬ SubmitsOther runtime deployer world event) :
    (world.apply runtime event).Consistent runtime deployer := by
  obtain ⟨valid, chain, proven⟩ := consistent
  cases event with
  | mined transactions =>
      refine ⟨valid, ?_, fun tx member confirmed => ?_⟩
      · simp only [World.apply, Event.apply, chain, Chain.mineAll_append]
      · obtain ⟨certificate, mined, provenBy⟩ := proven tx member confirmed
        have kept : Preserves (world.store.database .certificates)
          ((world.apply runtime (.mined transactions)).store.database .certificates) := .of_eq rfl
        obtain ⟨later, provenLater⟩ := provenBy.later kept rfl
        exact ⟨later, mined, provenLater⟩
  | elsewhere database =>
      rw [World.apply]
      split
      · rename_i sameTransactions
        rw [Event.apply]
        split
        · rename_i only
          refine ⟨only.1, chain, fun tx member confirmed => ?_⟩
          obtain ⟨certificate, mined, provenBy⟩ := proven tx (sameTransactions ▸ member) confirmed
          have noMore : world.history = world.history ++ [] := (List.append_nil _).symm
          obtain ⟨later, provenLater⟩ := @ProvenBy.later _ _ _
            { world with store := { world.store with database } } _ _ _ provenBy
            (Preserves.of_eq only.2) _ noMore
          exact ⟨later, mined, provenLater⟩
        · exact ⟨valid, chain, proven⟩
      · exact ⟨valid, chain, proven⟩
  | request call inputs =>
      obtain ⟨sameDatabase, sameChain, history, mined⟩ := world.apply_request runtime valid call inputs
      have bothValid : (Direct.fresh world.store inputs).Valid := ⟨valid, valid⟩
      have stillValid := (run_valid (call.action runtime) bothValid).database
      have effect := @call_ledger runtime call ⟨world.store, valid⟩ inputs
      generalize ((call.action runtime).run directHandler (.fresh world.store inputs)).2 = after
        at sameDatabase sameChain history mined stillValid effect
      have laterChain : after.chain = (Chain.deployed deployer).mineAll
          (world.apply runtime (.request call inputs)).history := by
        rw [mined, history, Chain.mineAll_append, chain]
      refine ⟨sameDatabase ▸ stillValid, sameChain.trans laterChain, fun tx member confirmed => ?_⟩
      rw [sameDatabase] at member
      have old : ∀ tx ∈ world.store.database .blockchainTransactions, ConfirmedStore tx →
          Preserves (world.store.database .certificates) (after.database .certificates) →
          ∃ certificate mined, ProvenBy runtime deployer
            (world.apply runtime (.request call inputs)) tx certificate mined := by
        intro tx member confirmed preserves
        obtain ⟨certificate, mined, provenBy⟩ := proven tx member confirmed
        obtain ⟨later, provenLater⟩ := provenBy.later (sameDatabase ▸ preserves) history
        exact ⟨later, mined, provenLater⟩
      cases effect with
      | added certificates transactions _ =>
          obtain ⟨new, unstamped, rows⟩ := transactions
          rw [rows] at member
          rcases List.mem_append.mp member with isOld | isNew
          · exact old tx isOld confirmed certificates.preserves
          · rw [ConfirmedStore, (unstamped tx isNew).1] at confirmed
            cases confirmed.2
      | @stamped certId txHash user certificate tx? type assignments marks isCall found owned
          confirmable row stamp certificates transactions =>
          have preserves : Preserves (world.store.database .certificates)
              (after.database .certificates) := by
            rw [certificates]
            exact preserves_updateRows certId marks _
          rw [transactions] at member
          rcases mem_recordedRows valid.keyed (fun tx isTx => (row tx isTx).1) member with
            isOld | ⟨stampedRow, isTx, rfl⟩
          · exact old tx isOld confirmed preserves
          · obtain ⟨-, certificateId, rfl⟩ := row stampedRow isTx
            obtain ⟨kept, stored, sameId, sameContent⟩ :=
              preserves certificate (Database.find?_some found).1
            have isId : certificate.id = certId := (Database.find?_some found).2
            rw [← sameDatabase] at stored
            have provenRow := stamp.proven laterChain stored sameContent
              (by rw [certificateId, sameId, isId]) ?_ confirmed
            · obtain ⟨mined, provenBy⟩ := provenRow
              exact ⟨kept, mined, provenBy⟩
            · intro mined onChain minedIn denotes
              by_contra other
              have isStore : stampedRow.txType = .STORE_HASH := by
                cases stamp <;> exact confirmed.1
              cases call with
              | confirmStorage callId callHash callUser =>
                  simp only [CertificateCall.confirmation?, Option.some.injEq, Prod.mk.injEq]
                    at isCall
                  obtain ⟨rfl, rfl, rfl, -⟩ := isCall
                  exact submits ⟨callId, callHash, callUser, inputs, certificate, mined, rfl,
                    confirmable isStore, sameChain ▸ onChain, minedIn, denotes, other⟩
              | upload | initiateRevocation => cases isCall
              | confirmRevocation callId callHash callUser =>
                  simp [CertificateCall.confirmation?, isStore] at isCall

/-- Without a foreign submission the world stays consistent. -/
theorem consistent_worldAfter {runtime : Runtime} {deployer : Address} {events : List Event}
    (submits : ∀ index, ¬ OccursAt (World.apply runtime) (initialWorld deployer) events
      (SubmitsOther runtime deployer) index) :
    (worldAfter runtime deployer events).Consistent runtime deployer := by
  have initially : (initialWorld deployer).Consistent runtime deployer :=
    ⟨.empty, rfl, fun _ member => absurd member List.not_mem_nil⟩
  refine stateAfter_invariant_of_never (World.apply runtime) ?_ initially submits
  exact fun world event consistent meets => world.apply_consistent consistent event meets

/-- web3 reads the 64 digits of a transaction hash text. -/
def DecodesHashes (runtime : Runtime) : Prop :=
  ∀ text, isTxHashText text = true → ∀ bytes,
    runtime.transactionHashBytes text = .ok bytes ↔
      sizedBytes? 32 (text.toList.drop 2) = some bytes

/-- Two spellings of a transaction hash denote the same bytes. -/
theorem DecodesHashes.ignoresCase {runtime : Runtime} (decodes : DecodesHashes runtime)
    {left right : String} (leftFormat : isTxHashText left = true)
    (rightFormat : isTxHashText right = true) (sameText : lower left = lower right)
    {bytes : Bytes32} (denotes : runtime.transactionHashBytes left = .ok bytes) :
    runtime.transactionHashBytes right = .ok bytes := by
  have digitsOf : ∀ text : String, isTxHashText text = true →
      ∀ char ∈ text.toList.drop 2, Hex.isDigit char = true := by
    intro text format
    unfold isTxHashText prefixedHex at format
    split at format
    · rename_i digits isText
      simp only [exactly, Bool.and_eq_true, List.all_eq_true] at format
      rw [isText]
      exact format.2
    · cases format
  have sameDigits : (left.toList.drop 2).map Char.toLower =
      (right.toList.drop 2).map Char.toLower := by
    have sameList := congrArg String.toList sameText
    rw [lower_of_ascii (ascii_of_prefixedHex leftFormat),
      lower_of_ascii (ascii_of_prefixedHex rightFormat), String.toList_ofList,
      String.toList_ofList] at sameList
    rw [List.map_drop, List.map_drop, sameList]
  have sameBytes : Hex.decode (left.toList.drop 2) = Hex.decode (right.toList.drop 2) := by
    rw [← Hex.decode_toLower _ (digitsOf left leftFormat),
      ← Hex.decode_toLower _ (digitsOf right rightFormat), sameDigits]
  have decoded := (decodes left leftFormat bytes).mp denotes
  refine (decodes right rightFormat bytes).mpr ?_
  unfold sizedBytes? at decoded ⊢
  rw [← sameBytes]
  exact decoded

/-- A string is determined by its bytes. -/
theorem solidityString_injective {left right : String}
    (same : solidityString left = solidityString right) : left = right := by
  refine String.toByteArray_inj.mp (ByteArray.ext (Array.toList_inj.mp ?_))
  simpa [solidityString] using same

/-- A certificate is determined by its UID. -/
theorem Certificate.eq_of_uid {database : Database} (valid : database.Valid)
    {left right : Certificate} (leftMember : left ∈ database .certificates)
    (rightMember : right ∈ database .certificates)
    (sameUid : left.certificateUid = right.certificateUid) : left = right := by
  by_contra different
  have apart := @Database.Valid.apart_of_ne _ valid .certificates _ _ leftMember rightMember
    different
  exact apart ⟨"certificate_uid", .text left.certificateUid⟩ (by simp [uniqueKeys])
    (by simp [uniqueKeys, sameUid])

/-- A stored transaction hash has the format of one. -/
theorem isTxHashText_of_valid {database : Database} (valid : database.Valid)
    {tx : BlockchainTransaction} (member : tx ∈ database .blockchainTransactions)
    {text : String} (isHash : tx.txHash = some text) : isTxHashText text = true := by
  have passes := violation?_eq_none.mp (valid.admissible .blockchainTransactions tx member)
  have format := passes ⟨"chk_blockchain_tx_hash_format", fun row =>
    nullOr isTxHashText row.txHash⟩ (by
      simp only [constraints, BlockchainTransaction.constraints, List.mem_cons, true_or, or_true])
  simpa [isHash] using format

/-- Where every confirmed row is proven, no transaction is confirmed twice. -/
theorem World.Consistent.confirmedOnce {runtime : Runtime} {deployer : Address} {world : World}
    (consistent : world.Consistent runtime deployer) (decodes : DecodesHashes runtime) :
    ConfirmedOnce world := by
  intro tx member other otherMember confirmed otherConfirmed text otherText isText isOtherText same
  obtain ⟨certificate, mined, provenBy⟩ := consistent.proven tx member confirmed
  obtain ⟨otherCertificate, otherMined, otherProven⟩ :=
    consistent.proven other otherMember otherConfirmed
  have denotes : runtime.transactionHashBytes text = .ok mined.transactionHash := by
    obtain ⟨stored, isStored, denotes⟩ := provenBy.txHash
    obtain rfl := Option.some.inj (isText.symm.trans isStored)
    exact denotes
  have otherDenotes : runtime.transactionHashBytes otherText = .ok otherMined.transactionHash := by
    obtain ⟨stored, isStored, denotes⟩ := otherProven.txHash
    obtain rfl := Option.some.inj (isOtherText.symm.trans isStored)
    exact denotes
  have format := isTxHashText_of_valid consistent.valid member isText
  have otherFormat := isTxHashText_of_valid consistent.valid otherMember isOtherText
  have sameHash : mined.transactionHash = otherMined.transactionHash :=
    Except.ok.inj ((decodes.ignoresCase format otherFormat same denotes).symm.trans otherDenotes)
  obtain ⟨rfl, -⟩ := provenBy.executed.unique otherProven.executed sameHash
  obtain ⟨transaction, hash, isCall, stores, -⟩ := provenBy.stores
  obtain ⟨otherTransaction, otherHash, isOtherCall, otherStores, -⟩ := otherProven.stores
  rw [isCall] at isOtherCall
  cases isOtherCall
  rw [stores] at otherStores
  injection otherStores with sameUid
  have sameCertificate := Certificate.eq_of_uid consistent.valid provenBy.stored
    otherProven.stored (solidityString_injective sameUid)
  rw [provenBy.certificateId, otherProven.certificateId, sameCertificate]

/-- In every run in which each hash submitted for a certificate that is on chain is that of
a `storeCertificate` for its UID, every confirmed row records the transaction that stored
its certificate, and no transaction is confirmed for two certificates. -/
theorem confirmed_transactions_proven (runtime : Runtime) (decodes : DecodesHashes runtime)
    (deployer : Address) (events : List Event)
    (submits : ∀ index, ¬ OccursAt (World.apply runtime) (initialWorld deployer) events
      (SubmitsOther runtime deployer) index) :
    Proven runtime deployer (worldAfter runtime deployer events) ∧
      ConfirmedOnce (worldAfter runtime deployer events) := by
  have consistent := consistent_worldAfter submits
  exact ⟨consistent.proven, consistent.confirmedOnce decodes⟩

namespace Sample

/-- web3 on the sample texts reads the digits. -/
theorem decodesHashes : DecodesHashes Runtime.sample := by
  intro text format bytes
  unfold isTxHashText prefixedHex at format
  split at format
  · rename_i digits isText
    simp only [Runtime.sample, isText, List.drop_succ_cons, List.drop_zero]
    cases sizedBytes? 32 digits <;> simp
  · cases format

/-- The transaction that authorizes the issuer. -/
def authorizationTxHash : String :=
  "0xaaaaaaaaaaaaaaaaaaaaaaaaaaaaaaaaaaaaaaaaaaaaaaaaaaaaaaaaaaaaaaaa"

/-- A certificate that is uploaded, stored and confirmed with the given hash. -/
def storedRun (txHash : String) : List Event :=
  [.elsewhere accounts, upload, .mined [authorization, storage certUid],
    .request (.confirmStorage 101 txHash administrator) (inputs answered)]

/-- The confirmation with which a sample run ends. -/
def confirmation (txHash : String) : Event :=
  .request (.confirmStorage 101 txHash administrator) (inputs answered)

/-- The run before it. -/
def minedRun : List Event :=
  [.elsewhere accounts, upload, .mined [authorization, storage certUid]]

/-- When every RPC answers, nothing is mined between. -/
theorem minedDuring_answered (calls : Nat) : minedDuring (inputs answered) calls = [] := by
  simp [minedDuring, inputs, answered]

/-- A step elsewhere leaves the chain's history. -/
theorem World.history_elsewhere (runtime : Runtime) (world : World) (database : Database) :
    (world.apply runtime (.elsewhere database)).history = world.history := by
  rw [World.apply]
  split <;> rfl

/-- The history of the run is the authorization and the storage. -/
theorem history_storedRun (txHash : String) :
    (worldAfter Runtime.sample deployer (storedRun txHash)).history =
      [authorization, storage certUid] := by
  simp only [worldAfter, stateAfter, storedRun, List.foldl_cons, List.foldl_nil]
  rw [World.apply, minedDuring_answered, List.append_nil, World.apply, upload, World.apply,
    minedDuring_answered, List.append_nil, World.history_elsewhere]
  rfl

/-- The UID of the uploaded certificate, and the rows that record its storage when the hash of
either transaction is submitted. -/
theorem storedRun_facts :
    ((worldAfter Runtime.sample deployer minedRun).store.database.find? .certificates 101).map
        (·.certificateUid) = some certUid ∧
      (∃ tx ∈ (worldAfter Runtime.sample deployer (storedRun txHash)).store.database
        .blockchainTransactions, ConfirmedStore tx) ∧
      ∃ tx ∈ (worldAfter Runtime.sample deployer (storedRun authorizationTxHash)).store.database
        .blockchainTransactions, ConfirmedStore tx ∧ tx.txHash = some authorizationTxHash := by
  decide +kernel

/-- The sample run submits the hash of the storing transaction. -/
theorem storedRun_submits (index : Nat) :
    ¬ OccursAt (World.apply Runtime.sample) (initialWorld deployer) (storedRun txHash)
      (SubmitsOther Runtime.sample deployer) index := by
  have isSnoc : storedRun txHash = minedRun ++ [confirmation txHash] := rfl
  rw [isSnoc, occursAt_snoc]
  rintro (⟨event, found, submits⟩ | ⟨-, submits⟩)
  · obtain ⟨certId, hash, user, inputs, _, _, rfl, -⟩ := submits
    have member := List.mem_of_getElem? found
    simp [minedRun, upload] at member
  · obtain ⟨certId, hash, user, inputs, certificate, mined, isEvent, confirmable, -, minedIn,
      denotes, other⟩ := submits
    cases isEvent
    have sameUid := storedRun_facts.1
    have found : (worldAfter Runtime.sample deployer minedRun).store.database.find? .certificates
      101 = some certificate := confirmable.found
    rw [found] at sameUid
    obtain ⟨earlier, later, history, -⟩ := minedIn
    have isHistory : (World.apply Runtime.sample (stateAfter (World.apply Runtime.sample)
        (initialWorld deployer) minedRun) (confirmation txHash)).history =
        [authorization, storage certUid] := by
      rw [← stateAfter_snoc (World.apply Runtime.sample), ← isSnoc]
      exact history_storedRun txHash
    have member : mined ∈ [authorization, storage certUid] := by
      rw [← isHistory]
      exact history ▸ List.mem_append_right earlier List.mem_cons_self
    simp only [List.mem_cons, List.not_mem_nil, or_false] at member
    rcases member with rfl | rfl
    · exact absurd denotes (by decide)
    · have isUid : certificate.certificateUid = certUid := Option.some.inj sameUid
      refine other ⟨_, Runtime.sample.sha256 file, rfl, ?_⟩
      rw [isUid]

end Sample

/-- The sample run confirms the certificate with the transaction that stored it. -/
theorem confirmed_transactions_proven_stored :
    (∃ tx ∈ (worldAfter Runtime.sample Sample.deployer (Sample.storedRun
      Sample.txHash)).store.database .blockchainTransactions, ConfirmedStore tx) ∧
    Proven Runtime.sample Sample.deployer
      (worldAfter Runtime.sample Sample.deployer (Sample.storedRun Sample.txHash)) ∧
    ConfirmedOnce (worldAfter Runtime.sample Sample.deployer (Sample.storedRun Sample.txHash)) :=
  ⟨Sample.storedRun_facts.2.1, confirmed_transactions_proven Runtime.sample Sample.decodesHashes
    Sample.deployer (Sample.storedRun Sample.txHash) Sample.storedRun_submits⟩

/-- `confirm_blockchain_storage` takes the hash of any successful transaction: here the one
that authorized the issuer is recorded as the one that stored the certificate. -/
theorem authorization_recorded_as_storage :
    ¬ Proven Runtime.sample Sample.deployer
      (worldAfter Runtime.sample Sample.deployer
        (Sample.storedRun Sample.authorizationTxHash)) := by
  intro proven
  have isHistory := Sample.history_storedRun Sample.authorizationTxHash
  obtain ⟨tx, member, confirmed, isText⟩ := Sample.storedRun_facts.2.2
  obtain ⟨certificate, mined, provenBy⟩ := proven tx member confirmed
  obtain ⟨text, isStored, denotes⟩ := provenBy.txHash
  obtain rfl := Option.some.inj (isText.symm.trans isStored)
  obtain ⟨earlier, later, history, -⟩ := provenBy.executed
  have inHistory : mined ∈ [Sample.authorization, Sample.storage Sample.certUid] := by
    rw [← isHistory, history]
    exact List.mem_append_right earlier List.mem_cons_self
  simp only [List.mem_cons, List.not_mem_nil, or_false] at inHistory
  obtain ⟨transaction, hash, isCall, stores, -⟩ := provenBy.stores
  rcases inHistory with rfl | rfl
  · cases isCall
    cases stores
  · exact absurd denotes (by decide)

end AcademicCredential
