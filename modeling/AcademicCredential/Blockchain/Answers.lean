import AcademicCredential.Blockchain.Service
import AcademicCredential.ChainHistory
import AcademicCredential.Database.Validity

/-!
# What the blockchain service answers

Each read of the blockchain service as a function of the chain before the read and of
how the call to the node goes. A read changes nothing in the database: it lets the
chain grow and is recorded as made.
-/

namespace AcademicCredential

open AcademicCredential.Lib
open AcademicCredential.Contract

/-- The state after one read of the chain. -/
def Direct.asked (direct : Direct) (call : RpcCall) : Direct :=
  { direct with chain := direct.nextChain, rpcCalls := direct.rpcCalls ++ [call] }

/-- Asking the chain writes no row. -/
@[simp] theorem Direct.working_asked (direct : Direct) (call : RpcCall) :
    (direct.asked call).working = direct.working := rfl

/-- How the next read of the chain goes. -/
def Direct.nextOutcome (direct : Direct) : RpcOutcome :=
  direct.inputs.rpc direct.rpcCalls.length

/-- The chain a read is answered on. -/
def RpcOutcome.chain (outcome : RpcOutcome) (before : Chain) : Chain :=
  before.mineAll outcome.mined

/-- What `verify_certificate` makes of the contract's answer. -/
def verificationOf (certUid : String) (answer : Bool × CertificateStatus) :
    BlockchainVerificationResult where
  isValid := answer.1
  status := chainStatusMap answer.2
  certUid

/-- `verify_certificate` on the text of 32 bytes. -/
def verifyAnswer (before : Chain) (outcome : RpcOutcome) (certUid : String)
    (submittedHash : Bytes32) : Except Exception BlockchainVerificationResult :=
  (outcome.reply (outcome.chain before) (.verifyCertificate certUid submittedHash)).map
    (verificationOf certUid)

/-- What `get_certificate_record` makes of the contract's answer. -/
def recordOf (runtime : Runtime) (record : CertificateRecord) :
    Except Exception (Option ChainCertificateRecord) :=
  if record.exists then some <$> chainRecord runtime record else .ok none

/-- `get_certificate_record`. -/
def recordAnswer (runtime : Runtime) (before : Chain) (outcome : RpcOutcome)
    (certUid : String) : Except Exception (Option ChainCertificateRecord) :=
  (outcome.reply (outcome.chain before) (.getCertificateRecord certUid)).bind
    (recordOf runtime)

/-- `get_transaction_receipt` for a transaction hash web3 accepts. -/
def receiptAnswer (before : Chain) (outcome : RpcOutcome) (txHash : String)
    (transactionHash : Bytes32) : Except Exception (Option TransactionReceipt) :=
  (outcome.reply (outcome.chain before) (.getTransactionReceipt transactionHash)).map
    (Option.map (transactionReceipt txHash))

/-- `get_transaction_receipt` in full: web3 refuses a text that is no transaction hash
before the node is asked, and the service reports that as an exhausted retry. -/
def receiptLookup (runtime : Runtime) (direct : Direct) (txHash : String) :
    Except Exception (Option TransactionReceipt) × Direct :=
  match runtime.transactionHashBytes txHash with
  | .error text => (.error (RpcFailure.retriesExhausted text).exception, direct)
  | .ok transactionHash =>
      (receiptAnswer direct.chain direct.nextOutcome txHash transactionHash,
        direct.asked (.getTransactionReceipt transactionHash))

/-- `get_certificate_record` in full. -/
def recordLookup (runtime : Runtime) (direct : Direct) (certUid : String) :
    Except Exception (Option ChainCertificateRecord) × Direct :=
  (recordAnswer runtime direct.chain direct.nextOutcome certUid,
    direct.asked (.getCertificateRecord certUid))

/-- Looking up a receipt writes no row. -/
@[simp] theorem receiptLookup_working (runtime : Runtime) (direct : Direct) (txHash : String) :
    (receiptLookup runtime direct txHash).2.working = direct.working := by
  unfold receiptLookup
  split <;> rfl

/-- Looking up a receipt leaves the transaction as it is. -/
@[simp] theorem receiptLookup_inTransaction (runtime : Runtime) (direct : Direct)
    (txHash : String) :
    (receiptLookup runtime direct txHash).2.inTransaction = direct.inTransaction := by
  unfold receiptLookup
  split <;> rfl

/-- A transaction stays open when the chain is asked. -/
theorem Direct.Open.asked {direct : Direct} (opened : direct.Open) (call : RpcCall) :
    (direct.asked call).Open :=
  ⟨opened.inTransaction, opened.valid⟩

/-- A transaction stays open when a receipt is looked up. -/
theorem Direct.Open.receiptLookup {direct : Direct} (opened : direct.Open) (runtime : Runtime)
    (txHash : String) : (receiptLookup runtime direct txHash).2.Open :=
  ⟨by simpa using opened.inTransaction, by simpa using opened.valid⟩

namespace BlockchainService

/-- A read of the chain answers as the next outcome says. -/
theorem run_rpc (direct : Direct) (call : RpcCall) :
    (attempt (.rpc call)).run directHandler direct =
      (direct.nextOutcome.reply (direct.nextOutcome.chain direct.chain) call,
        direct.asked call) := by
  simp [attempt, Program.run_bind, directHandler, Direct.rpc, Direct.nextOutcome, Direct.asked,
    Direct.nextChain, RpcOutcome.chain]

/-- `verify_certificate` with a well-formed hash answers as the contract does at that read. -/
theorem run_verifyCertificate (direct : Direct) (certUid : String) {text : String}
    {submittedHash : Bytes32} (isHash : hexText submittedHash.1 = text) :
    (verifyCertificate certUid text).run directHandler direct =
      (verifyAnswer direct.chain direct.nextOutcome certUid submittedHash,
        direct.asked (.verifyCertificate certUid submittedHash)) := by
  subst isHash
  have format : hashFormatRegex (hexText submittedHash.1) = true :=
    pythonMatch_of_format (isSha256Text_hexText submittedHash)
  have bytes : sizedBytes? 32 (hexText submittedHash.1).toList = some submittedHash := by
    simp [hexText, sizedBytes?_encode]
  simp only [verifyCertificate, format, Bool.not_true, Bool.false_eq_true, if_false, bytes,
    Program.run_bind, run_rpc, verifyAnswer]
  cases direct.nextOutcome.reply (direct.nextOutcome.chain direct.chain)
    (.verifyCertificate certUid submittedHash) <;> rfl

/-- `get_certificate_record` answers with the record at that read. -/
theorem run_getCertificateRecord (runtime : Runtime) (direct : Direct) (certUid : String) :
    (getCertificateRecord runtime certUid).run directHandler direct =
      recordLookup runtime direct certUid := by
  simp only [getCertificateRecord, Program.run_bind, run_rpc, recordLookup, recordAnswer]
  cases direct.nextOutcome.reply (direct.nextOutcome.chain direct.chain)
      (.getCertificateRecord certUid) with
  | error _ => rfl
  | ok record =>
      cases present : record.exists with
      | false => simp [present, recordOf, Except.bind]
      | true =>
          simp only [present, Bool.not_true, Bool.false_eq_true, if_false, Program.run_bind,
            Program.run_ofExcept, recordOf, if_true, Except.bind]
          cases chainRecord runtime record <;> rfl

/-- `get_transaction_receipt` answers with the receipt at that read. -/
theorem run_getTransactionReceipt (runtime : Runtime) (direct : Direct) (txHash : String) :
    (getTransactionReceipt runtime txHash).run directHandler direct =
      receiptLookup runtime direct txHash := by
  unfold getTransactionReceipt receiptLookup
  cases runtime.transactionHashBytes txHash with
  | error text => rfl
  | ok transactionHash =>
      simp only [Program.run_bind, run_rpc, receiptAnswer]
      cases direct.nextOutcome.reply (direct.nextOutcome.chain direct.chain)
        (.getTransactionReceipt transactionHash) <;> rfl

end BlockchainService

/-- A read that is answered had no failure. -/
theorem RpcOutcome.reply_ok {outcome : RpcOutcome} {chain : Chain} {call : RpcCall}
    {answer : call.Reply} (answered : outcome.reply chain call = .ok answer) :
    outcome.failure = none ∧ answer = chain.answer call := by
  unfold RpcOutcome.reply at answered
  cases failed : outcome.failure with
  | none =>
      rw [failed] at answered
      exact ⟨rfl, (Except.ok.inj answered).symm⟩
  | some failure =>
      rw [failed] at answered
      cases answered

/-- A read without a failure is answered by the chain. -/
theorem RpcOutcome.reply_of_none {outcome : RpcOutcome} (answered : outcome.failure = none)
    (chain : Chain) (call : RpcCall) : outcome.reply chain call = .ok (chain.answer call) := by
  simp [RpcOutcome.reply, answered]

/-- Both timestamps of a record have a `datetime`. -/
def Representable (record : CertificateRecord) : Prop :=
  record.issuedAt ≤ 253402300799 ∧ record.revokedAt ≤ 253402300799

instance (record : CertificateRecord) : Decidable (Representable record) :=
  inferInstanceAs (Decidable (_ ∧ _))

/-- The backend's record keeps hash, issuer and status, and it exists as soon as the
timestamps are representable. -/
theorem chainRecord_cases (runtime : Runtime) (stored : CertificateRecord) :
    (Representable stored ∧ ∃ record, chainRecord runtime stored = .ok record ∧
      record.certificateHash = hexText stored.certificateHash.1 ∧
      record.issuingUniversity = runtime.toChecksumAddress stored.issuingUniversity ∧
      record.status = chainStatusMap stored.status) ∨
    (¬ Representable stored ∧ chainRecord runtime stored = .error .ValueError) := by
  unfold Representable chainRecord fromTimestamp
  by_cases issued : stored.issuedAt ≤ 253402300799
  · by_cases never : stored.revokedAt > 0
    · by_cases revoked : stored.revokedAt ≤ 253402300799
      · refine .inl ⟨⟨issued, revoked⟩, ?_⟩
        simp only [issued, never, revoked, if_true]
        exact ⟨_, rfl, rfl, rfl, rfl⟩
      · refine .inr ⟨fun both => revoked both.2, ?_⟩
        simp only [issued, never, revoked, if_true, if_false]
        rfl
    · refine .inl ⟨⟨issued, by omega⟩, ?_⟩
      simp only [issued, never, if_true, if_false]
      exact ⟨_, rfl, rfl, rfl, rfl⟩
  · refine .inr ⟨fun both => issued both.1, ?_⟩
    simp only [issued, if_false]
    rfl

/-- The errors a read of the chain can end in. -/
def Exception.FromChain (error : Exception) : Prop :=
  error = .ValueError ∨ ∃ failure : RpcFailure, error = failure.exception

/-- An error of the chain is no violated constraint. -/
theorem Exception.FromChain.ne_checkViolation {error : Exception} (fromChain : error.FromChain)
    (table constraint : String) : error ≠ .CheckViolation table constraint := by
  rcases fromChain with rfl | ⟨failure, rfl⟩
  · simp
  · cases failure <;> simp [RpcFailure.exception]

/-- The errors of a read are those of the chain. -/
theorem RpcOutcome.reply_error {outcome : RpcOutcome} {chain : Chain} {call : RpcCall}
    {error : Exception} (raised : outcome.reply chain call = .error error) :
    error.FromChain := by
  unfold RpcOutcome.reply at raised
  cases failed : outcome.failure with
  | none =>
      rw [failed] at raised
      cases raised
  | some failure =>
      rw [failed] at raised
      cases raised
      exact .inr ⟨failure, rfl⟩

/-- A record that cannot be decoded raises an error of the chain. -/
theorem recordOf_error {runtime : Runtime} {record : CertificateRecord} {error : Exception}
    (raised : recordOf runtime record = .error error) : error.FromChain := by
  unfold recordOf at raised
  split at raised
  · rcases chainRecord_cases runtime record with ⟨-, kept, made, -⟩ | ⟨-, failed⟩
    · rw [made] at raised
      cases raised
    · rw [failed] at raised
      cases raised
      exact .inl rfl
  · cases raised

/-- The errors of a verdict are those of the chain. -/
theorem verifyAnswer_error {before : Chain} {outcome : RpcOutcome} {certUid : String}
    {hash : Bytes32} {error : Exception}
    (raised : verifyAnswer before outcome certUid hash = .error error) : error.FromChain := by
  unfold verifyAnswer at raised
  cases replied : outcome.reply (outcome.chain before) (.verifyCertificate certUid hash) with
  | ok answer =>
      rw [replied] at raised
      cases raised
  | error other =>
      rw [replied] at raised
      cases raised
      exact RpcOutcome.reply_error replied

/-- The errors of a record are those of the chain. -/
theorem recordAnswer_error {runtime : Runtime} {before : Chain} {outcome : RpcOutcome}
    {certUid : String} {error : Exception}
    (raised : recordAnswer runtime before outcome certUid = .error error) :
    error.FromChain := by
  unfold recordAnswer at raised
  cases replied : outcome.reply (outcome.chain before) (.getCertificateRecord certUid) with
  | ok record =>
      rw [replied] at raised
      exact @recordOf_error runtime record error raised
  | error other =>
      rw [replied] at raised
      cases raised
      exact RpcOutcome.reply_error replied

/-- A record the service returns is the one on chain. -/
theorem recordAnswer_some {runtime : Runtime} {before : Chain} {outcome : RpcOutcome}
    {certUid : String} {record : ChainCertificateRecord}
    (answered : recordAnswer runtime before outcome certUid = .ok (some record)) :
    let stored := (outcome.chain before).registry.getCertificateRecord (solidityString certUid)
    stored.exists = true ∧ record.certificateHash = hexText stored.certificateHash.1 ∧
      record.issuingUniversity = runtime.toChecksumAddress stored.issuingUniversity ∧
      record.status = chainStatusMap stored.status := by
  unfold recordAnswer at answered
  cases replied : outcome.reply (outcome.chain before) (.getCertificateRecord certUid) with
  | error error => simp [replied, Except.bind] at answered
  | ok stored =>
      obtain ⟨-, rfl⟩ := RpcOutcome.reply_ok replied
      simp only [replied, Except.bind, recordOf, Chain.answer] at answered ⊢
      split at answered
      case isFalse => cases answered
      case isTrue present =>
        refine ⟨present, ?_⟩
        rcases chainRecord_cases runtime ((outcome.chain before).registry.getCertificateRecord
          (solidityString certUid)) with ⟨-, kept, made, hash, issuer, status⟩ | ⟨-, failed⟩
        · rw [made] at answered
          cases answered
          exact ⟨hash, issuer, status⟩
        · rw [failed] at answered
          cases answered

/-- The receipt of a transaction mined before the lookup is found. -/
theorem receiptLookup_mined {runtime : Runtime} {direct : Direct} {txHash : String}
    {transactionHash : Bytes32} {receipt : Receipt}
    (denotes : runtime.transactionHashBytes txHash = .ok transactionHash)
    (found : direct.chain.receipt? transactionHash = some receipt)
    (answered : direct.nextOutcome.failure = none) :
    receiptLookup runtime direct txHash =
      (.ok (some (transactionReceipt txHash receipt)),
        direct.asked (.getTransactionReceipt transactionHash)) := by
  have stays : (direct.nextOutcome.chain direct.chain).receipt? transactionHash = some receipt :=
    (Chain.grows_mineAll direct.chain direct.nextOutcome.mined).receipt found
  simp only [receiptLookup, denotes, receiptAnswer, RpcOutcome.reply_of_none answered,
    Chain.answer, stays, Except.map, Option.map]

/-- The record that is on chain when a lookup is answered. -/
def Direct.nextRecord (direct : Direct) (certUid : String) : CertificateRecord :=
  direct.nextChain.registry.certificates (solidityString certUid)

/-- An existing record is found, unless its times have no `datetime`. -/
theorem recordLookup_present (runtime : Runtime) {direct : Direct} {certUid : String}
    (answered : direct.nextOutcome.failure = none)
    (present : (direct.nextRecord certUid).exists = true) :
    (Representable (direct.nextRecord certUid) ∧ ∃ record,
      recordLookup runtime direct certUid =
        (.ok (some record), direct.asked (.getCertificateRecord certUid)) ∧
      record.certificateHash = hexText (direct.nextRecord certUid).certificateHash.1 ∧
      record.issuingUniversity =
        runtime.toChecksumAddress (direct.nextRecord certUid).issuingUniversity ∧
      record.status = chainStatusMap (direct.nextRecord certUid).status) ∨
    (¬ Representable (direct.nextRecord certUid) ∧
      recordLookup runtime direct certUid =
        (.error .ValueError, direct.asked (.getCertificateRecord certUid))) := by
  have answer : recordAnswer runtime direct.chain direct.nextOutcome certUid =
      some <$> chainRecord runtime (direct.nextRecord certUid) := by
    simp only [recordAnswer, RpcOutcome.reply_of_none answered, Except.bind, Chain.answer,
      recordOf]
    exact if_pos present
  rcases chainRecord_cases runtime (direct.nextRecord certUid) with
    ⟨representable, record, made, hash, issuer, status⟩ | ⟨beyond, failed⟩
  · refine .inl ⟨representable, record, ?_, hash, issuer, status⟩
    rw [recordLookup, answer, made]
    rfl
  · refine .inr ⟨beyond, ?_⟩
    rw [recordLookup, answer, failed]
    rfl

end AcademicCredential
