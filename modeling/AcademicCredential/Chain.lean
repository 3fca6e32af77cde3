import AcademicCredential.Contract.Verdict
import AcademicCredential.Core
import Mathlib.Logic.Relation

/-!
# The chain as the backend sees it

A chain is the contract's storage and the receipts of mined transactions. `mine` adds
one transaction, to the registry contract or to anything else, and the chain never
reorganises: `Chain.Grows` is the order in which states of one chain follow each
other, and `Grows.record` says what survives along it. Reads are the contract's views
and the receipt lookup, evaluated on the state the node has when it answers.
-/

namespace AcademicCredential

open AcademicCredential.Lib
open AcademicCredential.Contract

/-- What the node keeps of a mined transaction. -/
structure Receipt where
  transactionHash : Bytes32
  status : Nat
  blockNumber : Nat
  blockHash : Bytes32
  gasUsed : Nat
  effectiveGasPrice : Nat
  deriving DecidableEq, Repr

/-- A transaction to the registry contract, or one to any other account. -/
inductive MinedCall where
  | registry (transaction : Transaction)
  | elsewhere (succeeds : Bool)
  deriving DecidableEq, Repr

/-- A transaction to the contract, with the block it is in. -/
structure MinedTransaction where
  transactionHash : Bytes32
  blockNumber : Nat
  blockHash : Bytes32
  gasUsed : Nat
  effectiveGasPrice : Nat
  call : MinedCall
  deriving DecidableEq, Repr

/-- The contract and the receipts of its transactions. -/
structure Chain where
  registry : Registry
  receipts : List Receipt

namespace Chain

/-- The chain right after the registry contract was deployed. -/
def deployed (deployer : Address) : Chain where
  registry := .deploy deployer
  receipts := []

/-- `eth_getTransactionReceipt`. -/
def receipt? (chain : Chain) (transactionHash : Bytes32) : Option Receipt :=
  chain.receipts.find? (·.transactionHash = transactionHash)

/-- The contract storage after a call, and whether the call succeeded. -/
def runCall (registry : Registry) : MinedCall → Registry × Bool
  | .registry transaction =>
      match registry.execute transaction with
      | .ok (next, _) => (next, true)
      | .error _ => (registry, false)
  | .elsewhere succeeds => (registry, succeeds)

/-- Mine one transaction. A transaction hash is mined at most once. -/
def mine (chain : Chain) (mined : MinedTransaction) : Chain :=
  if (chain.receipt? mined.transactionHash).isSome then
    chain
  else
    let (registry, succeeded) := runCall chain.registry mined.call
    { registry
      receipts := chain.receipts ++
        [{ transactionHash := mined.transactionHash
           status := if succeeded then 1 else 0
           blockNumber := mined.blockNumber
           blockHash := mined.blockHash
           gasUsed := mined.gasUsed
           effectiveGasPrice := mined.effectiveGasPrice }] }

/-- Transactions are mined one after the other. -/
def mineAll (chain : Chain) (mined : List MinedTransaction) : Chain :=
  mined.foldl mine chain

/-- The later state is reached from the earlier one by mining transactions. -/
def Grows (before after : Chain) : Prop :=
  ∃ mined, after = before.mineAll mined

/-- A chain has grown out of itself. -/
theorem Grows.refl (chain : Chain) : Grows chain chain := ⟨[], rfl⟩

/-- Chains that have grown have grown together. -/
theorem Grows.trans {first middle last : Chain} (earlier : Grows first middle)
    (later : Grows middle last) : Grows first last := by
  obtain ⟨earlierMined, rfl⟩ := earlier
  obtain ⟨laterMined, rfl⟩ := later
  exact ⟨earlierMined ++ laterMined, by simp [mineAll]⟩

/-- Mining makes the chain grow. -/
theorem grows_mineAll (chain : Chain) (mined : List MinedTransaction) :
    Grows chain (chain.mineAll mined) := ⟨mined, rfl⟩

/-- A mined transaction is reverted, or is one of the contract. -/
theorem mine_registry (chain : Chain) (mined : MinedTransaction) :
    (chain.mine mined).registry = chain.registry ∨
      ∃ transaction, (chain.mine mined).registry = chain.registry.apply transaction := by
  by_cases known : (chain.receipt? mined.transactionHash).isSome = true
  · exact .inl (by simp [mine, known])
  · cases call : mined.call with
    | elsewhere succeeds => exact .inl (by simp [mine, known, call, runCall])
    | registry transaction =>
        refine .inr ⟨transaction, ?_⟩
        cases outcome : chain.registry.execute transaction with
        | ok result => simp [mine, known, call, runCall, outcome, Registry.apply]
        | error error => simp [mine, known, call, runCall, outcome, Registry.apply]

end Chain

/-- What a later reading of one record keeps of an earlier one: an existing record
stays, with its hash and issuer, and a revoked one does not change at all. -/
structure RecordKept (before after : CertificateRecord) : Prop where
  «exists» : before.exists = true → after.exists = true
  certificateHash : before.exists = true → after.certificateHash = before.certificateHash
  issuingUniversity : before.exists = true → after.issuingUniversity = before.issuingUniversity
  revoked : before.exists = true → before.status = .REVOKED → after = before

/-- A record keeps itself. -/
theorem RecordKept.refl (record : CertificateRecord) : RecordKept record record :=
  ⟨id, fun _ => rfl, fun _ => rfl, fun _ _ => rfl⟩

/-- What is kept twice is kept. -/
theorem RecordKept.trans {first middle last : CertificateRecord}
    (earlier : RecordKept first middle) (later : RecordKept middle last) :
    RecordKept first last where
  «exists» := fun present => later.exists (earlier.exists present)
  certificateHash := fun present =>
    (later.certificateHash (earlier.exists present)).trans (earlier.certificateHash present)
  issuingUniversity := fun present =>
    (later.issuingUniversity (earlier.exists present)).trans (earlier.issuingUniversity present)
  revoked := fun present revoked => by
    have unchanged := earlier.revoked present revoked
    have still := later.revoked (earlier.exists present) (unchanged ▸ revoked)
    exact still.trans unchanged

/-- No transaction removes a record or changes what was stored in it. -/
theorem Contract.Registry.apply_recordKept (registry : Registry) (transaction : Transaction)
    (certUid : SolidityString) :
    RecordKept (registry.certificates certUid)
      ((registry.apply transaction).certificates certUid) := by
  rcases Registry.apply_certificates registry transaction with
    ⟨uid, hash, -, absent, written⟩ | ⟨uid, -, present, active, written⟩ | ⟨-, -, unchanged⟩
  · rw [written]
    by_cases sameUid : certUid = uid
    · subst sameUid
      exact ⟨by simp [absent], by simp [absent], by simp [absent], by simp [absent]⟩
    · rw [Function.update_of_ne sameUid]
      exact .refl _
  · rw [written]
    by_cases sameUid : certUid = uid
    · subst sameUid
      exact ⟨by simp, by simp, by simp, by simp [active]⟩
    · rw [Function.update_of_ne sameUid]
      exact .refl _
  · rw [unchanged]
    exact .refl _

/-- Along a growing chain every record keeps what it had. -/
theorem Chain.Grows.record {before after : Chain} (grows : Chain.Grows before after)
    (certUid : SolidityString) :
    RecordKept (before.registry.certificates certUid)
      (after.registry.certificates certUid) := by
  obtain ⟨mined, rfl⟩ := grows
  induction mined generalizing before with
  | nil => exact .refl _
  | cons first rest inductionHypothesis =>
      have tail := @inductionHypothesis (before.mine first)
      rcases before.mine_registry first with unchanged | ⟨transaction, applied⟩
      · rw [unchanged] at tail
        exact tail
      · rw [applied] at tail
        exact (Registry.apply_recordKept ..).trans tail

/-- A Python `str` argument as the contract receives it. -/
def solidityString (text : String) : SolidityString := text.toUTF8.data.toList

/-- The reads `BlockchainService` makes. -/
inductive RpcCall where
  | verifyCertificate (certUid : String) (submittedHash : Bytes32)
  | getCertificateRecord (certUid : String)
  | getTransactionReceipt (transactionHash : Bytes32)
  | isAuthorizedIssuer (wallet : Address)
  | getCertificateCount
  deriving DecidableEq

/-- What each read returns. -/
def RpcCall.Reply : RpcCall → Type
  | .verifyCertificate _ _ => Bool × CertificateStatus
  | .getCertificateRecord _ => CertificateRecord
  | .getTransactionReceipt _ => Option Receipt
  | .isAuthorizedIssuer _ => Bool
  | .getCertificateCount => Nat

/-- The truthful answer on a state of the chain. -/
def Chain.answer (chain : Chain) : (call : RpcCall) → call.Reply
  | .verifyCertificate certUid submittedHash =>
      chain.registry.verifyCertificate (solidityString certUid) submittedHash
  | .getCertificateRecord certUid =>
      chain.registry.getCertificateRecord (solidityString certUid)
  | .getTransactionReceipt transactionHash => chain.receipt? transactionHash
  | .isAuthorizedIssuer wallet => chain.registry.isAuthorizedIssuer wallet
  | .getCertificateCount => chain.registry.getCertificateCount

/-- How `_execute_with_retry` ends when it does not return an answer. The texts are
those of the underlying exceptions. -/
inductive RpcFailure where
  | retriesExhausted (lastException : String)
  | circuitOpen (consecutiveFailures remaining : Nat)
  | timedOut (text : String)
  | reverted (text : String)
  deriving DecidableEq, Repr

/-- What the service raises for a failed RPC. -/
def RpcFailure.exception : RpcFailure → Exception
  | .retriesExhausted lastException =>
      .app .BlockchainConnectionError
        ("All 3 blockchain retries exhausted: " ++ lastException)
  | .circuitOpen consecutiveFailures remaining =>
      .app .BlockchainConnectionError
        ("Circuit breaker open: " ++ toString consecutiveFailures ++
          " consecutive failures. Retry in " ++ toString remaining ++ "s.")
  | .timedOut text =>
      .app .BlockchainTimeoutError ("Blockchain request timed out: " ++ text)
  | .reverted text => .app .BlockchainContractError ("Contract reverted: " ++ text)

/-- How one call through `_execute_with_retry` goes: the transactions mined before the
node answers, and whether it answers. -/
structure RpcOutcome where
  mined : List MinedTransaction
  failure : Option RpcFailure
  deriving DecidableEq, Repr

/-- The answer, or the exception in its place. -/
def RpcOutcome.reply (outcome : RpcOutcome) (chain : Chain) (call : RpcCall) :
    Except Exception call.Reply :=
  match outcome.failure with
  | none => .ok (chain.answer call)
  | some failure => .error failure.exception

end AcademicCredential
