import AcademicCredential.Services.StatusMachine

/-!
# Transaction rows and the constraints

When the constraints of `blockchain_transactions` let a confirmation be recorded: the
numbers of the receipt must fit their columns, and no other row may hold the transaction
hash. `tx_hash` is compared as text, so two spellings of one hash do not conflict.
-/

namespace AcademicCredential

open AcademicCredential.Lib
open CertificateIssuanceService (confirmationData)

/-- The columns can hold what a confirmation records of the mined transaction. -/
structure Recordable (txHash : String) (receipt : TransactionReceipt) : Prop where
  txHash : isTxHashText txHash = true
  blockNumber : 0 < receipt.blockNumber ∧ receipt.blockNumber < 2 ^ 63
  gasUsed : 0 < receipt.gasUsed ∧ receipt.gasUsed < 2 ^ 63
  effectiveGasPrice : receipt.effectiveGasPrice < 10 ^ 30
  transactionFee : receipt.gasUsed * receipt.effectiveGasPrice < 10 ^ 30

/-- Some row other than the given one holds the transaction hash, spelled the same way. -/
def HeldElsewhere (database : Database) (id : Uuid) (txHash : String) : Prop :=
  ∃ other ∈ database .blockchainTransactions, other.id ≠ id ∧ other.txHash = some txHash

instance (database : Database) (id : Uuid) (txHash : String) :
    Decidable (HeldElsewhere database id txHash) :=
  inferInstanceAs (Decidable (∃ other ∈ database .blockchainTransactions, _))

/-- The hash of a transaction fits its column. -/
theorem fits_of_isTxHashText {txHash : String} (format : isTxHashText txHash = true) :
    fits 66 txHash = true := by
  unfold isTxHashText prefixedHex at format
  split at format
  · rename_i digits isText
    simp only [exactly, Bool.and_eq_true, beq_iff_eq] at format
    have length := congrArg List.length isText
    simp only [List.length_cons, format.1, String.length_toList] at length
    simp [fits, length]
  · cases format

variable {tx : BlockchainTransaction} {txHash : String} {receipt : TransactionReceipt}

/-- A stored row stays admissible exactly when the receipt is recordable. -/
theorem admissible_confirmation_iff (admissible : @Admissible .blockchainTransactions tx)
    (blockHash : fits 66 receipt.blockHash = true) (confirmedAt : Timestamp) :
    @Admissible .blockchainTransactions (@assignAll .blockchainTransactions tx
      (.status .CONFIRMED :: confirmationData txHash receipt confirmedAt)) ↔
      Recordable txHash receipt := by
  unfold Admissible at *
  rw [violation?_eq_none] at *
  simp only [constraints, BlockchainTransaction.constraints, List.forall_mem_cons] at admissible ⊢
  simp [confirmationData, assignAll, assign, TransactionAssignment.assign, isBigInt, isNumeric30,
    blockHash] at admissible ⊢
  constructor
  · rintro ⟨-, -, -, -, number, gas, price, fee, -, -, -, format, -, -, -, mined, used, -⟩
    exact ⟨format, ⟨mined, number⟩, ⟨used, gas⟩, price, fee⟩
  · intro recordable
    have length := fits_of_isTxHashText recordable.txHash
    obtain ⟨format, ⟨mined, number⟩, ⟨used, gas⟩, price, fee⟩ := recordable
    simp only [Nat.reducePow] at number gas price fee
    simp [admissible, length, format, mined, number, used, gas, price, fee]

/-- Two transaction rows may be stored side by side when their keys and hashes differ. -/
theorem apart_transaction_iff {left right : BlockchainTransaction} :
    @Apart .blockchainTransactions left right ↔
      left.id ≠ right.id ∧ ∀ hash, left.txHash = some hash → right.txHash ≠ some hash := by
  constructor
  · intro apart
    refine ⟨fun same => ?_, fun hash isLeft isRight => ?_⟩
    · exact Apart.rowId_ne apart same
    · exact apart ⟨"tx_hash", .text hash⟩ (by simp [uniqueKeys, isLeft])
        (by simp [uniqueKeys, isRight])
  · rintro ⟨ids, hashes⟩ key inLeft inRight
    simp only [uniqueKeys, List.mem_cons, List.mem_map, Option.mem_toList] at inLeft inRight
    rcases inLeft with rfl | ⟨hash, isLeft, rfl⟩
    · rcases inRight with same | ⟨_, _, same⟩
      · exact ids (by simpa using same)
      · simp at same
    · rcases inRight with same | ⟨other, isRight, same⟩
      · simp at same
      · obtain rfl : other = hash := by simpa using same
        exact hashes other isLeft isRight

/-- The constraints accept a confirmation exactly when the receipt is recordable and no
other row holds the hash. -/
theorem accepted_confirmation_iff {database : Database} (valid : database.Valid)
    (stored : database.find? .blockchainTransactions tx.id = some tx)
    (blockHash : fits 66 receipt.blockHash = true) (confirmedAt : Timestamp) :
    Accepted database (some tx)
        (.status .CONFIRMED :: confirmationData txHash receipt confirmedAt) ↔
      Recordable txHash receipt ∧ ¬ HeldElsewhere database tx.id txHash := by
  have admissible := valid.admissible .blockchainTransactions tx (Database.find?_some stored).1
  have accepts : Accepted database (some tx)
      (.status .CONFIRMED :: confirmationData txHash receipt confirmedAt) ↔
        checkUpdated database .blockchainTransactions (@assignAll .blockchainTransactions tx
          (.status .CONFIRMED :: confirmationData txHash receipt confirmedAt)) = .ok () := by
    simp [Accepted]
  rw [accepts, checkUpdated_ok, admissible_confirmation_iff admissible blockHash]
  refine and_congr_right fun _ => ?_
  constructor
  · rintro apart ⟨other, member, different, holds⟩
    exact (apart_transaction_iff.mp (apart other member different)).2 txHash rfl holds
  · intro free other member different
    refine apart_transaction_iff.mpr ⟨fun same => different same.symm, ?_⟩
    rintro hash isNew holds
    cases isNew
    exact free ⟨other, member, different, holds⟩

/-- The block hash of a receipt has 66 characters. -/
theorem fits_blockHash (txHash : String) (receipt : Receipt) :
    fits 66 (transactionReceipt txHash receipt).blockHash = true := by
  have length := receipt.blockHash.2
  have textPrefix : "0x".length = 2 := by decide
  simp [transactionReceipt, fits, hexText, length, textPrefix]

end AcademicCredential
