import AcademicCredential.Chain
import AcademicCredential.Contract.Access
import Mathlib.Data.List.Induction

/-!
# Which transaction a receipt is of

A chain keeps receipts and contract storage but not the transactions. `MinedIn` names
the transaction of a history that was mined under its hash, and how it ended. Every
receipt comes from one of them, a hash names at most one, and a successful
`storeCertificate` among them is what a later reading of the record shows.
-/

namespace AcademicCredential

open AcademicCredential.Lib
open AcademicCredential.Contract

namespace Chain

/-- The receipt of a transaction that ended as given. -/
def receiptOf (mined : MinedTransaction) (succeeded : Bool) : Receipt where
  transactionHash := mined.transactionHash
  status := if succeeded then 1 else 0
  blockNumber := mined.blockNumber
  blockHash := mined.blockHash
  gasUsed := mined.gasUsed
  effectiveGasPrice := mined.effectiveGasPrice

/-- The transaction came when its hash was new, and ended as given. -/
def MinedIn (start : Chain) (history : List MinedTransaction) (mined : MinedTransaction)
    (succeeded : Bool) : Prop :=
  ∃ earlier later, history = earlier ++ mined :: later ∧
    (start.mineAll earlier).receipt? mined.transactionHash = none ∧
    (runCall (start.mineAll earlier).registry mined.call).2 = succeeded

/-- Two histories are mined as one. -/
theorem mineAll_append (chain : Chain) (first second : List MinedTransaction) :
    chain.mineAll (first ++ second) = (chain.mineAll first).mineAll second := by
  simp [mineAll]

/-- The last transaction of a history is mined last. -/
theorem mineAll_snoc (chain : Chain) (history : List MinedTransaction)
    (mined : MinedTransaction) :
    chain.mineAll (history ++ [mined]) = (chain.mineAll history).mine mined := by
  simp [mineAll]

/-- Mining a transaction with a new hash. -/
theorem mine_of_new {chain : Chain} {mined : MinedTransaction}
    (new : chain.receipt? mined.transactionHash = none) :
    chain.mine mined =
      { registry := (runCall chain.registry mined.call).1
        receipts := chain.receipts ++
          [receiptOf mined (runCall chain.registry mined.call).2] } := by
  simp [mine, new, receiptOf]

/-- Mining a transaction whose hash is known changes nothing. -/
theorem mine_of_known {chain : Chain} {mined : MinedTransaction} {receipt : Receipt}
    (known : chain.receipt? mined.transactionHash = some receipt) : chain.mine mined = chain := by
  simp [mine, known]

/-- A transaction that is mined adds its receipt, unless there is one. -/
theorem receipt?_mine (chain : Chain) (mined : MinedTransaction) (hash : Bytes32) :
    (chain.mine mined).receipt? hash =
      (chain.receipt? hash).or
        (if mined.transactionHash = hash then
          some (receiptOf mined (runCall chain.registry mined.call).2) else none) := by
  cases known : chain.receipt? mined.transactionHash with
  | some receipt =>
      rw [mine_of_known known]
      by_cases same : mined.transactionHash = hash
      · subst same
        rw [known]
        rfl
      · rw [if_neg same, Option.or_none]
  | none =>
      rw [mine_of_new known]
      simp [receipt?, List.find?_append, List.find?_singleton, receiptOf]

/-- A receipt stays. -/
theorem Grows.receipt {before after : Chain} (grows : Grows before after) {hash : Bytes32}
    {receipt : Receipt} (found : before.receipt? hash = some receipt) :
    after.receipt? hash = some receipt := by
  obtain ⟨history, rfl⟩ := grows
  induction history using List.reverseRecOn with
  | nil => exact found
  | append_singleton history mined inductionHypothesis =>
      rw [mineAll_snoc, receipt?_mine, inductionHypothesis, Option.some_or]

variable {start : Chain} {history : List MinedTransaction} {mined other : MinedTransaction}
  {succeeded alsoSucceeded : Bool}

/-- What is mined in a history is mined in a longer one. -/
theorem MinedIn.append (minedIn : MinedIn start history mined succeeded)
    (more : List MinedTransaction) : MinedIn start (history ++ more) mined succeeded := by
  obtain ⟨earlier, later, rfl, new, ended⟩ := minedIn
  exact ⟨earlier, later ++ more, by simp, new, ended⟩

/-- Every new receipt is that of a transaction of the history. -/
theorem exists_minedIn (new : start.receipts = []) {hash : Bytes32} {receipt : Receipt}
    (found : (start.mineAll history).receipt? hash = some receipt) :
    ∃ mined succeeded, MinedIn start history mined succeeded ∧ mined.transactionHash = hash ∧
      receipt = receiptOf mined succeeded := by
  induction history using List.reverseRecOn with
  | nil => simp [mineAll, receipt?, new] at found
  | append_singleton history last inductionHypothesis =>
      rw [mineAll_snoc, receipt?_mine] at found
      cases before : (start.mineAll history).receipt? hash with
      | some earlierReceipt =>
          rw [before, Option.some_or] at found
          obtain ⟨mined, succeeded, minedIn, sameHash, isReceipt⟩ :=
            inductionHypothesis (before.trans found)
          exact ⟨mined, succeeded, minedIn.append [last], sameHash, isReceipt⟩
      | none =>
          rw [before, Option.none_or] at found
          split at found
          · rename_i sameHash
            subst sameHash
            exact ⟨last, _, ⟨history, [], rfl, before, rfl⟩, rfl, (Option.some.inj found).symm⟩
          · cases found

/-- The hash of a mined transaction is known from then on. -/
theorem MinedIn.known (minedIn : MinedIn start history mined succeeded) :
    (start.mineAll history).receipt? mined.transactionHash = some (receiptOf mined succeeded) := by
  obtain ⟨earlier, later, rfl, new, rfl⟩ := minedIn
  have split : earlier ++ mined :: later = (earlier ++ [mined]) ++ later := by simp
  rw [split, mineAll_append]
  refine (grows_mineAll _ later).receipt ?_
  rw [mineAll_snoc, receipt?_mine, new, Option.none_or, if_pos rfl]

/-- A hash names at most one transaction of a history. -/
theorem MinedIn.unique (minedIn : MinedIn start history mined succeeded)
    (otherIn : MinedIn start history other alsoSucceeded)
    (sameHash : mined.transactionHash = other.transactionHash) :
    mined = other ∧ succeeded = alsoSucceeded := by
  have before : ∀ {first second : MinedTransaction} {earlier later : List MinedTransaction},
      first.transactionHash = second.transactionHash →
      (start.mineAll earlier).receipt? first.transactionHash = none →
      (start.mineAll (earlier ++ first :: later)).receipt? second.transactionHash ≠ none := by
    intro first second earlier later same new absent
    have known := MinedIn.known ⟨earlier, later, rfl, new, rfl⟩
    rw [same, absent] at known
    cases known
  obtain ⟨earlier, later, isHistory, new, ended⟩ := minedIn
  obtain ⟨otherEarlier, otherLater, sameHistory, otherNew, otherEnded⟩ := otherIn
  rcases List.append_eq_append_iff.mp (isHistory.symm.trans sameHistory) with
    ⟨between, otherIs, rest⟩ | ⟨between, isOther, rest⟩
  · cases between with
    | nil =>
        simp only [List.append_nil] at otherIs
        simp only [List.nil_append, List.cons.injEq] at rest
        obtain ⟨rfl, -⟩ := rest
        exact ⟨rfl, by rw [← ended, ← otherEnded, otherIs]⟩
    | cons first more =>
        simp only [List.cons_append, List.cons.injEq] at rest
        obtain ⟨rfl, -⟩ := rest
        exact absurd (otherIs ▸ otherNew) (before sameHash new)
  · cases between with
    | nil =>
        simp only [List.append_nil] at isOther
        simp only [List.nil_append, List.cons.injEq] at rest
        obtain ⟨rfl, -⟩ := rest
        exact ⟨rfl, by rw [← ended, ← otherEnded, isOther]⟩
    | cons first more =>
        simp only [List.cons_append, List.cons.injEq] at rest
        obtain ⟨rfl, -⟩ := rest
        exact absurd (isOther ▸ new) (before sameHash.symm otherNew)

/-- A successful `storeCertificate` is what the record shows from then on. -/
theorem MinedIn.stored (minedIn : MinedIn start history mined true) {transaction : Transaction}
    {certUid : SolidityString} {certHash : Bytes32} (isCall : mined.call = .registry transaction)
    (stores : transaction.call = .storeCertificate certUid certHash) :
    ((start.mineAll history).registry.certificates certUid).exists = true ∧
      ((start.mineAll history).registry.certificates certUid).certificateHash = certHash := by
  obtain ⟨earlier, later, rfl, new, ended⟩ := minedIn
  have split : earlier ++ mined :: later = (earlier ++ [mined]) ++ later := by simp
  have kept := (grows_mineAll (start.mineAll (earlier ++ [mined])) later).record certUid
  rw [← mineAll_append, ← split] at kept
  rw [isCall, runCall] at ended
  have after : ((start.mineAll (earlier ++ [mined])).registry.certificates certUid).exists = true ∧
      ((start.mineAll (earlier ++ [mined])).registry.certificates certUid).certificateHash =
        certHash := by
    rw [mineAll_snoc, mine_of_new new, isCall]
    obtain ⟨message, call⟩ := transaction
    cases outcome : (start.mineAll earlier).registry.execute ⟨message, call⟩ with
    | error error => simp [outcome] at ended
    | ok result =>
        obtain ⟨next, event⟩ := result
        have effect := Registry.execute_ok outcome
        dsimp only at stores
        subst stores
        cases effect
        simp [runCall, outcome, Registry.freshRecord]
  exact ⟨kept.exists after.1, (kept.certificateHash after.1).trans after.2⟩

end Chain
end AcademicCredential
