import AcademicCredential.Chain
import AcademicCredential.Lib.Program
import Mathlib.Data.List.TakeWhile
import Mathlib.Order.Monotone.Defs
import Mathlib.Order.Nat

/-!
# Retries and the circuit breaker

`_execute_with_retry` of `BlockchainService`, over every outcome of the RPCs it issues
and every monotone clock. The log keeps what was issued when; `Paused` reads from the
log alone that the service should be silent, and `log_lawful` shows that it is. The
exceptions that leave a call are the failures which `RpcFailure` lists.

Time is in milliseconds.
-/

namespace AcademicCredential

open AcademicCredential.Lib

/-- `BLOCKCHAIN_MAX_RETRIES`. -/
def blockchainMaxRetries : Nat := 3

/-- `BLOCKCHAIN_CIRCUIT_BREAKER_THRESHOLD`. -/
def blockchainCircuitBreakerThreshold : Nat := 5

/-- `BLOCKCHAIN_CIRCUIT_BREAKER_PAUSE_SECONDS`, in milliseconds. -/
def blockchainCircuitBreakerPause : Nat := 60 * 1000

/-- How the RPC of one attempt ends, by the `except` clause that takes it. -/
inductive RpcResult (Value : Type) where
  | success (value : Value)
  | contractLogicError (text : String)
  | timeExhausted (text : String)
  /-- `ConnectionError`, `OSError` or `TimeoutError`. -/
  | connectionError (text : String)
  /-- Any other `Exception`. -/
  | unexpected (text : String)

namespace RpcResult

variable {Value : Type}

/-- The RPC counts as a failure. -/
def failed : RpcResult Value → Bool
  | .success _ => false
  | _ => true

/-- The attempt may be followed by another one. -/
def isRetried : RpcResult Value → Bool
  | .connectionError _ | .unexpected _ => true
  | _ => false

end RpcResult

/-- What the retry loop does: read and set the fields of the service, read the clock,
sleep, and call `func`. -/
inductive RetryOp (Value : Type) : Type → Type where
  | consecutiveFailures : RetryOp Value Nat
  | lastFailureTime : RetryOp Value Nat
  | setConsecutiveFailures (count : Nat) : RetryOp Value Unit
  | setLastFailureTime (time : Nat) : RetryOp Value Unit
  /-- `time.monotonic()`. -/
  | monotonic : RetryOp Value Nat
  | sleep (seconds : Nat) : RetryOp Value Unit
  | func : RetryOp Value (RpcResult Value)

namespace BlockchainService

variable {Value : Type}

/-- `_check_circuit_breaker`: it raises while the pause after the last failure lasts. -/
def checkCircuitBreaker : Program (RetryOp Value) Exception Unit := do
  let consecutiveFailures ← Program.perform .consecutiveFailures
  if consecutiveFailures < blockchainCircuitBreakerThreshold then
    return ()
  else
    let now ← Program.perform .monotonic
    let lastFailureTime ← Program.perform .lastFailureTime
    let elapsed := now - lastFailureTime
    if elapsed < blockchainCircuitBreakerPause then
      Program.raise (RpcFailure.circuitOpen consecutiveFailures
        ((blockchainCircuitBreakerPause - elapsed) / 1000)).exception
    else
      return ()

/-- `_record_failure`: one more consecutive failure, and the time of the one that opens the
breaker. -/
def recordFailure : Program (RetryOp Value) Exception Unit := do
  let consecutiveFailures ← Program.perform .consecutiveFailures
  Program.perform (.setConsecutiveFailures (consecutiveFailures + 1))
  let now ← Program.perform .monotonic
  Program.perform (.setLastFailureTime now)

/-- The `for` loop over the attempts, and what follows it. -/
def attemptEach : List Nat → String → Program (RetryOp Value) Exception Value
  | [], lastException => Program.raise (RpcFailure.retriesExhausted lastException).exception
  | attempt :: attempts, _ => do
      match ← Program.perform .func with
      | .success value =>
          Program.perform (.setConsecutiveFailures 0)
          return value
      | .contractLogicError text =>
          recordFailure
          Program.raise (RpcFailure.reverted text).exception
      | .timeExhausted text =>
          recordFailure
          Program.raise (RpcFailure.timedOut text).exception
      | .connectionError text | .unexpected text =>
          recordFailure
          if attempt < blockchainMaxRetries then
            Program.perform (.sleep (2 ^ (attempt - 1)))
            checkCircuitBreaker
          attemptEach attempts text

/-- `_execute_with_retry`, with its three attempts. -/
def executeWithRetry : Program (RetryOp Value) Exception Value := do
  checkCircuitBreaker
  attemptEach (List.range' 1 blockchainMaxRetries) "None"

end BlockchainService

/-- What the RPCs return, and the instants at which the clock is read and RPCs go out. -/
structure Outside (Value : Type) where
  result : Nat → RpcResult Value
  clock : Nat → Nat
  clock_mono : Monotone clock

/-- One RPC. Its end is noticed at the next reading of the clock. -/
structure IssuedRpc (Value : Type) where
  issued : Nat
  ended : Nat
  result : RpcResult Value

/-- The fields of the service, how often the clock was used, and the RPCs issued so far. -/
structure Breaker (Value : Type) where
  consecutiveFailures : Nat
  lastFailureTime : Nat
  ticks : Nat
  log : List (IssuedRpc Value)

namespace Breaker

variable {Value : Type}

/-- The service right after `__init__`. -/
def initial : Breaker Value where
  consecutiveFailures := 0
  lastFailureTime := 0
  ticks := 0
  log := []

/-- The next RPC. -/
def nextRpc (outside : Outside Value) (breaker : Breaker Value) : IssuedRpc Value where
  issued := outside.clock breaker.ticks
  ended := outside.clock (breaker.ticks + 1)
  result := outside.result breaker.log.length

/-- What the operations do to the breaker, with clock and results from outside. -/
def handler (outside : Outside Value) : Program.Handler (RetryOp Value) (Breaker Value) :=
  fun _ op breaker =>
    match op with
    | .consecutiveFailures => (breaker.consecutiveFailures, breaker)
    | .lastFailureTime => (breaker.lastFailureTime, breaker)
    | .setConsecutiveFailures count => ((), { breaker with consecutiveFailures := count })
    | .setLastFailureTime time => ((), { breaker with lastFailureTime := time })
    | .monotonic => (outside.clock breaker.ticks, { breaker with ticks := breaker.ticks + 1 })
    | .sleep _ => ((), breaker)
    | .func => ((breaker.nextRpc outside).result,
        { breaker with
          ticks := breaker.ticks + 1
          log := breaker.log ++ [breaker.nextRpc outside] })

/-- One call through `_execute_with_retry`. -/
def call (outside : Outside Value) (breaker : Breaker Value) :
    Except Exception Value × Breaker Value :=
  BlockchainService.executeWithRetry.run (handler outside) breaker

/-- The service after a number of calls. -/
def afterCalls (outside : Outside Value) : Nat → Breaker Value
  | 0 => initial
  | count + 1 => (call outside (afterCalls outside count)).2

end Breaker

section log

variable {Value : Type}

/-- How many RPCs at the end of a log failed. -/
def consecutive (log : List (IssuedRpc Value)) : Nat :=
  (log.reverse.takeWhile fun rpc => rpc.result.failed).length

/-- The breaker is open at an instant: enough RPCs in a row have failed, and the last of
them ended less than the pause ago. -/
def Paused (log : List (IssuedRpc Value)) (now : Nat) : Prop :=
  blockchainCircuitBreakerThreshold ≤ consecutive log ∧
    ∃ last, log.getLast? = some last ∧ now < last.ended + blockchainCircuitBreakerPause

/-- A further RPC ends the streak of failures, or lengthens it. -/
@[simp] theorem consecutive_snoc (log : List (IssuedRpc Value)) (rpc : IssuedRpc Value) :
    consecutive (log ++ [rpc]) = if rpc.result.failed then consecutive log + 1 else 0 := by
  cases failed : rpc.result.failed <;> simp [consecutive, failed]

/-- No RPC went out while the breaker was open. -/
def Lawful (log : List (IssuedRpc Value)) : Prop :=
  ∀ index rpc, log[index]? = some rpc → ¬ Paused (log.take index) rpc.issued

/-- A lawful log stays lawful with an RPC that is not issued in a pause. -/
theorem Lawful.snoc {log : List (IssuedRpc Value)} (lawful : Lawful log)
    {rpc : IssuedRpc Value} (silent : ¬ Paused log rpc.issued) : Lawful (log ++ [rpc]) := by
  intro index other found
  rcases Nat.lt_or_ge index log.length with earlier | later
  · rw [List.getElem?_append_left earlier] at found
    rw [List.take_append_of_le_length (Nat.le_of_lt earlier)]
    exact lawful index other found
  · rw [List.getElem?_append_right later] at found
    obtain ⟨bound, rfl⟩ := List.getElem?_eq_some_iff.mp found
    obtain rfl : index = log.length := by
      simp only [List.length_cons, List.length_nil] at bound
      omega
    simpa using silent

/-- From a probe on, unless some RPC succeeds, the RPCs are a whole pause apart: the
breaker counts every failure after the threshold. -/
theorem consecutive_of_probe {log : List (IssuedRpc Value)} {first last : Nat}
    (order : first ≤ last) (inside : last ≤ log.length)
    (probe : blockchainCircuitBreakerThreshold ≤ consecutive (log.take first))
    (unsuccessful : ∀ index rpc, first ≤ index → index < last → log[index]? = some rpc →
      rpc.result.failed = true) :
    blockchainCircuitBreakerThreshold ≤ consecutive (log.take last) := by
  induction last, order using Nat.le_induction with
  | base => exact probe
  | succ last order inductionHypothesis =>
      have found : log[last]? = some log[last] := List.getElem?_eq_getElem inside
      have failed := unsuccessful last _ order (Nat.lt_succ_self last) found
      have earlier := inductionHypothesis (Nat.le_of_succ_le inside) fun index rpc from_ before =>
        unsuccessful index rpc from_ (Nat.lt_succ_of_lt before)
      rw [List.take_add_one, found, Option.toList_some, consecutive_snoc, if_pos failed]
      exact Nat.le_succ_of_le earlier

end log

namespace Breaker

variable {Value : Type} {outside : Outside Value} {breaker : Breaker Value}

/-- The fields agree with the log, the log is lawful, and nothing in it lies ahead. -/
structure Sound (outside : Outside Value) (breaker : Breaker Value) : Prop where
  counted : breaker.consecutiveFailures = consecutive breaker.log
  last : ∀ rpc, breaker.log.getLast? = some rpc → rpc.result.failed = true →
    breaker.lastFailureTime = rpc.ended
  past : ∀ rpc ∈ breaker.log, rpc.ended ≤ outside.clock breaker.ticks
  ordered : breaker.log.Pairwise fun earlier later => earlier.ended ≤ later.ended
  lawful : Lawful breaker.log

/-- The breaker lets the next RPC through. -/
def Closed (outside : Outside Value) (breaker : Breaker Value) : Prop :=
  breaker.consecutiveFailures < blockchainCircuitBreakerThreshold ∨
    breaker.lastFailureTime + blockchainCircuitBreakerPause ≤ outside.clock breaker.ticks

/-- A breaker that has issued nothing is sound. -/
theorem sound_initial (outside : Outside Value) : (initial : Breaker Value).Sound outside where
  counted := rfl
  last _ found := by simp [initial] at found
  past _ member := by simp [initial] at member
  ordered := List.Pairwise.nil
  lawful index rpc found := by simp [initial] at found

/-- A sound breaker that is closed is in no pause. -/
theorem Sound.silent (sound : breaker.Sound outside) (closed : breaker.Closed outside) :
    ¬ Paused breaker.log (outside.clock breaker.ticks) := by
  rintro ⟨enough, last, isLast, soon⟩
  rw [← sound.counted] at enough
  have failed : last.result.failed = true := by
    obtain ⟨earlier, split⟩ := List.getLast?_eq_some_iff.mp isLast
    by_contra succeeded
    have zero : consecutive breaker.log = 0 := by rw [split, consecutive_snoc, if_neg succeeded]
    rw [sound.counted, zero] at enough
    exact absurd enough (by decide)
  rcases closed with few | waited
  · omega
  · rw [sound.last last isLast failed] at waited
    omega

/-- The service after an RPC that returned. -/
def succeeded (outside : Outside Value) (breaker : Breaker Value) : Breaker Value where
  consecutiveFailures := 0
  lastFailureTime := breaker.lastFailureTime
  ticks := breaker.ticks + 1
  log := breaker.log ++ [breaker.nextRpc outside]

/-- The service after the failure of an RPC was recorded. -/
def recorded (outside : Outside Value) (breaker : Breaker Value) : Breaker Value where
  consecutiveFailures := breaker.consecutiveFailures + 1
  lastFailureTime := outside.clock (breaker.ticks + 1)
  ticks := breaker.ticks + 2
  log := breaker.log ++ [breaker.nextRpc outside]

/-- What is issued now has ended by any later tick. -/
theorem Sound.past_snoc (sound : breaker.Sound outside) {tick : Nat}
    (later : breaker.ticks + 1 ≤ tick) :
    ∀ rpc ∈ breaker.log ++ [breaker.nextRpc outside], rpc.ended ≤ outside.clock tick := by
  intro rpc member
  rcases List.mem_append.mp member with old | new
  · exact (sound.past rpc old).trans (outside.clock_mono (by omega))
  · obtain rfl := List.mem_singleton.mp new
    exact outside.clock_mono later

/-- RPCs are logged in the order in which they end. -/
theorem Sound.ordered_snoc (sound : breaker.Sound outside) :
    (breaker.log ++ [breaker.nextRpc outside]).Pairwise
      fun earlier later => earlier.ended ≤ later.ended := by
  refine List.pairwise_append.mpr ⟨sound.ordered, List.pairwise_singleton _ _, ?_⟩
  intro earlier member later isNext
  obtain rfl := List.mem_singleton.mp isNext
  exact (sound.past earlier member).trans (outside.clock_mono (Nat.le_succ _))

/-- A success keeps the breaker sound. -/
theorem Sound.succeeded (sound : breaker.Sound outside) (closed : breaker.Closed outside)
    (success : (breaker.nextRpc outside).result.failed = false) :
    (breaker.succeeded outside).Sound outside where
  counted := by simp [Breaker.succeeded, success]
  last rpc isLast failed := by
    obtain rfl : breaker.nextRpc outside = rpc := by simpa [Breaker.succeeded] using isLast
    rw [success] at failed
    cases failed
  past := sound.past_snoc (Nat.le_refl _)
  ordered := sound.ordered_snoc
  lawful := sound.lawful.snoc (sound.silent closed)

/-- A recorded failure keeps the breaker sound. -/
theorem Sound.recorded (sound : breaker.Sound outside) (closed : breaker.Closed outside)
    (failure : (breaker.nextRpc outside).result.failed = true) :
    (breaker.recorded outside).Sound outside where
  counted := by simp [Breaker.recorded, failure, sound.counted]
  last rpc isLast _ := by
    obtain rfl : breaker.nextRpc outside = rpc := by simpa [Breaker.recorded] using isLast
    rfl
  past := sound.past_snoc (Nat.le_succ _)
  ordered := sound.ordered_snoc
  lawful := sound.lawful.snoc (sound.silent closed)

/-- Only time has passed. -/
structure Idle (before after : Breaker Value) : Prop where
  consecutiveFailures : after.consecutiveFailures = before.consecutiveFailures
  lastFailureTime : after.lastFailureTime = before.lastFailureTime
  ticks : before.ticks ≤ after.ticks
  log : after.log = before.log

/-- A call that issues nothing keeps the breaker sound. -/
theorem Sound.idle {after : Breaker Value} (sound : breaker.Sound outside)
    (idle : breaker.Idle after) : after.Sound outside where
  counted := by rw [idle.consecutiveFailures, idle.log, sound.counted]
  last rpc isLast failed := by
    rw [idle.lastFailureTime]
    exact sound.last rpc (idle.log ▸ isLast) failed
  past rpc member :=
    (sound.past rpc (idle.log ▸ member)).trans (outside.clock_mono idle.ticks)
  ordered := idle.log ▸ sound.ordered
  lawful := idle.log ▸ sound.lawful

/-- A check that returns leaves the breaker closed; otherwise it raises. -/
theorem run_checkCircuitBreaker (outside : Outside Value) (breaker : Breaker Value) :
    ∃ after, breaker.Idle after ∧
      (BlockchainService.checkCircuitBreaker.run (handler outside) breaker = (.ok (), after) ∧
          after.Closed outside ∨
        ∃ failure : RpcFailure,
          BlockchainService.checkCircuitBreaker.run (handler outside) breaker =
            (.error failure.exception, after)) := by
  by_cases few : breaker.consecutiveFailures < blockchainCircuitBreakerThreshold
  · refine ⟨breaker, ⟨rfl, rfl, Nat.le_refl _, rfl⟩, .inl ⟨?_, .inl few⟩⟩
    simp [BlockchainService.checkCircuitBreaker, Program.run_bind, handler, few]
  · refine ⟨{ breaker with ticks := breaker.ticks + 1 },
      ⟨rfl, rfl, Nat.le_succ _, rfl⟩, ?_⟩
    by_cases soon : outside.clock breaker.ticks - breaker.lastFailureTime <
        blockchainCircuitBreakerPause
    · right
      refine ⟨.circuitOpen breaker.consecutiveFailures ((blockchainCircuitBreakerPause -
        (outside.clock breaker.ticks - breaker.lastFailureTime)) / 1000), ?_⟩
      simp [BlockchainService.checkCircuitBreaker, Program.run_bind, handler, few, soon]
    · left
      have later := outside.clock_mono (Nat.le_succ breaker.ticks)
      refine ⟨?_, .inr ?_⟩
      · simp [BlockchainService.checkCircuitBreaker, Program.run_bind, handler, few, soon]
      · have positive : 0 < blockchainCircuitBreakerPause := by decide
        change breaker.lastFailureTime + blockchainCircuitBreakerPause ≤
          outside.clock (breaker.ticks + 1)
        change outside.clock breaker.ticks ≤ outside.clock (breaker.ticks + 1) at later
        omega

/-- What a call, or the rest of its attempts, leaves and raises. -/
structure Outcome (outside : Outside Value) (limit : Nat) (before : Breaker Value)
    (outcome : Except Exception Value × Breaker Value) : Prop where
  sound : outcome.2.Sound outside
  issued : ∃ new, outcome.2.log = before.log ++ new ∧ new.length ≤ limit ∧
    ∀ rpc ∈ new.dropLast, rpc.result.isRetried = true
  raised : ∀ error, outcome.1 = .error error → ∃ failure : RpcFailure, error = failure.exception

/-- An outcome that is reached after one retried RPC and a wait. -/
theorem Outcome.after_retry {limit : Nat} {rpc : IssuedRpc Value} {middle : Breaker Value}
    {outcome : Except Exception Value × Breaker Value}
    (later : Outcome outside limit middle outcome)
    (log : middle.log = breaker.log ++ [rpc]) (retried : rpc.result.isRetried = true) :
    Outcome outside (limit + 1) breaker outcome := by
  obtain ⟨sound, ⟨new, logged, short, eachRetried⟩, raised⟩ := later
  refine ⟨sound, ⟨rpc :: new, ?_, Nat.succ_le_succ short, ?_⟩, raised⟩
  · rw [logged, log, List.append_assoc, List.singleton_append]
  · intro other member
    cases new with
    | nil => simp at member
    | cons second rest =>
        rcases List.mem_cons.mp member with rfl | inRest
        · exact retried
        · exact eachRetried other inRest

/-- An outcome that is reached right after one RPC. -/
theorem Outcome.after_last {limit : Nat} {after : Breaker Value} {rpc : IssuedRpc Value}
    {result : Except Exception Value} (sound : after.Sound outside)
    (log : after.log = breaker.log ++ [rpc])
    (raised : ∀ error, result = .error error → ∃ failure : RpcFailure, error = failure.exception) :
    Outcome outside (limit + 1) breaker (result, after) :=
  ⟨sound, ⟨[rpc], log, Nat.succ_le_succ (Nat.zero_le limit), by simp⟩, raised⟩

/-- The loop, by induction on the attempts that are left. -/
theorem run_attemptEach {attempts : List Nat} (lastException : String)
    (sound : breaker.Sound outside) (closed : attempts ≠ [] → breaker.Closed outside)
    (notLast : ∀ attempt ∈ attempts.dropLast, attempt < blockchainMaxRetries) :
    Outcome outside attempts.length breaker
      ((BlockchainService.attemptEach attempts lastException).run (handler outside) breaker) := by
  induction attempts generalizing breaker lastException with
  | nil =>
      refine ⟨sound, ⟨[], (List.append_nil _).symm, Nat.le_refl _, by simp⟩, ?_⟩
      rintro error ⟨⟩
      exact ⟨_, rfl⟩
  | cons attempt attempts inductionHypothesis =>
      have closed := closed (List.cons_ne_nil _ _)
      -- What the two `except` clauses that may go on do.
      have retry : ∀ text, (breaker.nextRpc outside).result.isRetried = true →
          (breaker.nextRpc outside).result.failed = true →
          Outcome outside (attempts.length + 1) breaker
            (((do
              if attempt < blockchainMaxRetries then
                Program.perform (.sleep (2 ^ (attempt - 1)))
                BlockchainService.checkCircuitBreaker
              BlockchainService.attemptEach attempts text :
                Program (RetryOp Value) Exception Value)).run (handler outside)
              (breaker.recorded outside)) := by
        intro text retried failed
        have recorded := sound.recorded closed failed
        by_cases again : attempt < blockchainMaxRetries
        · obtain ⟨after, idle, returned | ⟨failure, raised⟩⟩ :=
            run_checkCircuitBreaker outside (breaker.recorded outside)
          · have rest := inductionHypothesis text (recorded.idle idle) (fun _ => returned.2)
              fun other member => notLast other (by
                cases attempts with
                | nil => simp at member
                | cons _ _ => exact List.mem_cons_of_mem _ member)
            have logged : Outcome outside (attempts.length + 1) breaker _ :=
              rest.after_retry (idle.log.trans rfl) retried
            simpa [again, Program.run_bind, handler, returned.1] using logged
          · have logged : Outcome outside (attempts.length + 1) breaker
                (.error failure.exception, after) := by
              refine .after_last (recorded.idle idle) (idle.log.trans rfl) ?_
              rintro error ⟨⟩
              exact ⟨failure, rfl⟩
            simpa [again, Program.run_bind, handler, raised] using logged
        · have isLast : attempts = [] := by
            cases attempts with
            | nil => rfl
            | cons _ _ => exact absurd (notLast attempt List.mem_cons_self) again
          subst isLast
          have rest := inductionHypothesis text recorded (fun some => absurd rfl some) (by simp)
          have logged : Outcome outside ([].length + 1) breaker _ := rest.after_retry rfl retried
          simpa [again, Program.run_bind] using logged
      cases result : outside.result breaker.log.length with
      | success value =>
          have succeeded := sound.succeeded closed (by simp [nextRpc, result, RpcResult.failed])
          have logged : Outcome outside (attempts.length + 1) breaker
              (.ok value, breaker.succeeded outside) :=
            .after_last succeeded rfl (by rintro _ ⟨⟩)
          simpa [BlockchainService.attemptEach, Program.run_bind, Program.run_map, Except.map,
            handler, nextRpc, result, Breaker.succeeded] using logged
      | contractLogicError text =>
          have recorded := sound.recorded closed (by simp [nextRpc, result, RpcResult.failed])
          have logged : Outcome outside (attempts.length + 1) breaker
              (.error (RpcFailure.reverted text).exception, breaker.recorded outside) :=
            .after_last recorded rfl (by rintro _ ⟨⟩; exact ⟨_, rfl⟩)
          simpa [BlockchainService.attemptEach, BlockchainService.recordFailure, Program.run_bind,
            handler, nextRpc, result, Breaker.recorded] using logged
      | timeExhausted text =>
          have recorded := sound.recorded closed (by simp [nextRpc, result, RpcResult.failed])
          have logged : Outcome outside (attempts.length + 1) breaker
              (.error (RpcFailure.timedOut text).exception, breaker.recorded outside) :=
            .after_last recorded rfl (by rintro _ ⟨⟩; exact ⟨_, rfl⟩)
          simpa [BlockchainService.attemptEach, BlockchainService.recordFailure, Program.run_bind,
            handler, nextRpc, result, Breaker.recorded] using logged
      | connectionError text | unexpected text =>
          have logged := retry text (by simp [nextRpc, result, RpcResult.isRetried])
            (by simp [nextRpc, result, RpcResult.failed])
          simp only [Breaker.recorded, nextRpc, result] at logged
          simp only [BlockchainService.attemptEach, BlockchainService.recordFailure,
            Program.run_bind, Program.run_perform, handler, nextRpc, result, List.length_cons]
          exact logged

/-- One call keeps the breaker sound. -/
theorem outcome_call (sound : breaker.Sound outside) :
    Outcome outside blockchainMaxRetries breaker (breaker.call outside) := by
  obtain ⟨after, idle, returned | ⟨failure, raised⟩⟩ := run_checkCircuitBreaker outside breaker
  · have notLast : ∀ attempt ∈ (List.range' 1 blockchainMaxRetries).dropLast,
        attempt < blockchainMaxRetries := by decide
    obtain ⟨still, ⟨new, logged, short, eachRetried⟩, escapes⟩ :=
      run_attemptEach "None" (sound.idle idle) (fun _ => returned.2) notLast
    have called : breaker.call outside = (BlockchainService.attemptEach
        (List.range' 1 blockchainMaxRetries) "None").run (handler outside) after := by
      simp [call, BlockchainService.executeWithRetry, Program.run_bind, returned.1]
    rw [called]
    exact ⟨still, ⟨new, idle.log ▸ logged, by simpa using short, eachRetried⟩, escapes⟩
  · have called : breaker.call outside = (.error failure.exception, after) := by
      simp [call, BlockchainService.executeWithRetry, Program.run_bind, raised]
    rw [called]
    refine ⟨sound.idle idle, ⟨[], ?_, Nat.zero_le _, by simp⟩, ?_⟩
    · simpa using idle.log
    · rintro error ⟨⟩
      exact ⟨failure, rfl⟩

/-- After any number of calls the breaker is sound. -/
theorem sound_afterCalls (outside : Outside Value) (count : Nat) :
    (afterCalls outside count).Sound outside := by
  induction count with
  | zero => exact sound_initial outside
  | succ count inductionHypothesis => exact (outcome_call inductionHypothesis).sound

/-- After a probe, an RPC that no success precedes waits for another pause. -/
theorem Sound.probe_then_pause (sound : breaker.Sound outside) {first last : Nat}
    {probe next : IssuedRpc Value} (order : first < last)
    (isProbe : breaker.log[first]? = some probe) (isNext : breaker.log[last]? = some next)
    (half : blockchainCircuitBreakerThreshold ≤ consecutive (breaker.log.take first))
    (unsuccessful : ∀ index rpc, first ≤ index → index < last → breaker.log[index]? = some rpc →
      rpc.result.failed = true) :
    probe.ended + blockchainCircuitBreakerPause ≤ next.issued := by
  obtain ⟨inside, rfl⟩ := List.getElem?_eq_some_iff.mp isNext
  have enough := consecutive_of_probe (Nat.le_of_lt order) (Nat.le_of_lt inside) half unsuccessful
  have previous : last - 1 < breaker.log.length := by omega
  have isLast : (breaker.log.take last).getLast? = some breaker.log[last - 1] := by
    rw [List.getLast?_take, if_neg (by omega), List.getElem?_eq_getElem previous]
    rfl
  have waited : breaker.log[last - 1].ended + blockchainCircuitBreakerPause ≤
      breaker.log[last].issued := by
    by_contra soon
    exact sound.lawful last _ isNext ⟨enough, _, isLast, by omega⟩
  refine Nat.le_trans (Nat.add_le_add_right ?_ _) waited
  obtain ⟨insideProbe, rfl⟩ := List.getElem?_eq_some_iff.mp isProbe
  rcases Nat.lt_or_ge first (last - 1) with earlier | same
  · exact List.pairwise_iff_getElem.mp sound.ordered first (last - 1) insideProbe previous earlier
  · obtain rfl : first = last - 1 := by omega
    exact Nat.le_refl _

end Breaker

/-- Every failure of an RPC is raised as one of the three blockchain errors. -/
theorem RpcFailure.exception_class (failure : RpcFailure) :
    ∃ errorClass text, failure.exception = .app errorClass text ∧
      errorClass ∈ [ErrorClass.BlockchainConnectionError, .BlockchainTimeoutError,
        .BlockchainContractError] := by
  cases failure <;> exact ⟨_, _, rfl, by simp⟩

/-- After any number of calls: every RPC keeps the pause after five failures in a row; a
probe that fails is followed by another pause; the next call issues at most three RPCs, all
but the last of which ended in an error that may be retried; and it raises no other errors
than the service's own. -/
theorem Breaker.circuit_breaker_holds {Value : Type} (outside : Outside Value) (count : Nat) :
    (∀ index rpc, (afterCalls outside count).log[index]? = some rpc →
      ¬ Paused ((afterCalls outside count).log.take index) rpc.issued) ∧
    (∀ (first last : Nat) probe next, first < last →
      (afterCalls outside count).log[first]? = some probe →
      (afterCalls outside count).log[last]? = some next →
      blockchainCircuitBreakerThreshold ≤
        consecutive ((afterCalls outside count).log.take first) →
      (∃ index rpc, first ≤ index ∧ index < last ∧
        (afterCalls outside count).log[index]? = some rpc ∧ rpc.result.failed = false) ∨
      probe.ended + blockchainCircuitBreakerPause ≤ next.issued) ∧
    (∃ new, (afterCalls outside (count + 1)).log = (afterCalls outside count).log ++ new ∧
      new.length ≤ 3 ∧ ∀ rpc ∈ new.dropLast, rpc.result.isRetried = true) ∧
    (∀ error, ((afterCalls outside count).call outside).1 = .error error →
      ∃ errorClass text, error = .app errorClass text ∧
        errorClass ∈ [ErrorClass.BlockchainConnectionError, .BlockchainTimeoutError,
          .BlockchainContractError]) := by
  have sound := sound_afterCalls outside count
  have outcome := outcome_call sound
  refine ⟨sound.lawful, ?_, outcome.issued, ?_⟩
  · intro first last probe next order isProbe isNext half
    by_cases success : ∃ index rpc, first ≤ index ∧ index < last ∧
        (afterCalls outside count).log[index]? = some rpc ∧ rpc.result.failed = false
    · exact .inl success
    · refine .inr (sound.probe_then_pause order isProbe isNext half ?_)
      intro index rpc from_ before found
      by_contra succeeded
      exact success ⟨index, rpc, from_, before, found, by simpa using succeeded⟩
  · intro error raised
    obtain ⟨failure, rfl⟩ := outcome.raised error raised
    exact failure.exception_class
end AcademicCredential
