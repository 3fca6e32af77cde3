import AcademicCredential.Database.Decide
import AcademicCredential.Services.VerificationPaths

/-!
# The golden rule

A verification answers AUTHENTIC only on the word of the chain: the service was there,
its `verify_certificate` was the first read of the call and was answered, and the state
of the chain it was answered on has an active record of the compared hash.
-/

namespace AcademicCredential

open AcademicCredential.Lib
open AcademicCredential.Contract

namespace VerificationService

/-- The result a flow returns, if it returns. -/
def resultOf : Except Exception VerificationResponse → Option VerificationResult
  | .ok response => some response.result
  | .error _ => none

/-- The chain was asked about a hash first, answered, and has an active record of it. -/
structure ChainVouched (inputs : Inputs) (before : Chain) (calls : List RpcCall)
    (certUid : String) (hash : Bytes32) : Prop where
  asked : calls.head? = some (.verifyCertificate certUid hash)
  answered : (inputs.rpc 0).failure = none
  «exists» : (((inputs.rpc 0).chain before).registry.certificates
    (solidityString certUid)).exists = true
  active : (((inputs.rpc 0).chain before).registry.certificates
    (solidityString certUid)).status = .ACTIVE
  sameHash : (((inputs.rpc 0).chain before).registry.certificates
    (solidityString certUid)).certificateHash = hash

/-- The decision is AUTHENTIC exactly on the answer that vouches for the hash. -/
theorem decision_authentic {certUid : String} {answer : Bool × CertificateStatus} :
    decision (verificationOf certUid answer) = .AUTHENTIC ↔ answer = (true, .ACTIVE) := by
  obtain ⟨isValid, status⟩ := answer
  cases isValid <;> cases status <;> simp [decision, verificationOf, chainStatusMap]

/-- The fallback of the file flow is not AUTHENTIC. -/
theorem fileFallback_not_authentic (certificate : Certificate) (submittedHash : String) :
    (fileFallback certificate submittedHash).result ≠ .AUTHENTIC := by
  unfold fileFallback
  dsimp only
  split
  · decide
  · split <;> decide

/-- The fallback of a scan is not AUTHENTIC. -/
theorem qrFallback_not_authentic (certificate : Certificate) :
    (qrFallback certificate).result ≠ .AUTHENTIC := by
  unfold qrFallback
  dsimp only
  split <;> decide

/-- Evidence that says AUTHENTIC comes from the chain. -/
theorem evidenceIn_authentic {runtime : Runtime} {direct asked : Direct} {consults : Bool}
    {certUid : String} {hash : Bytes32} {evidence fallback : ChainEvidence}
    {evidenceOf : BlockchainVerificationResult × Option ChainCertificateRecord → ChainEvidence}
    (decides : ∀ answers, (evidenceOf answers).result = decision answers.1)
    (notFallback : fallback.result ≠ .AUTHENTIC)
    (gathered : evidenceIn runtime direct consults certUid hash evidenceOf fallback =
      (.ok evidence, asked))
    (authentic : evidence.result = .AUTHENTIC) :
    consults = true ∧ asked.rpcCalls =
        direct.rpcCalls ++ [.verifyCertificate certUid hash, .getCertificateRecord certUid] ∧
      ∃ answer, verifyAnswer direct.chain direct.nextOutcome certUid hash = .ok answer ∧
        decision answer = .AUTHENTIC := by
  unfold evidenceIn at gathered
  cases consults with
  | false =>
      cases gathered
      exact absurd authentic notFallback
  | true =>
      refine ⟨rfl, ?_⟩
      rw [if_pos rfl] at gathered
      unfold chainAnswers at gathered
      dsimp only at gathered
      split at gathered
      · rename_i error _
        cases unreachable : error.isUnreachable <;>
          simp only [evidenceFrom, unreachable, Bool.false_eq_true, if_true, if_false] at gathered
        · cases gathered
        · cases gathered
          exact absurd authentic notFallback
      · rename_i answer answered
        obtain ⟨outcome, rfl⟩ := Prod.mk.inj gathered
        refine ⟨by simp [recordLookup, Direct.asked], answer, answered, ?_⟩
        cases looked : (recordLookup runtime (direct.asked (.verifyCertificate certUid hash))
          certUid).1 with
        | ok record =>
            rw [looked] at outcome
            cases outcome
            rw [← decides (answer, record)]
            exact authentic
        | error error =>
            rw [looked] at outcome
            cases unreachable : error.isUnreachable <;>
              simp only [Except.map, evidenceFrom, unreachable, Bool.false_eq_true, if_true,
                if_false] at outcome
            · cases outcome
            · cases outcome
              exact absurd authentic notFallback

/-- What an AUTHENTIC answer says about the chain. -/
theorem chainVouched_of_answer {inputs : Inputs} {before : Chain} {calls : List RpcCall}
    {certUid : String} {hash : Bytes32} {answer : BlockchainVerificationResult}
    (asked : calls.head? = some (.verifyCertificate certUid hash))
    (answered : verifyAnswer before (inputs.rpc 0) certUid hash = .ok answer)
    (authentic : decision answer = .AUTHENTIC) :
    ChainVouched inputs before calls certUid hash := by
  unfold verifyAnswer at answered
  cases replied : (inputs.rpc 0).reply ((inputs.rpc 0).chain before)
    (.verifyCertificate certUid hash) with
  | error error =>
      rw [replied] at answered
      cases answered
  | ok reply =>
      obtain ⟨noFailure, truthful⟩ := RpcOutcome.reply_ok replied
      rw [replied] at answered
      cases answered
      have vouches : reply = (true, .ACTIVE) := decision_authentic.mp authentic
      rw [truthful] at vouches
      obtain ⟨present, active, sameHash⟩ :=
        (Registry.verifyCertificate_valid_iff ..).mp vouches
      exact ⟨asked, noFailure, present, active, sameHash⟩

/-- The flow answers with a result exactly when its block ends with that result. -/
theorem FlowOutcome.result_eq {block : Except Exception FlowExit × Direct}
    {flow : Except Exception VerificationResponse × Direct} (outcome : FlowOutcome block flow)
    {result : VerificationResult} :
    resultOf flow.1 = some result ↔ ∃ exit, block.1 = .ok exit ∧ exit.result = result := by
  rcases outcome.outcome with
    ⟨error, raised, failed, -⟩ | ⟨exit, response, left, returned, same, -⟩
  · rw [raised, failed]
    refine iff_of_false (by simp [resultOf]) ?_
    rintro ⟨_, impossible, -⟩
    cases impossible
  · rw [left, returned, resultOf, same]
    constructor
    · intro isResult
      exact ⟨exit, rfl, Option.some.inj isResult⟩
    · rintro ⟨other, isExit, rfl⟩
      cases isExit
      rfl

/-- A check that is passed leaves by the exit given. -/
theorem map_const_ok {checked : Except Exception Unit} {exit other : FlowExit}
    (accepted : (checked.map fun _ => exit) = .ok other) : checked = .ok () ∧ exit = other := by
  cases checked with
  | error error => cases accepted
  | ok _ => exact ⟨rfl, Except.ok.inj accepted⟩

variable {runtime : Runtime} {store : Store} {inputs : Inputs} {blockchainService : Bool}
  {block : Except Exception FlowExit × Direct} {exit : FlowExit}

/-- A file is AUTHENTIC only on the word of the chain. -/
theorem FilePath.authentic {request : FileRequest} {hash : Bytes32}
    (path : FilePath runtime (flowStart store inputs) request blockchainService hash block)
    (returned : block.1 = .ok exit) (authentic : exit.result = .AUTHENTIC) :
    ∃ certificate,
      fileCertificate store.database request.certUidHint (hexText hash.1) = some certificate ∧
      certificate.blockchainStatus = .CONFIRMED ∧ blockchainService = true ∧
      ChainVouched inputs store.chain block.2.rpcCalls certificate.certificateUid hash := by
  cases path with
  | raised _ _ _ => cases returned
  | notFound _ returns _ _ =>
      obtain ⟨-, rfl⟩ := map_const_ok returned
      rw [returns] at authentic
      cases authentic
  | unconfirmed _ _ returns _ _ =>
      obtain ⟨-, rfl⟩ := map_const_ok returned
      rw [returns, unconfirmedResult] at authentic
      split at authentic <;> cases authentic
  | @confirmed certificate _ _ _ _ _ found isConfirmed consulted returns calls _ _ =>
      obtain ⟨-, rfl⟩ := map_const_ok returned
      have evidenceAuthentic := returns.symm.trans authentic
      obtain ⟨consults, asks, answer, answered, decided⟩ := evidenceIn_authentic (fun _ => rfl)
        (fileFallback_not_authentic certificate (hexText hash.1)) consulted evidenceAuthentic
      refine ⟨certificate, found, isConfirmed, consults, ?_⟩
      refine chainVouched_of_answer ?_ answered decided
      rw [calls, asks]
      rfl

/-- A scan is AUTHENTIC only on the word of the chain about the certificate's own hash. -/
theorem QrPath.authentic {request : ScanRequest}
    (path : QrPath runtime (flowStart store inputs) request blockchainService block)
    (returned : block.1 = .ok exit) (authentic : exit.result = .AUTHENTIC) :
    ∃ qr certificate hash,
      scannedIn (flowStart store inputs) request.token = some (qr, certificate) ∧
      hexText hash.1 = certificate.sha256Hash ∧
      certificate.blockchainStatus = .CONFIRMED ∧ blockchainService = true ∧
      ChainVouched inputs store.chain block.2.rpcCalls certificate.certificateUid hash := by
  cases path with
  | raised _ _ _ | uncounted _ _ _ _ _ => cases returned
  | notFound _ returns _ =>
      cases returned
      rw [returns] at authentic
      cases authentic
  | @counted qr certificate _ _ _ _ _ hash found isHash consulted room returns calls _ _ =>
      obtain ⟨-, rfl⟩ := map_const_ok returned
      have evidenceAuthentic := returns.symm.trans authentic
      obtain ⟨consults, asks, answer, answered, decided⟩ := evidenceIn_authentic (fun _ => rfl)
        (qrFallback_not_authentic certificate) consulted evidenceAuthentic
      obtain ⟨isConfirmed, hasService⟩ := Bool.and_eq_true_iff.mp consults
      obtain ⟨chain, sameInputs, noCalls⟩ := scanState_chain (flowStart store inputs) request.token
      rw [Direct.nextOutcome, chain, noCalls, sameInputs] at answered
      refine ⟨qr, certificate, hash, found, isHash, of_decide_eq_true isConfirmed, hasService, ?_⟩
      refine chainVouched_of_answer ?_ answered decided
      rw [calls, asks, noCalls]
      rfl

/-- Both flows answer AUTHENTIC only for a CONFIRMED certificate and only when the chain,
asked during this call, has an active record of the hash of the file or, for a scan, of
the certificate. -/
theorem authentic_only_from_chain (runtime : Runtime) (store : ValidStore) (inputs : Inputs)
    (fileBytes : List UInt8) (fileRequest : FileRequest) (scanRequest : ScanRequest)
    (blockchainService : Bool) :
    let file := (verifyByFileUpload runtime fileBytes fileRequest blockchainService).run
      sessionHandler (store.toStore, .fresh inputs)
    let scan := (verifyByQrToken runtime scanRequest blockchainService).run sessionHandler
      (store.toStore, .fresh inputs)
    (resultOf file.1 = some .AUTHENTIC → ∃ certificate,
      fileCertificate store.database fileRequest.certUidHint
        (generateHashFromFile runtime fileBytes) = some certificate ∧
      certificate.blockchainStatus = .CONFIRMED ∧ blockchainService = true ∧
      ChainVouched inputs store.chain file.2.2.rpcCalls certificate.certificateUid
        (runtime.sha256 fileBytes)) ∧
    (resultOf scan.1 = some .AUTHENTIC → ∃ qr certificate hash,
      scannedIn (flowStart store.toStore inputs) scanRequest.token = some (qr, certificate) ∧
      hexText hash.1 = certificate.sha256Hash ∧
      certificate.blockchainStatus = .CONFIRMED ∧ blockchainService = true ∧
      ChainVouched inputs store.chain scan.2.2.rpcCalls certificate.certificateUid hash) := by
  intro file scan
  constructor
  · intro authentic
    obtain ⟨sameOutcome, described⟩ := store.run_eq inputs
      (verifyByFileUpload runtime fileBytes fileRequest blockchainService)
    obtain ⟨block, path, -, outcome⟩ :=
      verifyByFileUpload_path runtime store inputs fileBytes fileRequest blockchainService
    have sameCalls : file.2.2.rpcCalls = block.2.rpcCalls :=
      (congrArg Direct.rpcCalls described).trans outcome.rpcCalls
    obtain ⟨exit, returned, isResult⟩ := outcome.result_eq.mp (sameOutcome ▸ authentic)
    rw [sameCalls]
    exact path.authentic returned isResult
  · intro authentic
    obtain ⟨sameOutcome, described⟩ := store.run_eq inputs
      (verifyByQrToken runtime scanRequest blockchainService)
    obtain ⟨block, path, -, outcome⟩ :=
      verifyByQrToken_path runtime store inputs scanRequest blockchainService
    have sameCalls : scan.2.2.rpcCalls = block.2.rpcCalls :=
      (congrArg Direct.rpcCalls described).trans outcome.rpcCalls
    obtain ⟨exit, returned, isResult⟩ := outcome.result_eq.mp (sameOutcome ▸ authentic)
    rw [sameCalls]
    exact path.authentic returned isResult

/-- A confirmed certificate whose hash is on chain. -/
def confirmedStore : ValidStore where
  database := Sample.database .CONFIRMED
    [Sample.transaction 5 .STORE_HASH .SUBMITTED (some Sample.txHash)]
  chain := Sample.chain [Sample.authorization, Sample.storage "UNI-2024-00001"]
  files := []
  valid := Sample.valid_submitted

/-- An uploaded file to verify. -/
def sampleUpload : FileRequest where
  certUidHint := none
  currentUserId := 7
  requestIp := none
  userAgent := none

/-- A QR code to scan. -/
def sampleScan : ScanRequest where
  token := Sample.qr.token
  requestIp := none
  userAgent := none

/-- The sample file and the sample QR code are AUTHENTIC, on the word of the chain. -/
theorem authentic_only_from_chain_sample :
    (∃ certificate,
      fileCertificate confirmedStore.database none (generateHashFromFile Runtime.sample
        Sample.file) = some certificate ∧ certificate.blockchainStatus = .CONFIRMED) ∧
    ∃ qr certificate,
      scannedIn (flowStart confirmedStore.toStore (Sample.inputs Sample.answered))
        Sample.qr.token = some (qr, certificate) ∧ certificate.blockchainStatus = .CONFIRMED := by
  obtain ⟨file, scan⟩ := authentic_only_from_chain Runtime.sample confirmedStore
    (Sample.inputs Sample.answered) Sample.file sampleUpload sampleScan true
  obtain ⟨certificate, found, confirmed, -⟩ := file (by decide +kernel)
  obtain ⟨qr, scannedCertificate, hash, scanned, -, scannedConfirmed, -⟩ :=
    scan (by decide +kernel)
  exact ⟨⟨certificate, found, confirmed⟩, qr, scannedCertificate, scanned, scannedConfirmed⟩

end VerificationService
end AcademicCredential
