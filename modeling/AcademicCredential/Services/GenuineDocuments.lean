import AcademicCredential.Services.SourceOfTruth
import AcademicCredential.Services.StoredFiles

/-!
# Genuine documents

What becomes of a confirmed certificate from end to end, in every state that calls of the backend
reach side by side: its file can be read from the folder, and whoever uploads that file to be
verified is told what the chain says of the record. `genuine_documents_verify` puts together that
the file is in the folder, that its hash is the one on chain, and that the flow keeps the verdict of
the chain.
-/

namespace AcademicCredential

open AcademicCredential.Lib
open AcademicCredential.Contract

namespace VerificationService

/-- No two certificates have the same hash. -/
theorem fileCertificate_of_own {database : Database} (valid : database.Valid)
    {certificate : Certificate} (member : certificate ∈ database .certificates)
    {certUidHint : Option String}
    (own : ∀ hint ∈ certUidHint, hint = "" ∨ hint = certificate.certificateUid) :
    fileCertificate database certUidHint certificate.sha256Hash = some certificate := by
  have only : ∀ {condition : Certificate → Bool}, condition certificate = true →
      (∀ other ∈ database .certificates, condition other = true →
        ∃ key ∈ @uniqueKeys .certificates other, key ∈ @uniqueKeys .certificates certificate) →
        (database .certificates).find? condition = some certificate := by
    intro condition isOwn shared
    obtain ⟨other, found⟩ := Option.isSome_iff_exists.mp
      (List.find?_isSome.mpr ⟨certificate, member, isOwn⟩)
    have isOther := List.mem_of_find?_eq_some found
    rw [found]
    by_contra different
    obtain ⟨key, inOther, inOwn⟩ := shared other isOther (List.find?_some found)
    exact @Database.Valid.apart_of_ne _ valid .certificates _ _ isOther member
      (fun same => different (congrArg some same)) key inOther inOwn
  have byHash := @only (fun row => row.sha256Hash = certificate.sha256Hash) (by simp)
    fun other _ same => ⟨⟨"sha256_hash", .text certificate.sha256Hash⟩,
      by simpa [uniqueKeys, eq_comm] using same, by simp [uniqueKeys]⟩
  have byUid := @only (fun row => row.certificateUid = certificate.certificateUid) (by simp)
    fun other _ same => ⟨⟨"certificate_uid", .text certificate.certificateUid⟩,
      by simpa [uniqueKeys, eq_comm] using same, by simp [uniqueKeys]⟩
  unfold fileCertificate
  rw [byHash]
  cases certUidHint with
  | none => rfl
  | some hint =>
      rcases own hint rfl with rfl | rfl
      · rfl
      · by_cases given : certificate.certificateUid ≠ ""
        · simp [Option.filter, given, byUid]
        · simp [Option.filter, given]

/-- What the chain says of the record under the certificate's UID. -/
def chainVerdict (chain : Chain) (certificate : Certificate) : VerificationResult :=
  match (chainRecordOf chain certificate).status with
  | .REVOKED => .REVOKED
  | .ACTIVE => .AUTHENTIC

/-- The contract's answer about a hash that is on chain. -/
theorem decision_of_onChain {chain : Chain} {certificate : Certificate}
    (onChain : OnChain chain certificate) {hash : Bytes32}
    (isHash : hexText hash.1 = certificate.sha256Hash) :
    decision (verificationOf certificate.certificateUid
      (chain.registry.verifyCertificate (solidityString certificate.certificateUid) hash)) =
        chainVerdict chain certificate := by
  have sameHash : (chainRecordOf chain certificate).certificateHash = hash :=
    Subtype.ext (hexText_injective (onChain.sameHash.trans isHash.symm))
  have present : (chain.registry.certificates
    (solidityString certificate.certificateUid)).exists = true := onChain.exists
  unfold chainVerdict
  cases status : (chainRecordOf chain certificate).status with
  | ACTIVE =>
      exact decision_authentic.mpr
        ((Registry.verifyCertificate_valid_iff _ _ _).mpr ⟨present, status, sameHash⟩)
  | REVOKED =>
      have isRevoked : (chain.registry.certificates
        (solidityString certificate.certificateUid)).status = .REVOKED := status
      simp [Registry.verifyCertificate, present, isRevoked, verificationOf, decision,
        chainStatusMap]

/-- Nothing gets in the way of the verdict: the record can be read once more, the certificate has
a transaction, and the id drawn for the log row is free. -/
structure VerdictDelivered (runtime : Runtime) (store : Store) (inputs : Inputs)
    (certificate : Certificate) : Prop where
  record : ∃ record, recordRead runtime store inputs certificate.certificateUid = .ok record
  storeTxHash : storeTxHash store.database certificate.id ≠ ""
  logId : LogIdFree store.database (inputs.uuid4 5)

/-- Where the file of a certificate is uploaded and the chain answers, its verdict is the result,
exactly if nothing gets in its way. -/
def Verifies (runtime : Runtime) (store : Store) (certificate : Certificate)
    (bytes : List UInt8) : Prop :=
  ∀ (inputs : Inputs) (request : FileRequest),
    (∀ hint ∈ request.certUidHint, hint = "" ∨ hint = certificate.certificateUid) →
    (inputs.rpc 0).failure = none →
    (resultOf ((verifyByFileUpload runtime bytes request true).run sessionHandler
        (store, .fresh inputs)).1 =
          some (chainVerdict ((inputs.rpc 0).chain store.chain) certificate) ↔
      VerdictDelivered runtime store inputs certificate)

/-- A confirmed certificate whose file reads as stored is verified by it. -/
theorem verifies_of_onChain {runtime : Runtime} {store : ValidStore} {certificate : Certificate}
    {bytes : List UInt8} (member : certificate ∈ store.database .certificates)
    (confirmed : certificate.blockchainStatus = .CONFIRMED)
    (onChain : OnChain store.chain certificate)
    (isHash : certificate.sha256Hash = generateHashFromFile runtime bytes) :
    Verifies runtime store.toStore certificate bytes := by
  intro inputs request own answered
  have sameHash : hexText (runtime.sha256 bytes).1 = certificate.sha256Hash := isHash.symm
  obtain ⟨block, path, -, outcome⟩ :=
    verifyByFileUpload_path runtime store inputs bytes request true
  have found := fileCertificate_of_own store.valid member own
  rw [← sameHash] at found
  have stillOnChain : OnChain ((inputs.rpc 0).chain store.chain) certificate :=
    onChain.grow (Chain.grows_mineAll store.chain (inputs.rpc 0).mined)
  have isAnswer : Answers store.toStore inputs certificate.certificateUid (runtime.sha256 bytes)
      (verificationOf certificate.certificateUid (((inputs.rpc 0).chain
        store.chain).registry.verifyCertificate (solidityString certificate.certificateUid)
          (runtime.sha256 bytes))) := by
    unfold Answers verifyAnswer RpcOutcome.reply
    rw [answered]
    rfl
  rw [(store.run_eq inputs _).1, outcome.result_eq, ← decision_of_onChain stillOnChain sameHash,
    path.verdict found confirmed isAnswer, FileVerdictKept]
  cases read : recordRead runtime store.toStore inputs certificate.certificateUid with
  | ok record =>
      constructor
      · rintro ⟨hasTx, -, logId⟩
        exact ⟨⟨record, read⟩, hasTx, logId⟩
      · intro delivered
        exact ⟨delivered.storeTxHash, fun _ => sameHash, delivered.logId⟩
  | error error =>
      constructor
      · rintro ⟨-, -, otherHash, -⟩
        exact absurd sameHash otherHash
      · intro delivered
        obtain ⟨record, isRecord⟩ := delivered.record
        cases read.symm.trans isRecord

end VerificationService

/-- The file of the certificate can be read, and verifies. -/
def Genuine (runtime : Runtime) (store : Store) (certificate : Certificate) : Prop :=
  ∃ bytes, FileStorage.getCertificate store.files certificate.filePath = .ok bytes ∧
    VerificationService.Verifies runtime store certificate bytes

/-- After every run there are phases that the calls are in. -/
theorem Agreeing.exists_afterRun (runtime : Runtime) {Other : Type} (others : Other → ElsewhereCall)
    (deployer : Address) (run : List (AgreementTurn Other)) :
    ∃ phases, Agreeing (stateAfter (agreementSystem runtime others).apply
      ⟨initialStore deployer, []⟩ run) phases := by
  have preserved : ∀ (world : AgreementWorld Other) turn, (∃ phases, Agreeing world phases) →
      ∃ phases, Agreeing ((agreementSystem runtime others).apply world turn) phases := by
    rintro world turn ⟨phases, agreeing⟩
    exact agreeing.apply turn
  exact stateAfter_invariant _ preserved ⟨_, .initial deployer⟩ run

/-- Every confirmed certificate of the world is genuine. -/
def GenuineDocuments {Other : Type} (runtime : Runtime) (world : AgreementWorld Other) : Prop :=
  ∀ row ∈ world.shared.database .certificates, row.blockchainStatus = .CONFIRMED →
    Genuine runtime world.shared row

/-- In every state that calls side by side reach, the file of a confirmed certificate can be read,
and is answered with the verdict of the chain, as long as no two uploads draw the same UUID. -/
theorem genuine_documents_verify (runtime : Runtime) {Other : Type} (others : Other → SparingCall)
    (deployer : Address) {run : List (AgreementTurn Other)} (fresh : FreshNames run) :
    GenuineDocuments runtime
      (stateAfter (sparingSystem runtime others).apply ⟨initialStore deployer, []⟩ run) := by
  intro row member confirmed
  obtain ⟨phases, agreeing⟩ := Agreeing.exists_afterRun runtime
    (fun other => (others other).toElsewhereCall) deployer run
  obtain ⟨otherPhases, storing⟩ := Storing.exists_afterRun runtime others deployer fresh
  obtain ⟨bytes, there, isHash, -⟩ := storing.haveFiles row member
  generalize stateAfter (sparingSystem runtime others).apply ⟨initialStore deployer, []⟩ run =
    world at *
  have valid : world.shared.database.Valid := agreeing.isolated.committed
  let store : ValidStore := ⟨world.shared, valid⟩
  have found : world.shared.database.find? .certificates row.id = some row :=
    @Database.Keyed.find? _ valid.keyed .certificates _ member
  refine ⟨bytes, ?_, ?_⟩
  · rw [FileStorage.getCertificate, there]
  · have stored : row ∈ store.database .certificates := member
    exact VerificationService.verifies_of_onChain stored confirmed
      (agreeing.agreed row.id row found confirmed) isHash

namespace Sample

/-- The first of the two uploads is stored on chain and confirmed. -/
def confirmedUpload : List (AgreementTurn Unit) :=
  twoUploads ++
    [.change [authorization, storage certUid],
      .start (.certificates (.confirmStorage 101 txHash administrator)) (inputs answered)] ++
    List.replicate 16 (.operate 3)

/-- The world after the confirmation of an upload. -/
def worldOfConfirmation : AgreementWorld Unit :=
  stateAfter (sparingSystem Runtime.sample fun _ => enrollmentCall).apply
    ⟨initialStore deployer, []⟩ confirmedUpload

/-- The upload draws no identifier twice. -/
theorem confirmedUpload_fresh : FreshNames confirmedUpload := by
  unfold FreshNames
  decide +kernel

end Sample

/-- The certificate of the first upload is confirmed, and genuine. -/
theorem genuine_documents_verify_confirmed :
    certificateStatus Sample.worldOfConfirmation.shared.database 101 = some .CONFIRMED ∧
      GenuineDocuments .sample Sample.worldOfConfirmation :=
  ⟨by decide +kernel, genuine_documents_verify .sample (fun _ => Sample.enrollmentCall)
    Sample.deployer Sample.confirmedUpload_fresh⟩

end AcademicCredential
