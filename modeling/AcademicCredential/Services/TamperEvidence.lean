import AcademicCredential.Blockchain.Views
import AcademicCredential.Services.AuditTrail

/-!
# Tamper evidence

The `match` flag of a file verification and the two hashes beside it come from different
places: the flag is the contract's validity verdict, a comparison in the database or a
default. `coherent_iff` says when they agree.
-/

namespace AcademicCredential

open AcademicCredential.Lib
open AcademicCredential.Contract

namespace VerificationService

/-- The flag says whether the hashes are equal. -/
def TamperEvidence.Coherent (evidence : TamperEvidence) : Prop :=
  evidence.match = true ↔ evidence.submittedHash = evidence.storedHash

instance (evidence : TamperEvidence) : Decidable evidence.Coherent :=
  inferInstanceAs (Decidable (_ ↔ _))

/-- The evidence of a certificate that is not confirmed: no comparison is handed on. -/
def unconfirmedEvidence (certificate : Certificate) (submittedHash : String) : TamperEvidence where
  submittedHash
  storedHash := certificate.sha256Hash
  «match» := false

/-- How a transaction block that does not raise is left, and what the evidence rests on. -/
inductive FileExit (runtime : Runtime) (direct : Direct) (request : FileRequest)
    (blockchainService : Bool) (hash : Bytes32) : FlowExit → Prop where
  | absent {response}
      (notCompared : response.tamperEvidence = none) :
      FileExit runtime direct request blockchainService hash (.returned response)
  | unconfirmed {certificate response}
      (found : fileCertificate direct.working request.certUidHint (hexText hash.1) =
        some certificate)
      (isUnconfirmed : certificate.blockchainStatus ≠ .CONFIRMED)
      (isEvidence : response.tamperEvidence =
        some (unconfirmedEvidence certificate (hexText hash.1))) :
      FileExit runtime direct request blockchainService hash (.returned response)
  | confirmed {certificate gathered asked processingTime}
      (found : fileCertificate direct.working request.certUidHint (hexText hash.1) =
        some certificate)
      (isConfirmed : certificate.blockchainStatus = .CONFIRMED)
      (consulted : fileConsultation runtime direct.read certificate hash blockchainService =
        (.ok gathered, asked)) :
      FileExit runtime direct request blockchainService hash
        (.completed certificate gathered processingTime)

/-- The block of the file flow leaves by one of the exits. -/
theorem fileBlock_exit {direct after : Direct} (opened : direct.Open) {runtime : Runtime}
    {request : FileRequest} {blockchainService : Bool} {startTime : Nat} {verificationId : Uuid}
    {hash : Bytes32} {exit : FlowExit}
    (left : (fileBlock runtime request blockchainService startTime verificationId
      (hexText hash.1)).run directHandler direct = (.ok exit, after)) :
    FileExit runtime direct request blockchainService hash exit := by
  rw [fileBlock, Program.run_bind, run_findCertificate opened] at left
  dsimp only at left
  rw [Program.run_bind, Program.run_perform] at left
  dsimp only [directHandler] at left
  cases found : fileCertificate direct.working request.certUidHint (hexText hash.1) with
  | none =>
      rw [found] at left
      obtain ⟨_, logged, -, returned⟩ := (Program.run_bind_ok directHandler).mp left
      cases returned
      exact .absent rfl
  | some certificate =>
      rw [found] at left
      dsimp only at left
      by_cases isConfirmed : certificate.blockchainStatus = .CONFIRMED
      · rw [if_neg (not_not.mpr isConfirmed), Program.run_bind,
          run_fileEvidence opened.read runtime certificate hash blockchainService] at left
        rcases consulted : fileConsultation runtime direct.read certificate hash
          blockchainService with ⟨error | gathered, asked⟩
        · rw [consulted] at left
          cases left
        · rw [consulted] at left
          obtain ⟨_, clocked, -, looked⟩ := (Program.run_bind_ok directHandler).mp left
          obtain ⟨_, named, -, recorded⟩ := (Program.run_bind_ok directHandler).mp looked
          obtain ⟨_, logged, -, completed⟩ := (Program.run_bind_ok directHandler).mp recorded
          cases completed
          exact .confirmed found isConfirmed consulted
      · rw [if_pos isConfirmed] at left
        obtain ⟨_, logged, -, returned⟩ := (Program.run_bind_ok directHandler).mp left
        cases returned
        exact .unconfirmed found isConfirmed rfl

/-- The certificate and the comparison behind the evidence of a response. -/
inductive EvidenceSource (runtime : Runtime) (direct : Direct) (request : FileRequest)
    (blockchainService : Bool) (hash : Bytes32) (evidence : TamperEvidence) : Prop where
  | unconfirmed {certificate}
      (found : fileCertificate direct.working request.certUidHint (hexText hash.1) =
        some certificate)
      (isUnconfirmed : certificate.blockchainStatus ≠ .CONFIRMED)
      (isEvidence : evidence = unconfirmedEvidence certificate (hexText hash.1))
  | confirmed {certificate gathered asked}
      (found : fileCertificate direct.working request.certUidHint (hexText hash.1) =
        some certificate)
      (isConfirmed : certificate.blockchainStatus = .CONFIRMED)
      (consulted : fileConsultation runtime direct.read certificate hash blockchainService =
        (.ok gathered, asked))
      (isEvidence : gathered.tamperEvidence = some evidence)

/-- Every consultation of the file flow gives evidence. -/
theorem fileConsultation_evidence {runtime : Runtime} {direct asked : Direct}
    {certificate : Certificate} {hash : Bytes32} {blockchainService : Bool}
    {gathered : ChainEvidence}
    (consulted : fileConsultation runtime direct certificate hash blockchainService =
      (.ok gathered, asked)) : ∃ evidence, gathered.tamperEvidence = some evidence := by
  rcases evidenceIn_ok consulted with ⟨-, answers, -, rfl⟩ | ⟨rfl, -⟩
  · exact ⟨_, rfl⟩
  · exact ⟨_, rfl⟩

/-- The evidence of an answer is that of one of the exits. -/
theorem evidence_source {runtime : Runtime} {store : ValidStore} {inputs : Inputs}
    {fileBytes : List UInt8} {request : FileRequest} {blockchainService : Bool}
    {response : VerificationResponse} {evidence : TamperEvidence}
    (returned : ((verifyByFileUpload runtime fileBytes request blockchainService).run
      sessionHandler (store.toStore, .fresh inputs)).1 = .ok response)
    (carries : response.tamperEvidence = some evidence) :
    EvidenceSource runtime (flowStart store.toStore inputs) request blockchainService
      (runtime.sha256 fileBytes) evidence := by
  rw [(store.run_eq inputs _).1] at returned
  obtain ⟨after, ran⟩ : ∃ after, (verifyByFileUpload runtime fileBytes request
      blockchainService).run directHandler (.fresh store.toStore inputs) = (.ok response, after) :=
    ⟨_, Prod.ext returned rfl⟩
  rw [verifyByFileUpload, Program.run_bind, Program.run_perform] at ran
  dsimp only [directHandler] at ran
  rw [Program.run_bind, Program.run_perform] at ran
  obtain ⟨exit, committed, block, finished⟩ := (Program.run_bind_ok directHandler).mp ran
  have closed : (Direct.fresh store.toStore inputs).read.read.inTransaction = false := rfl
  obtain ⟨left, leaves, -⟩ := run_transaction_ok closed block
  have exits := fileBlock_exit (open_flowStart store inputs) leaves
  cases exits with
  | absent notCompared =>
      cases finished
      cases notCompared.symm.trans carries
  | unconfirmed found isUnconfirmed isEvidence =>
      cases finished
      exact .unconfirmed found isUnconfirmed (Option.some.inj (carries.symm.trans isEvidence))
  | confirmed found isConfirmed consulted =>
      obtain ⟨gathered, isGathered⟩ := fileConsultation_evidence consulted
      dsimp only at finished
      rw [isGathered] at finished
      cases finished
      exact .confirmed found isConfirmed consulted (isGathered.trans carries)

/-- The stored hash of a certificate that is looked up on chain: that of its record, or
without a record that of its row. -/
def storedHashOn (chain : Chain) (certificate : Certificate) : String :=
  let record := chain.registry.certificates (solidityString certificate.certificateUid)
  if record.exists then hexText record.certificateHash.1 else certificate.sha256Hash

/-- The certificate has a record on chain, and it is not revoked. -/
def StandsOn (chain : Chain) (certificate : Certificate) : Prop :=
  let record := chain.registry.certificates (solidityString certificate.certificateUid)
  record.exists = true ∧ record.status = .ACTIVE

instance (chain : Chain) (certificate : Certificate) : Decidable (StandsOn chain certificate) :=
  inferInstanceAs (Decidable (_ ∧ _))

/-- Where a flag that is not a comparison can go wrong: a file with the stored hash comes only
for a certificate that is confirmed and, if the chain answers, stands on it. -/
structure FlagSettled (store : Store) (inputs : Inputs) (blockchainService : Bool)
    (certificate : Certificate) (submittedHash : String) : Prop where
  unconfirmed : certificate.blockchainStatus ≠ .CONFIRMED →
    submittedHash ≠ certificate.sha256Hash
  consulted : certificate.blockchainStatus = .CONFIRMED → blockchainService = true →
    (inputs.rpc 0).failure = none → (inputs.rpc 1).failure = none →
    submittedHash = storedHashOn (store.chainAtRead inputs 1) certificate →
      StandsOn (store.chainAtRead inputs 0) certificate

/-- The fallback compares the two hashes it shows. -/
theorem fileFallback_coherent {certificate : Certificate} {submittedHash : String}
    {evidence : TamperEvidence}
    (isEvidence : (fileFallback certificate submittedHash).tamperEvidence = some evidence) :
    evidence.Coherent := by
  cases isEvidence
  simp [TamperEvidence.Coherent, compareHashes]

/-- The chain calls a hash valid when it is that of a record that stands. -/
theorem verifyAnswer_ok {before : Chain} {outcome : RpcOutcome} {certificate : Certificate}
    {hash : Bytes32} {answer : BlockchainVerificationResult}
    (answered : verifyAnswer before outcome certificate.certificateUid hash = .ok answer) :
    outcome.failure = none ∧
      (answer.isValid = true ↔ StandsOn (outcome.chain before) certificate ∧
        ((outcome.chain before).registry.certificates
          (solidityString certificate.certificateUid)).certificateHash = hash) := by
  unfold verifyAnswer at answered
  cases replied : outcome.reply (outcome.chain before)
      (.verifyCertificate certificate.certificateUid hash) with
  | error error =>
      rw [replied] at answered
      cases answered
  | ok both =>
      rw [replied] at answered
      cases answered
      obtain ⟨succeeded, rfl⟩ := RpcOutcome.reply_ok replied
      refine ⟨succeeded, ?_⟩
      simp only [verificationOf, Chain.answer, Registry.verifyCertificate, StandsOn]
      cases ((outcome.chain before).registry.certificates
          (solidityString certificate.certificateUid)).exists <;>
        cases ((outcome.chain before).registry.certificates
          (solidityString certificate.certificateUid)).status <;> simp

/-- The hash that the evidence shows beside the submitted one. -/
theorem recordAnswer_ok {runtime : Runtime} {before : Chain} {outcome : RpcOutcome}
    {certificate : Certificate} {record : Option ChainCertificateRecord}
    (answered : recordAnswer runtime before outcome certificate.certificateUid = .ok record) :
    outcome.failure = none ∧
      (record.map (·.certificateHash)).getD certificate.sha256Hash =
        storedHashOn (outcome.chain before) certificate := by
  unfold recordAnswer at answered
  cases replied : outcome.reply (outcome.chain before)
      (.getCertificateRecord certificate.certificateUid) with
  | error error =>
      rw [replied] at answered
      cases answered
  | ok stored =>
      rw [replied] at answered
      obtain ⟨succeeded, isStored⟩ := RpcOutcome.reply_ok replied
      have isRecord : (outcome.chain before).registry.certificates
        (solidityString certificate.certificateUid) = stored := isStored.symm
      refine ⟨succeeded, ?_⟩
      simp only [Except.bind, recordOf] at answered
      simp only [storedHashOn, isRecord]
      split at answered
      · rename_i present
        rcases chainRecord_cases runtime stored with ⟨-, kept, made, hash, -⟩ | ⟨-, failed⟩
        · rw [made] at answered
          cases answered
          simp [present, hash]
        · rw [failed] at answered
          cases answered
      · rename_i absent
        cases answered
        simp [absent]

/-- Two answered reads give coherent evidence exactly when the certificate stands on the chain
of the first read, in case the submitted hash is the stored one. -/
theorem fileEvidenceOf_coherent_iff {runtime : Runtime} {store : Store} {inputs : Inputs}
    {direct : Direct} (isStart : direct = (flowStart store inputs).read)
    {certificate : Certificate} {hash : Bytes32}
    {answers : BlockchainVerificationResult × Option ChainCertificateRecord}
    (answered : (chainAnswers runtime direct certificate.certificateUid hash).1 = .ok answers)
    {evidence : TamperEvidence}
    (isEvidence : (fileEvidenceOf direct.working certificate (hexText hash.1)
      answers).tamperEvidence = some evidence) :
    ((inputs.rpc 0).failure = none ∧ (inputs.rpc 1).failure = none) ∧
    (evidence.Coherent ↔
      (hexText hash.1 = storedHashOn (store.chainAtRead inputs 1) certificate →
        StandsOn (store.chainAtRead inputs 0) certificate)) := by
  subst isStart
  unfold chainAnswers at answered
  dsimp only at answered
  cases verified : verifyAnswer (flowStart store inputs).read.chain
      (flowStart store inputs).read.nextOutcome certificate.certificateUid hash with
  | error error =>
      rw [verified] at answered
      cases answered
  | ok answer =>
      rw [verified] at answered
      dsimp only [recordLookup] at answered
      cases looked : recordAnswer runtime
          ((flowStart store inputs).read.asked (.verifyCertificate certificate.certificateUid
            hash)).chain
          ((flowStart store inputs).read.asked (.verifyCertificate certificate.certificateUid
            hash)).nextOutcome certificate.certificateUid with
      | error error =>
          rw [looked] at answered
          cases answered
      | ok record =>
          rw [looked] at answered
          cases answered
          cases isEvidence
          obtain ⟨firstAnswered, isValid⟩ := verifyAnswer_ok verified
          obtain ⟨secondAnswered, stored⟩ := recordAnswer_ok looked
          refine ⟨⟨firstAnswered, secondAnswered⟩, ?_⟩
          have isFirst : (flowStart store inputs).read.nextOutcome.chain
            (flowStart store inputs).read.chain = store.chainAtRead inputs 0 := rfl
          have isSecond : ((flowStart store inputs).read.asked (.verifyCertificate
              certificate.certificateUid hash)).nextOutcome.chain
                ((flowStart store inputs).read.asked (.verifyCertificate
                  certificate.certificateUid hash)).chain = store.chainAtRead inputs 1 := rfl
          rw [isFirst] at isValid
          rw [isSecond] at stored
          have kept := (store.chainAtRead_grows inputs 0).record
            (solidityString certificate.certificateUid)
          -- The record of the first read is still there at the second, with its hash.
          have sameHash : StandsOn (store.chainAtRead inputs 0) certificate →
              storedHashOn (store.chainAtRead inputs 1) certificate =
                hexText ((store.chainAtRead inputs 0).registry.certificates
                  (solidityString certificate.certificateUid)).certificateHash.1 := by
            intro stands
            simp only [storedHashOn, kept.exists stands.1, kept.certificateHash stands.1, if_true]
          simp only [TamperEvidence.Coherent, isValid, stored]
          constructor
          · intro coherent sameText
            exact (coherent.mpr sameText).1
          · intro settled
            constructor
            · rintro ⟨stands, rfl⟩
              exact (sameHash stands).symm
            · intro sameText
              have stands := settled sameText
              exact ⟨stands, (hexText_inj.mp (sameText.trans (sameHash stands))).symm⟩

/-- When the node answers, only a date that has no `datetime` stops a lookup. -/
theorem recordAnswer_valueError {runtime : Runtime} {before : Chain} {outcome : RpcOutcome}
    {certUid : String} {error : Exception} (answered : outcome.failure = none)
    (raised : recordAnswer runtime before outcome certUid = .error error) :
    error = .ValueError := by
  have stops : ∀ stored : CertificateRecord, recordOf runtime stored = .error error →
      error = .ValueError := by
    intro stored raised
    unfold recordOf at raised
    split at raised
    · rcases chainRecord_cases runtime stored with ⟨-, kept, made, -⟩ | ⟨-, failed⟩
      · rw [made] at raised
        cases raised
      · rw [failed] at raised
        cases raised
        rfl
    · cases raised
  rw [recordAnswer, RpcOutcome.reply_of_none answered] at raised
  exact stops _ raised

/-- A record that cannot be decoded is the second answer. -/
theorem chainAnswers_valueError {runtime : Runtime} {store : Store} {inputs : Inputs}
    {direct : Direct} (isStart : direct = (flowStart store inputs).read) {certUid : String}
    {hash : Bytes32} (firstAnswered : (inputs.rpc 0).failure = none)
    (secondAnswered : (inputs.rpc 1).failure = none) {error : Exception}
    (raised : (chainAnswers runtime direct certUid hash).1 = .error error) :
    error = .ValueError := by
  subst isStart
  have first : (flowStart store inputs).read.nextOutcome.failure = none := firstAnswered
  have second : ((flowStart store inputs).read.asked
    (.verifyCertificate certUid hash)).nextOutcome.failure = none := secondAnswered
  rw [chainAnswers_of_verified (by rw [verifyAnswer, RpcOutcome.reply_of_none first]; rfl)] at raised
  cases looked : (recordLookup runtime ((flowStart store inputs).read.asked
      (.verifyCertificate certUid hash)) certUid).1 with
  | error other =>
      rw [looked] at raised
      cases raised
      exact recordAnswer_valueError second looked
  | ok record =>
      rw [looked] at raised
      cases raised

/-- The `match` flag of a file verification says whether the submitted hash is the stored one
exactly when a file with the stored hash comes only for a certificate that is confirmed and,
if both reads of the chain are answered, was on it and not revoked at the first. -/
theorem evidence_coherent_iff (runtime : Runtime) (store : ValidStore) (inputs : Inputs)
    (fileBytes : List UInt8) (request : FileRequest) (blockchainService : Bool)
    (response : VerificationResponse) (evidence : TamperEvidence)
    (returned : ((verifyByFileUpload runtime fileBytes request blockchainService).run
      sessionHandler (store.toStore, .fresh inputs)).1 = .ok response)
    (carries : response.tamperEvidence = some evidence) :
    evidence.Coherent ↔
      ∀ certificate ∈ fileCertificate store.database request.certUidHint
          (generateHashFromFile runtime fileBytes),
        FlagSettled store.toStore inputs blockchainService certificate
          (generateHashFromFile runtime fileBytes) := by
  have source := evidence_source returned carries
  have only : ∀ {certificate : Certificate}, fileCertificate (flowStart store.toStore
      inputs).working request.certUidHint (hexText (runtime.sha256 fileBytes).1) =
        some certificate → ∀ {holds : Certificate → Prop},
      (∀ other ∈ fileCertificate store.database request.certUidHint
        (generateHashFromFile runtime fileBytes), holds other) ↔ holds certificate := by
    intro certificate found holds
    have isFound : fileCertificate store.database request.certUidHint
      (generateHashFromFile runtime fileBytes) = some certificate := found
    simp [isFound]
  cases source with
  | unconfirmed found isUnconfirmed isEvidence =>
      rename_i certificate
      rw [only found, isEvidence]
      have flag : (unconfirmedEvidence certificate (hexText (runtime.sha256
        fileBytes).1)).Coherent ↔ generateHashFromFile runtime fileBytes ≠
          certificate.sha256Hash := by
        simp [TamperEvidence.Coherent, unconfirmedEvidence, generateHashFromFile]
      rw [flag]
      exact ⟨fun different => ⟨fun _ => different, fun isConfirmed => absurd isConfirmed
        isUnconfirmed⟩, fun settled => settled.unconfirmed isUnconfirmed⟩
  | confirmed found isConfirmed consulted isEvidence =>
      rename_i certificate gathered asked
      rw [only found]
      rcases evidenceIn_ok consulted with ⟨serves, answers, answered, rfl⟩ | ⟨rfl, failed⟩
      · obtain ⟨bothAnswered, coherent⟩ := fileEvidenceOf_coherent_iff rfl answered isEvidence
        rw [coherent]
        exact ⟨fun settled => ⟨fun unconfirmed => absurd isConfirmed unconfirmed,
          fun _ _ _ _ => settled⟩,
          fun settled => settled.consulted isConfirmed serves bothAnswered.1 bothAnswered.2⟩
      · refine iff_of_true (fileFallback_coherent isEvidence) ⟨fun unconfirmed =>
          absurd isConfirmed unconfirmed, fun _ serves firstAnswered secondAnswered => ?_⟩
        obtain ⟨error, raised, unreachable⟩ := failed serves
        rw [chainAnswers_valueError rfl firstAnswered secondAnswered raised] at unreachable
        cases unreachable

/-- The evidence that a verification of the sample file is answered with. -/
def sampleEvidence (store : ValidStore) (inputs : Inputs) : Option TamperEvidence :=
  ((verifyByFileUpload Runtime.sample Sample.file sampleUpload true).run sessionHandler
    (store.toStore, .fresh inputs)).1.toOption.bind (·.tamperEvidence)

/-- The evidence is that of an answer. -/
theorem sampleEvidence_some {store : ValidStore} {inputs : Inputs} {evidence : TamperEvidence}
    (isEvidence : sampleEvidence store inputs = some evidence) :
    ∃ response, ((verifyByFileUpload Runtime.sample Sample.file sampleUpload true).run
        sessionHandler (store.toStore, .fresh inputs)).1 = .ok response ∧
      response.tamperEvidence = some evidence := by
  obtain ⟨response, returned, carries⟩ := Option.bind_eq_some_iff.mp isEvidence
  refine ⟨response, ?_, carries⟩
  cases outcome : ((verifyByFileUpload Runtime.sample Sample.file sampleUpload true).run
      sessionHandler (store.toStore, .fresh inputs)).1 with
  | error error =>
      rw [outcome] at returned
      cases returned
  | ok other =>
      rw [outcome] at returned
      cases returned
      rfl

/-- Evidence with its flag set to the value. -/
def sampleFlag (value : Bool) : TamperEvidence where
  submittedHash := Sample.fileHash
  storedHash := Sample.fileHash
  «match» := value

/-- The evidence of the confirmed certificate. -/
theorem confirmed_evidence :
    sampleEvidence confirmedStore (Sample.inputs Sample.answered) = some (sampleFlag true) := by
  decide +kernel

/-- The evidence for the sample file is coherent, so the flag was settled. -/
theorem evidence_coherent_sample :
    (sampleFlag true).Coherent ∧
    ∀ certificate ∈ fileCertificate confirmedStore.database none Sample.fileHash,
      FlagSettled confirmedStore.toStore (Sample.inputs Sample.answered) true certificate
        Sample.fileHash := by
  obtain ⟨response, returned, carries⟩ := sampleEvidence_some confirmed_evidence
  have coherent : (sampleFlag true).Coherent := by decide +kernel
  exact ⟨coherent, (evidence_coherent_iff Runtime.sample confirmedStore
    (Sample.inputs Sample.answered) Sample.file sampleUpload true response (sampleFlag true)
    returned carries).mp coherent⟩

/-- The certificate of the sample file is confirmed, and then revoked on chain only. -/
def revokedOnChainOnly : ValidStore where
  database := confirmedStore.database
  chain := Sample.chain [Sample.authorization, Sample.storage "UNI-2024-00001",
    Sample.revocation "UNI-2024-00001"]
  files := []
  valid := confirmedStore.valid

/-- For a certificate that is revoked on chain the flag is false beside two equal hashes. -/
theorem revoked_evidence_incoherent :
    ∃ response evidence, ((verifyByFileUpload Runtime.sample Sample.file sampleUpload true).run
        sessionHandler (revokedOnChainOnly.toStore,
          .fresh (Sample.inputs Sample.answered))).1 = .ok response ∧
      response.tamperEvidence = some evidence ∧ ¬ evidence.Coherent := by
  have isEvidence : sampleEvidence revokedOnChainOnly (Sample.inputs Sample.answered) =
      some (sampleFlag false) := by decide +kernel
  obtain ⟨response, returned, carries⟩ := sampleEvidence_some isEvidence
  exact ⟨response, sampleFlag false, returned, carries, by decide +kernel⟩

end VerificationService
end AcademicCredential
