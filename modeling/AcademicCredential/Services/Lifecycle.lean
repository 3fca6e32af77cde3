import AcademicCredential.Services.StatusSurvival

/-!
# The life of a certificate

A system of whole calls: uploads, confirmations of storage, initiations and
confirmations of revocations by any callers, with anything mined between and during
them and anything else happening to the other tables. `CertificateEffect` is what one
call may do to the committed certificates; from it follow the agreement of confirmed
certificates with the chain and the transitions of the documented status machine.
-/

namespace AcademicCredential

open AcademicCredential.Lib
open AcademicCredential.Contract

/-- The four operations on certificates, with the arguments of their callers. -/
inductive CertificateCall where
  | upload (fileBytes : List UInt8) (fileOriginalName : String)
      (metadata : CertificateIssuanceService.IssueMetadata) (user : User)
  | confirmStorage (certId : Uuid) (txHash : String) (user : User)
  | initiateRevocation (certId : Uuid) (reason : String) (user : User) (blockchainService : Bool)
  | confirmRevocation (certId : Uuid) (txHash : String) (user : User)

/-- What a call answers. -/
inductive CertificateAnswer where
  | uploaded (draft : CertificateIssuanceService.CertificateDraft)
  | storage (response : CertificateIssuanceService.StorageResponse)
  | initiated (ticket : CertificateRevocationService.RevocationTicket)
  | revocation (response : CertificateRevocationService.RevocationResponse)
  deriving DecidableEq, Repr

/-- What a call runs. -/
def CertificateCall.action (runtime : Runtime) : CertificateCall → Action CertificateAnswer
  | .upload fileBytes fileOriginalName metadata user =>
      .uploaded <$> CertificateIssuanceService.uploadAndHashCertificate runtime fileBytes
        fileOriginalName metadata user
  | .confirmStorage certId txHash user =>
      .storage <$> CertificateIssuanceService.confirmBlockchainStorage runtime certId txHash user
  | .initiateRevocation certId reason user blockchainService =>
      .initiated <$> CertificateRevocationService.initiateRevocation runtime certId reason user
        blockchainService
  | .confirmRevocation certId txHash user =>
      .revocation <$> CertificateRevocationService.confirmRevocation runtime certId txHash user

/-- What the calls may do: read, begin and end transactions, add PENDING certificates and
transactions, mark and revoke certificates, and replace the QR row of a certificate. -/
theorem CertificateCall.every_action {allowed : (Reply : Type) → Op Reply → Prop}
    (reading : ∀ (Reply : Type) (op : Op Reply), op.isReading = true → allowed Reply op)
    (control : ∀ (Reply : Type) (op : Op Reply), op.isControl = true → allowed Reply op)
    (save : ∀ path bytes, allowed _ (.writeFile path bytes))
    (insertCertificate : ∀ row : Certificate, row.blockchainStatus = .PENDING →
      row.isActive = true → allowed _ (.insert .certificates row))
    (insertTransaction : ∀ row : BlockchainTransaction, row.status = .PENDING →
      row.txHash = none → allowed _ (.insert .blockchainTransactions row))
    (flushTransaction : ∀ id assignments, allowed _ (.flush .blockchainTransactions id assignments))
    (mark : ∀ id status, allowed _ (.flush .certificates id [.blockchainStatus status]))
    (revoke : ∀ id reason user now, allowed _ (.flush .certificates id
      (CertificateRepository.revocation reason user now)))
    (flushQr : ∀ id assignments, allowed _ (.flush .qrVerifications id assignments))
    (insertQr : ∀ row, allowed _ (.insert .qrVerifications row))
    (runtime : Runtime) (call : CertificateCall) : (call.action runtime).Every allowed := by
  have inTransaction : ∀ {Value : Type} {body : Action Value}, body.Every allowed →
      (transaction body).Every allowed := fun every =>
    every_transaction every (control _ .begin rfl) (control _ .commit rfl) (control _ .rollback rfl)
  cases call with
  | upload fileBytes fileOriginalName metadata user =>
      refine Program.every_bind (inTransaction ?_) fun _ => Program.every_pure _
      exact CertificateIssuanceService.every_uploadBlock reading runtime fileBytes fileOriginalName
        metadata user save insertCertificate insertTransaction
  | confirmStorage certId txHash user =>
      refine Program.every_bind ?_ fun _ => Program.every_pure _
      refine Program.every_bind (inTransaction ?_) fun exit => ?_
      · exact CertificateIssuanceService.every_confirmBlock reading runtime certId txHash user
          flushTransaction mark
      · cases exit with
        | submitted => exact Program.every_pure _
        | confirmed certificate receipt record =>
            refine Program.every_bind ?_ fun _ => Program.every_pure _
            refine Program.every_bind (inTransaction ?_) fun _ => Program.every_pure _
            exact QrVerificationService.every_generateBlock reading runtime certId user.id flushQr
              insertQr
  | initiateRevocation certId reason user blockchainService =>
      refine Program.every_bind ?_ fun _ => Program.every_pure _
      refine Program.every_bind (inTransaction ?_) fun _ => Program.every_pure _
      exact CertificateRevocationService.every_initiateBlock reading runtime certId reason user
        blockchainService insertTransaction
  | confirmRevocation certId txHash user =>
      refine Program.every_bind (inTransaction ?_) fun _ => Program.every_pure _
      exact CertificateRevocationService.every_confirmBlock reading runtime certId txHash user
        flushTransaction revoke

/-- The calls write no table but those of certificates, transactions and QR codes. -/
theorem CertificateCall.every_elsewhere {table : Table} (apart : table ∉
      [Table.certificates, .blockchainTransactions, .qrVerifications]) (runtime : Runtime)
    (call : CertificateCall) :
    (call.action runtime).Every fun _ op => op.written? ≠ some table := by
  simp only [List.mem_cons, List.not_mem_nil, or_false, not_or] at apart
  have nothing : (none : Option Table) ≠ some table := (Option.some_ne_none table).symm
  have certificates : some Table.certificates ≠ some table := fun same =>
    apart.1 (Option.some.inj same).symm
  have transactions : some Table.blockchainTransactions ≠ some table := fun same =>
    apart.2.1 (Option.some.inj same).symm
  have qrs : some Table.qrVerifications ≠ some table := fun same =>
    apart.2.2 (Option.some.inj same).symm
  refine CertificateCall.every_action ?_ ?_ (fun _ _ => nothing) (fun _ _ _ => certificates)
    (fun _ _ _ => transactions)
    (fun _ _ => transactions) (fun _ _ => certificates) (fun _ _ _ _ => certificates)
    (fun _ _ => qrs) (fun _ => qrs) runtime call
  · intro Reply op isReading
    cases op <;> first | exact nothing | cases isReading
  · intro Reply op isControl
    cases op <;> first | exact nothing | cases isControl

/-- The record under the certificate's UID. -/
def chainRecordOf (chain : Chain) (certificate : Certificate) : CertificateRecord :=
  chain.registry.certificates (solidityString certificate.certificateUid)

/-- There is a record under the certificate's UID, and it stores the certificate's hash. -/
structure OnChain (chain : Chain) (certificate : Certificate) : Prop where
  «exists» : (chainRecordOf chain certificate).exists = true
  sameHash : hexText (chainRecordOf chain certificate).certificateHash.1 = certificate.sha256Hash

/-- The record under the certificate's UID is revoked. -/
structure RevokedOnChain (chain : Chain) (certificate : Certificate) : Prop where
  «exists» : (chainRecordOf chain certificate).exists = true
  status : (chainRecordOf chain certificate).status = .REVOKED

/-- What is on the chain stays on it. -/
theorem OnChain.grow {before after : Chain} {certificate : Certificate}
    (onChain : OnChain before certificate) (grows : Chain.Grows before after) :
    OnChain after certificate := by
  have kept := grows.record (solidityString certificate.certificateUid)
  refine ⟨kept.exists onChain.exists, ?_⟩
  rw [chainRecordOf, kept.certificateHash onChain.exists]
  exact onChain.sameHash

/-- What is revoked on the chain stays revoked. -/
theorem RevokedOnChain.grow {before after : Chain} {certificate : Certificate}
    (revoked : RevokedOnChain before certificate) (grows : Chain.Grows before after) :
    RevokedOnChain after certificate := by
  have kept := (grows.record (solidityString certificate.certificateUid)).revoked revoked.exists
    revoked.status
  exact ⟨by rw [chainRecordOf, kept]; exact revoked.exists,
    by rw [chainRecordOf, kept]; exact revoked.status⟩

/-- Both say the same of certificates with the same UID and hash. -/
theorem OnChain.congr {chain : Chain} {certificate other : Certificate}
    (onChain : OnChain chain certificate) (sameUid : other.certificateUid = certificate.certificateUid)
    (sameHash : other.sha256Hash = certificate.sha256Hash) : OnChain chain other := by
  have sameRecord : chainRecordOf chain other = chainRecordOf chain certificate := by
    rw [chainRecordOf, sameUid]
    rfl
  exact ⟨sameRecord ▸ onChain.exists, by rw [sameRecord, sameHash]; exact onChain.sameHash⟩

/-- A revocation on the chain is one of the UID. -/
theorem RevokedOnChain.congr {chain : Chain} {certificate other : Certificate}
    (revoked : RevokedOnChain chain certificate)
    (sameUid : other.certificateUid = certificate.certificateUid) : RevokedOnChain chain other := by
  have sameRecord : chainRecordOf chain other = chainRecordOf chain certificate := by
    rw [chainRecordOf, sameUid]
    rfl
  exact ⟨sameRecord ▸ revoked.exists, sameRecord ▸ revoked.status⟩

namespace CertificateRevocationService

/-- The confirmation reaches the revocation of this certificate and commits it. -/
structure Revokes (runtime : Runtime) (direct : Direct) (certId : Uuid) (txHash : String)
    (user : User) (certificate : Certificate) : Prop where
  revocable : Revocable direct.working certId user certificate
  reached : ∃ receipt asked record after,
    receiptLookup runtime direct txHash = (.ok (some receipt), asked) ∧ receipt.status ≠ 0 ∧
      recordLookup runtime asked certificate.certificateUid = (.ok (some record), after) ∧
      record.status = "REVOKED" ∧
      Accepted direct.working (revokeTx? direct.working certId)
        (.status .CONFIRMED :: CertificateIssuanceService.confirmationData txHash receipt
          (confirmedAt after record))

end CertificateRevocationService

/-- The call revokes this certificate. -/
def CertificateCall.Revokes (runtime : Runtime) (direct : Direct) (certificate : Certificate) :
    CertificateCall → Prop
  | .confirmRevocation certId txHash user =>
      CertificateRevocationService.Revokes runtime direct certId txHash user certificate
  | _ => False

/-- The committed certificates before and after one call on a fresh session. -/
inductive CertificateEffect (runtime : Runtime) (call : CertificateCall) (start after : Direct) :
    Prop where
  /-- New certificates, all PENDING. -/
  | added (new : List Certificate) (pending : ∀ row ∈ new, row.blockchainStatus = .PENDING)
      (rows : after.database .certificates = start.database .certificates ++ new)
  /-- A PENDING or SUBMITTED certificate became SUBMITTED, or CONFIRMED in agreement with
  the chain. -/
  | marked (certificate : Certificate) (status : BlockchainStatus)
      (found : start.database.find? .certificates certificate.id = some certificate)
      (unconfirmed : certificate.blockchainStatus = .PENDING ∨
        certificate.blockchainStatus = .SUBMITTED)
      (target : status = .SUBMITTED ∨ status = .CONFIRMED ∧ OnChain after.chain certificate)
      (rows : after.database .certificates =
        @updateRows .certificates certificate.id [.blockchainStatus status]
          (start.database .certificates))
  /-- A certificate whose record on chain is revoked was revoked. -/
  | revoked (certificate : Certificate) (reason : String) (user : Uuid) (time : Timestamp)
      (found : start.database.find? .certificates certificate.id = some certificate)
      (revokes : call.Revokes runtime start certificate)
      (revokedOnChain : RevokedOnChain after.chain certificate)
      (rows : after.database .certificates =
        @updateRows .certificates certificate.id
          (CertificateRepository.revocation reason user time) (start.database .certificates))

/-- The certificates stay as they were. -/
theorem CertificateEffect.unchanged {runtime : Runtime} {call : CertificateCall}
    {start after : Direct} (rows : after.database .certificates = start.database .certificates) :
    CertificateEffect runtime call start after :=
  .added [] (List.forall_mem_nil _) (by rw [rows, List.append_nil])

/-- Statements that write no certificate but new PENDING ones. -/
def Op.addsPendingOnly : {Reply : Type} → Op Reply → Prop
  | _, .insert .certificates row => row.blockchainStatus = .PENDING
  | _, .flush table _ _ | _, .executeUpdate table _ _ => table ≠ .certificates
  | _, _ => True

/-- The working copy has gained PENDING certificates only. -/
structure Direct.Gains (before after : Direct) (new : List Certificate) : Prop where
  pending : ∀ row ∈ new, row.blockchainStatus = .PENDING
  rows : after.working .certificates = before.working .certificates ++ new

/-- A table that stays as it is gains nothing. -/
theorem Direct.Gains.none {before after : Direct}
    (same : after.working .certificates = before.working .certificates) :
    before.Gains after [] :=
  ⟨List.forall_mem_nil _, by rw [same, List.append_nil]⟩

/-- The gains of two spans add up. -/
theorem Direct.Gains.trans {first middle last : Direct} {earlierNew laterNew : List Certificate}
    (earlier : first.Gains middle earlierNew) (later : middle.Gains last laterNew) :
    first.Gains last (earlierNew ++ laterNew) := by
  refine ⟨fun row member => ?_, ?_⟩
  · rcases List.mem_append.mp member with inEarlier | inLater
    · exact earlier.pending row inEarlier
    · exact later.pending row inLater
  · rw [later.rows, earlier.rows, List.append_assoc]

/-- An operation that adds only PENDING certificates gains only such. -/
theorem directHandler_gains (Reply : Type) (op : Op Reply) (statement : op.isControl = false)
    (adds : op.addsPendingOnly) (direct : Direct) :
    ∃ new, direct.Gains (directHandler Reply op direct).2 new := by
  by_cases writes : op.written? = some .certificates
  · cases op with
    | insert table row =>
        obtain rfl := Option.some.inj writes
        simp only [directHandler, Direct.insert]
        split
        · exact ⟨[], .none rfl⟩
        · refine ⟨[row], fun other member => List.mem_singleton.mp member ▸ adds, ?_⟩
          simp [Write.apply]
    | flush | executeUpdate => exact absurd (Option.some.inj writes) adds
    | _ => cases writes
  · have alone := directHandler_leavesAlone .certificates Reply op statement writes direct
    exact ⟨[], .none alone.working⟩

section calls

variable {runtime : Runtime} {call : CertificateCall}

/-- A rolled back transaction leaves the certificates as they were. -/
theorem CertificateEffect.rolledBack {Value : Type} {body : Action Value}
    (statements : body.Every fun _ op => op.isControl = false) {store : Store} {inputs : Inputs}
    {error : Exception} {left : Direct}
    (ran : body.run directHandler (.begun store inputs) = (.error error, left)) :
    CertificateEffect runtime call (.begun store inputs) left.rolledBack := by
  have sameDatabase := (run_follows statements (.begun store inputs)).1
  rw [ran] at sameDatabase
  exact .unchanged (congrFun sameDatabase .certificates)

/-- A transaction that only adds PENDING certificates. -/
theorem CertificateEffect.of_gains {Value : Type} {body : Action Value}
    (every : body.Every fun _ op => op.isControl = false ∧ op.addsPendingOnly) (store : Store)
    (inputs : Inputs) :
    CertificateEffect runtime call (.begun store inputs)
      ((transaction body).run directHandler (.fresh store inputs)).2 := by
  have gains := Program.run_respects (fun before after => ∃ new, Direct.Gains before after new)
    (fun _ => ⟨[], .none rfl⟩)
    (fun ⟨_, earlier⟩ ⟨_, later⟩ => ⟨_, earlier.trans later⟩)
    (fun Reply op both direct => directHandler_gains Reply op both.1 both.2 direct) every
    (.begun store inputs)
  rw [run_transaction_fresh]
  rcases ran : body.run directHandler (.begun store inputs) with ⟨error | value, left⟩
  · exact .rolledBack (every.mono fun _ _ both => both.1) ran
  · obtain ⟨new, pending, rows⟩ := gains
    rw [ran] at rows
    exact .added new pending rows

/-- An upload adds one PENDING certificate, or none. -/
theorem upload_effect (store : Store) (inputs : Inputs) (fileBytes : List UInt8)
    (fileOriginalName : String) (metadata : CertificateIssuanceService.IssueMetadata)
    (user : User) :
    CertificateEffect runtime call (.begun store inputs)
      ((CertificateIssuanceService.uploadAndHashCertificate runtime fileBytes fileOriginalName
        metadata user).run directHandler (.fresh store inputs)).2 := by
  refine .of_gains ?_ store inputs
  refine CertificateIssuanceService.every_uploadBlock ?_ runtime fileBytes fileOriginalName
    metadata user (fun _ _ => ⟨rfl, trivial⟩) (fun row pending _ => ⟨rfl, pending⟩) fun row _ _ =>
      ⟨rfl, trivial⟩
  intro Reply op isReading
  cases op <;> first | exact ⟨rfl, trivial⟩ | cases isReading

/-- Initiating a revocation changes no status. -/
theorem initiate_effect (store : Store) (inputs : Inputs) (certId : Uuid) (reason : String)
    (user : User) (blockchainService : Bool) :
    CertificateEffect runtime call (.begun store inputs)
      ((CertificateRevocationService.initiateRevocation runtime certId reason user
        blockchainService).run directHandler (.fresh store inputs)).2 := by
  have effect : CertificateEffect runtime call (.begun store inputs)
      ((transaction (CertificateRevocationService.initiateBlock runtime certId reason user
        blockchainService)).run directHandler (.fresh store inputs)).2 := by
    refine .of_gains ?_ store inputs
    refine CertificateRevocationService.every_initiateBlock ?_ runtime certId reason user
      blockchainService fun row _ _ => ⟨rfl, trivial⟩
    intro Reply op isReading
    cases op <;> first | exact ⟨rfl, trivial⟩ | cases isReading
  simp only [CertificateRevocationService.initiateRevocation, Program.run_bind]
  rcases ran : (transaction (CertificateRevocationService.initiateBlock runtime certId reason user
    blockchainService)).run directHandler (.fresh store inputs) with ⟨_ | _, after⟩ <;>
    rw [ran] at effect <;> exact effect

end calls

/-- The table of certificates after a change of status. -/
theorem Direct.marked_certificates (direct : Direct) (certificate : Certificate)
    (status : BlockchainStatus) :
    (direct.marked certificate status).working .certificates =
      @updateRows .certificates certificate.id [.blockchainStatus status]
        (direct.working .certificates) :=
  @stored_self direct .certificates certificate [.blockchainStatus status]

/-- The table of certificates after a revocation. -/
theorem Direct.revoked_certificates (direct : Direct) (certificate : Certificate)
    (reason : String) (user : Uuid) :
    (direct.revoked certificate reason user).working .certificates =
      @updateRows .certificates certificate.id (CertificateRepository.revocation reason user
        (direct.inputs.wallClock direct.reads)) (direct.working .certificates) :=
  @stored_self direct.read .certificates certificate _

/-- The chain a record lookup leaves is the one it was answered on. -/
theorem recordLookup_some {runtime : Runtime} {asked after : Direct} {certUid : String}
    {record : ChainCertificateRecord}
    (answered : recordLookup runtime asked certUid = (.ok (some record), after)) :
    let stored := after.chain.registry.certificates (solidityString certUid)
    stored.exists = true ∧ record.certificateHash = hexText stored.certificateHash.1 ∧
      record.status = chainStatusMap stored.status := by
  obtain ⟨outcome, rfl⟩ := Prod.mk.inj answered
  obtain ⟨present, hash, -, status⟩ := recordAnswer_some outcome
  exact ⟨present, hash, status⟩

namespace CertificateIssuanceService

variable {runtime : Runtime} {direct left : Direct} {certId : Uuid} {txHash : String}
  {user : User} {certificate : Certificate} {exit : StorageExit}

/-- The cross-checks put the certificate on chain. -/
theorem onChain_of_checks {asked after : Direct} {record : ChainCertificateRecord}
    {university : Option University}
    (admissible : @Admissible .certificates certificate)
    (answered : recordLookup runtime asked certificate.certificateUid = (.ok (some record), after))
    (passes : crossCheckFails certificate university (some record) = false) :
    OnChain after.chain certificate := by
  obtain ⟨present, hash, -⟩ := recordLookup_some answered
  simp only [crossCheckFails, Bool.or_eq_false_iff, decide_eq_false_iff_not, ne_eq,
    Decidable.not_not] at passes
  refine ⟨present, ?_⟩
  have sameText := passes.1
  rw [hash, lower_of_isSha256Text (isSha256Text_hexText _),
    lower_of_isSha256Text (Certificate.isSha256Text_sha256Hash admissible)] at sameText
  exact sameText

/-- What the returning paths leave in the working copy. -/
theorem ConfirmPath.effect (opened : direct.Open)
    (path : ConfirmPath runtime direct certId txHash user (.ok exit, left)) :
    ∃ certificate status, Confirmable direct.working certId user certificate ∧
      (status = .SUBMITTED ∨ status = .CONFIRMED ∧ OnChain left.chain certificate) ∧
      left.working .certificates =
        @updateRows .certificates certificate.id [.blockchainStatus status]
          (direct.working .certificates) := by
  have receiptSame := receiptLookup_working runtime direct txHash
  cases path with
  | completed confirmable path =>
      rename_i certificate
      have member := (Database.find?_some confirmable.found).1
      have admissible := opened.valid.admissible .certificates certificate member
      cases path with
      | pending receipt accepted =>
          rw [receipt] at receiptSame
          refine ⟨certificate, .SUBMITTED, confirmable, .inl rfl, ?_⟩
          rw [Direct.marked_certificates, Direct.recorded_certificates, receiptSame]
      | confirmed found succeeded answered passes accepted =>
          rename_i receipt asked record after
          rw [found] at receiptSame
          have afterSame : after.working = direct.working :=
            (congrArg (·.2.working) answered).symm.trans receiptSame
          have onChain := onChain_of_checks admissible answered passes
          refine ⟨certificate, .CONFIRMED, confirmable, .inr ⟨rfl, ?_⟩, ?_⟩
          · have sameChain := (after.recorded_sameOutside (storeTx? direct.working certId)
              (.status .CONFIRMED :: confirmationData txHash receipt record.issuedAt)).chain
            exact onChain.grow (sameChain ▸ .refl _)
          · rw [Direct.marked_certificates, Direct.recorded_certificates, afterSame]

end CertificateIssuanceService

namespace CertificateRevocationService

variable {runtime : Runtime} {direct left : Direct} {certId : Uuid} {txHash : String}
  {user : User} {certificate : Certificate} {response : RevocationResponse}

/-- What the returning paths leave in the working copy. -/
theorem RevocationPath.effect
    (path : RevocationPath runtime direct certId txHash user (.ok response, left)) :
    left.working .certificates = direct.working .certificates ∨
    ∃ certificate reason time, Revokes runtime direct certId txHash user certificate ∧
      RevokedOnChain left.chain certificate ∧
      left.working .certificates =
        @updateRows .certificates certificate.id
          (CertificateRepository.revocation reason user.id time) (direct.working .certificates) := by
  have receiptSame := receiptLookup_working runtime direct txHash
  cases path with
  | completed revocable path =>
      rename_i certificate
      cases path with
      | pending receipt accepted =>
          rw [receipt] at receiptSame
          refine .inl ?_
          rw [Direct.recorded_certificates, receiptSame]
      | revoked found succeeded answered isRevoked accepted =>
          rename_i receipt asked record after
          rw [found] at receiptSame
          have afterSame : after.working = direct.working :=
            (congrArg (·.2.working) answered).symm.trans receiptSame
          have timedSame := (timed_working after record).trans afterSame
          obtain ⟨present, -, status⟩ := recordLookup_some answered
          have revokedOnChain : RevokedOnChain after.chain certificate := by
            refine ⟨present, ?_⟩
            rw [status] at isRevoked
            cases stored : (chainRecordOf after.chain certificate).status with
            | REVOKED => rfl
            | ACTIVE =>
                rw [chainRecordOf] at stored
                rw [stored] at isRevoked
                exact absurd isRevoked (by decide)
          have sameChain : Chain.Grows after.chain
              ((revokedState after certificate (revokeTx? direct.working certId) user.id
                record).recorded (revokeTx? direct.working certId) (.status .CONFIRMED ::
                  CertificateIssuanceService.confirmationData txHash receipt
                    (confirmedAt after record))).chain := by
            rw [(Direct.recorded_sameOutside _ _ _).chain, revokedState]
            unfold timed
            split <;> exact .refl _
          refine .inr ⟨certificate, originalReason (revokeTx? direct.working certId),
            (timed after record).inputs.wallClock (timed after record).reads,
            ⟨revocable, receipt, asked, record, after, found, succeeded, answered, isRevoked,
              accepted⟩, revokedOnChain.grow sameChain, ?_⟩
          rw [Direct.recorded_certificates, revokedState, Direct.revoked_certificates, timedSame]

end CertificateRevocationService

section calls

variable {runtime : Runtime}

/-- The databases hold the same certificates and transaction rows. -/
def SameLedger (left right : Database) : Prop :=
  left .certificates = right .certificates ∧
    left .blockchainTransactions = right .blockchainTransactions

/-- A confirmation of storage leaves both tables as they were, or as a returning path of
its block left them: generating the QR code writes neither. -/
theorem confirmStorage_settles (store : ValidStore) (inputs : Inputs) (certId : Uuid)
    (txHash : String) (user : User) :
    let after := ((CertificateIssuanceService.confirmBlockchainStorage runtime certId txHash
      user).run directHandler (.fresh store.toStore inputs)).2
    SameLedger after.database store.database ∨
      ∃ exit left, CertificateIssuanceService.ConfirmPath runtime (.begun store.toStore inputs)
          certId txHash user (.ok exit, left) ∧
        SameLedger after.database left.working ∧ Chain.Grows left.chain after.chain := by
  have opened := Direct.open_begun store inputs
  have path := @CertificateIssuanceService.confirmBlock_path runtime _ opened certId txHash user
  have statements := CertificateIssuanceService.confirmBlock_statements runtime certId txHash user
  simp only [CertificateIssuanceService.confirmBlockchainStorage, Program.run_bind,
    run_transaction_fresh]
  rcases ran : (CertificateIssuanceService.confirmBlock runtime certId txHash user).run
    directHandler (.begun store.toStore inputs) with ⟨error | exit, left⟩
  · have sameDatabase := (run_follows statements (.begun store.toStore inputs)).1
    rw [ran] at sameDatabase
    exact .inl ⟨congrFun sameDatabase .certificates, congrFun sameDatabase .blockchainTransactions⟩
  · rw [ran] at path
    refine .inr ⟨exit, left, path, ?_⟩
    cases exit with
    | submitted => exact ⟨⟨rfl, rfl⟩, .refl _⟩
    | confirmed updated receipt record =>
        have keepsTable : ∀ table : Table, table ≠ .qrVerifications →
            ((QrVerificationService.generateQrForCertificate runtime certId user.id).run
              directHandler left.committed).2.database table = left.working table :=
          fun table elsewhere => (run_keeps (CertificateIssuanceService.generateBlock_elsewhere
            runtime certId user.id elsewhere) left.committed rfl).database
        have keptCertificates := keepsTable .certificates (by decide)
        have keptTransactions := keepsTable .blockchainTransactions (by decide)
        have grows := run_grows (QrVerificationService.generateQrForCertificate runtime certId
          user.id) left.committed
        simp only [Program.run_bind]
        rcases qr : (QrVerificationService.generateQrForCertificate runtime certId user.id).run
          directHandler left.committed with ⟨_ | _, after⟩ <;>
          rw [qr] at keptCertificates keptTransactions grows <;>
          exact ⟨⟨keptCertificates, keptTransactions⟩, grows⟩

/-- A confirmation of a revocation leaves both tables as they were, or as a returning path
of its block left them. -/
theorem confirmRevocation_settles (store : ValidStore) (inputs : Inputs) (certId : Uuid)
    (txHash : String) (user : User) :
    let after := ((CertificateRevocationService.confirmRevocation runtime certId txHash
      user).run directHandler (.fresh store.toStore inputs)).2
    SameLedger after.database store.database ∨
      ∃ response left, CertificateRevocationService.RevocationPath runtime
          (.begun store.toStore inputs) certId txHash user (.ok response, left) ∧
        after = left.committed := by
  have opened := Direct.open_begun store inputs
  have path := @CertificateRevocationService.confirmBlock_path runtime _ opened certId txHash user
  have statements := CertificateRevocationService.confirmBlock_statements runtime certId txHash user
  simp only [CertificateRevocationService.confirmRevocation, run_transaction_fresh]
  rcases ran : (CertificateRevocationService.confirmBlock runtime certId txHash user).run
    directHandler (.begun store.toStore inputs) with ⟨error | response, left⟩
  · have sameDatabase := (run_follows statements (.begun store.toStore inputs)).1
    rw [ran] at sameDatabase
    exact .inl ⟨congrFun sameDatabase .certificates, congrFun sameDatabase .blockchainTransactions⟩
  · rw [ran] at path
    exact .inr ⟨response, left, path, rfl⟩

/-- A confirmation of storage confirms only what the chain holds, and fails only what it does
not. -/
theorem confirmStorage_effect {call : CertificateCall} (store : ValidStore) (inputs : Inputs)
    (certId : Uuid) (txHash : String) (user : User) :
    CertificateEffect runtime call (.begun store.toStore inputs)
      ((CertificateIssuanceService.confirmBlockchainStorage runtime certId txHash user).run
        directHandler (.fresh store.toStore inputs)).2 := by
  have opened := Direct.open_begun store inputs
  rcases @confirmStorage_settles runtime store inputs certId txHash user with
    same | ⟨exit, left, path, same, grows⟩
  · exact .unchanged same.1
  · obtain ⟨certificate, status, confirmable, target, rows⟩ := path.effect opened
    refine .marked certificate status confirmable.foundById confirmable.unconfirmed ?_
      (same.1.trans rows)
    rcases target with submitted | ⟨confirmed, onChain⟩
    · exact .inl submitted
    · exact .inr ⟨confirmed, onChain.grow grows⟩

/-- A confirmation of a revocation revokes only what the chain has revoked. -/
theorem confirmRevocation_effect (store : ValidStore) (inputs : Inputs) (certId : Uuid)
    (txHash : String) (user : User) :
    CertificateEffect runtime (.confirmRevocation certId txHash user) (.begun store.toStore inputs)
      ((CertificateRevocationService.confirmRevocation runtime certId txHash user).run
        directHandler (.fresh store.toStore inputs)).2 := by
  rcases @confirmRevocation_settles runtime store inputs certId txHash user with
    same | ⟨response, left, path, isLeft⟩
  · exact .unchanged same.1
  · rw [isLeft]
    rcases path.effect with same | ⟨certificate, reason, time, revokes, revokedOnChain, rows⟩
    · exact .unchanged same
    · exact .revoked certificate reason user.id time revokes.revocable.foundById revokes
        revokedOnChain rows

/-- Every call has one of the three effects. -/
theorem call_effect (call : CertificateCall) (store : ValidStore) (inputs : Inputs) :
    CertificateEffect runtime call (.begun store.toStore inputs)
      ((call.action runtime).run directHandler (.fresh store.toStore inputs)).2 := by
  cases call with
  | upload fileBytes fileOriginalName metadata user =>
      rw [CertificateCall.action, Program.run_map]
      exact upload_effect store.toStore inputs fileBytes fileOriginalName metadata user
  | confirmStorage certId txHash user =>
      rw [CertificateCall.action, Program.run_map]
      exact confirmStorage_effect store inputs certId txHash user
  | initiateRevocation certId reason user blockchainService =>
      rw [CertificateCall.action, Program.run_map]
      exact initiate_effect store.toStore inputs certId reason user blockchainService
  | confirmRevocation certId txHash user =>
      rw [CertificateCall.action, Program.run_map]
      exact confirmRevocation_effect store inputs certId txHash user

end calls

end AcademicCredential
