import AcademicCredential.Services.ChainAgreement

/-!
# The custody of certificates

Who changes a certificate and what revokes it, for the four operations on certificates side by
side, statement by statement. A call reads the certificate, compares its university with that of
the user, and writes later, when other calls may have written as well.
`changed_by_own_university`: a row changes only by the commit of a call of its own university.
`revocations_on_chain`: a certificate that is revoked is revoked on chain.
-/

namespace AcademicCredential

open AcademicCredential.Lib
open AcademicCredential.Contract

/-- Who makes the call. -/
def CertificateCall.user : CertificateCall → User
  | .upload _ _ _ user | .confirmStorage _ _ user | .initiateRevocation _ _ user _
  | .confirmRevocation _ _ user => user

/-- The university for which the call acts. -/
def AgreementCall.universityId {Other : Type} : AgreementCall Other → Option Uuid
  | .certificates call => call.user.universityId
  | .elsewhere _ => none

/-- The assignments take a certificate out of use. -/
def revokes (assignments : List CertificateAssignment) : Prop :=
  .isActive false ∈ assignments ∨ .blockchainStatus .REVOKED ∈ assignments

/-- The certificate is out of use. -/
def Certificate.isWithdrawn (certificate : Certificate) : Prop :=
  certificate.isActive = false ∨ certificate.blockchainStatus = .REVOKED

/-- The node has the certificate revoked. -/
def Certificate.isRevokedBy (certificate : Certificate) (certUid : String)
    (record : CertificateRecord) : Bool :=
  decide (certUid = certificate.certificateUid ∧ record.exists = true ∧ record.status = .REVOKED)

/-- How far a call has come to the row it may write. -/
inductive CustodyPhase where
  /-- Neither an issuer nor a certificate is read. -/
  | reading
  /-- The university of the user is read. -/
  | issuer (university : University)
  /-- A certificate of the university of the user is read. -/
  | owned (certificate : Certificate)
  /-- The node has it revoked. -/
  | revoked (certificate : Certificate)
  | other
  /-- A SELECT has returned what it did not ask for. -/
  | impossible

namespace CustodyPhase

/-- What an operation and its reply make of a phase. -/
def next (universityId : Option Uuid) :
    CustodyPhase → {Reply : Type} → Op Reply → Reply → CustodyPhase
  | .reading, _, .select .universities _, rows =>
      match rows with
      | [] => .other
      | university :: _ => if some university.id = universityId then .issuer university
          else .impossible
  | .reading, _, .select .certificates _, rows =>
      match rows with
      | [] => .other
      | certificate :: _ => if some certificate.universityId = universityId then .owned certificate
          else .other
  | .owned certificate, _, .rpc (.getCertificateRecord certUid), .ok record =>
      if certificate.isRevokedBy certUid record then .revoked certificate else .owned certificate
  | phase, _, _, _ => phase

/-- What a call may do in a phase: add certificates of the university that it has read, change the
certificate that it has read, and take it out of use once the node has it revoked. -/
def permits (universityId : Option Uuid) : CustodyPhase → {Reply : Type} → Op Reply → Prop
  | .reading, _, .select .universities condition =>
      ∀ row, condition row = true → some row.id = universityId
  | .reading, _, .select .certificates _ => True
  | .reading, _, .begin | .reading, _, .commit | .reading, _, .rollback => True
  | .reading, _, _ => False
  | .issuer university, _, .insert .certificates row => row.universityId = university.id ∧
      row.blockchainStatus = .PENDING ∧ row.isActive = true
  | .owned certificate, _, .flush .certificates id assignments =>
      id = certificate.id ∧ ¬ revokes assignments
  | .revoked certificate, _, .flush .certificates id _ => id = certificate.id
  | .impossible, _, _ => True
  | _, _, op => op.written? ≠ some .certificates

variable {universityId : Option Uuid} {phase : CustodyPhase}

/-- Once past its reads, a call may write outside the certificates. -/
theorem permits_of_elsewhere (read : phase ≠ .reading) {Reply : Type} {op : Op Reply}
    (elsewhere : op.written? ≠ some .certificates) : phase.permits universityId op := by
  cases phase with
  | reading => exact absurd rfl read
  | impossible => trivial
  | other => exact elsewhere
  | issuer | owned | revoked =>
      cases op with
      | insert table row | flush table id assignments =>
          cases table <;> first | exact absurd rfl elsewhere | exact elsewhere
      | _ => exact elsewhere

/-- No operation brings a call back to its reads. -/
theorem next_ne_reading (read : phase ≠ .reading) {Reply : Type} (op : Op Reply) (reply : Reply) :
    phase.next universityId op reply ≠ .reading := by
  cases phase with
  | reading => exact absurd rfl read
  | issuer | revoked | other | impossible => exact read
  | owned certificate =>
      cases op with
      | rpc call =>
          cases call with
          | getCertificateRecord certUid =>
              cases reply with
              | error error => exact read
              | ok record =>
                  simp only [next]
                  split <;> simp
          | _ => exact read
      | _ => exact read

/-- The certificate that a call has read stays the one that it has read. -/
def Holding (certificate : Certificate) (phase : CustodyPhase) : Prop :=
  phase = .owned certificate ∨ phase = .revoked certificate

/-- A call that holds a row is past its reads. -/
theorem Holding.read {certificate : Certificate} (holding : phase.Holding certificate) :
    phase ≠ .reading := by
  rcases holding with rfl | rfl <;> simp

/-- A call that holds a row may do what its owner may. -/
theorem Holding.permits {certificate : Certificate} (holding : phase.Holding certificate)
    {Reply : Type} {op : Op Reply}
    (permitted : (CustodyPhase.owned certificate).permits universityId op) :
    phase.permits universityId op := by
  rcases holding with rfl | rfl
  · exact permitted
  · cases op with
    | flush table id assignments =>
        cases table <;> first | exact permitted.1 | exact permitted
    | _ => exact permitted

/-- A call that holds a row goes on holding it. -/
theorem Holding.next {certificate : Certificate} (holding : phase.Holding certificate)
    {Reply : Type} (op : Op Reply) (reply : Reply) :
    (phase.next universityId op reply).Holding certificate := by
  rcases holding with rfl | rfl
  · cases op with
    | rpc call =>
        cases call with
        | getCertificateRecord certUid =>
            cases reply with
            | error error => exact .inl rfl
            | ok record =>
                simp only [CustodyPhase.next]
                split
                · exact .inr rfl
                · exact .inl rfl
        | _ => exact .inl rfl
    | _ => exact .inl rfl
  · exact .inr rfl

end CustodyPhase

/-- What a call of a university may do in each phase, and where it gets by it. -/
def custodyProtocol (universityId : Option Uuid) : Protocol Op CustodyPhase :=
  ⟨CustodyPhase.permits universityId, CustodyPhase.next universityId⟩

/-- Initiations of revocations change no certificate. -/
def CertificateCall.custody : CertificateCall → CustodyPhase
  | .upload _ _ _ _ | .confirmStorage _ _ _ | .confirmRevocation _ _ _ => .reading
  | .initiateRevocation _ _ _ _ => .other

/-- The phase in which a call starts. -/
def AgreementCall.custody {Other : Type} : AgreementCall Other → CustodyPhase
  | .certificates call => call.custody
  | .elsewhere _ => .other

/-- The protocol that the calls of the universities follow. -/
def custodyOutline (Other : Type) : System.Outline Op Exception (Option CertificateAnswer)
    (AgreementCall Other) CustodyPhase where
  protocol call := custodyProtocol call.universityId
  ends _ _ _ := True
  initial := AgreementCall.custody

/-- An operation that only reads leaves the certificates alone. -/
theorem Op.elsewhere_of_isReading (Reply : Type) (op : Op Reply) (isReading : op.isReading = true) :
    op.written? ≠ some .certificates := by
  rw [op.unwritten_of_isReading Reply isReading]
  simp

section outlines

variable {Value : Type} {ends : CustodyPhase → Except Exception Value → Prop}
variable {phase : CustodyPhase} {universityId : Option Uuid}

/-- Programs that write no certificate follow the outline from wherever they start. -/
theorem custody_of_elsewhere {program : Action Value}
    (every : program.Every fun _ op => op.written? ≠ some .certificates) (read : phase ≠ .reading)
    (everyEnd : ∀ phase result, phase ≠ .reading → ends phase result) :
    program.Obeys (custodyProtocol universityId) ends phase := by
  refine Program.obeys_of_every_among ?_ ?_ everyEnd every read
  · exact fun _ _ _ read elsewhere => CustodyPhase.permits_of_elsewhere read elsewhere
  · exact fun _ _ op reply read _ => CustodyPhase.next_ne_reading read op reply

/-- Programs that only mark the certificate that was read. -/
theorem custody_of_holding {certificate : Certificate} {program : Action Value}
    (every : program.Every fun _ op =>
      (CustodyPhase.owned certificate).permits universityId op)
    (holding : phase.Holding certificate) (everyEnd : ∀ phase result, phase ≠ .reading →
      ends phase result) :
    program.Obeys (custodyProtocol universityId) ends phase := by
  refine Program.obeys_of_every_among ?_ ?_ ?_ every holding
  · exact fun _ _ _ holding permitted => holding.permits permitted
  · exact fun _ _ op reply holding _ => holding.next op reply
  · exact fun _ _ holding => everyEnd _ _ holding.read

namespace CertificateIssuanceService

/-- An upload adds only certificates of the university that it has read. -/
theorem every_createRecords_issuer {allowed : (Reply : Type) → Op Reply → Prop}
    (reading : ∀ (Reply : Type) (op : Op Reply), op.isReading = true → allowed Reply op)
    (runtime : Runtime) (fileBytes : List UInt8) (fileOriginalName : String)
    (metadata : IssueMetadata) (currentUser studentUser : User) (university : University)
    (walletAddress : String)
    (save : ∀ path bytes, allowed _ (.writeFile path bytes))
    (insertCertificate : ∀ row : Certificate, row.universityId = university.id →
      row.blockchainStatus = .PENDING → row.isActive = true → allowed _ (.insert .certificates row))
    (insertTransaction : ∀ row, allowed _ (.insert .blockchainTransactions row)) :
    (createRecords runtime fileBytes fileOriginalName metadata currentUser studentUser university
      walletAddress).Every allowed := by
  refine Program.every_bind (every_reading reading rfl) fun today => ?_
  refine Program.every_bind
    (CertificateRepository.every_getNextUidSequence reading _ _) fun sequence => ?_
  refine Program.every_bind (BaseRepository.every_findOne reading _ _) fun duplicate => ?_
  cases duplicate with
  | some _ => exact Program.every_raise _
  | none =>
      refine Program.every_bind (every_reading reading rfl) fun certId => ?_
      refine Program.every_bind (every_saveCertificate _ _ _ save) fun filePath => ?_
      refine Program.every_bind (BaseRepository.every_create reading
        (insertCertificate _ rfl rfl rfl)) fun certificate => ?_
      refine Program.every_bind (every_reading reading rfl) fun txId => ?_
      refine Program.every_bind (every_reading reading rfl) fun submittedAt => ?_
      exact Program.every_bind (BaseRepository.every_create reading (insertTransaction _))
        fun _ => Program.every_pure _

/-- An upload issues for the university of its user. -/
theorem custody_uploadBlock (runtime : Runtime) (fileBytes : List UInt8)
    (fileOriginalName : String) (metadata : IssueMetadata) (currentUser : User) :
    (uploadBlock runtime fileBytes fileOriginalName metadata currentUser).Obeys
      (custodyProtocol currentUser.universityId) (fun later _ => later ≠ .reading) .reading := by
  unfold uploadBlock universityOf
  rw [Program.obeys_bind]
  refine BaseRepository.obeys_findOne.mpr ⟨fun row isRow => of_decide_eq_true isRow, fun rows => ?_⟩
  cases rows with
  | nil => exact CustodyPhase.noConfusion
  | cons university rest =>
      rw [Program.thenObeys]
      change Program.Obeys _ _ _ (if some university.id = currentUser.universityId then
        CustodyPhase.issuer university else .impossible)
      have permitted : ∀ {Value : Type} {program : Action Value},
          (program.Every fun _ op => (CustodyPhase.issuer university).permits
            currentUser.universityId op) →
          program.Obeys (custodyProtocol currentUser.universityId) (fun later _ => later ≠ .reading)
            (if some university.id = currentUser.universityId then .issuer university
              else .impossible) := by
        intro Value program every
        split
        · exact Program.obeys_of_every (fun _ _ permitted => permitted) (fun _ _ _ _ => rfl)
            (fun _ => CustodyPhase.noConfusion) every
        · exact Program.obeys_of_every (fun _ _ _ => trivial) (fun _ _ _ _ => rfl)
            (fun _ => CustodyPhase.noConfusion) every
      have reading : ∀ (Reply : Type) (op : Op Reply), op.isReading = true →
          (CustodyPhase.issuer university).permits currentUser.universityId op := fun Reply op is =>
        CustodyPhase.permits_of_elsewhere CustodyPhase.noConfusion
          (Op.elsewhere_of_isReading Reply op is)
      refine permitted ?_
      dsimp only [List.head?_cons]
      split
      · exact Program.every_raise _
      cases walletOf university with
      | none => exact Program.every_raise _
      | some walletAddress =>
          refine Program.every_bind (BaseRepository.every_findOne reading _ _) fun studentUser => ?_
          cases studentUser with
          | none => exact Program.every_raise _
          | some studentUser =>
              refine Program.every_bind (BaseRepository.every_findOne reading _ _) fun student => ?_
              cases student with
              | none => exact Program.every_raise _
              | some _ =>
                  exact every_createRecords_issuer reading _ _ _ _ _ _ _ _
                    (fun _ _ => by simp [CustodyPhase.permits, Op.written?])
                    (fun row same pending active => ⟨same, pending, active⟩)
                    fun row => by simp [CustodyPhase.permits, Op.written?]

section confirmation

variable {certificate : Certificate} {universityId : Option Uuid}

/-- The holder of a row may read. -/
theorem held_reading (Reply : Type) (op : Op Reply) (isReading : op.isReading = true) :
    (CustodyPhase.owned certificate).permits universityId op :=
  CustodyPhase.permits_of_elsewhere CustodyPhase.noConfusion
    (Op.elsewhere_of_isReading Reply op isReading)

/-- A read is permitted to the holder of a row. -/
theorem held_permits {Reply : Type} {op : Op Reply} (isReading : op.isReading = true) :
    (custodyProtocol universityId).permits (.owned certificate) op :=
  held_reading Reply op isReading

/-- The writes of a confirmation mark the certificate that was read, and not as revoked. -/
theorem held_mark (status : BlockchainStatus) (other : status ≠ .REVOKED) :
    (CustodyPhase.owned certificate).permits universityId
      (.flush .certificates certificate.id [.blockchainStatus status]) := by
  refine ⟨rfl, ?_⟩
  rintro (inactive | revoked)
  · simp at inactive
  · simp only [List.mem_singleton, CertificateAssignment.blockchainStatus.injEq] at revoked
    exact other revoked.symm

end confirmation

/-- Initiating or confirming a revocation keeps to the certificates of its university. -/
theorem custody_confirmBlock (runtime : Runtime) (certId : Uuid) (blockchainTxHash : String)
    (currentUser : User) :
    (confirmBlock runtime certId blockchainTxHash currentUser).Obeys
      (custodyProtocol currentUser.universityId) (fun later _ => later ≠ .reading) .reading := by
  unfold confirmBlock CertificateRepository.getById BaseRepository.getById
  rw [Program.obeys_bind]
  refine BaseRepository.obeys_findOne.mpr ⟨trivial, fun rows => ?_⟩
  cases rows with
  | nil => exact CustodyPhase.noConfusion
  | cons certificate rest =>
      rw [Program.thenObeys]
      change Program.Obeys _ _ _ (if some certificate.universityId = currentUser.universityId then
        CustodyPhase.owned certificate else .other)
      dsimp only [List.head?_cons]
      split
      · exact CustodyPhase.noConfusion
      · rename_i notDiffers
        rw [if_pos (not_not.mp notDiffers)]
        split
        · exact CustodyPhase.noConfusion
        · refine custody_of_holding ?_ (.inl rfl) fun _ _ read => read
          refine Program.every_bind (BaseRepository.every_findOne held_reading _ _)
            fun university => ?_
          refine Program.every_bind
            (BlockchainTransactionRepository.every_getByCertificateId held_reading _) fun txs => ?_
          have flushes : ∀ id assignments, (CustodyPhase.owned certificate).permits
              currentUser.universityId (.flush .blockchainTransactions id assignments) :=
            fun _ _ => by simp [CustodyPhase.permits, Op.written?]
          exact Program.every_catchError
            (every_verifyStorage held_reading runtime certificate university _ _ flushes held_mark)
            fun error => every_unreachable held_reading certificate _ _ error flushes
              (held_mark .SUBMITTED (by decide))

end CertificateIssuanceService

namespace CertificateRevocationService

open CertificateIssuanceService (held_permits every_updateStoreTx)

/-- The row of the revocation is no certificate. -/
theorem elsewhere_updateRevokeTx (revokeTx : Option BlockchainTransaction)
    (status : TransactionStatus) (blockData : List TransactionAssignment) :
    (updateRevokeTx revokeTx status blockData).Every fun _ op =>
      op.written? ≠ some .certificates :=
  every_updateStoreTx Op.elsewhere_of_isReading revokeTx status blockData
    fun _ _ => by simp [Op.written?]

/-- Step 4 and 5, where the node has the certificate revoked if the record says so. -/
theorem custody_recordRevocation {certificate : Certificate} (currentUserId : Uuid)
    (revokeTx : Option BlockchainTransaction) (blockchainTxHash : String)
    (receipt : TransactionReceipt) (record : Option ChainCertificateRecord)
    (read : phase ≠ .reading)
    (revoked : ∀ found, record = some found → found.status = "REVOKED" →
      phase = .revoked certificate) :
    (recordRevocation certificate.id currentUserId revokeTx blockchainTxHash receipt record).Obeys
      (custodyProtocol universityId) (fun later _ => later ≠ .reading) phase := by
  cases record with
  | none => exact read
  | some found =>
      dsimp only [recordRevocation]
      split
      · exact read
      · rename_i isRevoked
        obtain rfl := revoked found rfl (not_not.mp isRevoked)
        have reading : ∀ (Reply : Type) (op : Op Reply), op.isReading = true →
            (CustodyPhase.revoked certificate).permits universityId op := fun Reply op is =>
          CustodyPhase.permits_of_elsewhere read (Op.elsewhere_of_isReading Reply op is)
        refine Program.obeys_of_every (fun _ _ permitted => permitted) (fun _ _ _ _ => rfl)
          (fun _ => read) ?_
        refine Program.every_bind ?_ fun revokedAt => ?_
        · unfold revocationTime
          cases found.revokedAt with
          | none => exact every_reading reading rfl
          | some _ => exact Program.every_pure _
        · refine Program.every_bind (CertificateRepository.every_revoke reading fun now => rfl)
            fun _ => ?_
          refine Program.every_bind ?_ fun _ => Program.every_pure _
          exact (elsewhere_updateRevokeTx _ _ _).mono fun _ _ elsewhere =>
            CustodyPhase.permits_of_elsewhere read elsewhere

/-- Looking up a receipt keeps the row of a call that holds one. -/
theorem custody_getTransactionReceipt (runtime : Runtime) {certificate : Certificate}
    (txHash : String) {ends : CustodyPhase → Except Exception (Option TransactionReceipt) → Prop}
    (everyEnd : ∀ result, ends (.owned certificate) result) :
    (BlockchainService.getTransactionReceipt runtime txHash).Obeys (custodyProtocol universityId)
      ends (.owned certificate) := by
  unfold BlockchainService.getTransactionReceipt
  cases runtime.transactionHashBytes txHash with
  | error text => exact everyEnd _
  | ok transactionHash =>
      rw [Program.obeys_bind, obeys_attempt]
      refine ⟨held_permits rfl, fun reply => ?_⟩
      cases reply <;> exact everyEnd _

/-- The `try` statement. -/
theorem custody_verifyRevocation (runtime : Runtime) (certificate : Certificate)
    (currentUserId : Uuid) (revokeTx : Option BlockchainTransaction) (blockchainTxHash : String) :
    (verifyRevocation runtime certificate currentUserId revokeTx blockchainTxHash).Obeys
      (custodyProtocol universityId) (fun later _ => later ≠ .reading) (.owned certificate) := by
  have owned : CustodyPhase.owned certificate ≠ .reading := CustodyPhase.noConfusion
  unfold verifyRevocation
  rw [Program.obeys_bind]
  refine custody_getTransactionReceipt runtime blockchainTxHash fun received => ?_
  cases received with
  | error error => exact owned
  | ok receipt =>
      rw [Program.thenObeys]
      cases receipt with
      | none =>
          refine custody_of_elsewhere ?_ owned fun _ _ read => read
          exact Program.every_bind (elsewhere_updateRevokeTx _ _ _) fun _ => Program.every_pure _
      | some receipt =>
          dsimp only
          split
          · refine custody_of_elsewhere ?_ owned fun _ _ read => read
            exact Program.every_bind (elsewhere_updateRevokeTx _ _ _) fun _ => Program.every_raise _
          · rw [Program.obeys_bind, BlockchainService.getCertificateRecord, Program.obeys_bind,
              obeys_attempt]
            refine ⟨held_permits rfl, fun reply => ?_⟩
            cases reply with
            | error error => exact owned
            | ok stored =>
                have read := @CustodyPhase.next_ne_reading universityId _ owned _
                  (.rpc (.getCertificateRecord certificate.certificateUid)) (.ok stored)
                rw [Program.thenObeys]
                cases present : CertificateRecord.exists stored with
                | false =>
                    refine @custody_recordRevocation _ universityId certificate currentUserId
                      revokeTx blockchainTxHash receipt none read fun found isFound => ?_
                    cases isFound
                | true =>
                    rw [Bool.not_true, if_neg Bool.false_ne_true, Program.obeys_bind,
                      Program.obeys_ofExcept]
                    rcases chainRecord_cases runtime stored with
                      ⟨-, found, isFound, -, -, status⟩ | ⟨-, failed⟩
                    · rw [isFound]
                      refine custody_recordRevocation currentUserId revokeTx blockchainTxHash
                        receipt (some found) read fun other isOther isRevoked => ?_
                      cases isOther
                      rw [status] at isRevoked
                      have revoked : stored.status = .REVOKED := by
                        cases same : stored.status with
                        | REVOKED => rfl
                        | _ => simp [same, chainStatusMap] at isRevoked
                      have byNode : certificate.isRevokedBy certificate.certificateUid stored :=
                        decide_eq_true ⟨rfl, present, revoked⟩
                      exact if_pos byNode
                    · rw [failed]
                      exact read

/-- A confirmation of storage keeps to the certificates of its university. -/
theorem custody_confirmBlock (runtime : Runtime) (certId : Uuid) (blockchainTxHash : String)
    (currentUser : User) :
    (confirmBlock runtime certId blockchainTxHash currentUser).Obeys
      (custodyProtocol currentUser.universityId) (fun later _ => later ≠ .reading) .reading := by
  unfold confirmBlock CertificateRepository.getById BaseRepository.getById
  rw [Program.obeys_bind]
  refine BaseRepository.obeys_findOne.mpr ⟨trivial, fun rows => ?_⟩
  cases rows with
  | nil => exact CustodyPhase.noConfusion
  | cons certificate rest =>
      rw [Program.thenObeys]
      change Program.Obeys _ _ _ (if some certificate.universityId = currentUser.universityId then
        CustodyPhase.owned certificate else .other)
      dsimp only [List.head?_cons]
      split
      · exact CustodyPhase.noConfusion
      · rename_i notDiffers
        rw [if_pos (not_not.mp notDiffers)]
        split
        · exact CustodyPhase.noConfusion
        · rw [Program.obeys_bind, BlockchainTransactionRepository.getByCertificateId,
            Program.obeys_bind, Program.obeys_perform]
          refine ⟨held_permits rfl, fun txs => ?_⟩
          change Program.Obeys _ _ (Program.catchError _ _) (CustodyPhase.owned certificate)
          rw [Program.obeys_catchError]
          refine (custody_verifyRevocation runtime certificate _ _ _).mono
            fun later result read => ?_
          cases result with
          | ok response => exact read
          | error error =>
              refine custody_of_elsewhere ?_ read fun _ _ read => read
              dsimp only
              split
              · exact Program.every_bind (elsewhere_updateRevokeTx _ _ _)
                  fun _ => Program.every_raise _
              · exact Program.every_raise _

end CertificateRevocationService

/-- The answer may be wrapped without a change of what was done. -/
theorem custody_map {Result : Type} {program : Action Value} {wrap : Value → Result}
    (obeys : program.Obeys (custodyProtocol universityId) (fun _ _ => True) phase) :
    (wrap <$> program).Obeys (custodyProtocol universityId) (fun _ _ => True) phase := by
  rw [← bind_pure_comp, Program.obeys_bind]
  refine obeys.mono fun _ result _ => ?_
  cases result <;> exact trivial

/-- A transaction block that has read when it is left. -/
theorem custody_transaction {body : Action Value}
    {ends : CustodyPhase → Except Exception Value → Prop}
    (block : body.Obeys (custodyProtocol universityId) (fun later _ => later ≠ .reading) .reading)
    (refused : ∀ error, ends .reading (.error error))
    (everyEnd : ∀ phase result, phase ≠ .reading → ends phase result) :
    (transaction body).Obeys (custodyProtocol universityId) ends .reading := by
  refine obeys_transaction trivial refused (block.mono fun later result read => ?_)
  have ended : ∀ {op : Op Unit}, op.written? ≠ some .certificates →
      later.permits universityId op ∧ later.next universityId op () ≠ .reading := fun elsewhere =>
    ⟨CustodyPhase.permits_of_elsewhere read elsewhere, CustodyPhase.next_ne_reading read _ ()⟩
  cases result with
  | ok value =>
      obtain ⟨permitted, stillRead⟩ := @ended .commit (by simp [Op.written?])
      exact ⟨permitted, everyEnd _ _ stillRead⟩
  | error error =>
      obtain ⟨permitted, stillRead⟩ := @ended .rollback (by simp [Op.written?])
      exact ⟨permitted, everyEnd _ _ stillRead⟩

/-- Each call on certificates follows the protocol. -/
theorem custody_certificateCall (runtime : Runtime) (call : CertificateCall) :
    (call.action runtime).Obeys (custodyProtocol call.user.universityId) (fun _ _ => True)
      call.custody := by
  cases call with
  | upload fileBytes fileOriginalName metadata user =>
      refine custody_map (custody_transaction ?_ (fun _ => trivial) fun _ _ _ => trivial)
      exact CertificateIssuanceService.custody_uploadBlock runtime fileBytes fileOriginalName
        metadata user
  | confirmStorage certId txHash user =>
      refine custody_map ?_
      change (CertificateIssuanceService.confirmBlockchainStorage runtime certId txHash user).Obeys
        _ _ CustodyPhase.reading
      unfold CertificateIssuanceService.confirmBlockchainStorage
      rw [Program.obeys_bind]
      refine custody_transaction
        (CertificateIssuanceService.custody_confirmBlock runtime certId txHash user)
        (fun _ => trivial) fun later result read => ?_
      cases result with
      | error error => trivial
      | ok exit =>
          refine custody_of_elsewhere ?_ read fun _ _ _ => trivial
          cases exit with
          | submitted => exact Program.every_pure _
          | confirmed certificate receipt record =>
              refine Program.every_bind (Program.every_bind ?_ fun _ => Program.every_pure _)
                fun _ => Program.every_pure _
              refine every_transaction ?_ (by simp [Op.written?]) (by simp [Op.written?])
                (by simp [Op.written?])
              exact QrVerificationService.every_generateBlock Op.elsewhere_of_isReading runtime
                certId user.id (fun _ _ => by simp [Op.written?]) fun _ => by simp [Op.written?]
  | initiateRevocation certId reason user blockchainService =>
      refine custody_map (custody_of_elsewhere ?_ CustodyPhase.noConfusion fun _ _ _ => trivial)
      refine Program.every_bind (every_transaction ?_ (by simp [Op.written?])
        (by simp [Op.written?]) (by simp [Op.written?])) fun _ => Program.every_pure _
      exact CertificateRevocationService.every_initiateBlock Op.elsewhere_of_isReading runtime
        certId reason user blockchainService fun _ _ _ => by simp [Op.written?]
  | confirmRevocation certId txHash user =>
      refine custody_map (custody_transaction ?_ (fun _ => trivial) fun _ _ _ => trivial)
      exact CertificateRevocationService.custody_confirmBlock runtime certId txHash user

end outlines

/-- Each call side by side follows the protocol. -/
theorem custody_agreementCall (runtime : Runtime) {Other : Type} (others : Other → ElsewhereCall)
    (call : AgreementCall Other) :
    (call.action runtime others).Obeys (custodyProtocol call.universityId) (fun _ _ => True)
      call.custody := by
  cases call with
  | certificates call => exact custody_map (custody_certificateCall runtime call)
  | elsewhere call =>
      exact custody_map (custody_of_elsewhere (others call).elsewhere CustodyPhase.noConfusion
        fun _ _ _ => trivial)

/-- UID and university are as they were. -/
def SameOrigin (old new : Certificate) : Prop :=
  new.certificateUid = old.certificateUid ∧ new.universityId = old.universityId

/-- Two steps that keep the origin keep it together. -/
theorem SameOrigin.trans (first middle last : Certificate) (earlier : SameOrigin first middle)
    (later : SameOrigin middle last) : SameOrigin first last :=
  ⟨later.1.trans earlier.1, later.2.trans earlier.2⟩

/-- No assignment changes the origin of a row. -/
theorem sameOrigin_assignAll (row : Certificate) (assignments : List CertificateAssignment) :
    SameOrigin row (@assignAll .certificates row assignments) := by
  induction assignments generalizing row with
  | nil => exact ⟨rfl, rfl⟩
  | cons first rest inductionHypothesis =>
      refine SameOrigin.trans _ (first.assign row) _ ?_ (inductionHypothesis (first.assign row))
      cases first <;> exact ⟨rfl, rfl⟩

/-- Writes keep the origin of the rows. -/
theorem rows_keep_origin (database : Database) (writes : List Write) :
    @DatabaseFollows .certificates SameOrigin database (applyWrites database writes) :=
  DatabaseFollows.applyWrites (fun _ => ⟨rfl, rfl⟩) SameOrigin.trans sameOrigin_assignAll database
    writes

/-- The certificates are still there, with their universities, and the chain has only grown. -/
structure Store.Succeeds (before after : Store) : Prop where
  rows : @DatabaseFollows .certificates SameOrigin before.database after.database
  chain : Chain.Grows before.chain after.chain

/-- An operation leaves a store that succeeds the one before it. -/
theorem sessionHandler_succeeds {Reply : Type} (op : Op Reply) (store : Store)
    (session : Session) : store.Succeeds (sessionHandler Reply op (store, session)).2.1 := by
  refine ⟨?_, chain_grows op store session⟩
  obtain ⟨writes, database⟩ := database_grows op store session
  rw [database]
  exact rows_keep_origin store.database writes

/-- A store with a longer chain succeeds the one before it. -/
theorem Store.succeeds_mined (store : Store) (mined : List MinedTransaction) :
    store.Succeeds { store with chain := store.chain.mineAll mined } :=
  ⟨.refl (fun _ => ⟨rfl, rfl⟩) _, Chain.grows_mineAll store.chain mined⟩

/-- The committed certificate with the id belongs to the university, and is revoked on chain if it
is to be taken out of use. -/
def InCharge (universityId : Option Uuid) (store : Store) (id : Uuid) (withdraws : Prop) : Prop :=
  ∃ stored : Certificate, store.database.find? .certificates id = some stored ∧
    some stored.universityId = universityId ∧ (withdraws → RevokedOnChain store.chain stored)

/-- A university stays in charge of its certificate. -/
theorem InCharge.succeed {universityId : Option Uuid} {before after : Store} {id : Uuid}
    {withdraws : Prop} (inCharge : InCharge universityId before id withdraws)
    (succeeds : before.Succeeds after) : InCharge universityId after id withdraws := by
  obtain ⟨stored, found, isOwn, revoked⟩ := inCharge
  obtain ⟨later, isLater, same⟩ := succeeds.rows id stored found
  refine ⟨later, isLater, same.2 ▸ isOwn, fun isWithdrawn => ?_⟩
  exact ((revoked isWithdrawn).grow succeeds.chain).congr same.1

/-- The write adds a certificate of the university, or changes one. -/
def Write.Entitled (universityId : Option Uuid) (store : Store) : Write → Prop
  | .insert .certificates row => some row.universityId = universityId ∧
      row.blockchainStatus = .PENDING ∧ row.isActive = true
  | .update .certificates id assignments => InCharge universityId store id (revokes assignments)
  | _ => True

/-- An entitled write stays entitled. -/
theorem Write.Entitled.succeed {universityId : Option Uuid} {before after : Store} {write : Write}
    (entitled : write.Entitled universityId before) (succeeds : before.Succeeds after) :
    write.Entitled universityId after := by
  cases write with
  | insert table row => cases table <;> exact entitled
  | update table id assignments =>
      cases table with
      | certificates => exact InCharge.succeed entitled succeeds
      | _ => trivial

namespace CustodyPhase

/-- What a call knows in a phase. -/
def Holds (universityId : Option Uuid) (store : Store) (session : Session) : CustodyPhase → Prop
  | .reading => session.pending = [] ∧ session.identityMap .certificates = []
  | .issuer university => some university.id = universityId
  | .owned certificate => ∃ stored,
      store.database.find? .certificates certificate.id = some stored ∧
      SameOrigin certificate stored ∧ some stored.universityId = universityId
  | .revoked certificate => InCharge universityId store certificate.id True
  | .other => True
  | .impossible => False

variable {universityId : Option Uuid} {phase : CustodyPhase} {store : Store} {session : Session}

/-- What holds of a phase goes on holding while others take their turns. -/
theorem Holds.succeed {after : Store} (holds : phase.Holds universityId store session)
    (succeeds : store.Succeeds after) : phase.Holds universityId after session := by
  cases phase with
  | reading | issuer | other | impossible => exact holds
  | owned certificate =>
      obtain ⟨stored, found, same, isOwn⟩ := holds
      obtain ⟨later, isLater, stillSame⟩ := succeeds.rows certificate.id stored found
      exact ⟨later, isLater, SameOrigin.trans _ _ _ same stillSame, stillSame.2 ▸ isOwn⟩
  | revoked certificate => exact InCharge.succeed holds succeeds

/-- Once read, what a call knows does not depend on its session. -/
theorem Holds.resume (holds : phase.Holds universityId store session) (read : phase ≠ .reading)
    (later : Session) : phase.Holds universityId store later := by
  cases phase with
  | reading => exact absurd rfl read
  | issuer | owned | revoked | other | impossible => exact holds

/-- The university that a call reads is the one that it has asked for. -/
theorem Holds.select_university {condition : University → Bool}
    (asked : ∀ row, condition row = true → some row.id = universityId) :
    (CustodyPhase.reading.next universityId (.select .universities condition)
      (sessionHandler _ (.select .universities condition) (store, session)).1).Holds universityId
      store (sessionHandler _ (.select .universities condition) (store, session)).2.2 := by
  cases rows : (sessionHandler _ (.select .universities condition) (store, session)).1 with
  | nil => trivial
  | cons university rest =>
      have member : university ∈
          (sessionHandler _ (.select .universities condition) (store, session)).1 := by
        rw [rows]
        exact List.mem_cons_self
      obtain ⟨stored, isStored, isRow⟩ := List.mem_map.mp member
      have sameId : university.id = stored.id := by
        cases loaded : session.identityMap.find? .universities (rowId stored) with
        | none =>
            rw [loaded, Option.getD_none] at isRow
            rw [isRow]
        | some row =>
            rw [loaded, Option.getD_some] at isRow
            rw [← isRow]
            exact (Database.find?_some loaded).2
      have isOwn : some university.id = universityId := by
        rw [sameId]
        exact asked stored (List.of_mem_filter isStored)
      simp only [next, if_pos isOwn]
      exact isOwn

/-- The first certificate that a fresh transaction selects is a committed one. -/
theorem Holds.select_certificate (keyed : store.database.Keyed)
    (holds : CustodyPhase.reading.Holds universityId store session)
    (condition : Certificate → Bool) :
    (CustodyPhase.reading.next universityId (.select .certificates condition)
      (sessionHandler _ (.select .certificates condition) (store, session)).1).Holds universityId
      store (sessionHandler _ (.select .certificates condition) (store, session)).2.2 := by
  obtain ⟨nothing, unloaded⟩ := holds
  have seen : (sessionHandler _ (.select .certificates condition) (store, session)).1 =
      (store.database .certificates).filter condition := by
    change loadedRows session.identityMap .certificates _ = _
    rw [loadedRows_of_unloaded unloaded, visible, nothing, applyWrites_nil]
  rw [seen]
  cases rows : (store.database .certificates).filter condition with
  | nil => trivial
  | cons certificate rest =>
      have member : certificate ∈ (store.database .certificates).filter condition := by
        rw [rows]
        exact List.mem_cons_self
      simp only [next]
      split
      · rename_i isOwn
        exact ⟨certificate, keyed.find? (List.mem_of_mem_filter member), ⟨rfl, rfl⟩, isOwn⟩
      · trivial

/-- What the node says of a certificate holds of the committed row. -/
theorem Holds.ask {certificate : Certificate}
    (holds : (CustodyPhase.owned certificate).Holds universityId store session)
    (certUid : String) :
    ((CustodyPhase.owned certificate).next universityId (.rpc (.getCertificateRecord certUid))
      (sessionHandler _ (.rpc (.getCertificateRecord certUid)) (store, session)).1).Holds
      universityId (sessionHandler _ (.rpc (.getCertificateRecord certUid)) (store, session)).2.1
      (sessionHandler _ (.rpc (.getCertificateRecord certUid)) (store, session)).2.2 := by
  have succeeded := holds.succeed
    (sessionHandler_succeeds (.rpc (.getCertificateRecord certUid)) store session)
  let outcome := session.inputs.rpc session.rpcCalls.length
  let chain := store.chain.mineAll outcome.mined
  change ((CustodyPhase.owned certificate).next universityId (.rpc (.getCertificateRecord certUid))
    (outcome.reply chain (.getCertificateRecord certUid))).Holds universityId
      { store with chain } _
  cases failed : outcome.failure with
  | some failure =>
      rw [RpcOutcome.reply, failed]
      exact succeeded
  | none =>
      rw [RpcOutcome.reply_of_none failed]
      simp only [next]
      split
      · rename_i revokedBy
        obtain ⟨sameUid, present, revoked⟩ := of_decide_eq_true revokedBy
        obtain ⟨stored, found, content, isOwn⟩ := holds
        refine ⟨stored, found, isOwn, fun _ => ⟨?_, ?_⟩⟩
        · rw [chainRecordOf, content.1, ← sameUid]
          exact present
        · rw [chainRecordOf, content.1, ← sameUid]
          exact revoked
      · exact succeeded

/-- A permitted operation brings what holds of a phase to the next. -/
theorem Holds.perform {Reply : Type} {op : Op Reply} (keyed : store.database.Keyed)
    (holds : phase.Holds universityId store session) (permitted : phase.permits universityId op) :
    (phase.next universityId op (sessionHandler Reply op (store, session)).1).Holds universityId
      (sessionHandler Reply op (store, session)).2.1
      (sessionHandler Reply op (store, session)).2.2 := by
  have succeeded := holds.succeed (sessionHandler_succeeds op store session)
  cases phase with
  | reading =>
      cases op with
      | select table condition =>
          cases table with
          | certificates => exact holds.select_certificate keyed condition
          | universities => exact Holds.select_university permitted
          | _ => cases permitted
      | begin =>
          simp only [sessionHandler]
          split <;> exact holds
      | commit => exact ⟨rfl, holds.2⟩
      | rollback => exact ⟨rfl, rfl⟩
      | _ => cases permitted
  | owned certificate =>
      have stays := succeeded.resume (by simp) (sessionHandler Reply op (store, session)).2.2
      cases op with
      | rpc call =>
          cases call with
          | getCertificateRecord certUid => exact holds.ask certUid
          | _ => exact stays
      | _ => exact stays
  | issuer | revoked | other | impossible => exact succeeded.resume (by simp) _

/-- A statement that is given up leaves the call where it is. -/
theorem next_cancelled {Reply : Type} {op : Op Reply} {reply : Reply}
    (answer : op.cancelled? = some reply) : phase.next universityId op reply = phase := by
  cases op with
  | flush table id assignments | executeUpdate table id assignments | insert table row =>
      cases phase <;> rfl
  | _ => cases answer

/-- A call asks only for writes that it is entitled to. -/
theorem Holds.entitled {Reply : Type} {op : Op Reply}
    (holds : phase.Holds universityId store session) (permitted : phase.permits universityId op)
    {write : Write} (asked : session.statement? store op = some write) :
    write.Entitled universityId store := by
  cases op with
  | insert table row =>
      obtain rfl := Option.some.inj asked
      cases table with
      | certificates =>
          cases phase with
          | issuer university => exact ⟨permitted.1 ▸ holds, permitted.2⟩
          | impossible => exact False.elim holds
          | reading => cases permitted
          | owned | revoked | other => exact absurd rfl permitted
      | _ => trivial
  | executeUpdate table id assignments =>
      obtain ⟨row, -, rfl⟩ := Option.map_eq_some_iff.mp asked
      cases table with
      | certificates =>
          cases phase with
          | impossible => exact False.elim holds
          | reading => cases permitted
          | issuer | owned | revoked | other => exact absurd rfl permitted
      | _ => trivial
  | flush table id assignments =>
      obtain ⟨changes, -, among, rfl⟩ := Session.statement?_flush asked
      cases table with
      | certificates =>
          cases phase with
          | impossible => exact False.elim holds
          | reading => cases permitted
          | owned certificate =>
              obtain ⟨stored, found, -, isOwn⟩ := holds
              obtain ⟨rfl, keeps⟩ := permitted
              refine ⟨stored, found, isOwn, fun isWithdrawn => absurd ?_ keeps⟩
              exact isWithdrawn.imp (among.subset ·) (among.subset ·)
          | revoked certificate =>
              obtain ⟨stored, found, isOwn, revoked⟩ := holds
              obtain rfl : id = certificate.id := permitted
              exact ⟨stored, found, isOwn, fun _ => revoked trivial⟩
          | issuer | other => exact absurd rfl permitted
      | _ => trivial
  | _ => cases asked

end CustodyPhase

/-- What a call knows, and that it is entitled to what it has written. -/
structure Custodian (universityId : Option Uuid) (store : Store) (session : Session)
    (phase : CustodyPhase) : Prop where
  holds : phase.Holds universityId store session
  pending : ∀ write ∈ session.pending, write.Entitled universityId store

namespace Custodian

variable {universityId : Option Uuid} {phase : CustodyPhase} {store : Store} {session : Session}

/-- A custodian stays one while others take their turns. -/
theorem succeed {after : Store} (custodian : Custodian universityId store session phase)
    (succeeds : store.Succeeds after) : Custodian universityId after session phase :=
  ⟨custodian.holds.succeed succeeds,
    fun write member => (custodian.pending write member).succeed succeeds⟩

/-- A permitted operation keeps a call the custodian of its row. -/
theorem perform {Reply : Type} {op : Op Reply} (keyed : store.database.Keyed)
    (custodian : Custodian universityId store session phase)
    (permitted : phase.permits universityId op) :
    Custodian universityId (sessionHandler Reply op (store, session)).2.1
      (sessionHandler Reply op (store, session)).2.2
      (phase.next universityId op (sessionHandler Reply op (store, session)).1) := by
  have succeeds := sessionHandler_succeeds op store session
  refine ⟨custodian.holds.perform keyed permitted, fun write member => ?_⟩
  cases sessionHandler_effect op store session with
  | quiet database pending =>
      rw [pending] at member
      exact (custodian.pending write member).succeed succeeds
  | wrote written asked accepted database pending =>
      rw [pending] at member
      rcases List.mem_append.mp member with before | isNew
      · exact (custodian.pending write before).succeed succeeds
      · rw [List.mem_singleton.mp isNew]
        exact (custodian.holds.entitled permitted asked).succeed succeeds
  | committed isCommit database pending =>
      rw [pending] at member
      exact absurd member List.not_mem_nil
  | rolledBack database pending =>
      rw [pending] at member
      exact absurd member List.not_mem_nil

end Custodian

/-- A certificate after the writes of a call is as it was, or of the university of the call. -/
theorem find?_of_entitled {universityId : Option Uuid} {store : Store} {writes : List Write}
    (entitled : ∀ write ∈ writes, write.Entitled universityId store) {id : Uuid}
    {row : Certificate}
    (found : (applyWrites store.database writes).find? .certificates id = some row) :
    store.database.find? .certificates id = some row ∨ some row.universityId = universityId := by
  induction writes using List.reverseRecOn generalizing row with
  | nil => exact .inl found
  | append_singleton writes write inductionHypothesis =>
      have before := @inductionHypothesis fun other member =>
        entitled other (List.mem_append_left _ member)
      have isEntitled := entitled write (List.mem_append_right _ (List.mem_singleton_self write))
      have kept := rows_keep_origin store.database writes
      rw [applyWrites_snoc] at found
      by_cases touched : write.table = .certificates ∧ write.id = id
      · obtain ⟨inTable, rfl⟩ := touched
        cases write with
        | insert table inserted =>
            obtain rfl : table = .certificates := inTable
            simp only [Database.find?, Write.apply, Function.update_self,
              List.find?_append] at found
            rcases Option.or_eq_some_iff.mp found with old | ⟨-, isNew⟩
            · exact before old
            · rw [List.mem_singleton.mp (List.mem_of_find?_eq_some isNew)]
              exact .inr isEntitled.1
        | update table key assignments =>
            obtain rfl : table = .certificates := inTable
            obtain ⟨stored, isStored, isOwn, -⟩ := isEntitled
            obtain ⟨later, isLater, same⟩ := kept key stored isStored
            change (Write.apply _ (.update .certificates key assignments)).find? .certificates key =
              some row at found
            rw [Database.find?_update_of_found isLater, if_pos rfl] at found
            obtain rfl := Option.some.inj found
            have sameUniversity := (sameOrigin_assignAll later assignments).2.trans same.2
            exact .inr (sameUniversity ▸ isOwn)
      · rw [write.find?_apply_of_untouched touched] at found
        exact before found

/-- An UPDATE leaves a certificate out of use only where it was so or where it takes it out of
use. -/
theorem withdrawn_assignAll {row : Certificate} {assignments : List CertificateAssignment}
    (withdrawn : (@assignAll .certificates row assignments).isWithdrawn) :
    row.isWithdrawn ∨ revokes assignments := by
  induction assignments generalizing row with
  | nil => exact .inl withdrawn
  | cons first rest inductionHypothesis =>
      rcases @inductionHypothesis (first.assign row) withdrawn with before | later
      · cases first with
        | blockchainStatus status =>
            rcases before with inactive | revoked
            · exact .inl (.inl inactive)
            · obtain rfl : status = .REVOKED := revoked
              exact .inr (.inr List.mem_cons_self)
        | isActive value =>
            rcases before with inactive | revoked
            · obtain rfl : value = false := inactive
              exact .inr (.inl List.mem_cons_self)
            · exact .inl (.inr revoked)
        | _ => exact .inl before
      · exact .inr (later.imp (List.mem_cons_of_mem first) (List.mem_cons_of_mem first))

/-- Every certificate that is out of use is revoked on chain. -/
def RevocationAgreement (database : Database) (chain : Chain) : Prop :=
  ∀ id (row : Certificate), database.find? .certificates id = some row → row.isWithdrawn →
    RevokedOnChain chain row

/-- Entitled writes keep the revoked rows in agreement with the chain. -/
theorem RevocationAgreement.applyWrites {universityId : Option Uuid} {store : Store}
    (agreement : RevocationAgreement store.database store.chain) {writes : List Write}
    (entitled : ∀ write ∈ writes, write.Entitled universityId store) :
    RevocationAgreement (AcademicCredential.applyWrites store.database writes) store.chain := by
  induction writes using List.reverseRecOn with
  | nil => exact agreement
  | append_singleton writes write inductionHypothesis =>
      have before := inductionHypothesis fun other member =>
        entitled other (List.mem_append_left _ member)
      have isEntitled := entitled write (List.mem_append_right _ (List.mem_singleton_self write))
      have kept := rows_keep_origin store.database writes
      intro id row found withdrawn
      rw [applyWrites_snoc] at found
      by_cases touched : write.table = .certificates ∧ write.id = id
      · obtain ⟨inTable, rfl⟩ := touched
        cases write with
        | insert table inserted =>
            obtain rfl : table = .certificates := inTable
            simp only [Database.find?, Write.apply, Function.update_self,
              List.find?_append] at found
            rcases Option.or_eq_some_iff.mp found with old | ⟨-, isNew⟩
            · exact before _ row old withdrawn
            · rw [List.mem_singleton.mp (List.mem_of_find?_eq_some isNew)] at withdrawn
              obtain ⟨-, pending, active⟩ := isEntitled
              rcases withdrawn with inactive | revoked
              · exact absurd (active.symm.trans inactive) (by simp)
              · exact absurd (pending.symm.trans revoked) (by simp)
        | update table key assignments =>
            obtain rfl : table = .certificates := inTable
            obtain ⟨stored, isStored, -, revoked⟩ := isEntitled
            obtain ⟨later, isLater, same⟩ := kept key stored isStored
            change (Write.apply _ (.update .certificates key assignments)).find? .certificates key =
              some row at found
            rw [Database.find?_update_of_found isLater, if_pos rfl] at found
            obtain rfl := Option.some.inj found
            have revokedLater : RevokedOnChain store.chain later := by
              rcases withdrawn_assignAll withdrawn with already | withdraws
              · exact before key later isLater already
              · exact (revoked withdraws).congr same.1
            exact revokedLater.congr (sameOrigin_assignAll later assignments).1
      · rw [write.find?_apply_of_untouched touched] at found
        exact before id row found withdrawn

/-- Every call is entitled to what it has written, and the certificates that are out of use are
revoked on chain. -/
structure InCustody {Other : Type} (world : AgreementWorld Other) (phases : Nat → CustodyPhase) :
    Prop where
  isolated : Isolated world.shared.database (pendingOf world)
  tracks : (custodyOutline Other).Tracks world phases
  calls : ∀ (index : Nat) thread, world.threads[index]? = some thread →
    Custodian thread.call.universityId world.shared thread.own (phases index)
  revocations : RevocationAgreement world.shared.database world.shared.chain

namespace InCustody

variable {Other : Type} {runtime : Runtime} {others : Other → ElsewhereCall}
variable {world : AgreementWorld Other} {phases : Nat → CustodyPhase}

/-- The empty database is in custody. -/
theorem initial (deployer : Address) :
    InCustody (⟨initialStore deployer, []⟩ : AgreementWorld Other) fun _ => .other := by
  have nothing : pendingOf (⟨initialStore deployer, []⟩ : AgreementWorld Other) = fun _ => [] := by
    ext1 index
    simp [pendingOf]
  refine ⟨?_, fun _ _ found => ?_, fun _ _ found => ?_, fun id row found => ?_⟩
  · rw [nothing]
    exact .idle .empty
  · simp at found
  · simp at found
  · cases found

/-- What a thread has written and not committed. -/
theorem entitled (custody : InCustody world phases) {index : Nat}
    {thread : Thread Op Exception (Option CertificateAnswer) (AgreementCall Other) Session}
    (found : world.threads[index]? = some thread) :
    ∀ write ∈ pendingOf world index, write.Entitled thread.call.universityId world.shared := by
  rw [pendingOf_of_found found]
  exact (custody.calls index thread found).pending

/-- What a turn commits. -/
theorem revocations_apply (custody : InCustody world phases) (turn : AgreementTurn Other) :
    RevocationAgreement ((agreementSystem runtime others).apply world turn).shared.database
      world.shared.chain := by
  cases @moves_apply _ _ (AgreementCall.action runtime others) world turn with
  | quiet database | wrote _ _ _ _ _ database | rolledBack _ _ database =>
      exact database ▸ custody.revocations
  | committed index _ database =>
      refine database ▸ ?_
      cases found : world.threads[index]? with
      | none =>
          simp only [pendingOf, found, Option.map_none, Option.getD_none, applyWrites_nil]
          exact custody.revocations
      | some thread => exact custody.revocations.applyWrites (custody.entitled found)

/-- Whatever turn comes next, it stays so. -/
theorem apply (custody : InCustody world phases) (turn : AgreementTurn Other) :
    ∃ later, InCustody ((agreementSystem runtime others).apply world turn) later := by
  obtain ⟨later, advance, tracks⟩ : ∃ later,
      System.Advance (agreementSystem runtime others) (custodyOutline Other) world phases turn
        ((agreementSystem runtime others).apply world turn) later ∧
      (custodyOutline Other).Tracks ((agreementSystem runtime others).apply world turn) later :=
    System.exists_advance (custody_agreementCall runtime others) custody.tracks turn
  have chain := @chain_grows_apply _ _ (AgreementCall.action runtime others) world turn
  have keyed := custody.isolated.committed.keyed
  refine ⟨later, isolated_apply custody.isolated turn, tracks, ?_, ?_⟩
  · refine advance.holds
      (fun call store session phase => Custodian call.universityId store session phase)
      ?_ ?_ ?_ ?_ ?_ custody.calls
    · intro call inputs isTurn
      refine ⟨?_, fun _ member => absurd member List.not_mem_nil⟩
      cases call with
      | elsewhere => trivial
      | certificates call => cases call <;> first | exact ⟨rfl, rfl⟩ | trivial
    · intro index thread Reply op next isTurn reaches permitted custodian
      exact custodian.perform keyed permitted
    · intro call own phase other Reply op custodian
      exact custodian.succeed (sessionHandler_succeeds op world.shared other)
    · intro index thread Reply op next reply isTurn reaches answer waits permitted custodian
      change Custodian _ world.shared thread.own ((phases index).next _ op reply)
      rw [CustodyPhase.next_cancelled answer]
      exact custodian
    · intro call own phase mined custodian
      exact custodian.succeed (world.shared.succeeds_mined mined)
  · exact fun id row found withdrawn =>
      (custody.revocations_apply turn id row found withdrawn).grow chain

/-- After every run there are phases that the calls are in. -/
theorem exists_afterRun (runtime : Runtime) (others : Other → ElsewhereCall) (deployer : Address)
    (run : List (AgreementTurn Other)) :
    ∃ phases, InCustody (stateAfter (agreementSystem runtime others).apply
      ⟨initialStore deployer, []⟩ run) phases := by
  have preserved : ∀ (world : AgreementWorld Other) turn, (∃ phases, InCustody world phases) →
      ∃ phases, InCustody ((agreementSystem runtime others).apply world turn) phases := by
    rintro world turn ⟨phases, custody⟩
    exact custody.apply turn
  exact stateAfter_invariant _ preserved ⟨_, .initial deployer⟩ run

end InCustody

/-- In every run, a turn leaves every committed certificate as it is, or it is the commit of a call
made for the university of the certificate. -/
theorem changed_by_own_university (runtime : Runtime) {Other : Type}
    (others : Other → ElsewhereCall) (deployer : Address) (run : List (AgreementTurn Other))
    (turn : AgreementTurn Other) (id : Uuid) :
    let before := stateAfter (agreementSystem runtime others).apply ⟨initialStore deployer, []⟩ run
    let after := (agreementSystem runtime others).apply before turn
    after.shared.database.find? .certificates id = before.shared.database.find? .certificates id ∨
      ∃ index thread call row, turn = .operate index ∧ before.threads[index]? = some thread ∧
        thread.call = .certificates call ∧
        after.shared.database.find? .certificates id = some row ∧
        some row.universityId = call.user.universityId := by
  intro before after
  obtain ⟨phases, custody⟩ : ∃ phases, InCustody before phases :=
    InCustody.exists_afterRun runtime others deployer run
  cases @moves_apply _ _ (AgreementCall.action runtime others) before turn with
  | quiet database | wrote _ _ _ _ _ database | rolledBack _ _ database =>
      exact .inl (congrArg (·.find? .certificates id) database)
  | committed index isTurn database =>
      have committed : after.shared.database =
        applyWrites before.shared.database (pendingOf before index) := database
      rw [committed]
      cases found : before.threads[index]? with
      | none =>
          simp only [pendingOf, found, Option.map_none, Option.getD_none, applyWrites_nil]
          exact .inl trivial
      | some thread =>
          cases isRow : (applyWrites before.shared.database (pendingOf before index)).find?
            .certificates id with
          | none =>
              cases wasRow : before.shared.database.find? .certificates id with
              | none => exact .inl rfl
              | some row =>
                  obtain ⟨later, isLater⟩ :=
                    exists_find?_applyWrites wasRow (pendingOf before index)
                  cases isRow.symm.trans isLater
          | some row =>
              rcases find?_of_entitled (custody.entitled found) isRow with unchanged | isOwn
              · exact .inl unchanged.symm
              · cases isCall : thread.call with
                | elsewhere other =>
                    rw [isCall] at isOwn
                    cases isOwn
                | certificates call =>
                    rw [isCall] at isOwn
                    exact .inr ⟨index, thread, call, row, isTurn, found, isCall, rfl, isOwn⟩

/-- In every run from an empty database and a freshly deployed contract, whatever the order of the
statements, every certificate that is REVOKED or inactive is revoked on chain. -/
theorem revocations_on_chain (runtime : Runtime) {Other : Type} (others : Other → ElsewhereCall)
    (deployer : Address) (run : List (AgreementTurn Other)) :
    RevocationAgreement
      (stateAfter (agreementSystem runtime others).apply ⟨initialStore deployer, []⟩
        run).shared.database
      (stateAfter (agreementSystem runtime others).apply ⟨initialStore deployer, []⟩
        run).shared.chain := by
  obtain ⟨phases, custody⟩ := InCustody.exists_afterRun runtime others deployer run
  exact custody.revocations

end AcademicCredential
