import AcademicCredential.Database.Updates
import AcademicCredential.Outlines
import AcademicCredential.Services.StatusMachine

/-!
# Agreement with the chain, call beside call

The four operations on certificates, any number of them at the same time, statement by statement,
beside calls that write other tables; transactions are mined at any time. A confirmation marks the
certificate that it has read and found on chain, and neither the hash of a certificate nor that of
a record ever changes. `confirmed_on_chain`: whatever the order of the statements, every CONFIRMED
certificate is on chain with its own hash.
-/

namespace AcademicCredential

open AcademicCredential.Lib
open AcademicCredential.Contract

/-- Any other call of the backend: it writes no certificates. -/
structure ElsewhereCall where
  action : Action Unit
  elsewhere : action.Every fun _ op => op.written? ≠ some .certificates

/-- A call about certificates, or one that leaves their rows alone. -/
inductive AgreementCall (Other : Type) where
  | certificates (call : CertificateCall)
  | elsewhere (call : Other)

namespace AgreementCall

variable {Other : Type}

/-- What a call runs. -/
def action (runtime : Runtime) (others : Other → ElsewhereCall) :
    AgreementCall Other → Action (Option CertificateAnswer)
  | .certificates call => some <$> call.action runtime
  | .elsewhere call => (fun _ => none) <$> (others call).action

end AgreementCall

/-- The calls side by side, with the store they share. -/
abbrev AgreementWorld (Other : Type) :=
  Lib.World Op Exception (Option CertificateAnswer) (AgreementCall Other) Store Session

/-- One turn of the calls side by side. -/
abbrev AgreementTurn (Other : Type) := Turn (AgreementCall Other) Inputs (List MinedTransaction)

/-- The calls side by side, over the operations of a session. -/
def agreementSystem {Other : Type} (runtime : Runtime) (others : Other → ElsewhereCall) :
    System Op Exception (Option CertificateAnswer) (AgreementCall Other) Inputs
      (List MinedTransaction) Store Session :=
  readCommitted (AgreementCall.action runtime others)

/-- What the chain has answered vouches for the certificate. -/
def Certificate.isVouchedBy (certificate : Certificate) (certUid : String)
    (record : CertificateRecord) : Bool :=
  decide (certUid = certificate.certificateUid ∧ record.exists = true ∧
    lower (hexText record.certificateHash.1) = lower certificate.sha256Hash)

/-- How far a call has read the row it may write. -/
inductive AgreementPhase where
  /-- A confirmation that has not read its certificate. -/
  | reading
  | loaded (certificate : Certificate)
  /-- The chain has vouched for the certificate with the id. -/
  | vouched (certId : Uuid)
  | other

/-- The operation makes no certificate CONFIRMED. -/
def Op.confirmsNothing : {Reply : Type} → Op Reply → Prop
  | _, .insert .certificates row => row.blockchainStatus ≠ .CONFIRMED
  | _, .flush .certificates _ assignments | _, .executeUpdate .certificates _ assignments =>
      .blockchainStatus .CONFIRMED ∉ assignments
  | _, _ => True

namespace AgreementPhase

/-- What an operation and its reply make of a phase. -/
def next : AgreementPhase → {Reply : Type} → Op Reply → Reply → AgreementPhase
  | .reading, _, .select .certificates _, rows =>
      match rows with
      | [] => .other
      | certificate :: _ => .loaded certificate
  | .loaded certificate, _, .rpc (.getCertificateRecord certUid), .ok record =>
      if certificate.isVouchedBy certUid record then .vouched certificate.id
      else .loaded certificate
  | phase, _, _, _ => phase

/-- What a call may do in a phase: only the certificate that the chain has vouched for is made
CONFIRMED. -/
def permits : AgreementPhase → {Reply : Type} → Op Reply → Prop
  | .reading, _, .select .certificates _ => True
  | .reading, _, .begin | .reading, _, .commit | .reading, _, .rollback => True
  | .reading, _, _ => False
  | .vouched certId, _, .flush .certificates id assignments =>
      .blockchainStatus .CONFIRMED ∈ assignments → id = certId
  | _, _, op => op.confirmsNothing

/-- Once past its reads, a call may do what confirms nothing. -/
theorem permits_of_confirmsNothing {phase : AgreementPhase} (read : phase ≠ .reading)
    {Reply : Type} {op : Op Reply} (nothing : op.confirmsNothing) : phase.permits op := by
  cases phase with
  | reading => exact absurd rfl read
  | vouched certId =>
      cases op with
      | flush table id assignments =>
          cases table with
          | certificates => exact fun confirms => absurd confirms nothing
          | _ => exact nothing
      | _ => exact nothing
  | loaded | other => exact nothing

/-- No operation brings a call back to its reads. -/
theorem next_ne_reading {phase : AgreementPhase} (read : phase ≠ .reading) {Reply : Type}
    (op : Op Reply) (reply : Reply) : phase.next op reply ≠ .reading := by
  cases phase with
  | reading => exact absurd rfl read
  | vouched | other => exact read
  | loaded certificate =>
      cases op with
      | rpc call =>
          cases call with
          | getCertificateRecord certUid =>
              cases reply with
              | error error => exact read
              | ok record =>
                  simp only [next]
                  split <;> simp
          | _ => exact read
      | _ => exact read

end AgreementPhase

/-- What a call may do in each phase, and where it gets by it. -/
def agreementProtocol : Protocol Op AgreementPhase := ⟨AgreementPhase.permits, AgreementPhase.next⟩

/-- Confirmations of storage have a certificate to read first. -/
def CertificateCall.firstPhase : CertificateCall → AgreementPhase
  | .confirmStorage _ _ _ => .reading
  | _ => .other

/-- The phase in which a call starts. -/
def AgreementCall.firstPhase {Other : Type} : AgreementCall Other → AgreementPhase
  | .certificates call => call.firstPhase
  | .elsewhere _ => .other

/-- The protocol that the calls side by side follow. -/
def agreementOutline (Other : Type) : System.Outline Op Exception (Option CertificateAnswer)
    (AgreementCall Other) AgreementPhase where
  protocol _ := agreementProtocol
  ends _ _ _ := True
  initial := AgreementCall.firstPhase

/-- An operation that leaves the certificates alone confirms nothing. -/
theorem Op.confirmsNothing_of_elsewhere {Reply : Type} {op : Op Reply}
    (elsewhere : op.written? ≠ some .certificates) : op.confirmsNothing := by
  cases op with
  | insert table row | flush table id assignments | executeUpdate table id assignments =>
      cases table <;> first | exact absurd rfl elsewhere | trivial
  | _ => trivial

/-- An operation that only reads confirms nothing. -/
theorem Op.confirmsNothing_of_isReading (Reply : Type) (op : Op Reply)
    (isReading : op.isReading = true) : op.confirmsNothing := by
  cases op <;> trivial

section outlines

variable {Value : Type} {ends : AgreementPhase → Except Exception Value → Prop}
variable {phase : AgreementPhase}

/-- Programs that confirm nothing follow the outline from wherever they start. -/
theorem obeys_of_confirmsNothing {program : Action Value}
    (every : program.Every fun _ op => op.confirmsNothing) (read : phase ≠ .reading)
    (everyEnd : ∀ phase result, phase ≠ .reading → ends phase result) :
    program.Obeys agreementProtocol ends phase := by
  refine Program.obeys_of_every_among ?_ ?_ everyEnd every read
  · exact fun _ _ _ read nothing => AgreementPhase.permits_of_confirmsNothing read nothing
  · exact fun _ _ op reply read _ => AgreementPhase.next_ne_reading read op reply

namespace CertificateIssuanceService

/-- Marking a certificate with any other status. -/
theorem confirmsNothing_mark (mark : BlockchainStatus) (other : mark ≠ .CONFIRMED)
    (storeTx : Option BlockchainTransaction) (status : TransactionStatus)
    (blockData : List TransactionAssignment) (id : Uuid)
    {next : Option Certificate → Action Value}
    (rest : ∀ updated, (next updated).Every fun _ op => op.confirmsNothing) :
    (do updateStoreTx storeTx status blockData
        next (← CertificateRepository.updateBlockchainStatus id mark) : Action Value).Every
      fun _ op => op.confirmsNothing := by
  refine every_statusWrites Op.confirmsNothing_of_isReading storeTx status blockData id mark
    (fun _ _ => trivial) ?_ rest
  rintro (_ | ⟨_, impossible⟩)
  · exact other rfl
  · cases impossible

/-- A failed cross-check confirms nothing. -/
theorem confirmsNothing_crossCheckFailed (storeTx : Option BlockchainTransaction)
    (blockchainTxHash message : String) :
    (crossCheckFailed storeTx blockchainTxHash message : Action Value).Every
      fun _ op => op.confirmsNothing :=
  every_crossCheckFailed Op.confirmsNothing_of_isReading storeTx blockchainTxHash message
    fun _ _ => trivial

/-- What the `except` branch does. -/
theorem confirmsNothing_unreachable (certificate : Certificate)
    (storeTx : Option BlockchainTransaction) (blockchainTxHash : String) (error : Exception) :
    (if error.isUnreachable then do
        unreachableWrites certificate storeTx blockchainTxHash
        Program.raise error
      else
        Program.raise error : Action Value).Every fun _ op => op.confirmsNothing :=
  every_unreachable Op.confirmsNothing_of_isReading certificate storeTx blockchainTxHash error
    (fun _ _ => trivial) fun confirms => by simp at confirms

/-- A vouched call may read. -/
theorem vouchedReading {certId : Uuid} (Reply : Type) (op : Op Reply)
    (isReading : op.isReading = true) : (AgreementPhase.vouched certId).permits op :=
  AgreementPhase.permits_of_confirmsNothing (by simp)
    (Op.confirmsNothing_of_isReading Reply op isReading)

/-- The checks A, B and C, and step 5, when the chain has vouched for a certificate whose hash is
that of the record. -/
theorem obeys_crossValidate (certificate : Certificate) (university : Option University)
    (storeTx : Option BlockchainTransaction) (blockchainTxHash : String)
    (receipt : TransactionReceipt) (record : Option ChainCertificateRecord)
    (read : phase ≠ .reading)
    (vouched : ∀ found, record = some found →
      lower found.certificateHash = lower certificate.sha256Hash →
        phase = .vouched certificate.id) :
    (crossValidate certificate university storeTx blockchainTxHash receipt record).Obeys
      agreementProtocol (fun later _ => later ≠ .reading) phase := by
  have failed : ∀ message, (crossCheckFailed storeTx blockchainTxHash message :
      Action StorageExit).Obeys agreementProtocol (fun later _ => later ≠ .reading) phase :=
    fun message => obeys_of_confirmsNothing
      (confirmsNothing_crossCheckFailed storeTx blockchainTxHash message) read fun _ _ read => read
  cases record with
  | none => exact failed _
  | some found =>
      dsimp only [crossValidate]
      split
      · exact failed _
      · rename_i sameHash
        obtain rfl := vouched found rfl (not_not.mp sameHash)
        split
        · exact failed _
        · have every := @every_statusWrites
            (fun _ op => (AgreementPhase.vouched certificate.id).permits op) vouchedReading _
            storeTx .CONFIRMED (confirmationData blockchainTxHash receipt found.issuedAt)
            certificate.id .CONFIRMED
            (fun updated => pure (StorageExit.confirmed (updated.getD certificate) receipt found))
            (fun _ _ => trivial) (fun _ => rfl) fun _ => Program.every_pure _
          exact Program.obeys_of_every (fun _ _ permitted => permitted) (fun _ _ _ _ => rfl)
            (fun _ => read) every

/-- Looking up a receipt keeps the phase of a call that has loaded its certificate. -/
theorem obeys_getTransactionReceipt (runtime : Runtime) (certificate : Certificate) (txHash : String)
    {ends : AgreementPhase → Except Exception (Option TransactionReceipt) → Prop}
    (everyEnd : ∀ result, ends (.loaded certificate) result) :
    (BlockchainService.getTransactionReceipt runtime txHash).Obeys agreementProtocol ends
      (.loaded certificate) := by
  unfold BlockchainService.getTransactionReceipt
  cases runtime.transactionHashBytes txHash with
  | error text => exact everyEnd _
  | ok transactionHash =>
      rw [Program.obeys_bind, obeys_attempt]
      refine ⟨trivial, fun reply => ?_⟩
      cases reply <;> exact everyEnd _

/-- The `try` statement, for a certificate that was loaded. -/
theorem obeys_verifyStorage (runtime : Runtime) (certificate : Certificate)
    (university : Option University) (storeTx : Option BlockchainTransaction)
    (blockchainTxHash : String) :
    (verifyStorage runtime certificate university storeTx blockchainTxHash).Obeys
      agreementProtocol (fun later _ => later ≠ .reading) (.loaded certificate) := by
  have loaded : AgreementPhase.loaded certificate ≠ .reading := by simp
  unfold verifyStorage
  rw [Program.obeys_bind]
  refine obeys_getTransactionReceipt runtime certificate blockchainTxHash fun received => ?_
  cases received with
  | error error => exact loaded
  | ok receipt =>
      rw [Program.thenObeys]
      cases receipt with
      | none =>
          refine obeys_of_confirmsNothing ?_ loaded fun _ _ read => read
          exact confirmsNothing_mark .SUBMITTED (by decide) storeTx _ _ _ fun _ =>
            Program.every_pure _
      | some receipt =>
          dsimp only
          split
          · refine obeys_of_confirmsNothing ?_ loaded fun _ _ read => read
            exact confirmsNothing_mark .FAILED (by decide) storeTx _ _ _ fun _ =>
              Program.every_raise _
          · rw [Program.obeys_bind, BlockchainService.getCertificateRecord, Program.obeys_bind,
              obeys_attempt]
            refine ⟨trivial, fun reply => ?_⟩
            cases reply with
            | error error => exact loaded
            | ok stored =>
                have read := AgreementPhase.next_ne_reading loaded
                  (.rpc (.getCertificateRecord certificate.certificateUid)) (.ok stored)
                rw [Program.thenObeys]
                cases present : CertificateRecord.exists stored with
                | false =>
                    refine obeys_crossValidate certificate university storeTx blockchainTxHash
                      receipt none read fun found isFound => ?_
                    cases isFound
                | true =>
                    rw [Bool.not_true, if_neg Bool.false_ne_true, Program.obeys_bind,
                      Program.obeys_ofExcept]
                    rcases chainRecord_cases runtime stored with
                      ⟨-, found, isFound, hash, -⟩ | ⟨-, failed⟩
                    · rw [isFound]
                      refine obeys_crossValidate certificate university storeTx blockchainTxHash
                        receipt (some found) read fun other isOther sameHash => ?_
                      cases isOther
                      rw [hash] at sameHash
                      have vouched : certificate.isVouchedBy certificate.certificateUid stored :=
                        decide_eq_true ⟨rfl, present, sameHash⟩
                      exact if_pos vouched
                    · rw [failed]
                      exact read

/-- The block of a confirmation has read when it is left. -/
theorem obeys_confirmBlock (runtime : Runtime) (certId : Uuid) (blockchainTxHash : String)
    (currentUser : User) :
    (confirmBlock runtime certId blockchainTxHash currentUser).Obeys agreementProtocol
      (fun later _ => later ≠ .reading) .reading := by
  unfold confirmBlock CertificateRepository.getById BaseRepository.getById
  rw [Program.obeys_bind]
  refine BaseRepository.obeys_findOne.mpr ⟨trivial, fun rows => ?_⟩
  cases rows with
  | nil =>
      have read : AgreementPhase.other ≠ .reading := by simp
      exact read
  | cons certificate rest =>
      have read : AgreementPhase.loaded certificate ≠ .reading := by simp
      change Program.thenObeys _ _ _ (AgreementPhase.loaded certificate) (.ok (some certificate))
      rw [Program.thenObeys]
      dsimp only
      split
      · exact read
      split
      · exact read
      · rw [Program.obeys_bind]
        refine BaseRepository.obeys_findOne.mpr ⟨trivial, fun universities => ?_⟩
        rw [Program.thenObeys, Program.obeys_bind,
          BlockchainTransactionRepository.getByCertificateId, Program.obeys_bind,
          Program.obeys_perform]
        refine ⟨trivial, fun txs => ?_⟩
        change Program.Obeys _ _ (Program.catchError _ _) (AgreementPhase.loaded certificate)
        rw [Program.obeys_catchError]
        refine (obeys_verifyStorage runtime certificate _ _ _).mono fun later result read => ?_
        cases result with
        | ok exit => exact read
        | error error =>
            exact obeys_of_confirmsNothing (confirmsNothing_unreachable certificate _ _ error) read
              fun _ _ read => read

/-- A confirmation confirms only a certificate that the chain vouches for. -/
theorem obeys_confirmBlockchainStorage (runtime : Runtime) (certId : Uuid)
    (blockchainTxHash : String) (currentUser : User) :
    (confirmBlockchainStorage runtime certId blockchainTxHash currentUser).Obeys
      agreementProtocol (fun _ _ => True) .reading := by
  unfold confirmBlockchainStorage
  rw [Program.obeys_bind]
  refine obeys_transaction trivial (fun _ => trivial) ?_
  refine (obeys_confirmBlock runtime certId blockchainTxHash currentUser).mono
    fun later result read => ?_
  have ended : ∀ {op : Op Unit}, op.confirmsNothing →
      AgreementPhase.permits later op ∧ later.next op () ≠ .reading := fun nothing =>
    ⟨AgreementPhase.permits_of_confirmsNothing read nothing,
      AgreementPhase.next_ne_reading read _ ()⟩
  cases result with
  | error error => exact ⟨(@ended .rollback trivial).1, trivial⟩
  | ok exit =>
      refine ⟨(@ended .commit trivial).1, ?_⟩
      refine obeys_of_confirmsNothing ?_ (@ended .commit trivial).2 fun _ _ _ => trivial
      cases exit with
      | submitted => exact Program.every_pure _
      | confirmed certificate receipt record =>
          refine Program.every_bind (Program.every_bind ?_ fun _ => Program.every_pure _) fun _ =>
            Program.every_pure _
          refine every_transaction ?_ trivial trivial trivial
          exact QrVerificationService.every_generateBlock Op.confirmsNothing_of_isReading runtime
            certId currentUser.id (fun _ _ => trivial) fun _ => trivial

end CertificateIssuanceService

/-- A result that is wrapped up changes nothing. -/
theorem obeys_map {Result : Type} {program : Action Value} {wrap : Value → Result}
    (obeys : program.Obeys agreementProtocol (fun _ _ => True) phase) :
    (wrap <$> program).Obeys agreementProtocol (fun _ _ => True) phase := by
  rw [← bind_pure_comp, Program.obeys_bind]
  refine obeys.mono fun _ result _ => ?_
  cases result <;> exact trivial

/-- A revocation does not make a certificate CONFIRMED. -/
theorem confirmsNothing_revocation (id : Uuid) (reason : String) (user : Uuid) (now : Timestamp) :
    (Op.flush .certificates id (CertificateRepository.revocation reason user now)).confirmsNothing := by
  intro confirms
  simp [CertificateRepository.revocation] at confirms

/-- Each call on certificates follows the protocol. -/
theorem obeys_certificateCall (runtime : Runtime) (call : CertificateCall) :
    (call.action runtime).Obeys agreementProtocol (fun _ _ => True)
      call.firstPhase := by
  have other : AgreementPhase.other ≠ .reading := by simp
  have harmless : ∀ {Answer : Type} {body : Action Answer},
      body.Every (fun _ op => op.confirmsNothing) →
        (transaction body).Obeys agreementProtocol (fun _ _ => True) .other := fun every =>
    obeys_of_confirmsNothing (every_transaction every trivial trivial trivial) other
      fun _ _ _ => trivial
  cases call with
  | upload fileBytes fileOriginalName metadata user =>
      refine obeys_map (harmless ?_)
      refine CertificateIssuanceService.every_uploadBlock Op.confirmsNothing_of_isReading runtime
        fileBytes fileOriginalName metadata user (fun _ _ => trivial)
        (fun row pending _ confirmed => ?_) fun _ _ _ => trivial
      rw [pending] at confirmed
      cases confirmed
  | confirmStorage certId txHash user =>
      exact obeys_map
        (CertificateIssuanceService.obeys_confirmBlockchainStorage runtime certId txHash user)
  | initiateRevocation certId reason user blockchainService =>
      refine obeys_map (obeys_of_confirmsNothing ?_ other fun _ _ _ => trivial)
      refine Program.every_bind (every_transaction ?_ trivial trivial trivial) fun _ =>
        Program.every_pure _
      exact CertificateRevocationService.every_initiateBlock Op.confirmsNothing_of_isReading runtime
        certId reason user blockchainService fun _ _ _ => trivial
  | confirmRevocation certId txHash user =>
      refine obeys_map (harmless ?_)
      exact CertificateRevocationService.every_confirmBlock Op.confirmsNothing_of_isReading runtime
        certId txHash user (fun _ _ => trivial) confirmsNothing_revocation

end outlines

/-- Every call follows the outline. -/
theorem obeys_agreementCall (runtime : Runtime) {Other : Type} (others : Other → ElsewhereCall)
    (call : AgreementCall Other) :
    (call.action runtime others).Obeys agreementProtocol (fun _ _ => True) call.firstPhase := by
  cases call with
  | certificates call => exact obeys_map (obeys_certificateCall runtime call)
  | elsewhere call =>
      have other : AgreementPhase.other ≠ .reading := by simp
      refine obeys_map (obeys_of_confirmsNothing ?_ other fun _ _ _ => trivial)
      exact (others call).elsewhere.mono fun _ _ elsewhere =>
        Op.confirmsNothing_of_elsewhere elsewhere

/-- UID and hash are as they were. -/
def SameContent (old new : Certificate) : Prop :=
  new.certificateUid = old.certificateUid ∧ new.sha256Hash = old.sha256Hash

/-- Two steps that keep the content keep it together. -/
theorem SameContent.trans (first middle last : Certificate) (earlier : SameContent first middle)
    (later : SameContent middle last) : SameContent first last :=
  ⟨later.1.trans earlier.1, later.2.trans earlier.2⟩

/-- A certificate of the same content is on the chain when the other is. -/
theorem SameContent.onChain {chain : Chain} {old new : Certificate} (same : SameContent old new)
    (onChain : OnChain chain old) : OnChain chain new :=
  onChain.congr same.1 same.2

/-- Writes keep the content of the rows. -/
theorem rows_keep_content (database : Database) (writes : List Write) :
    @DatabaseFollows .certificates SameContent database (applyWrites database writes) :=
  DatabaseFollows.applyWrites (fun _ => ⟨rfl, rfl⟩) SameContent.trans sameContent_assignAll database
    writes

/-- The certificates of the earlier store are still there, and the chain is the same or longer. -/
structure Store.Extends (before after : Store) : Prop where
  rows : @DatabaseFollows .certificates SameContent before.database after.database
  chain : Chain.Grows before.chain after.chain

/-- An operation only adds to what the store vouches for. -/
theorem sessionHandler_extends {Reply : Type} (op : Op Reply) (store : Store) (session : Session) :
    store.Extends (sessionHandler Reply op (store, session)).2.1 := by
  refine ⟨?_, chain_grows op store session⟩
  obtain ⟨writes, database⟩ := database_grows op store session
  rw [database]
  exact rows_keep_content store.database writes

/-- A longer chain vouches for what it vouched for before. -/
theorem Store.extends_mined (store : Store) (mined : List MinedTransaction) :
    store.Extends { store with chain := store.chain.mineAll mined } :=
  ⟨.refl (fun _ => ⟨rfl, rfl⟩) _, Chain.grows_mineAll store.chain mined⟩

/-- The committed certificate with the id is on chain. -/
def Vouched (store : Store) (certId : Uuid) : Prop :=
  ∃ row : Certificate, store.database.find? .certificates certId = some row ∧
    OnChain store.chain row

/-- What is vouched for stays vouched for. -/
theorem Vouched.extend {before after : Store} {certId : Uuid} (vouched : Vouched before certId)
    (extended : before.Extends after) : Vouched after certId := by
  obtain ⟨row, found, onChain⟩ := vouched
  obtain ⟨later, isLater, same⟩ := extended.rows certId row found
  exact ⟨later, isLater, same.onChain (onChain.grow extended.chain)⟩

/-- The write confirms only a certificate that is on chain. -/
def Write.Supported (store : Store) : Write → Prop
  | .insert .certificates row => row.blockchainStatus ≠ .CONFIRMED
  | .update .certificates id assignments =>
      .blockchainStatus .CONFIRMED ∈ assignments → Vouched store id
  | _ => True

/-- A supported write stays supported. -/
theorem Write.Supported.extend {before after : Store} {write : Write}
    (supported : write.Supported before) (extended : before.Extends after) :
    write.Supported after := by
  cases write with
  | insert table row => cases table <;> exact supported
  | update table id assignments =>
      cases table with
      | certificates => exact fun confirms => (supported confirms).extend extended
      | _ => trivial

/-- What a call knows in a phase. -/
def AgreementPhase.Holds (store : Store) (session : Session) : AgreementPhase → Prop
  | .reading => session.pending = [] ∧ session.identityMap .certificates = []
  | .loaded certificate => ∃ stored, store.database.find? .certificates certificate.id = some stored ∧
      SameContent certificate stored
  | .vouched certId => Vouched store certId
  | .other => True

/-- What holds of a phase goes on holding while others take their turns. -/
theorem AgreementPhase.Holds.extend {before after : Store} {session : Session}
    {phase : AgreementPhase} (holds : phase.Holds before session)
    (extended : before.Extends after) : phase.Holds after session := by
  cases phase with
  | reading | other => exact holds
  | loaded certificate =>
      obtain ⟨stored, found, same⟩ := holds
      obtain ⟨later, isLater, stillSame⟩ := extended.rows certificate.id stored found
      exact ⟨later, isLater, SameContent.trans _ _ _ same stillSame⟩
  | vouched certId => exact Vouched.extend holds extended

/-- Once read, what a call knows does not depend on its session. -/
theorem AgreementPhase.Holds.resume {store : Store} {session : Session} {phase : AgreementPhase}
    (holds : phase.Holds store session) (read : phase ≠ .reading) (later : Session) :
    phase.Holds store later := by
  cases phase with
  | reading => exact absurd rfl read
  | loaded | vouched | other => exact holds

/-- The first certificate that a fresh transaction selects is a committed one. -/
theorem AgreementPhase.Holds.select {store : Store} {session : Session} (keyed : store.database.Keyed)
    (holds : AgreementPhase.reading.Holds store session) (condition : Certificate → Bool) :
    (AgreementPhase.reading.next (.select .certificates condition)
      (sessionHandler _ (.select .certificates condition) (store, session)).1).Holds store
      (sessionHandler _ (.select .certificates condition) (store, session)).2.2 := by
  obtain ⟨nothing, unloaded⟩ := holds
  cases rows : (sessionHandler _ (.select .certificates condition) (store, session)).1 with
  | nil => trivial
  | cons certificate rest =>
      have member : certificate ∈
          (sessionHandler _ (.select .certificates condition) (store, session)).1 := by
        rw [rows]
        exact List.mem_cons_self
      obtain ⟨stored, isStored, isRow⟩ := List.mem_map.mp member
      have unknown : session.identityMap.find? .certificates (rowId stored) = none := by
        rw [Database.find?, unloaded]
        rfl
      rw [unknown, Option.getD_none] at isRow
      subst isRow
      have sees := List.mem_of_mem_filter isStored
      rw [visible, nothing, applyWrites_nil] at sees
      exact ⟨stored, keyed.find? sees, rfl, rfl⟩

/-- A record that the node returns is the one on its chain. -/
theorem AgreementPhase.Holds.ask {store : Store} {session : Session} (valid : store.database.Valid)
    {certificate : Certificate} (holds : (AgreementPhase.loaded certificate).Holds store session)
    (certUid : String) :
    ((AgreementPhase.loaded certificate).next (.rpc (.getCertificateRecord certUid))
      (sessionHandler _ (.rpc (.getCertificateRecord certUid)) (store, session)).1).Holds
      (sessionHandler _ (.rpc (.getCertificateRecord certUid)) (store, session)).2.1
      (sessionHandler _ (.rpc (.getCertificateRecord certUid)) (store, session)).2.2 := by
  have extended := holds.extend
    (sessionHandler_extends (.rpc (.getCertificateRecord certUid)) store session)
  let outcome := session.inputs.rpc session.rpcCalls.length
  let chain := store.chain.mineAll outcome.mined
  change ((AgreementPhase.loaded certificate).next (.rpc (.getCertificateRecord certUid))
    (outcome.reply chain (.getCertificateRecord certUid))).Holds { store with chain } _
  cases failed : outcome.failure with
  | some failure =>
      rw [RpcOutcome.reply, failed]
      exact extended
  | none =>
      rw [RpcOutcome.reply_of_none failed]
      simp only [AgreementPhase.next]
      split
      · rename_i vouchedBy
        obtain ⟨sameUid, present, sameHash⟩ := of_decide_eq_true vouchedBy
        obtain ⟨stored, found, content⟩ := holds
        have admissible := valid.admissible .certificates stored (Database.find?_some found).1
        refine ⟨stored, found, ?_, ?_⟩
        · rw [chainRecordOf, content.1, ← sameUid]
          exact present
        · rw [← content.2, lower_of_isSha256Text (isSha256Text_hexText _),
            lower_of_isSha256Text (Certificate.isSha256Text_sha256Hash admissible)] at sameHash
          rw [chainRecordOf, content.1, ← sameUid]
          exact sameHash
      · exact extended

/-- A permitted operation brings what holds of a phase to the next. -/
theorem AgreementPhase.Holds.perform {store : Store} {session : Session} {phase : AgreementPhase}
    {Reply : Type} {op : Op Reply} (valid : store.database.Valid)
    (holds : phase.Holds store session) (permitted : phase.permits op) :
    (phase.next op (sessionHandler Reply op (store, session)).1).Holds
      (sessionHandler Reply op (store, session)).2.1
      (sessionHandler Reply op (store, session)).2.2 := by
  have extended := holds.extend (sessionHandler_extends op store session)
  cases phase with
  | reading =>
      cases op with
      | select table condition =>
          cases table with
          | certificates => exact holds.select valid.keyed condition
          | _ => cases permitted
      | begin =>
          simp only [sessionHandler]
          split <;> exact holds
      | commit => exact ⟨rfl, holds.2⟩
      | rollback => exact ⟨rfl, rfl⟩
      | _ => cases permitted
  | loaded certificate =>
      have stays := extended.resume (by simp) (sessionHandler Reply op (store, session)).2.2
      cases op with
      | rpc call =>
          cases call with
          | getCertificateRecord certUid => exact holds.ask valid certUid
          | _ => exact stays
      | _ => exact stays
  | vouched | other => exact extended.resume (by simp) _

/-- A statement that is given up leaves the call where it is. -/
theorem AgreementPhase.next_cancelled (phase : AgreementPhase) {Reply : Type} {op : Op Reply}
    {reply : Reply} (answer : op.cancelled? = some reply) : phase.next op reply = phase := by
  cases op with
  | flush table id assignments | executeUpdate table id assignments | insert table row =>
      cases phase <;> rfl
  | _ => cases answer

/-- A call asks only for writes that are supported. -/
theorem AgreementPhase.Holds.supported {store : Store} {session : Session} {phase : AgreementPhase}
    {Reply : Type} {op : Op Reply} (holds : phase.Holds store session)
    (permitted : phase.permits op) {write : Write}
    (asked : session.statement? store op = some write) : write.Supported store := by
  cases op with
  | insert table row =>
      obtain rfl := Option.some.inj asked
      cases table with
      | certificates => cases phase <;> first | exact permitted | cases permitted
      | _ => trivial
  | executeUpdate table id assignments =>
      obtain ⟨row, -, rfl⟩ := Option.map_eq_some_iff.mp asked
      cases table with
      | certificates =>
          cases phase <;> first | exact fun confirms => absurd confirms permitted | cases permitted
      | _ => trivial
  | flush table id assignments =>
      obtain ⟨changes, -, among, rfl⟩ := Session.statement?_flush asked
      cases table with
      | certificates =>
          intro confirms
          have asks := among.subset confirms
          cases phase with
          | reading => cases permitted
          | vouched certId =>
              obtain rfl := permitted asks
              exact holds
          | loaded | other => exact absurd asks permitted
      | _ => trivial
  | _ => cases asked

/-- What a call knows, and that its pending writes are supported. -/
structure Substantiated (store : Store) (session : Session) (phase : AgreementPhase) : Prop where
  holds : phase.Holds store session
  pending : ∀ write ∈ session.pending, write.Supported store

/-- A substantiated call stays so while others take their turns. -/
theorem Substantiated.extend {before after : Store} {session : Session} {phase : AgreementPhase}
    (substantiated : Substantiated before session phase) (extended : before.Extends after) :
    Substantiated after session phase :=
  ⟨substantiated.holds.extend extended,
    fun write member => (substantiated.pending write member).extend extended⟩

/-- A permitted operation keeps a call substantiated. -/
theorem Substantiated.perform {store : Store} {session : Session} {phase : AgreementPhase}
    {Reply : Type} {op : Op Reply} (valid : store.database.Valid)
    (substantiated : Substantiated store session phase) (permitted : phase.permits op) :
    Substantiated (sessionHandler Reply op (store, session)).2.1
      (sessionHandler Reply op (store, session)).2.2
      (phase.next op (sessionHandler Reply op (store, session)).1) := by
  have extended := sessionHandler_extends op store session
  refine ⟨substantiated.holds.perform valid permitted, fun write member => ?_⟩
  cases sessionHandler_effect op store session with
  | quiet database pending =>
      rw [pending] at member
      exact (substantiated.pending write member).extend extended
  | wrote written asked accepted database pending =>
      rw [pending] at member
      rcases List.mem_append.mp member with before | isNew
      · exact (substantiated.pending write before).extend extended
      · rw [List.mem_singleton.mp isNew]
        exact (substantiated.holds.supported permitted asked).extend extended
  | committed isCommit database pending =>
      rw [pending] at member
      exact absurd member List.not_mem_nil
  | rolledBack database pending =>
      rw [pending] at member
      exact absurd member List.not_mem_nil

/-- Every CONFIRMED certificate is on chain, found by its id. -/
def Agreed (database : Database) (chain : Chain) : Prop :=
  ∀ id (row : Certificate), database.find? .certificates id = some row →
    row.blockchainStatus = .CONFIRMED → OnChain chain row

/-- An UPDATE leaves a status CONFIRMED only where it was so or where it sets it. -/
theorem confirmed_assignAll {row : Certificate} {assignments : List CertificateAssignment}
    (confirmed : (@assignAll .certificates row assignments).blockchainStatus = .CONFIRMED) :
    row.blockchainStatus = .CONFIRMED ∨ .blockchainStatus .CONFIRMED ∈ assignments := by
  induction assignments generalizing row with
  | nil => exact .inl confirmed
  | cons first rest inductionHypothesis =>
      rcases @inductionHypothesis (first.assign row) confirmed with before | later
      · cases first with
        | blockchainStatus status =>
            obtain rfl : status = .CONFIRMED := before
            exact .inr List.mem_cons_self
        | _ => exact .inl before
      · exact .inr (List.mem_cons_of_mem first later)

/-- Supported writes keep rows and chain in agreement. -/
theorem Agreed.applyWrites {store : Store} (agreed : Agreed store.database store.chain)
    {writes : List Write} (supported : ∀ write ∈ writes, write.Supported store) :
    Agreed (AcademicCredential.applyWrites store.database writes) store.chain := by
  induction writes using List.reverseRecOn with
  | nil => exact agreed
  | append_singleton writes write inductionHypothesis =>
      have before := inductionHypothesis fun other member =>
        supported other (List.mem_append_left _ member)
      have isSupported := supported write (List.mem_append_right _ (List.mem_singleton_self write))
      have kept := rows_keep_content store.database writes
      rw [applyWrites_snoc]
      generalize AcademicCredential.applyWrites store.database writes = database at before kept
      intro id row found confirmed
      by_cases inTable : write.table = .certificates
      · cases write with
        | insert table inserted =>
            obtain rfl : table = .certificates := inTable
            simp only [Database.find?, Write.apply, Function.update_self, List.find?_append] at found
            rcases Option.or_eq_some_iff.mp found with old | ⟨-, isNew⟩
            · exact before id row old confirmed
            · have same := List.mem_singleton.mp (List.mem_of_find?_eq_some isNew)
              rw [same] at confirmed
              exact absurd confirmed isSupported
        | update table key assignments =>
            obtain rfl : table = .certificates := inTable
            rw [Database.find?_update] at found
            obtain ⟨old, isOld, isRow⟩ := Option.map_eq_some_iff.mp found
            split at isRow
            · rename_i sameKey
              subst isRow
              have onChain : OnChain store.chain old := by
                rcases confirmed_assignAll confirmed with already | confirms
                · exact before id old isOld already
                · obtain ⟨stored, isStored, onChain⟩ := isSupported confirms
                  obtain ⟨later, isLater, same⟩ := kept key stored isStored
                  rw [← sameKey, (Database.find?_some isOld).2, isOld] at isLater
                  cases isLater
                  exact same.onChain onChain
              exact SameContent.onChain (sameContent_assignAll old assignments) onChain
            · subst isRow
              exact before id old isOld confirmed
      · rw [Database.find?_congr (write.apply_of_ne inTable database)] at found
        exact before id row found confirmed

/-- Every call knows what its phase says, and the committed certificates agree with the chain. -/
structure Agreeing {Other : Type} (world : AgreementWorld Other) (phases : Nat → AgreementPhase) :
    Prop where
  isolated : Isolated world.shared.database (pendingOf world)
  tracks : (agreementOutline Other).Tracks world phases
  calls : ∀ (index : Nat) thread, world.threads[index]? = some thread →
    Substantiated world.shared thread.own (phases index)
  agreed : Agreed world.shared.database world.shared.chain

namespace Agreeing

variable {Other : Type} {runtime : Runtime} {others : Other → ElsewhereCall}
variable {world : AgreementWorld Other} {phases : Nat → AgreementPhase}

/-- The empty database agrees with the empty chain. -/
theorem initial (deployer : Address) :
    Agreeing (⟨initialStore deployer, []⟩ : AgreementWorld Other) fun _ => .other := by
  have nothing : pendingOf (⟨initialStore deployer, []⟩ : AgreementWorld Other) = fun _ => [] := by
    ext1 index
    simp [pendingOf]
  refine ⟨?_, fun _ _ found => ?_, fun _ _ found => ?_, fun id row found => ?_⟩
  · rw [nothing]
    exact .idle .empty
  · simp at found
  · simp at found
  · cases found

/-- The pending writes of every thread are supported. -/
theorem supported (agreeing : Agreeing world phases) (index : Nat) :
    ∀ write ∈ pendingOf world index, write.Supported world.shared := by
  intro write member
  cases found : world.threads[index]? with
  | none => simp [pendingOf, found] at member
  | some thread =>
      rw [pendingOf_of_found found] at member
      exact (agreeing.calls index thread found).pending write member

/-- Whatever turn comes next, it stays so. -/
theorem apply (agreeing : Agreeing world phases) (turn : AgreementTurn Other) :
    ∃ later, Agreeing ((agreementSystem runtime others).apply world turn) later := by
  obtain ⟨later, advance, tracks⟩ : ∃ later,
      System.Advance (agreementSystem runtime others) (agreementOutline Other) world phases turn
        ((agreementSystem runtime others).apply world turn) later ∧
      (agreementOutline Other).Tracks ((agreementSystem runtime others).apply world turn) later :=
    System.exists_advance (obeys_agreementCall runtime others) agreeing.tracks turn
  have chain := @chain_grows_apply _ _ (AgreementCall.action runtime others) world turn
  have valid : world.shared.database.Valid := agreeing.isolated.committed
  refine ⟨later, isolated_apply agreeing.isolated turn, tracks, ?_, ?_⟩
  · refine advance.holds (fun _ store session phase => Substantiated store session phase)
      ?_ ?_ ?_ ?_ ?_ agreeing.calls
    · intro call inputs isTurn
      refine ⟨?_, fun _ member => absurd member List.not_mem_nil⟩
      cases call with
      | elsewhere => trivial
      | certificates call => cases call <;> first | exact ⟨rfl, rfl⟩ | trivial
    · intro index thread Reply op next isTurn reaches permitted substantiated
      exact substantiated.perform valid permitted
    · intro call own phase other Reply op substantiated
      exact substantiated.extend (sessionHandler_extends op world.shared other)
    · intro index thread Reply op next reply isTurn reaches answer waits permitted substantiated
      change Substantiated world.shared thread.own ((phases index).next op reply)
      rw [(phases index).next_cancelled answer]
      exact substantiated
    · intro call own phase mined substantiated
      exact substantiated.extend (world.shared.extends_mined mined)
  · intro id row found confirmed
    refine OnChain.grow ?_ chain
    cases @moves_apply _ _ (AgreementCall.action runtime others) world turn with
    | quiet database | wrote _ _ _ _ _ database | rolledBack _ _ database =>
        exact agreeing.agreed id row (database ▸ found) confirmed
    | committed index _ database =>
        exact agreeing.agreed.applyWrites (agreeing.supported index) id row (database ▸ found)
          confirmed

end Agreeing

/-- In every run from an empty database and a freshly deployed contract, whatever the order of the
statements of any number of calls, every CONFIRMED certificate is on chain with its own hash. -/
theorem confirmed_on_chain (runtime : Runtime) {Other : Type} (others : Other → ElsewhereCall)
    (deployer : Address) (run : List (AgreementTurn Other)) :
    Agreement
      (stateAfter (agreementSystem runtime others).apply ⟨initialStore deployer, []⟩
        run).shared.database
      (stateAfter (agreementSystem runtime others).apply ⟨initialStore deployer, []⟩
        run).shared.chain := by
  have preserved : ∀ (world : AgreementWorld Other) turn, (∃ phases, Agreeing world phases) →
      ∃ phases, Agreeing ((agreementSystem runtime others).apply world turn) phases := by
    rintro world turn ⟨phases, agreeing⟩
    exact agreeing.apply turn
  have initially : ∃ phases, Agreeing (⟨initialStore deployer, []⟩ : AgreementWorld Other) phases :=
    ⟨_, .initial deployer⟩
  obtain ⟨phases, agreeing⟩ := stateAfter_invariant _ preserved initially run
  intro row member confirmed
  exact agreeing.agreed _ row (agreeing.isolated.committed.keyed.find? member) confirmed

end AcademicCredential
