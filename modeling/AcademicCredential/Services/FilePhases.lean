import AcademicCredential.Services.ChainAgreement
import AcademicCredential.Services.UploadFolder

/-!
# How far an upload has come

The steps of an upload as phases: it draws the UUID of its certificate, writes the file under it,
inserts the certificate and then its STORE_HASH row, and commits. A row that is refused ends it
with the file written. The other calls of the backend touch neither a certificate's row nor its
file. `files_agreementCall`: every call follows these phases.
-/

namespace AcademicCredential

open AcademicCredential.Lib
open AcademicCredential.Contract

/-- Any other call of the backend: it writes no certificates, and no files in their folder. -/
structure SparingCall extends ElsewhereCall where
  sparing : AddsNoCertificate action

/-- The file that a call uploads. -/
def CertificateCall.fileBytes? : CertificateCall → Option (List UInt8)
  | .upload fileBytes _ _ _ => some fileBytes
  | _ => none

/-- The file that a call uploads, if it is a call about certificates. -/
def AgreementCall.fileBytes? {Other : Type} : AgreementCall Other → Option (List UInt8)
  | .certificates call => call.fileBytes?
  | .elsewhere _ => none

/-- The row is of the file, at the path. -/
structure Certificate.IsOfFile (certificate : Certificate) (runtime : Runtime) (path : String)
    (bytes : List UInt8) : Prop where
  filePath : certificate.filePath = path
  sha256Hash : certificate.sha256Hash = generateHashFromFile runtime bytes
  fileSizeBytes : certificate.fileSizeBytes = bytes.length

/-- The row is the pending STORE_HASH row of a certificate. -/
structure BlockchainTransaction.IsStoreOf (storeTx : BlockchainTransaction)
    (certificateId : Uuid) : Prop where
  certificateId : storeTx.certificateId = some certificateId
  txType : storeTx.txType = .STORE_HASH
  status : storeTx.status = .PENDING

/-- A file that an upload has written, and the UUID that it has drawn for it. -/
structure SavedFile where
  certId : Uuid
  path : String

/-- How far an upload has come. -/
inductive FilePhase where
  /-- No clock and no random source is read. -/
  | opening
  | dated
  /-- The UUID of the certificate is drawn. -/
  | named (certId : Uuid)
  | saved (file : SavedFile)
  /-- The certificate is inserted. -/
  | inserted (file : SavedFile) (row : Certificate)
  /-- The certificate is loaded again, and has an id. -/
  | loaded (file : SavedFile) (row : Certificate) (loadedId : Uuid)
  /-- The STORE_HASH row is inserted too. -/
  | recorded (file : SavedFile) (row : Certificate) (storeTx : BlockchainTransaction)
  /-- The rows are committed. -/
  | issued (file : SavedFile) (row : Certificate) (storeTx : BlockchainTransaction)
  /-- One of the rows is refused. -/
  | refused (file : SavedFile)
  /-- The call is no upload. -/
  | other

/-- The operation reads, or opens or rolls back a transaction, and reads neither a clock nor a
random source. -/
def Op.isPlain : {Reply : Type} → Op Reply → Bool
  | _, .select _ _ | _, .selectText _ _ | _, .count _ _ | _, .begin | _, .rollback => true
  | _, _ => false

namespace FilePhase

/-- The file that is written. -/
def file? : FilePhase → Option SavedFile
  | .saved file | .inserted file _ | .loaded file _ _ | .recorded file _ _ | .issued file _ _
  | .refused file => some file
  | .opening | .dated | .named _ | .other => none

/-- What an operation and its reply make of a phase. -/
def next : FilePhase → {Reply : Type} → Op Reply → Reply → FilePhase
  | .opening, _, .today, _ => .dated
  | .dated, _, .uuid4, certId => .named certId
  | .named certId, _, .writeFile path _, _ => .saved ⟨certId, path⟩
  | .saved file, _, .insert .certificates row, .ok _ => .inserted file row
  | .saved file, _, .insert .certificates _, .error _ => .refused file
  | .inserted file row, _, .refresh .certificates _, reply =>
      .loaded file row (Option.getD reply row).id
  | .loaded file row _, _, .insert .blockchainTransactions storeTx, .ok _ =>
      .recorded file row storeTx
  | .loaded file _ _, _, .insert .blockchainTransactions _, .error _ => .refused file
  | .recorded file row storeTx, _, .commit, _ => .issued file row storeTx
  | phase, _, _, _ => phase

/-- What a call may do in a phase: an upload writes its file under the UUID that it has drawn, and
then inserts the row of that file and the STORE_HASH row of it. -/
def permits (runtime : Runtime) (fileBytes? : Option (List UInt8)) :
    FilePhase → {Reply : Type} → Op Reply → Prop
  | .opening, _, .today | .dated, _, .uuid4 => True
  | .opening, _, op | .dated, _, op => op.isPlain = true
  | .named certId, _, .writeFile path bytes =>
      (∃ universityId, path = certificatePath universityId certId) ∧ fileBytes? = some bytes
  | .saved file, _, .insert .certificates row =>
      ∃ bytes, fileBytes? = some bytes ∧ row.IsOfFile runtime file.path bytes
  | .inserted _ row, _, .refresh .certificates id => id = row.id
  | .loaded _ _ _, _, .uuid4 | .loaded _ _ _, _, .serverNow => True
  | .loaded _ _ loadedId, _, .insert .blockchainTransactions storeTx => storeTx.IsStoreOf loadedId
  | .recorded _ _ _, _, .refresh .blockchainTransactions _ | .recorded _ _ _, _, .commit => True
  | .refused _, _, .rollback => True
  | .other, _, op => op.addsNoCertificate
  | _, _, _ => False

/-- How an upload may end: it returns once the rows are committed, and raises before the file is
written or when a row is refused. -/
def Ends {Value : Type} : FilePhase → Except Exception Value → Prop
  | .opening, .error _ | .dated, .error _ | .refused _, .error _ | .issued _ _ _, .ok _ => True
  | .other, _ => True
  | _, _ => False

end FilePhase

/-- The phases of a call that uploads a file, or none. -/
def fileProtocol (runtime : Runtime) (fileBytes? : Option (List UInt8)) : Protocol Op FilePhase :=
  ⟨FilePhase.permits runtime fileBytes?, FilePhase.next⟩

/-- The phase in which a call starts. -/
def AgreementCall.filePhase {Other : Type} (call : AgreementCall Other) : FilePhase :=
  if call.fileBytes?.isSome then .opening else .other

/-- What calls do to the files and rows of certificates. -/
def fileOutline (runtime : Runtime) (Other : Type) :
    System.Outline Op Exception (Option CertificateAnswer) (AgreementCall Other) FilePhase where
  protocol call := fileProtocol runtime call.fileBytes?
  ends _ := FilePhase.Ends
  initial := AgreementCall.filePhase

section outlines

variable {Value : Type} {runtime : Runtime} {fileBytes? : Option (List UInt8)}

/-- An upload has not drawn the UUID yet. -/
def FilePhase.Early (phase : FilePhase) : Prop := phase = .opening ∨ phase = .dated

/-- Before the UUID is drawn an upload may read. -/
theorem FilePhase.Early.permits {phase : FilePhase} (early : phase.Early) {Reply : Type}
    {op : Op Reply} (isPlain : op.isPlain = true) : phase.permits runtime fileBytes? op := by
  rcases early with rfl | rfl <;> cases op <;> first | exact isPlain | trivial

/-- Reading leaves an upload where it is. -/
theorem FilePhase.Early.next {phase : FilePhase} (early : phase.Early) {Reply : Type}
    {op : Op Reply} (isPlain : op.isPlain = true) (reply : Reply) :
    phase.next op reply = phase := by
  rcases early with rfl | rfl <;> cases op <;> first | rfl | cases isPlain

/-- A program of plain operations leaves an upload where it is. -/
theorem files_of_plain {phase : FilePhase} (early : phase.Early) {program : Action Value}
    {ends : FilePhase → Except Exception Value → Prop}
    (every : program.Every fun _ op => op.isPlain = true)
    (everyEnd : ∀ result, ends phase result) :
    program.Obeys (fileProtocol runtime fileBytes?) ends phase :=
  Program.obeys_of_every (fun _ _ isPlain => early.permits isPlain)
    (fun _ _ reply isPlain => early.next isPlain reply) everyEnd every

/-- A program that adds no certificate, of a call that is no upload. -/
theorem files_of_addsNone {program : Action Value} (adds : AddsNoCertificate program) :
    program.Obeys (fileProtocol runtime fileBytes?) FilePhase.Ends .other := by
  refine Program.obeys_of_every (fun Reply op adds => ?_) (fun _ op _ _ => ?_) (fun _ => trivial)
    adds
  · cases op <;> exact adds
  · cases op <;> rfl

/-- A query only reads. -/
theorem plain_findOne (table : Table) (condition : Row table → Bool) :
    (BaseRepository.findOne table condition).Every fun _ op => op.isPlain = true :=
  Program.every_bind ((Program.every_perform _).mpr rfl) fun _ => Program.every_pure _

/-- The number of the next UID is only read. -/
theorem plain_getNextUidSequence (universityShortCode : String) (year : Int) :
    (CertificateRepository.getNextUidSequence universityShortCode year).Every
      fun _ op => op.isPlain = true := by
  refine Program.every_bind ((Program.every_perform _).mpr rfl) fun maxUid => ?_
  cases maxUid with
  | none => exact Program.every_pure _
  | some uid =>
      dsimp only
      cases CertificateRepository.parseInt? (CertificateRepository.afterLastDash uid) with
      | none => exact Program.every_raise _
      | some sequence => exact Program.every_pure _

namespace CertificateIssuanceService

/-- How the block of an upload ends. -/
abbrev BlockEnds (runtime : Runtime) (fileBytes : List UInt8) :
    FilePhase → Except Exception CertificateDraft → Prop :=
  blockEnds (fileProtocol runtime (some fileBytes)) FilePhase.Ends

/-- A block may be left with an error before the UUID is drawn. -/
theorem blockEnds_of_early {fileBytes : List UInt8} {phase : FilePhase} (early : phase.Early)
    (error : Exception) : BlockEnds runtime fileBytes phase (.error error) := by
  rcases early with rfl | rfl <;> exact ⟨rfl, trivial⟩

/-- The rows of an upload, once its file is written. -/
theorem files_rows {fileBytes : List UInt8} {file : SavedFile} {row : Certificate}
    (ofFile : row.IsOfFile runtime file.path fileBytes)
    {storeTx : Certificate → Uuid → Timestamp → BlockchainTransaction}
    (isStore : ∀ certificate txId submittedAt,
      (storeTx certificate txId submittedAt).IsStoreOf certificate.id)
    (draft : Certificate → CertificateDraft) :
    (do
      let certificate ← CertificateRepository.create row
      let txId ← Program.perform .uuid4
      let submittedAt ← Program.perform .serverNow
      let _ ← BlockchainTransactionRepository.create (storeTx certificate txId submittedAt)
      return draft certificate : Action CertificateDraft).Obeys
        (fileProtocol runtime (some fileBytes)) (BlockEnds runtime fileBytes) (.saved file) := by
  rw [Program.obeys_bind, CertificateRepository.create]
  refine BaseRepository.obeys_create ⟨fileBytes, rfl, ofFile⟩ (fun _ => ⟨trivial, trivial⟩) rfl
    fun reply => ?_
  rw [Program.thenObeys, Program.obeys_bind, Program.obeys_perform]
  refine ⟨trivial, fun txId => ?_⟩
  rw [Program.thenObeys, Program.obeys_bind, Program.obeys_perform]
  refine ⟨trivial, fun submittedAt => ?_⟩
  rw [Program.thenObeys, Program.obeys_bind, BlockchainTransactionRepository.create]
  exact BaseRepository.obeys_create (isStore _ _ _) (fun _ => ⟨trivial, trivial⟩) trivial
    fun _ => ⟨trivial, trivial⟩

/-- Steps 3 to 8 of an upload. -/
theorem files_createRecords (fileBytes : List UInt8) (fileOriginalName : String)
    (metadata : IssueMetadata) (currentUser studentUser : User) (university : University)
    (walletAddress : String) :
    (createRecords runtime fileBytes fileOriginalName metadata currentUser studentUser university
      walletAddress).Obeys (fileProtocol runtime (some fileBytes)) (BlockEnds runtime fileBytes)
      .opening := by
  unfold createRecords
  rw [Program.obeys_bind, Program.obeys_perform]
  refine ⟨trivial, fun day => ?_⟩
  change Program.Obeys _ _ (CertificateRepository.getNextUidSequence _ _ >>= _) FilePhase.dated
  rw [Program.obeys_bind]
  refine files_of_plain (.inr rfl) (plain_getNextUidSequence _ _) fun result => ?_
  cases result with
  | error error => exact blockEnds_of_early (.inr rfl) error
  | ok sequence =>
      rw [Program.thenObeys, Program.obeys_bind, CertificateRepository.getByHash]
      refine files_of_plain (.inr rfl) (plain_findOne _ _) fun result => ?_
      cases result with
      | error error => exact blockEnds_of_early (.inr rfl) error
      | ok duplicate =>
          rw [Program.thenObeys]
          cases duplicate with
          | some _ => exact blockEnds_of_early (.inr rfl) _
          | none =>
              dsimp only
              rw [Program.obeys_bind, Program.obeys_perform]
              refine ⟨trivial, fun certId => ?_⟩
              change Program.Obeys _ _ (saveCertificate _ _ _ >>= _) (FilePhase.named certId)
              rw [Program.obeys_bind, saveCertificate_eq, Program.obeys_bind, Program.obeys_perform]
              refine ⟨⟨⟨_, rfl⟩, rfl⟩, fun _ => ?_⟩
              change Program.Obeys _ _ (CertificateRepository.create _ >>= _)
                (FilePhase.saved ⟨certId, certificatePath university.id certId⟩)
              refine files_rows ?_ (fun _ _ _ => ?_) _
              · exact ⟨rfl, rfl, rfl⟩
              · exact ⟨rfl, rfl, rfl⟩

/-- The block of an upload. -/
theorem files_uploadBlock (fileBytes : List UInt8) (fileOriginalName : String)
    (metadata : IssueMetadata) (currentUser : User) :
    (uploadBlock runtime fileBytes fileOriginalName metadata currentUser).Obeys
      (fileProtocol runtime (some fileBytes)) (BlockEnds runtime fileBytes) .opening := by
  have stops := @blockEnds_of_early runtime fileBytes .opening (.inl rfl)
  unfold uploadBlock universityOf
  rw [Program.obeys_bind]
  refine files_of_plain (.inl rfl) (plain_findOne _ _) fun result => ?_
  cases result with
  | error error => exact stops error
  | ok university =>
      rw [Program.thenObeys]
      cases university with
      | none => exact stops _
      | some university =>
          dsimp only
          split
          · exact stops _
          cases walletOf university with
          | none => exact stops _
          | some walletAddress =>
              dsimp only
              rw [Program.obeys_bind, UserRepository.getByEmail]
              refine files_of_plain (.inl rfl) (plain_findOne _ _) fun result => ?_
              cases result with
              | error error => exact stops error
              | ok studentUser =>
                  rw [Program.thenObeys]
                  cases studentUser with
                  | none => exact stops _
                  | some studentUser =>
                      dsimp only
                      rw [Program.obeys_bind, StudentRepository.getByUserId]
                      refine files_of_plain (.inl rfl) (plain_findOne _ _) fun result => ?_
                      cases result with
                      | error error => exact stops error
                      | ok student =>
                          rw [Program.thenObeys]
                          cases student with
                          | none => exact stops _
                          | some _ =>
                              exact files_createRecords fileBytes fileOriginalName metadata
                                currentUser studentUser university walletAddress

end CertificateIssuanceService

/-- The phases do not look at what is returned. -/
theorem files_map {Result : Type} {program : Action Value} {wrap : Value → Result}
    {phase : FilePhase}
    (obeys : program.Obeys (fileProtocol runtime fileBytes?) FilePhase.Ends phase) :
    (wrap <$> program).Obeys (fileProtocol runtime fileBytes?) FilePhase.Ends phase := by
  rw [← bind_pure_comp, Program.obeys_bind]
  refine obeys.mono fun last result ends => ?_
  cases result with
  | error error =>
      rw [Program.thenObeys]
      cases last <;> exact ends
  | ok value => cases last <;> exact ends

/-- The calls about certificates follow the phases. -/
theorem files_certificateCall (call : CertificateCall) :
    (call.action runtime).Obeys (fileProtocol runtime call.fileBytes?) FilePhase.Ends
      (if call.fileBytes?.isSome then .opening else .other) := by
  cases call with
  | upload fileBytes fileOriginalName metadata user =>
      exact files_map (obeys_transaction rfl (fun _ => trivial)
        (CertificateIssuanceService.files_uploadBlock fileBytes fileOriginalName metadata user))
  | confirmStorage certId txHash user =>
      exact files_map (files_of_addsNone
        (CertificateIssuanceService.addsNone_confirmBlockchainStorage runtime certId txHash user))
  | initiateRevocation certId reason user blockchainService =>
      refine files_map (files_of_addsNone ?_)
      exact Program.every_bind (addsNone_transaction
        (CertificateRevocationService.addsNone_initiateBlock runtime certId reason user
          blockchainService)) fun _ => Program.every_pure _
  | confirmRevocation certId txHash user =>
      exact files_map (files_of_addsNone (addsNone_transaction
        (CertificateRevocationService.addsNone_confirmBlock runtime certId txHash user)))

end outlines

/-- Every call follows the phases. -/
theorem files_agreementCall (runtime : Runtime) {Other : Type} (others : Other → SparingCall)
    (call : AgreementCall Other) :
    (call.action runtime fun other => (others other).toElsewhereCall).Obeys
      (fileProtocol runtime call.fileBytes?) FilePhase.Ends call.filePhase := by
  cases call with
  | certificates call => exact files_map (files_certificateCall call)
  | elsewhere call => exact files_map (files_of_addsNone (others call).sparing)

end AcademicCredential
