import AcademicCredential.Database.Runs
import AcademicCredential.Lib.Neighbours
import AcademicCredential.Services.FilePhases

/-!
# Stored files

Certificates and their files, for uploads beside confirmations, revocations and other calls. An
upload writes the file before it inserts the row, and no transaction covers the folder: the file of
a row could be overwritten, or its row name another file. The path is made of a UUID that the upload
draws. `files_of_certificates`: as long as no two uploads draw the same one, every committed
certificate has its file, with the bytes that its hash is of.
-/

namespace AcademicCredential

open AcademicCredential.Lib
open AcademicCredential.Contract

section session

variable {runtime : Runtime} {fileBytes? : Option (List UInt8)}
variable {Reply : Type} {op : Op Reply} {store : Store} {session : Session}

/-- What a session reads is given, and plain operations do not read it. -/
theorem sessionHandler_reads (op : Op Reply) (store : Store) (session : Session) :
    (sessionHandler Reply op (store, session)).2.2.inputs = session.inputs ∧
      (op.isPlain = true →
        (sessionHandler Reply op (store, session)).2.2.reads = session.reads) := by
  have updated : ∀ {table : Table} (id : Uuid) (assignments : List (Assignment table)) row,
      (session.updateRow store table id assignments row).2.inputs = session.inputs := by
    intro table id assignments row
    unfold Session.updateRow
    split <;> rfl
  cases op with
  | flush table id assignments =>
      simp only [sessionHandler]
      split
      · split
        · exact ⟨rfl, fun isPlain => by cases isPlain⟩
        · exact ⟨updated id _ _, fun isPlain => by cases isPlain⟩
      · exact ⟨rfl, fun isPlain => by cases isPlain⟩
  | executeUpdate table id assignments =>
      simp only [sessionHandler]
      split
      · exact ⟨updated id assignments _, fun isPlain => by cases isPlain⟩
      · exact ⟨rfl, fun isPlain => by cases isPlain⟩
  | insert table row =>
      simp only [sessionHandler]
      split <;> exact ⟨rfl, fun isPlain => by cases isPlain⟩
  | begin =>
      simp only [sessionHandler]
      split <;> exact ⟨rfl, fun _ => rfl⟩
  | select | selectText | count | rollback => exact ⟨rfl, fun _ => rfl⟩
  | _ => exact ⟨rfl, fun isPlain => by cases isPlain⟩

/-- Plain operations write nothing. -/
theorem sessionHandler_plain (store : Store) (isPlain : op.isPlain = true)
    (unwritten : session.pending = []) :
    (sessionHandler Reply op (store, session)).2.2.pending = [] ∧
      (sessionHandler Reply op (store, session)).2.2.committed = session.committed := by
  cases op with
  | select | selectText | count => exact ⟨unwritten, rfl⟩
  | rollback => exact ⟨rfl, rfl⟩
  | begin =>
      simp only [sessionHandler]
      split <;> exact ⟨unwritten, rfl⟩
  | _ => cases isPlain

/-- The operation writes the file at the path. -/
def Op.writes (path : String) : {Reply : Type} → Op Reply → Prop
  | _, .writeFile written _ => written = path
  | _, _ => False

/-- Files that are not written stay as they are. -/
theorem sessionHandler_fileAt {path : String} (spared : ¬ op.writes path) (store : Store)
    (session : Session) :
    fileAt (sessionHandler Reply op (store, session)).2.1.files path = fileAt store.files path := by
  cases op with
  | writeFile written bytes => exact (fileAt_write _ _ _ _).trans (if_neg spared)
  | flush table id assignments =>
      simp only [sessionHandler]
      split
      · split <;> rfl
      · rfl
  | executeUpdate table id assignments | insert table row =>
      simp only [sessionHandler]
      split <;> rfl
  | begin =>
      simp only [sessionHandler]
      split <;> rfl
  | _ => rfl

/-- A certificate is pending after an operation if it was so before, or if it is inserted. -/
theorem pending_sparing (sparing : op.addsNoCertificate) {row : Certificate}
    (member : .insert .certificates row ∈
      (sessionHandler Reply op (store, session)).2.2.pending) :
    .insert .certificates row ∈ session.pending := by
  rcases mem_pending_insert member with before | asked
  · exact before
  · exact absurd sparing (@Session.statement?_insert _ _ _ _ _ _
      (fun _ op => ¬ op.addsNoCertificate) asked id)

end session

/-- The file lies under the UUID that the upload has drawn, with the bytes that it uploads. -/
structure SavedFile.There (file : SavedFile) (fileBytes? : Option (List UInt8)) (store : Store)
    (session : Session) : Prop where
  drawn : file.certId = session.inputs.uuid4 1
  isPath : ∃ universityId, file.path = certificatePath universityId file.certId
  bytes : ∃ bytes, fileBytes? = some bytes ∧ fileAt store.files file.path = some bytes

/-- The row is of the file that the upload has written. -/
def Certificate.IsOfUpload (row : Certificate) (runtime : Runtime)
    (fileBytes? : Option (List UInt8)) (file : SavedFile) : Prop :=
  ∃ bytes, fileBytes? = some bytes ∧ row.IsOfFile runtime file.path bytes

namespace FilePhase

/-- What an upload has read of the clocks and the random sources. -/
def Drawn (fileBytes? : Option (List UInt8)) (session : Session) : FilePhase → Prop
  | .opening => session.reads = 0
  | .dated => session.reads = 1
  | .named certId => certId = session.inputs.uuid4 1
  | .other => fileBytes? = none
  | _ => True

/-- What an upload has written to the database, and what of it is committed. -/
def Wrote (runtime : Runtime) (fileBytes? : Option (List UInt8)) (session : Session) :
    FilePhase → Prop
  | .opening | .dated | .named _ | .saved _ => session.pending = [] ∧ session.committed = []
  | .inserted file row => row.IsOfUpload runtime fileBytes? file ∧
      session.pending = [.insert .certificates row] ∧ session.committed = []
  | .loaded file row loadedId => row.IsOfUpload runtime fileBytes? file ∧ loadedId = row.id ∧
      session.pending = [.insert .certificates row] ∧ session.committed = []
  | .recorded file row storeTx => row.IsOfUpload runtime fileBytes? file ∧
      storeTx.IsStoreOf row.id ∧
      session.pending = [.insert .certificates row, .insert .blockchainTransactions storeTx] ∧
      session.committed = []
  | .issued file row storeTx => row.IsOfUpload runtime fileBytes? file ∧
      storeTx.IsStoreOf row.id ∧ session.pending = [] ∧
      session.committed = [.insert .certificates row, .insert .blockchainTransactions storeTx]
  | .refused file => (∀ row, .insert .certificates row ∈ session.pending →
      row.IsOfUpload runtime fileBytes? file) ∧ session.committed = []
  | .other => ∀ row, .insert .certificates row ∉ session.pending

/-- What a phase says of the session and the folder. -/
structure Holds (runtime : Runtime) (fileBytes? : Option (List UInt8)) (store : Store)
    (session : Session) (phase : FilePhase) : Prop where
  drawn : phase.Drawn fileBytes? session
  there : ∀ file, phase.file? = some file → file.There fileBytes? store session
  wrote : phase.Wrote runtime fileBytes? session

/-- The row is of the file of an upload in the phase. -/
def IsOf (runtime : Runtime) (fileBytes? : Option (List UInt8)) (row : Certificate)
    (phase : FilePhase) : Prop :=
  ∃ file, phase.file? = some file ∧ row.IsOfUpload runtime fileBytes? file

end FilePhase

/-- A file stays where it is when its bytes do. -/
theorem SavedFile.There.congr {file : SavedFile} {fileBytes? : Option (List UInt8)}
    {store later : Store} {session after : Session} (there : file.There fileBytes? store session)
    (inputs : after.inputs = session.inputs)
    (spared : fileAt later.files file.path = fileAt store.files file.path) :
    file.There fileBytes? later after := by
  obtain ⟨bytes, isFile, found⟩ := there.bytes
  exact ⟨inputs ▸ there.drawn, there.isPath, bytes, isFile, spared.trans found⟩

/-- A file that is written stays the file of the upload. -/
theorem FilePhase.file?_next {phase : FilePhase} {file : SavedFile}
    (isFile : phase.file? = some file) {Reply : Type} (op : Op Reply) (reply : Reply) :
    (phase.next op reply).file? = some file := by
  cases phase with
  | opening | dated | named | other => cases isFile
  | saved =>
      cases op with
      | insert table row => cases table <;> cases reply <;> exact isFile
      | _ => exact isFile
  | inserted =>
      cases op with
      | refresh table id => cases table <;> exact isFile
      | _ => exact isFile
  | loaded =>
      cases op with
      | insert table row => cases table <;> cases reply <;> exact isFile
      | _ => exact isFile
  | recorded | issued | refused => cases op <;> exact isFile

namespace FilePhase.Holds

variable {runtime : Runtime} {fileBytes? : Option (List UInt8)} {store : Store}
  {session : Session} {phase : FilePhase} {Reply : Type} {op : Op Reply}

/-- Operations that do not write the file of the upload leave it where it is. -/
theorem spare (holds : phase.Holds runtime fileBytes? store session) {later : Store}
    (spared : ∀ file, phase.file? = some file →
      fileAt later.files file.path = fileAt store.files file.path) :
    phase.Holds runtime fileBytes? later session :=
  ⟨holds.drawn, fun file isFile => (holds.there file isFile).congr rfl (spared file isFile),
    holds.wrote⟩

/-- An upload writes its file once. -/
theorem not_writes (permitted : phase.permits runtime fileBytes? op) {file : SavedFile}
    (isFile : phase.file? = some file) (path : String) : ¬ op.writes path := by
  cases op with
  | writeFile written bytes => cases phase <;> first | exact permitted.elim | cases isFile
  | _ => exact id

/-- The pending certificates are of the file. -/
theorem pending (holds : phase.Holds runtime fileBytes? store session) {row : Certificate}
    (member : .insert .certificates row ∈ session.pending) : phase.IsOf runtime fileBytes? row := by
  have wrote := holds.wrote
  cases phase with
  | opening | dated | named | saved => exact absurd (wrote.1 ▸ member) List.not_mem_nil
  | inserted file inserted =>
      obtain ⟨isOf, pending, -⟩ := wrote
      rw [pending, List.mem_singleton] at member
      cases member
      exact ⟨file, rfl, isOf⟩
  | loaded file inserted loadedId =>
      obtain ⟨isOf, -, pending, -⟩ := wrote
      rw [pending, List.mem_singleton] at member
      cases member
      exact ⟨file, rfl, isOf⟩
  | recorded file inserted storeTx =>
      obtain ⟨isOf, -, pending, -⟩ := wrote
      rw [pending] at member
      rcases List.mem_cons.mp member with same | other
      · cases same
        exact ⟨file, rfl, isOf⟩
      · cases List.mem_singleton.mp other
  | issued file inserted storeTx =>
      obtain ⟨-, -, pending, -⟩ := wrote
      exact absurd (pending ▸ member) List.not_mem_nil
  | refused file => exact ⟨file, rfl, wrote.1 row member⟩
  | other => exact absurd member (wrote row)

/-- An operation that the phase permits keeps what an upload has read. -/
theorem drawn_perform (holds : phase.Holds runtime fileBytes? store session)
    (permitted : phase.permits runtime fileBytes? op) :
    (phase.next op (sessionHandler Reply op (store, session)).1).Drawn fileBytes?
      (sessionHandler Reply op (store, session)).2.2 := by
  have drawn := holds.drawn
  obtain ⟨sameInputs, sameReads⟩ := sessionHandler_reads op store session
  cases phase with
  | opening =>
      by_cases isPlain : op.isPlain = true
      · rw [FilePhase.Early.next (.inl rfl) isPlain]
        exact (sameReads isPlain).trans drawn
      · cases op with
        | today => exact congrArg (· + 1) drawn
        | _ => exact absurd permitted isPlain
  | dated =>
      by_cases isPlain : op.isPlain = true
      · rw [FilePhase.Early.next (.inr rfl) isPlain]
        exact (sameReads isPlain).trans drawn
      · cases op with
        | uuid4 => exact congrArg session.inputs.uuid4 drawn
        | _ => exact absurd permitted isPlain
  | named certId =>
      cases op with
      | writeFile path bytes => trivial
      | _ => exact permitted.elim
  | other => exact drawn
  | saved file =>
      cases op with
      | insert table row =>
          cases table with
          | certificates =>
              generalize (sessionHandler _ (Op.insert .certificates row) (store, session)).1 = reply
              cases reply <;> trivial
          | _ => exact permitted.elim
      | _ => exact permitted.elim
  | inserted file row =>
      cases op with
      | refresh table id => cases table <;> trivial
      | _ => exact permitted.elim
  | loaded file row loadedId =>
      cases op with
      | insert table storeTx =>
          cases table with
          | blockchainTransactions =>
              generalize (sessionHandler _ (Op.insert .blockchainTransactions storeTx)
                (store, session)).1 = reply
              cases reply <;> trivial
          | _ => exact permitted.elim
      | uuid4 | serverNow => trivial
      | _ => exact permitted.elim
  | recorded | issued | refused => cases op <;> trivial

/-- An operation that the phase permits leaves the file of the upload in its place. -/
theorem there_perform (holds : phase.Holds runtime fileBytes? store session)
    (permitted : phase.permits runtime fileBytes? op) :
    ∀ file, (phase.next op (sessionHandler Reply op (store, session)).1).file? = some file →
      file.There fileBytes? (sessionHandler Reply op (store, session)).2.1
        (sessionHandler Reply op (store, session)).2.2 := by
  intro file isFile
  have sameInputs := (sessionHandler_reads op store session).1
  cases before : phase.file? with
  | some saved =>
      obtain rfl : saved = file :=
        Option.some.inj ((FilePhase.file?_next before op _).symm.trans isFile)
      exact (holds.there saved before).congr sameInputs
        (sessionHandler_fileAt (not_writes permitted before _) _ _)
  | none =>
      cases phase with
      | named certId =>
          cases op with
          | writeFile path bytes =>
              cases isFile
              obtain ⟨isPath, isUploaded⟩ := permitted
              exact ⟨holds.drawn, isPath, bytes, isUploaded,
                (fileAt_write _ _ _ _).trans (if_pos rfl)⟩
          | _ => exact permitted.elim
      | opening => cases op <;> cases isFile
      | dated => cases op <;> cases isFile
      | other => cases op <;> cases isFile
      | _ => cases before

/-- An operation that the phase permits writes what the phase after it says. -/
theorem wrote_perform (holds : phase.Holds runtime fileBytes? store session)
    (permitted : phase.permits runtime fileBytes? op) :
    (phase.next op (sessionHandler Reply op (store, session)).1).Wrote runtime fileBytes?
      (sessionHandler Reply op (store, session)).2.2 := by
  have wrote := holds.wrote
  cases phase with
  | opening =>
      by_cases isPlain : op.isPlain = true
      · rw [FilePhase.Early.next (.inl rfl) isPlain]
        obtain ⟨pending, committed⟩ := sessionHandler_plain store isPlain wrote.1
        exact ⟨pending, committed.trans wrote.2⟩
      · cases op with
        | today => exact wrote
        | _ => exact absurd permitted isPlain
  | dated =>
      by_cases isPlain : op.isPlain = true
      · rw [FilePhase.Early.next (.inr rfl) isPlain]
        obtain ⟨pending, committed⟩ := sessionHandler_plain store isPlain wrote.1
        exact ⟨pending, committed.trans wrote.2⟩
      · cases op with
        | uuid4 => exact wrote
        | _ => exact absurd permitted isPlain
  | named certId =>
      cases op with
      | writeFile path bytes => exact wrote
      | _ => exact permitted.elim
  | saved file =>
      cases op with
      | insert table row =>
          cases table with
          | certificates =>
              simp only [sessionHandler]
              split
              · refine ⟨fun other member => ?_, wrote.2⟩
                exact absurd (wrote.1 ▸ member) List.not_mem_nil
              · have inserted : session.pending ++ [.insert .certificates row] =
                    [.insert .certificates row] := by rw [wrote.1]; rfl
                exact ⟨permitted, inserted, wrote.2⟩
          | _ => exact permitted.elim
      | _ => exact permitted.elim
  | inserted file row =>
      cases op with
      | refresh table id =>
          cases table with
          | certificates =>
              obtain rfl : id = row.id := permitted
              refine ⟨wrote.1, ?_, wrote.2⟩
              change (Option.getD ((visible store session).find? .certificates row.id) row).id = _
              cases found : (visible store session).find? .certificates row.id with
              | none => rfl
              | some loaded => exact (Database.find?_some found).2
          | _ => exact permitted.elim
      | _ => exact permitted.elim
  | loaded file row loadedId =>
      obtain ⟨isOf, rfl, pending, committed⟩ := wrote
      cases op with
      | insert table storeTx =>
          cases table with
          | blockchainTransactions =>
              simp only [sessionHandler]
              split
              · refine ⟨fun other member => ?_, committed⟩
                exact (FilePhase.Holds.pending holds member).elim fun same is => by
                  obtain rfl := Option.some.inj is.1
                  exact is.2
              · have inserted : session.pending ++ [.insert .blockchainTransactions storeTx] =
                    [.insert .certificates row, .insert .blockchainTransactions storeTx] := by
                  rw [pending]; rfl
                exact ⟨isOf, permitted, inserted, committed⟩
          | _ => exact permitted.elim
      | uuid4 | serverNow => exact ⟨isOf, rfl, pending, committed⟩
      | _ => exact permitted.elim
  | recorded file row storeTx =>
      obtain ⟨isOf, isStore, pending, committed⟩ := wrote
      cases op with
      | commit =>
          refine ⟨isOf, isStore, rfl, ?_⟩
          change session.committed ++ session.pending = _
          rw [committed, pending]
          rfl
      | refresh table id =>
          cases table with
          | blockchainTransactions => exact ⟨isOf, isStore, pending, committed⟩
          | _ => exact permitted.elim
      | _ => exact permitted.elim
  | issued file row storeTx => cases op <;> exact permitted.elim
  | refused file =>
      cases op with
      | rollback => exact ⟨fun row member => absurd member List.not_mem_nil, wrote.2⟩
      | _ => exact permitted.elim
  | other => exact fun row member => wrote row (pending_sparing permitted member)

/-- An operation that the phase permits leads to the next phase. -/
theorem perform (holds : phase.Holds runtime fileBytes? store session)
    (permitted : phase.permits runtime fileBytes? op) :
    (phase.next op (sessionHandler Reply op (store, session)).1).Holds runtime fileBytes?
      (sessionHandler Reply op (store, session)).2.1
      (sessionHandler Reply op (store, session)).2.2 :=
  ⟨holds.drawn_perform permitted, holds.there_perform permitted, holds.wrote_perform permitted⟩

/-- A statement that is given up writes nothing. -/
theorem cancel (holds : phase.Holds runtime fileBytes? store session) {reply : Reply}
    (permitted : phase.permits runtime fileBytes? op) (answer : op.cancelled? = some reply) :
    (phase.next op reply).Holds runtime fileBytes? store session := by
  have refuses : ∀ {file : SavedFile}, phase.file? = some file → session.committed = [] →
      FilePhase.Holds runtime fileBytes? store session (.refused file) := by
    intro file isFile committed
    refine ⟨trivial, fun other same => ?_, fun row member => ?_, committed⟩
    · exact Option.some.inj same ▸ holds.there file isFile
    · obtain ⟨other, same, isOf⟩ := holds.pending member
      exact Option.some.inj (isFile.symm.trans same) ▸ isOf
  cases op with
  | flush | executeUpdate => cases phase <;> exact holds
  | insert table row =>
      cases answer
      cases phase with
      | saved file =>
          cases table with
          | certificates => exact refuses rfl holds.wrote.2
          | _ => exact permitted.elim
      | loaded file inserted loadedId =>
          cases table with
          | blockchainTransactions => exact refuses rfl holds.wrote.2.2.2
          | _ => exact permitted.elim
      | other => cases table <;> exact holds
      | opening | dated => cases permitted
      | _ => exact permitted.elim
  | _ => cases answer

/-- A call that writes a certificate's file is an upload that has drawn the UUID of the path. -/
theorem drawn_of_writes (holds : phase.Holds runtime fileBytes? store session)
    (permitted : phase.permits runtime fileBytes? op) {universityId certId : Uuid}
    (writes : op.writes (certificatePath universityId certId)) :
    fileBytes?.isSome ∧ uuidText (session.inputs.uuid4 1) = uuidText certId ∧
      ∀ reply, (phase.next op reply).file? =
        some ⟨session.inputs.uuid4 1, certificatePath universityId certId⟩ := by
  cases op with
  | writeFile written bytes =>
      obtain rfl : written = certificatePath universityId certId := writes
      cases phase with
      | opening | dated => cases permitted
      | named drawn =>
          obtain ⟨⟨_, isPath⟩, isFile⟩ := permitted
          obtain rfl : drawn = session.inputs.uuid4 1 := holds.drawn
          exact ⟨isFile ▸ rfl, (uuidText_of_certificatePath isPath).symm, fun _ => rfl⟩
      | other =>
          have outside : isCertificatePath (certificatePath universityId certId) = false :=
            permitted
          rw [isCertificatePath_certificatePath] at outside
          cases outside
      | _ => exact permitted.elim
  | _ => cases writes

end FilePhase.Holds

/-- The rows are of the same file. -/
structure Certificate.SameFile (old new : Certificate) : Prop where
  filePath : new.filePath = old.filePath
  sha256Hash : new.sha256Hash = old.sha256Hash
  fileSizeBytes : new.fileSizeBytes = old.fileSizeBytes

namespace Certificate.SameFile

/-- Rows of the same file, in a chain. -/
theorem trans {first middle last : Certificate} (earlier : first.SameFile middle)
    (later : middle.SameFile last) : first.SameFile last :=
  ⟨later.filePath.trans earlier.filePath, later.sha256Hash.trans earlier.sha256Hash,
    later.fileSizeBytes.trans earlier.fileSizeBytes⟩

/-- No assignment changes the file of a row. -/
theorem assignAll (row : Certificate) (assignments : List CertificateAssignment) :
    row.SameFile (@AcademicCredential.assignAll .certificates row assignments) := by
  induction assignments generalizing row with
  | nil => exact ⟨rfl, rfl, rfl⟩
  | cons first rest inductionHypothesis =>
      refine @trans _ (first.assign row) _ ?_ (inductionHypothesis (first.assign row))
      cases first <;> exact ⟨rfl, rfl, rfl⟩

end Certificate.SameFile

/-- Rows of the same file are of the file of the same upload. -/
theorem FilePhase.IsOf.congr {phase : FilePhase} {runtime : Runtime}
    {fileBytes? : Option (List UInt8)} {old new : Certificate}
    (isOf : phase.IsOf runtime fileBytes? old) (same : old.SameFile new) :
    phase.IsOf runtime fileBytes? new := by
  obtain ⟨file, isFile, bytes, isUploaded, ofFile⟩ := isOf
  exact ⟨file, isFile, bytes, isUploaded, same.filePath.trans ofFile.filePath,
    same.sha256Hash.trans ofFile.sha256Hash, same.fileSizeBytes.trans ofFile.fileSizeBytes⟩

/-- A row stays of the file of an upload. -/
theorem FilePhase.IsOf.next {phase : FilePhase} {runtime : Runtime}
    {fileBytes? : Option (List UInt8)} {row : Certificate}
    (isOf : phase.IsOf runtime fileBytes? row) {Reply : Type} (op : Op Reply) (reply : Reply) :
    (phase.next op reply).IsOf runtime fileBytes? row := by
  obtain ⟨file, isFile, isUploaded⟩ := isOf
  exact ⟨file, FilePhase.file?_next isFile op reply, isUploaded⟩

/-- A call starts in the phase of its kind. -/
theorem FilePhase.Holds.starts {Other : Type} {runtime : Runtime} (store : Store)
    (call : AgreementCall Other) (inputs : Inputs) :
    call.filePhase.Holds runtime call.fileBytes? store (.fresh inputs) := by
  rw [AgreementCall.filePhase]
  cases isUpload : call.fileBytes? with
  | none => exact ⟨rfl, fun file isFile => (by cases isFile), fun row => List.not_mem_nil⟩
  | some bytes => exact ⟨rfl, fun file isFile => (by cases isFile), rfl, rfl⟩

/-- The text of the UUID that an upload draws: it is the second value that an upload reads. -/
def AgreementCall.draws {Other : Type} (call : AgreementCall Other) (inputs : Inputs) :
    List String :=
  if call.fileBytes?.isSome then [uuidText (inputs.uuid4 1)] else []

/-- What a turn gives an upload to draw. -/
def drawnBy {Other : Type} : AgreementTurn Other → List String
  | .start call inputs => call.draws inputs
  | .operate _ | .cancel _ | .change _ => []

/-- No two uploads draw the same UUID. -/
def FreshNames {Other : Type} (run : List (AgreementTurn Other)) : Prop :=
  (run.flatMap drawnBy).Nodup

/-- What the uploads of a world draw. -/
def drawn {Other : Type} (world : AgreementWorld Other) : List (List String) :=
  System.tags (fun call session => call.draws session.inputs) world

/-- Every upload is where its phase says, and every committed certificate is of a file that an
upload has written. -/
structure Storing {Other : Type} (runtime : Runtime) (world : AgreementWorld Other)
    (phases : Nat → FilePhase) : Prop where
  tracks : (fileOutline runtime Other).Tracks world phases
  calls : ∀ (index : Nat) thread, world.threads[index]? = some thread →
    (phases index).Holds runtime thread.call.fileBytes? world.shared thread.own
  rows : ∀ row ∈ world.shared.database .certificates,
    ∃ (index : Nat) (thread : _), world.threads[index]? = some thread ∧
      (phases index).IsOf runtime thread.call.fileBytes? row

section runs

variable {Other : Type} {runtime : Runtime} {others : Other → SparingCall}

/-- The backend, with other calls that leave the folder alone. -/
abbrev sparingSystem (runtime : Runtime) (others : Other → SparingCall) :
    System Op Exception (Option CertificateAnswer) (AgreementCall Other) Inputs
      (List MinedTransaction) Store Session :=
  agreementSystem runtime fun other => (others other).toElsewhereCall

/-- The names drawn in a run are those of its calls. -/
theorem drawn_run (runtime : Runtime) (others : Other → SparingCall) (store : Store)
    (run : List (AgreementTurn Other)) :
    (drawn (stateAfter (sparingSystem runtime others).apply ⟨store, []⟩ run)).flatten =
      run.flatMap drawnBy := by
  have keeps : ∀ (call : AgreementCall Other) (Reply : Type) (op : Op Reply) store session,
      call.draws (sessionHandler Reply op (store, session)).2.2.inputs =
        call.draws session.inputs := by
    intro call Reply op store session
    rw [(sessionHandler_reads op store session).1]
  rw [drawn, System.tags_run keeps, List.flatten_eq_flatMap, List.flatMap_assoc]
  refine congrArg (List.flatMap · run) ?_
  ext1 turn
  cases turn with
  | start call inputs => exact List.append_nil (call.draws inputs)
  | _ => rfl

namespace Storing

variable {world : AgreementWorld Other} {phases : Nat → FilePhase}

/-- The committed certificates after a turn are of files that uploads have written before it. -/
theorem rows_apply (storing : Storing runtime world phases) (turn : AgreementTurn Other) :
    ∀ row ∈ ((sparingSystem runtime others).apply world turn).shared.database .certificates,
      ∃ (index : Nat) (thread : _), world.threads[index]? = some thread ∧
        (phases index).IsOf runtime thread.call.fileBytes? row := by
  intro row member
  cases @moves_apply _ _ (AgreementCall.action runtime fun other => (others other).toElsewhereCall)
    world turn with
  | quiet database | wrote _ _ _ _ _ database | rolledBack _ _ database =>
      exact storing.rows row (database ▸ member)
  | committed index _ database =>
      obtain ⟨source, same, origin⟩ := @exists_source .certificates Certificate.SameFile
        (fun _ => ⟨rfl, rfl, rfl⟩) (fun _ _ _ => .trans) .assignAll _ _ row (database ▸ member)
      rcases origin with isOld | isNew
      · obtain ⟨other, thread, found, isOf⟩ := storing.rows source isOld
        exact ⟨other, thread, found, isOf.congr same⟩
      · cases found : world.threads[index]? with
        | none =>
            rw [pendingOf, found] at isNew
            exact absurd isNew List.not_mem_nil
        | some thread =>
            rw [pendingOf_of_found found] at isNew
            exact ⟨index, thread, found,
              ((storing.calls index thread found).pending isNew).congr same⟩

/-- No other upload writes the file of an upload. -/
theorem spared (storing : Storing runtime world phases) (distinct : (drawn world).flatten.Nodup)
    {index other : Nat} (different : other ≠ index)
    {thread otherThread : Thread Op Exception (Option CertificateAnswer) (AgreementCall Other)
      Session}
    (found : world.threads[index]? = some thread)
    (foundOther : world.threads[other]? = some otherThread) {Reply : Type} {op : Op Reply}
    (permitted : (phases index).permits runtime thread.call.fileBytes? op) {file : SavedFile}
    (isSaved : (phases other).file? = some file) : ¬ op.writes file.path := by
  intro writes
  obtain ⟨isDrawn, ⟨universityId, isPath⟩, bytes, isFile, -⟩ :=
    (storing.calls other otherThread foundOther).there file isSaved
  rw [isPath] at writes
  obtain ⟨isUpload, sameText, -⟩ :=
    (storing.calls index thread found).drawn_of_writes permitted writes
  refine System.disjoint_tags distinct different foundOther found
    (a := uuidText (otherThread.own.inputs.uuid4 1)) ?_ ?_
  · rw [AgreementCall.draws, isFile, Option.isSome_some, if_pos rfl]
    exact List.mem_singleton_self _
  · rw [AgreementCall.draws, if_pos isUpload, sameText, isDrawn]
    exact List.mem_singleton_self _

/-- A turn keeps every upload where its phase says, and moves the phases as `Advance` does. -/
theorem apply (storing : Storing runtime world phases) (distinct : (drawn world).flatten.Nodup)
    (turn : AgreementTurn Other) :
    ∃ later, System.Advance (sparingSystem runtime others) (fileOutline runtime Other) world phases
        turn ((sparingSystem runtime others).apply world turn) later ∧
      Storing runtime ((sparingSystem runtime others).apply world turn) later := by
  obtain ⟨later, advance, tracks⟩ : ∃ later,
      System.Advance (sparingSystem runtime others) (fileOutline runtime Other) world phases turn
        ((sparingSystem runtime others).apply world turn) later ∧
      (fileOutline runtime Other).Tracks ((sparingSystem runtime others).apply world turn) later :=
    System.exists_advance (files_agreementCall runtime others) storing.tracks turn
  refine ⟨later, advance, tracks, ?_, fun row member => ?_⟩
  · refine advance.holds_beside
      (fun call store session phase => phase.Holds runtime call.fileBytes? store session)
      ?_ ?_ ?_ ?_ ?_ storing.calls
    · intro call inputs isTurn
      exact .starts world.shared call inputs
    · intro index thread Reply op next isTurn reaches permitted holds
      exact holds.perform permitted
    · intro index thread Reply op next isTurn reaches permitted other otherThread different found
        holds
      exact holds.spare fun file isSaved => sessionHandler_fileAt
        (storing.spared distinct different reaches.found found permitted isSaved) _ _
    · intro index thread Reply op next reply isTurn reaches answer permitted holds
      exact holds.cancel permitted answer
    · intro call own phase mined holds
      exact holds.spare fun _ _ => rfl
  · obtain ⟨index, thread, found, isOf⟩ := storing.rows_apply turn row member
    obtain ⟨isOfLater, again, foundAgain, sameCall⟩ :=
      advance.keeps found (fun _ op reply => isOf.next op reply) isOf
    exact ⟨index, again, foundAgain, by rw [sameCall]; exact isOfLater⟩

/-- The empty database needs no files. -/
theorem initial (runtime : Runtime) (deployer : Address) :
    Storing runtime (⟨initialStore deployer, []⟩ : AgreementWorld Other) fun _ => .other :=
  ⟨fun _ _ found => by simp at found, fun _ _ found => by simp at found,
    fun _ member => absurd member List.not_mem_nil⟩

/-- After every run of fresh names there are phases that the calls are in. -/
theorem exists_afterRun (runtime : Runtime) (others : Other → SparingCall) (deployer : Address)
    {run : List (AgreementTurn Other)} (fresh : FreshNames run) :
    ∃ phases, Storing runtime
      (stateAfter (sparingSystem runtime others).apply ⟨initialStore deployer, []⟩ run) phases := by
  induction run using List.reverseRecOn with
  | nil => exact ⟨_, initial runtime deployer⟩
  | append_singleton run turn inductionHypothesis =>
      rw [FreshNames, List.flatMap_append] at fresh
      obtain ⟨phases, storing⟩ := inductionHypothesis (List.nodup_append.mp fresh).1
      rw [stateAfter_snoc]
      obtain ⟨later, -, stores⟩ :=
        storing.apply (by rw [drawn_run]; exact (List.nodup_append.mp fresh).1) turn
      exact ⟨later, stores⟩

end Storing

/-- The file of the certificate is there, with bytes that have its hash and its size. -/
def Certificate.HasFile (certificate : Certificate) (runtime : Runtime)
    (files : List (String × List UInt8)) : Prop :=
  ∃ bytes, fileAt files certificate.filePath = some bytes ∧
    certificate.sha256Hash = generateHashFromFile runtime bytes ∧
    certificate.fileSizeBytes = bytes.length

/-- Every committed certificate has its file. -/
def CertificatesHaveFiles (runtime : Runtime) (world : AgreementWorld Other) : Prop :=
  ∀ row ∈ world.shared.database .certificates,
    Certificate.HasFile row runtime world.shared.files

/-- In every phase the certificates have their files. -/
theorem Storing.haveFiles {world : AgreementWorld Other} {phases : Nat → FilePhase}
    (storing : Storing runtime world phases) : CertificatesHaveFiles runtime world := by
  intro row member
  obtain ⟨index, thread, found, file, isFile, bytes, isUploaded, ofFile⟩ := storing.rows row member
  obtain ⟨stored, isStored, there⟩ := ((storing.calls index thread found).there file isFile).bytes
  obtain rfl : bytes = stored := Option.some.inj (isUploaded.symm.trans isStored)
  exact ⟨bytes, ofFile.filePath ▸ there, ofFile.sha256Hash, ofFile.fileSizeBytes⟩

/-- In every run in which no two uploads draw the same UUID, whatever the order of the statements,
every committed certificate has its file. -/
theorem files_of_certificates (runtime : Runtime) (others : Other → SparingCall)
    (deployer : Address) {run : List (AgreementTurn Other)} (fresh : FreshNames run) :
    CertificatesHaveFiles runtime
      (stateAfter (sparingSystem runtime others).apply ⟨initialStore deployer, []⟩ run) := by
  obtain ⟨phases, storing⟩ := Storing.exists_afterRun runtime others deployer fresh
  exact storing.haveFiles

end runs

namespace Sample

/-- The accounts of the samples are created. -/
def enrollment : Action Unit :=
  AcademicCredential.transaction do
    attempt (.insert .universities university)
    attempt (.insert .users administrator)
    attempt (.insert .users graduate)
    attempt (.insert .students { id := 5, userId := 4 })

/-- An enrolment, which writes no file. -/
def enrollmentCall : SparingCall where
  action := enrollment
  elsewhere := every_transaction
    (Program.every_bind (every_attempt (by simp [Op.written?])) fun _ =>
      Program.every_bind (every_attempt (by simp [Op.written?])) fun _ =>
        Program.every_bind (every_attempt (by simp [Op.written?])) fun _ =>
          every_attempt (by simp [Op.written?]))
    (by simp [Op.written?]) (by simp [Op.written?]) (by simp [Op.written?])
  sparing := addsNone_transaction
    (Program.every_bind (every_attempt trivial) fun _ =>
      Program.every_bind (every_attempt trivial) fun _ =>
        Program.every_bind (every_attempt trivial) fun _ => every_attempt trivial)

/-- An upload of the sample file. -/
def uploadOfFile : AgreementCall Unit :=
  .certificates (.upload file "degree.pdf"
    { recipientEmail := "graduate@uni.example"
      degreeTitle := "BSc"
      fieldOfStudy := "Mathematics"
      issueDate := 19000
      expiryDate := none
      gradeClassification := none
      honors := none } administrator)

/-- Two uploads after the enrollment; the second waits while the first is under way. -/
def twoUploads : List (AgreementTurn Unit) :=
  .start (.elsewhere ()) (inputs answered) :: List.replicate 6 (.operate 0) ++
    [.start uploadOfFile (inputs answered),
      .start uploadOfFile { inputs answered with uuid4 := fun read => 200 + read }] ++
    List.replicate 16 (.operate 1)

/-- The world after the two uploads. -/
def worldOfUploads : AgreementWorld Unit :=
  stateAfter (sparingSystem Runtime.sample fun _ => enrollmentCall).apply
    ⟨initialStore deployer, []⟩ twoUploads

/-- The two uploads draw no identifier twice. -/
theorem twoUploads_fresh : FreshNames twoUploads := by
  unfold FreshNames
  decide +kernel

end Sample

/-- The certificate of the first upload is committed, and has its file. -/
theorem files_of_certificates_uploaded :
    Sample.worldOfUploads.shared.database .certificates ≠ [] ∧
      CertificatesHaveFiles .sample Sample.worldOfUploads :=
  ⟨by decide +kernel, files_of_certificates .sample (fun _ => Sample.enrollmentCall)
    Sample.deployer Sample.twoUploads_fresh⟩

end AcademicCredential
