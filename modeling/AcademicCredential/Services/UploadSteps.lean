import AcademicCredential.Database.Concurrency
import AcademicCredential.Outlines
import AcademicCredential.Services.UploadRuns

/-!
# The steps of an upload

`UploadPhase` is how far an upload has come: what it knows, what it has written and what it does
next. `UploadPhase.Holds.perform` is one operation of an upload that runs beside others: it goes on
as expected where its rows are new and the UID that it inserts is free.
-/

namespace AcademicCredential.CertificateIssuanceService

open AcademicCredential.Lib

/-- An upload, with the parties that it is between. -/
structure UploadCall where
  upload : Upload
  parties : Parties

namespace UploadCall

/-- What an upload runs. -/
def action (runtime : Runtime) (call : UploadCall) : Action CertificateDraft :=
  call.upload.action runtime

/-- The certificate that the upload inserts under a number. -/
def certificate (runtime : Runtime) (call : UploadCall) (sequence : Nat) : Certificate :=
  call.upload.certificate runtime call.parties sequence

/-- The submission that the upload inserts. -/
def storeRow (runtime : Runtime) (call : UploadCall) : BlockchainTransaction :=
  call.upload.storeRow runtime call.parties

/-- The identifier of the certificate. -/
def certId (call : UploadCall) : Uuid := call.upload.inputs.uuid4 1

/-- The identifier of the submission. -/
def txId (call : UploadCall) : Uuid := call.upload.inputs.uuid4 2

/-- The hash of the file. -/
def sha256Hash (runtime : Runtime) (call : UploadCall) : String :=
  generateHashFromFile runtime call.upload.fileBytes

end UploadCall

/-- An upload of a new file by the administrator of a verified university with a wallet, for a
registered student. -/
structure UploadCall.Expected (runtime : Runtime) (start : Database) (call : UploadCall) :
    Prop where
  between : call.upload.Between start call.parties
  fits : call.upload.Fits
  newHash : ∀ row ∈ start .certificates, row.sha256Hash ≠ call.sha256Hash runtime
  newCertId : ∀ row ∈ start .certificates, row.id ≠ call.certId
  newTxId : ∀ row ∈ start .blockchainTransactions, row.id ≠ call.txId

/-- Two uploads of different files; `uuid4` draws different values. -/
structure UploadCall.Apart (runtime : Runtime) (left right : UploadCall) : Prop where
  sha256Hash : left.sha256Hash runtime ≠ right.sha256Hash runtime
  certId : left.certId ≠ right.certId
  txId : left.txId ≠ right.txId

/-- How far an upload has come. -/
inductive UploadPhase where
  | opening
  | begun
  /-- The university is read. -/
  | issuer
  | student
  | profile
  | dated
  /-- The number of the UID is known. -/
  | numbered (sequence : Nat)
  | unknown (sequence : Nat)
  | identified (sequence : Nat)
  | inserted (sequence : Nat)
  | named (sequence : Nat)
  | stamped (sequence : Nat)
  | recorded (sequence : Nat)
  | committed (sequence : Nat)
  /-- Something was answered that is not in the database; this does not happen. -/
  | impossible

namespace UploadCall

/-- The answers that the upload goes on with. -/
def isIssuer (call : UploadCall) (rows : List University) : Bool :=
  decide (rows.head? = some call.parties.university) && call.parties.university.isVerified &&
    decide (walletOf call.parties.university = some call.parties.walletAddress)

/-- The rows are those of the student. -/
def isStudent (call : UploadCall) (rows : List User) : Bool :=
  decide (rows.head? = some call.parties.student)

/-- The row loaded again is the one inserted. -/
def isReloaded (runtime : Runtime) (call : UploadCall) (sequence : Nat)
    (loaded : Option Certificate) : Bool :=
  (loaded.getD (call.certificate runtime sequence)).id == call.certId

end UploadCall

namespace UploadPhase

/-- The phase, if what was answered is as expected. -/
def provided (expected : Bool) (phase : UploadPhase) : UploadPhase :=
  if expected then phase else .impossible

/-- The phase after the last UID was read. -/
def numberedAfter (lastUid : Option String) : UploadPhase :=
  match CertificateRepository.nextSequence lastUid with
  | some sequence => .numbered sequence
  | none => .impossible

/-- What an operation and its reply make of a phase. -/
def next (runtime : Runtime) (call : UploadCall) :
    UploadPhase → {Reply : Type} → Op Reply → Reply → UploadPhase
  | .opening, _, .begin, .ok _ => .begun
  | .opening, _, .begin, .error _ => .impossible
  | .begun, _, .select .universities _, rows => provided (call.isIssuer rows) .issuer
  | .issuer, _, .select .users _, rows => provided (call.isStudent rows) .student
  | .student, _, .select .students _, rows => provided rows.head?.isSome .profile
  | .profile, _, .today, day => provided (day == call.upload.inputs.today 0) .dated
  | .dated, _, .selectText .certificates _, text => numberedAfter text
  | .numbered sequence, _, .select .certificates _, rows =>
      provided rows.isEmpty (.unknown sequence)
  | .unknown sequence, _, .uuid4, id => provided (id == call.certId) (.identified sequence)
  | .identified sequence, _, .insert .certificates _, .ok _ => .inserted sequence
  | .identified _, _, .insert .certificates _, .error _ => .impossible
  | .inserted sequence, _, .refresh .certificates _, loaded =>
      provided (call.isReloaded runtime sequence loaded) (.inserted sequence)
  | .inserted sequence, _, .uuid4, id => provided (id == call.txId) (.named sequence)
  | .named sequence, _, .serverNow, time =>
      provided (time == call.upload.inputs.databaseClock 3) (.stamped sequence)
  | .stamped sequence, _, .insert .blockchainTransactions _, .ok _ => .recorded sequence
  | .stamped _, _, .insert .blockchainTransactions _, .error _ => .impossible
  | .recorded sequence, _, .commit, _ => .committed sequence
  | phase, _, _, _ => phase

/-- What an upload does in a phase. -/
def permits (runtime : Runtime) (call : UploadCall) :
    UploadPhase → {Reply : Type} → Op Reply → Prop
  | .impossible, _, _ => True
  | .opening, _, .begin => True
  | .begun, _, .select .universities condition =>
      condition = fun row : University => some row.id = call.upload.currentUser.universityId
  | .issuer, _, .select .users condition =>
      condition = fun row : User => row.email = call.upload.metadata.recipientEmail
  | .student, _, .select .students condition =>
      condition = fun row : Student => row.userId = call.parties.student.id
  | .profile, _, .today => True
  | .dated, _, .selectText .certificates query =>
      query = CertificateRepository.lastUid call.parties.university.shortCode call.upload.year
  | .numbered _, _, .select .certificates condition =>
      condition = fun row : Certificate => row.sha256Hash = call.sha256Hash runtime
  | .unknown _, _, .uuid4 => True
  | .identified _, _, .writeFile _ _ => True
  | .identified sequence, _, .insert .certificates row => row = call.certificate runtime sequence
  | .inserted _, _, .refresh .certificates id => id = call.certId
  | .inserted _, _, .uuid4 => True
  | .named _, _, .serverNow => True
  | .stamped _, _, .insert .blockchainTransactions row => row = call.storeRow runtime
  | .recorded _, _, .refresh .blockchainTransactions _ => True
  | .recorded _, _, .commit => True
  | _, _, _ => False

end UploadPhase

/-- How an upload ends: issued. -/
def UploadCall.Ends (runtime : Runtime) (call : UploadCall) :
    UploadPhase → Except Exception CertificateDraft → Prop
  | .impossible, _ => True
  | .committed sequence, .ok draft => draft = call.upload.draft runtime call.parties sequence
  | _, _ => False

/-- What an upload may do in each phase, and where it gets by it. -/
def uploadProtocol (runtime : Runtime) (call : UploadCall) : Protocol Op UploadPhase :=
  ⟨UploadPhase.permits runtime call, UploadPhase.next runtime call⟩

/-- The protocol that the uploads follow. -/
def uploadOutline (runtime : Runtime) :
    System.Outline Op Exception CertificateDraft UploadCall UploadPhase where
  protocol := uploadProtocol runtime
  ends := UploadCall.Ends runtime
  initial _ := .opening

section outlines

variable {runtime : Runtime} {call : UploadCall} {Value : Type}
  {ends : UploadPhase → Except Exception Value → Prop}

/-- What cannot happen is permitted. -/
theorem obeys_impossible (everyEnd : ∀ result, ends .impossible result) (program : Action Value) :
    program.Obeys (uploadProtocol runtime call) ends .impossible := by
  have permitted : ∀ (Reply : Type) (op : Op Reply), True →
      (uploadProtocol runtime call).permits .impossible op := fun _ _ _ => trivial
  have stays : ∀ (Reply : Type) (op : Op Reply) (reply : Reply), True →
      (uploadProtocol runtime call).next .impossible op reply = .impossible := fun _ _ _ _ => rfl
  exact Program.obeys_of_every permitted stays everyEnd (Program.every_true program)

/-- What cannot happen is permitted of the rest as well. -/
theorem thenObeys_impossible {Answer : Type} {rest : Answer → Action Value}
    (everyEnd : ∀ result, ends .impossible result) (result : Except Exception Answer) :
    Program.thenObeys (uploadProtocol runtime call) ends rest .impossible result := by
  cases result with
  | error error => exact everyEnd _
  | ok answer => exact obeys_impossible everyEnd (rest answer)

/-- What is left to show after an answer: the case in which it is as expected. -/
theorem thenObeys_provided {Answer : Type} {rest : Answer → Action Value} {expected : Bool}
    {phase : UploadPhase} {result : Except Exception Answer}
    (everyEnd : ∀ result, ends .impossible result)
    (obeys : expected = true →
      Program.thenObeys (uploadProtocol runtime call) ends rest phase result) :
    Program.thenObeys (uploadProtocol runtime call) ends rest (.provided expected phase)
      result := by
  cases expected with
  | true => exact obeys rfl
  | false => exact thenObeys_impossible everyEnd result

/-- The next number is looked up by one query. -/
theorem obeys_getNextUidSequence {ends : UploadPhase → Except Exception Nat → Prop}
    (numbered : ∀ sequence, ends (.numbered sequence) (.ok sequence))
    (everyEnd : ∀ result, ends .impossible result) :
    (CertificateRepository.getNextUidSequence call.parties.university.shortCode
      call.upload.year).Obeys (uploadProtocol runtime call) ends .dated := by
  rw [CertificateRepository.getNextUidSequence, Program.obeys_bind, Program.obeys_perform]
  refine ⟨rfl, fun text => ?_⟩
  change Program.thenObeys _ _ _ (UploadPhase.numberedAfter text) _
  cases text with
  | none => exact numbered 1
  | some uid =>
      rw [Program.thenObeys, UploadPhase.numberedAfter, CertificateRepository.nextSequence]
      dsimp only
      cases parsed : CertificateRepository.parseInt? (CertificateRepository.afterLastDash uid) with
      | none => exact everyEnd _
      | some sequence => exact numbered (sequence + 1)

/-- Steps 3 to 8, between the parties of the call. -/
theorem obeys_createRecords {ends : UploadPhase → Except Exception CertificateDraft → Prop}
    (recorded : ∀ sequence, ends (.recorded sequence)
      (.ok (call.upload.draft runtime call.parties sequence)))
    (everyEnd : ∀ result, ends .impossible result) :
    (createRecords runtime call.upload.fileBytes call.upload.fileOriginalName call.upload.metadata
      call.upload.currentUser call.parties.student call.parties.university
      call.parties.walletAddress).Obeys (uploadProtocol runtime call) ends .profile := by
  unfold createRecords
  rw [Program.obeys_bind, Program.obeys_perform]
  refine ⟨trivial, fun day => ?_⟩
  refine thenObeys_provided everyEnd fun isToday => ?_
  obtain rfl := beq_iff_eq.mp isToday
  rw [Program.thenObeys, Program.obeys_bind]
  refine obeys_getNextUidSequence (fun sequence => ?_) (thenObeys_impossible everyEnd)
  rw [Program.thenObeys, Program.obeys_bind, CertificateRepository.getByHash]
  refine BaseRepository.obeys_findOne.mpr ⟨rfl, fun rows => ?_⟩
  refine thenObeys_provided everyEnd fun isUnknown => ?_
  obtain rfl := List.isEmpty_iff.mp isUnknown
  rw [Program.thenObeys]
  dsimp only [List.head?_nil]
  rw [Program.obeys_bind, Program.obeys_perform]
  refine ⟨trivial, fun certId => ?_⟩
  refine thenObeys_provided everyEnd fun isCertId => ?_
  obtain rfl := beq_iff_eq.mp isCertId
  rw [Program.thenObeys, Program.obeys_bind, saveCertificate, Program.obeys_bind,
    Program.obeys_perform]
  refine ⟨trivial, fun _ => ?_⟩
  change Program.Obeys _ _ (CertificateRepository.create _ >>= _) (UploadPhase.identified sequence)
  rw [Program.obeys_bind, CertificateRepository.create]
  refine BaseRepository.obeys_create rfl (fun error => everyEnd _) rfl fun loaded => ?_
  refine thenObeys_provided everyEnd fun isReloaded => ?_
  have sameId := beq_iff_eq.mp isReloaded
  change Program.thenObeys _ _ _ _ (.ok (loaded.getD (call.certificate runtime sequence)))
  generalize loaded.getD (call.certificate runtime sequence) = certificate at sameId
  rw [Program.thenObeys, Program.obeys_bind, Program.obeys_perform]
  refine ⟨trivial, fun txId => ?_⟩
  refine thenObeys_provided everyEnd fun isTxId => ?_
  obtain rfl := beq_iff_eq.mp isTxId
  rw [Program.thenObeys, Program.obeys_bind, Program.obeys_perform]
  refine ⟨trivial, fun submittedAt => ?_⟩
  refine thenObeys_provided everyEnd fun isTime => ?_
  obtain rfl := beq_iff_eq.mp isTime
  rw [Program.thenObeys, Program.obeys_bind, BlockchainTransactionRepository.create, sameId]
  refine BaseRepository.obeys_create rfl (fun error => everyEnd _) trivial fun loaded => ?_
  exact recorded sequence

/-- The block of an upload follows the protocol. -/
theorem obeys_uploadBlock {ends : UploadPhase → Except Exception CertificateDraft → Prop}
    (recorded : ∀ sequence, ends (.recorded sequence)
      (.ok (call.upload.draft runtime call.parties sequence)))
    (everyEnd : ∀ result, ends .impossible result) :
    (uploadBlock runtime call.upload.fileBytes call.upload.fileOriginalName call.upload.metadata
      call.upload.currentUser).Obeys (uploadProtocol runtime call) ends .begun := by
  unfold uploadBlock universityOf
  rw [Program.obeys_bind]
  refine BaseRepository.obeys_findOne.mpr ⟨rfl, fun rows => ?_⟩
  refine thenObeys_provided everyEnd fun isIssuer => ?_
  simp only [UploadCall.isIssuer, Bool.and_eq_true, decide_eq_true_eq] at isIssuer
  obtain ⟨⟨isUniversity, verified⟩, wallet⟩ := isIssuer
  rw [Program.thenObeys, isUniversity]
  dsimp only
  rw [verified, Bool.not_true, if_neg Bool.false_ne_true, wallet]
  dsimp only
  rw [Program.obeys_bind, UserRepository.getByEmail]
  refine BaseRepository.obeys_findOne.mpr ⟨rfl, fun users => ?_⟩
  refine thenObeys_provided everyEnd fun isStudent => ?_
  rw [Program.thenObeys, of_decide_eq_true isStudent]
  dsimp only
  rw [Program.obeys_bind, StudentRepository.getByUserId]
  refine BaseRepository.obeys_findOne.mpr ⟨rfl, fun students => ?_⟩
  refine thenObeys_provided everyEnd fun isProfile => ?_
  obtain ⟨profile, isFirst⟩ := Option.isSome_iff_exists.mp isProfile
  rw [Program.thenObeys, isFirst]
  exact obeys_createRecords recorded everyEnd

/-- Every upload follows the outline. -/
theorem obeys_action (runtime : Runtime) (call : UploadCall) :
    (call.action runtime).Obeys (uploadProtocol runtime call) (call.Ends runtime) .opening := by
  refine obeys_transaction trivial (fun error => trivial) ?_
  exact obeys_uploadBlock (fun sequence => ⟨trivial, rfl⟩) fun result => by
    cases result <;> exact ⟨trivial, trivial⟩

end outlines

namespace UploadPhase

/-- What the upload has written and not committed. -/
def pending (runtime : Runtime) (call : UploadCall) : UploadPhase → List Write
  | .inserted sequence | .named sequence | .stamped sequence =>
      [.insert .certificates (call.certificate runtime sequence)]
  | .recorded sequence => [.insert .certificates (call.certificate runtime sequence),
      .insert .blockchainTransactions (call.storeRow runtime)]
  | _ => []

/-- The reads of clocks and random sources. -/
def reads : UploadPhase → Nat
  | .opening | .begun | .issuer | .student | .profile => 0
  | .dated | .numbered _ | .unknown _ => 1
  | .identified _ | .inserted _ => 2
  | .named _ => 3
  | _ => 4

/-- The tables of which no row is loaded. -/
def unread : UploadPhase → List Table
  | .opening | .begun => [.universities, .users, .students]
  | .issuer => [.users, .students]
  | .student => [.students]
  | _ => []

/-- What holds of an upload in each phase. -/
structure Holds (runtime : Runtime) (call : UploadCall) (session : Session) (phase : UploadPhase) :
    Prop where
  possible : phase ≠ .impossible
  inputs : session.inputs = call.upload.inputs
  pending : session.pending = phase.pending runtime call
  reads : session.reads = phase.reads
  unread : ∀ table ∈ phase.unread, session.identityMap table = []
  closed : phase = .opening → session.inTransaction = false

end UploadPhase

/-- What is committed where an upload runs: the tables that uploads only read, and no row of its
own. -/
structure UploadCall.Room (runtime : Runtime) (start : Database) (call : UploadCall)
    (store : Store) : Prop where
  valid : store.database.Valid
  tables : ∀ table, table ≠ .certificates → table ≠ .blockchainTransactions →
    store.database table = start table
  certificates : ∀ row ∈ store.database .certificates,
    row.id ≠ call.certId ∧ row.sha256Hash ≠ call.sha256Hash runtime
  transactions : ∀ row ∈ store.database .blockchainTransactions, row.id ≠ call.txId

namespace UploadPhase.Holds

variable {runtime : Runtime} {call : UploadCall} {session after : Session}
  {phase later : UploadPhase}

/-- An operation that writes nothing. -/
theorem move (holds : phase.Holds runtime call session) (inputs : after.inputs = session.inputs)
    (pending : after.pending = session.pending) (reads : after.reads = later.reads)
    (samePending : later.pending runtime call = phase.pending runtime call)
    (unread : ∀ table ∈ later.unread,
      table ∈ phase.unread ∧ after.identityMap table = session.identityMap table)
    (possible : later ≠ .impossible) (opened : later ≠ .opening) :
    later.Holds runtime call after :=
  ⟨possible, inputs.trans holds.inputs, pending.trans (holds.pending.trans samePending.symm), reads,
    fun table member => (unread table member).2.trans (holds.unread table (unread table member).1),
    fun isOpening => absurd isOpening opened⟩

/-- An operation behind the reads of the parties. -/
theorem go (holds : phase.Holds runtime call session) (inputs : after.inputs = session.inputs)
    (pending : after.pending = later.pending runtime call) (reads : after.reads = later.reads)
    (unread : later.unread = []) (possible : later ≠ .impossible) :
    later.Holds runtime call after := by
  refine ⟨possible, inputs.trans holds.inputs, pending, reads, fun table member => ?_,
    fun isOpening => ?_⟩
  · rw [unread] at member
    exact absurd member List.not_mem_nil
  · rw [isOpening] at unread
    cases unread

end UploadPhase.Holds

section answers

variable {runtime : Runtime} {start : Database} {call : UploadCall} {store : Store}
  {session : Session}

/-- The university found is the issuer. -/
theorem UploadCall.Expected.isIssuer (expected : call.Expected runtime start) :
    call.isIssuer ((start .universities).filter fun row : University =>
      some row.id = call.upload.currentUser.universityId) = true := by
  obtain ⟨found, verified, wallet⟩ := expected.between.issuer
  simp only [UploadCall.isIssuer, List.head?_filter, Bool.and_eq_true, decide_eq_true_eq]
  exact ⟨⟨found, verified⟩, wallet⟩

/-- The account found is the student's. -/
theorem UploadCall.Expected.isStudent (expected : call.Expected runtime start) :
    call.isStudent ((start .users).filter fun row : User =>
      row.email = call.upload.metadata.recipientEmail) = true := by
  simp only [UploadCall.isStudent, List.head?_filter, decide_eq_true_eq]
  exact expected.between.recipient.found

/-- Certificates that differ in their keys can stand together. -/
theorem certificates_apart {left right : Certificate} (id : left.id ≠ right.id)
    (certificateUid : left.certificateUid ≠ right.certificateUid)
    (sha256Hash : left.sha256Hash ≠ right.sha256Hash) :
    @Apart .certificates left right := by
  intro key inLeft inRight
  simp only [uniqueKeys, List.mem_cons, List.not_mem_nil, or_false] at inLeft inRight
  rcases inLeft with rfl | rfl | rfl <;> simp [id, certificateUid, sha256Hash] at inRight

/-- Submissions that differ in their keys can stand together. -/
theorem transactions_apart {left right : BlockchainTransaction} (unmined : left.txHash = none)
    (id : left.id ≠ right.id) :
    @Apart .blockchainTransactions left right := by
  intro key inLeft inRight
  simp only [uniqueKeys, unmined, Option.toList_none, List.map_nil, List.mem_singleton] at inLeft
  subst inLeft
  simp [uniqueKeys, id] at inRight

/-- The INSERT of the certificate is accepted where its UID is free. -/
theorem UploadCall.Room.accepts_certificate (room : call.Room runtime start store)
    (valid : start.Valid) (expected : call.Expected runtime start) {sequence : Nat}
    (format : isCertificateUidText (call.certificate runtime sequence).certificateUid = true)
    (free : ∀ row ∈ store.database .certificates,
      row.certificateUid ≠ (call.certificate runtime sequence).certificateUid) :
    checkInsert (call.upload.inputs.today 2) store.database .certificates
      (call.certificate runtime sequence) = .ok () := by
  refine checkInsert_of_free ((Upload.certificate_admissible_iff valid expected.between).mpr
    ⟨isCertificateUidText_uidOf.mp format, expected.fits⟩) fun other member => ?_
  obtain ⟨otherId, otherHash⟩ := room.certificates other member
  exact certificates_apart otherId.symm (free other member).symm otherHash.symm

/-- The INSERT of the transaction is accepted as well. -/
theorem UploadCall.Room.accepts_storeRow (room : call.Room runtime start store)
    (valid : start.Valid) (configured : WellConfigured runtime)
    (expected : call.Expected runtime start) (today : Date) (rows : List Certificate) :
    checkInsert today (Function.update store.database .certificates rows) .blockchainTransactions
      (call.storeRow runtime) = .ok () := by
  refine checkInsert_of_free ((Upload.storeRow_admissible_iff valid expected.between).mpr
    configured) fun other member => ?_
  exact transactions_apart rfl (room.transactions other member).symm

end answers

namespace UploadPhase.Holds

variable {runtime : Runtime} {start : Database} {call : UploadCall} {store : Store}
  {session : Session} {phase later : UploadPhase} {sequence : Nat}

/-- A SELECT that is not the last from the tables of the parties. -/
theorem load (holds : phase.Holds runtime call session) {table : Table} (rows : List (Row table))
    (samePending : later.pending runtime call = phase.pending runtime call)
    (sameReads : phase.reads = later.reads)
    (unread : ∀ other ∈ later.unread, other ∈ phase.unread ∧ other ≠ table)
    (possible : later ≠ .impossible) (opened : later ≠ .opening) :
    later.Holds runtime call { session with
      inTransaction := true, identityMap := loadRows session.identityMap table rows } := by
  refine holds.move rfl rfl (holds.reads.trans sameReads) samePending (fun other member => ?_)
    possible opened
  obtain ⟨stillUnread, different⟩ := unread other member
  exact ⟨stillUnread, Function.update_of_ne different ..⟩

/-- The transaction is begun. -/
theorem perform_opening (holds : UploadPhase.opening.Holds runtime call session) :
    (UploadPhase.opening.next runtime call .begin (sessionHandler _ .begin (store, session)).1).Holds
      runtime call (sessionHandler _ .begin (store, session)).2.2 := by
  have begun : UploadPhase.begun.Holds runtime call { session with inTransaction := true } :=
    holds.move rfl rfl holds.reads rfl (fun table member => ⟨member, rfl⟩) (by simp) (by simp)
  simp only [sessionHandler, holds.closed rfl, Bool.false_eq_true, if_false]
  exact begun

/-- The parties are read as they are stored. -/
theorem select (holds : phase.Holds runtime call session) (room : call.Room runtime start store)
    {table : Table} (readOnly : table ≠ .certificates ∧ table ≠ .blockchainTransactions)
    (unwritten : phase.pending runtime call = []) (unread : table ∈ phase.unread)
    (condition : Row table → Bool) :
    (sessionHandler _ (.select table condition) (store, session)).1 =
      (start table).filter condition := by
  change loadedRows session.identityMap table _ = _
  rw [loadedRows_of_unloaded (holds.unread table unread), visible, holds.pending, unwritten,
    applyWrites_nil, room.tables table readOnly.1 readOnly.2]

/-- The issuer is found. -/
theorem perform_begun (holds : UploadPhase.begun.Holds runtime call session)
    (room : call.Room runtime start store) (expected : call.Expected runtime start)
    {condition : University → Bool}
    (permitted : UploadPhase.begun.permits runtime call (.select .universities condition)) :
    (UploadPhase.begun.next runtime call (.select .universities condition)
      (sessionHandler _ (.select .universities condition) (store, session)).1).Holds runtime call
      (sessionHandler _ (.select .universities condition) (store, session)).2.2 := by
  change (UploadPhase.provided _ .issuer).Holds runtime call _
  rw [holds.select room (by decide) rfl (by simp [UploadPhase.unread]),
    show condition = _ from permitted, expected.isIssuer]
  refine @load _ _ _ _ .issuer holds .universities _ rfl rfl ?_ (by simp) (by simp)
  simp [UploadPhase.unread]

/-- The account of the student is found. -/
theorem perform_issuer (holds : UploadPhase.issuer.Holds runtime call session)
    (room : call.Room runtime start store) (expected : call.Expected runtime start)
    {condition : User → Bool}
    (permitted : UploadPhase.issuer.permits runtime call (.select .users condition)) :
    (UploadPhase.issuer.next runtime call (.select .users condition)
      (sessionHandler _ (.select .users condition) (store, session)).1).Holds runtime call
      (sessionHandler _ (.select .users condition) (store, session)).2.2 := by
  change (UploadPhase.provided _ .student).Holds runtime call _
  rw [holds.select room (by decide) rfl (by simp [UploadPhase.unread]),
    show condition = _ from permitted, expected.isStudent]
  refine @load _ _ _ _ .student holds .users _ rfl rfl ?_ (by simp) (by simp)
  simp [UploadPhase.unread]

/-- The profile of the student is found. -/
theorem perform_student (holds : UploadPhase.student.Holds runtime call session)
    (room : call.Room runtime start store) (expected : call.Expected runtime start)
    {condition : Student → Bool}
    (permitted : UploadPhase.student.permits runtime call (.select .students condition)) :
    (UploadPhase.student.next runtime call (.select .students condition)
      (sessionHandler _ (.select .students condition) (store, session)).1).Holds runtime call
      (sessionHandler _ (.select .students condition) (store, session)).2.2 := by
  change (UploadPhase.provided (List.head? _).isSome .profile).Holds runtime call _
  rw [holds.select room (by decide) rfl (by simp [UploadPhase.unread]), List.head?_filter,
    show condition = _ from permitted, expected.between.recipient.profile]
  refine @load _ _ _ _ .profile holds .students _ rfl rfl ?_ (by simp) (by simp)
  simp [UploadPhase.unread]

/-- Before its INSERT the upload sees what is committed. -/
theorem visible_eq (holds : phase.Holds runtime call session)
    (unwritten : phase.pending runtime call = []) : visible store session = store.database := by
  rw [visible, holds.pending, unwritten, applyWrites_nil]

/-- What is drawn next is what the upload expects. -/
theorem draws (holds : phase.Holds runtime call session) {Value : Type}
    (source : Inputs → Nat → Value) :
    source session.inputs session.reads = source call.upload.inputs phase.reads := by
  rw [holds.inputs, holds.reads]

/-- What is drawn from the inputs is what the call says. -/
theorem perform_drawn (holds : phase.Holds runtime call session) {expected : Bool}
    (isDrawn : expected = true)
    (samePending : later.pending runtime call = phase.pending runtime call)
    (oneMore : later.reads = phase.reads + 1) (unread : later.unread = [])
    (possible : later ≠ .impossible) :
    (UploadPhase.provided expected later).Holds runtime call
      { session with reads := session.reads + 1 } := by
  subst isDrawn
  refine @go _ _ _ _ _ later holds rfl (holds.pending.trans samePending.symm) ?_ unread possible
  rw [oneMore, ← holds.reads]

/-- The hash is found to be new. -/
theorem perform_numbered (holds : (UploadPhase.numbered sequence).Holds runtime call session)
    (room : call.Room runtime start store) {condition : Certificate → Bool}
    (permitted : (UploadPhase.numbered sequence).permits runtime call
      (.select .certificates condition)) :
    ((UploadPhase.numbered sequence).next runtime call (.select .certificates condition)
      (sessionHandler _ (.select .certificates condition) (store, session)).1).Holds runtime call
      (sessionHandler _ (.select .certificates condition) (store, session)).2.2 := by
  have nothing : (visible store session .certificates).filter condition = [] := by
    rw [holds.visible_eq rfl, show condition = _ from permitted]
    refine List.filter_eq_nil_iff.mpr fun row member => ?_
    simpa using (room.certificates row member).2
  change (UploadPhase.provided (loadedRows session.identityMap .certificates
    ((visible store session .certificates).filter condition)).isEmpty (.unknown sequence)).Holds
      runtime call _
  rw [nothing]
  exact @go _ _ _ _ _ (.unknown sequence) holds rfl holds.pending holds.reads rfl (by simp)

/-- The last UID is found. -/
theorem perform_dated (holds : UploadPhase.dated.Holds runtime call session)
    (room : call.Room runtime start store) {query : List Certificate → Option String}
    (permitted : UploadPhase.dated.permits runtime call (.selectText .certificates query)) :
    (UploadPhase.dated.next runtime call (.selectText .certificates query)
      (sessionHandler _ (.selectText .certificates query) (store, session)).1).Holds runtime call
      (sessionHandler _ (.selectText .certificates query) (store, session)).2.2 := by
  obtain ⟨sequence, isNext⟩ := exists_nextSequence room.valid.uidFormats
    call.parties.university.shortCode call.upload.year
  change (UploadPhase.numberedAfter (query (visible store session .certificates))).Holds runtime
    call _
  rw [holds.visible_eq rfl, show query = _ from permitted, UploadPhase.numberedAfter, isNext]
  exact @go _ _ _ _ _ (.numbered sequence) holds rfl holds.pending holds.reads rfl (by simp)

/-- The certificate is inserted. -/
theorem perform_identified (holds : (UploadPhase.identified sequence).Holds runtime call session)
    (valid : start.Valid) (expected : call.Expected runtime start)
    (room : call.Room runtime start store)
    (format : isCertificateUidText (call.certificate runtime sequence).certificateUid = true)
    (free : ∀ row ∈ store.database .certificates,
      row.certificateUid ≠ (call.certificate runtime sequence).certificateUid) :
    ((UploadPhase.identified sequence).next runtime call
      (.insert .certificates (call.certificate runtime sequence))
      (sessionHandler _ (.insert .certificates (call.certificate runtime sequence))
        (store, session)).1).Holds runtime call
      (sessionHandler _ (.insert .certificates (call.certificate runtime sequence))
        (store, session)).2.2 := by
  have accepted : checkInsert (session.inputs.today session.reads) (visible store session)
      .certificates (call.certificate runtime sequence) = .ok () := by
    rw [holds.visible_eq rfl, holds.inputs, holds.reads]
    exact room.accepts_certificate valid expected format free
  simp only [sessionHandler, accepted]
  refine @go _ _ _ _ _ (.inserted sequence) holds rfl ?_ holds.reads rfl (by simp)
  change session.pending ++ _ = _
  rw [holds.pending]
  rfl

/-- The certificate is loaded again. -/
theorem perform_inserted (holds : (UploadPhase.inserted sequence).Holds runtime call session)
    {id : Uuid}
    (permitted : (UploadPhase.inserted sequence).permits runtime call (.refresh .certificates id)) :
    ((UploadPhase.inserted sequence).next runtime call (.refresh .certificates id)
      (sessionHandler _ (.refresh .certificates id) (store, session)).1).Holds runtime call
      (sessionHandler _ (.refresh .certificates id) (store, session)).2.2 := by
  obtain rfl : id = call.certId := permitted
  have isReloaded : call.isReloaded runtime sequence
      ((visible store session).find? .certificates call.certId) = true := by
    rw [UploadCall.isReloaded, beq_iff_eq]
    cases found : (visible store session).find? .certificates call.certId with
    | none => rfl
    | some row => exact (Database.find?_some found).2
  change (UploadPhase.provided (call.isReloaded runtime sequence
    ((visible store session).find? .certificates call.certId)) (.inserted sequence)).Holds runtime
      call _
  rw [isReloaded]
  exact @go _ _ _ _ _ (.inserted sequence) holds rfl holds.pending holds.reads rfl (by simp)

/-- The submission is inserted. -/
theorem perform_stamped (holds : (UploadPhase.stamped sequence).Holds runtime call session)
    (valid : start.Valid) (configured : WellConfigured runtime)
    (expected : call.Expected runtime start) (room : call.Room runtime start store) :
    ((UploadPhase.stamped sequence).next runtime call
      (.insert .blockchainTransactions (call.storeRow runtime))
      (sessionHandler _ (.insert .blockchainTransactions (call.storeRow runtime))
        (store, session)).1).Holds runtime call
      (sessionHandler _ (.insert .blockchainTransactions (call.storeRow runtime))
        (store, session)).2.2 := by
  have accepted : checkInsert (session.inputs.today session.reads) (visible store session)
      .blockchainTransactions (call.storeRow runtime) = .ok () := by
    rw [visible, holds.pending]
    exact room.accepts_storeRow valid configured expected _ _
  simp only [sessionHandler, accepted]
  refine @go _ _ _ _ _ (.recorded sequence) holds rfl ?_ holds.reads rfl (by simp)
  change session.pending ++ _ = _
  rw [holds.pending]
  rfl

/-- Whatever an upload does next, it goes on as expected, when the UID that it inserts is free. -/
theorem perform (holds : phase.Holds runtime call session) (valid : start.Valid)
    (configured : WellConfigured runtime) (expected : call.Expected runtime start)
    (room : call.Room runtime start store) {Reply : Type}
    {op : Op Reply} (permitted : phase.permits runtime call op)
    (insertable : ∀ row : Certificate,
      session.statement? store op = some (.insert .certificates row) →
        isCertificateUidText row.certificateUid = true ∧
          ∀ other ∈ store.database .certificates, other.certificateUid ≠ row.certificateUid) :
    (phase.next runtime call op (sessionHandler Reply op (store, session)).1).Holds runtime call
      (sessionHandler Reply op (store, session)).2.2 := by
  cases phase with
  | opening =>
      cases op with
      | begin => exact holds.perform_opening
      | _ => cases permitted
  | begun =>
      cases op with
      | select table condition =>
          cases table with
          | universities => exact holds.perform_begun room expected permitted
          | _ => cases permitted
      | _ => cases permitted
  | issuer =>
      cases op with
      | select table condition =>
          cases table with
          | users => exact holds.perform_issuer room expected permitted
          | _ => cases permitted
      | _ => cases permitted
  | student =>
      cases op with
      | select table condition =>
          cases table with
          | students => exact holds.perform_student room expected permitted
          | _ => cases permitted
      | _ => cases permitted
  | profile =>
      cases op with
      | today =>
          refine @perform_drawn _ _ _ _ .dated holds _ ?_ rfl rfl rfl (by simp)
          exact beq_iff_eq.mpr (holds.draws Inputs.today)
      | _ => cases permitted
  | dated =>
      cases op with
      | selectText table query =>
          cases table with
          | certificates => exact holds.perform_dated room permitted
          | _ => cases permitted
      | _ => cases permitted
  | numbered sequence =>
      cases op with
      | select table condition =>
          cases table with
          | certificates => exact holds.perform_numbered room permitted
          | _ => cases permitted
      | _ => cases permitted
  | unknown sequence =>
      cases op with
      | uuid4 =>
          refine @perform_drawn _ _ _ _ (.identified sequence) holds _ ?_ rfl rfl rfl (by simp)
          exact beq_iff_eq.mpr (holds.draws Inputs.uuid4)
      | _ => cases permitted
  | identified sequence =>
      cases op with
      | writeFile path bytes => exact holds
      | insert table row =>
          cases table with
          | certificates =>
              obtain rfl : row = call.certificate runtime sequence := permitted
              obtain ⟨format, free⟩ := insertable _ rfl
              exact holds.perform_identified valid expected room format free
          | _ => cases permitted
      | _ => cases permitted
  | inserted sequence =>
      cases op with
      | refresh table id =>
          cases table with
          | certificates => exact holds.perform_inserted permitted
          | _ => cases permitted
      | uuid4 =>
          refine @perform_drawn _ _ _ _ (.named sequence) holds _ ?_ rfl rfl rfl (by simp)
          exact beq_iff_eq.mpr (holds.draws Inputs.uuid4)
      | _ => cases permitted
  | named sequence =>
      cases op with
      | serverNow =>
          refine @perform_drawn _ _ _ _ (.stamped sequence) holds _ ?_ rfl rfl rfl (by simp)
          exact beq_iff_eq.mpr (holds.draws Inputs.databaseClock)
      | _ => cases permitted
  | stamped sequence =>
      cases op with
      | insert table row =>
          cases table with
          | blockchainTransactions =>
              obtain rfl : row = call.storeRow runtime := permitted
              exact holds.perform_stamped valid configured expected room
          | _ => cases permitted
      | _ => cases permitted
  | recorded sequence =>
      cases op with
      | refresh table id =>
          cases table with
          | blockchainTransactions =>
              exact @go _ _ _ _ _ (.recorded sequence) holds rfl holds.pending holds.reads rfl
                (by simp)
          | _ => cases permitted
      | commit => exact @go _ _ _ _ _ (.committed sequence) holds rfl rfl holds.reads rfl (by simp)
      | _ => cases permitted
  | committed sequence => cases permitted
  | impossible => exact absurd rfl holds.possible

end UploadPhase.Holds

/-- The rows that an upload inserts. -/
def UploadCall.Owns (runtime : Runtime) (call : UploadCall) : Write → Prop
  | .insert .certificates row => ∃ sequence, row = call.certificate runtime sequence
  | .insert .blockchainTransactions row => row = call.storeRow runtime
  | _ => False

section owned

variable {runtime : Runtime} {start : Database} {call : UploadCall} {store : Store}
  {session : Session} {phase : UploadPhase}

/-- What waits for the commit is the upload's own. -/
theorem UploadPhase.owned {write : Write} (member : write ∈ phase.pending runtime call) :
    call.Owns runtime write := by
  cases phase with
  | inserted sequence | named sequence | stamped sequence =>
      obtain rfl := List.mem_singleton.mp member
      exact ⟨sequence, rfl⟩
  | recorded sequence =>
      rcases List.mem_pair.mp member with rfl | rfl
      · exact ⟨sequence, rfl⟩
      · rfl
  | _ => exact absurd member List.not_mem_nil

/-- The upload's own writes are inserts. -/
theorem UploadCall.Owns.insert {write : Write} (owns : call.Owns runtime write) {table : Table}
    (inTable : write.table = table) : ∃ row, write = .insert table row := by
  subst inTable
  cases write with
  | insert table row => exact ⟨row, rfl⟩
  | update table id assignments => exact owns.elim

/-- The rows of an upload have ids of its own. -/
theorem UploadCall.Owns.new {table : Table} {row : Row table}
    (owns : call.Owns runtime (.insert table row)) (room : call.Room runtime start store) :
    ∀ other ∈ store.database table, rowId other ≠ rowId row := by
  intro other member
  cases table with
  | certificates =>
      obtain ⟨sequence, rfl⟩ := owns
      exact (room.certificates other member).1
  | blockchainTransactions =>
      obtain rfl := owns
      exact room.transactions other member
  | _ => exact owns.elim

/-- An upload holds the keys of the rows that it inserts. -/
theorem UploadCall.Room.exists_owned (room : call.Room runtime start store) {writes : List Write}
    (owns : ∀ write ∈ writes, call.Owns runtime write) {table : Table} {key : UniqueKey}
    (held : key ∈ heldKeys store.database writes table) :
    ∃ row, .insert table row ∈ writes ∧ key ∈ uniqueKeys row :=
  exists_insert_of_mem_heldKeys (fun write member => (owns write member).insert)
    (fun _ member => (owns _ member).new room) held

/-- What an upload asks to insert: the certificate when nothing is pending yet, or the
transaction. -/
theorem UploadPhase.asked {Reply : Type} {op : Op Reply}
    (permitted : phase.permits runtime call op) (possible : phase ≠ .impossible) {write : Write}
    (asked : session.statement? store op = some write) :
    (∃ sequence, write = .insert .certificates (call.certificate runtime sequence) ∧
        phase.pending runtime call = []) ∨
      ∃ sequence, write = .insert .blockchainTransactions (call.storeRow runtime) ∧
        phase.pending runtime call =
          [.insert .certificates (call.certificate runtime sequence)] := by
  cases op with
  | insert table row =>
      obtain rfl := Option.some.inj asked
      cases phase with
      | identified sequence =>
          cases table with
          | certificates =>
              obtain rfl : row = call.certificate runtime sequence := permitted
              exact .inl ⟨sequence, rfl, rfl⟩
          | _ => cases permitted
      | stamped sequence =>
          cases table with
          | blockchainTransactions =>
              obtain rfl : row = call.storeRow runtime := permitted
              exact .inr ⟨sequence, rfl, rfl⟩
          | _ => cases permitted
      | impossible => exact absurd rfl possible
      | _ => cases permitted
  | flush | executeUpdate =>
      cases phase <;> first | exact absurd rfl possible | cases permitted
  | _ => cases asked

end owned

/-- A phase that is only provided for is committed only when it was. -/
theorem UploadPhase.provided_ne {expected : Bool} {phase : UploadPhase} {sequence : Nat}
    (different : phase ≠ .committed sequence) : provided expected phase ≠ .committed sequence := by
  cases expected with
  | true => exact different
  | false => exact UploadPhase.noConfusion

/-- Numbering commits nothing. -/
theorem UploadPhase.numberedAfter_ne (text : Option String) (sequence : Nat) :
    numberedAfter text ≠ .committed sequence := by
  rw [numberedAfter]
  split <;> exact UploadPhase.noConfusion

/-- An upload that has something to perform has not committed. -/
theorem UploadPhase.ne_committed {runtime : Runtime} {call : UploadCall} {phase : UploadPhase}
    {Reply : Type} {op : Op Reply} (permitted : phase.permits runtime call op) (sequence : Nat) :
    phase ≠ .committed sequence := by
  rintro rfl
  cases permitted

/-- Only the commit of what is recorded leads to the end. -/
theorem UploadPhase.of_next_committed {runtime : Runtime} {call : UploadCall} {phase : UploadPhase}
    {Reply : Type} {op : Op Reply} {reply : Reply} {sequence : Nat}
    (permitted : phase.permits runtime call op)
    (isCommitted : phase.next runtime call op reply = .committed sequence)
    (possible : phase ≠ .impossible) : phase = .recorded sequence ∧ op.isCommit = true := by
  cases phase with
  | recorded recorded =>
      cases op with
      | commit => exact ⟨congrArg _ (UploadPhase.committed.inj isCommitted), rfl⟩
      | refresh table id => cases table <;> cases isCommitted
      | _ => cases permitted
  | opening =>
      cases op with
      | begin => cases reply <;> cases isCommitted
      | _ => cases permitted
  | dated =>
      cases op with
      | selectText table query =>
          cases table with
          | certificates => exact (numberedAfter_ne _ sequence isCommitted).elim
          | _ => cases permitted
      | _ => cases permitted
  | impossible => exact absurd rfl possible
  | committed => cases permitted
  | identified | stamped =>
      cases op with
      | insert table row =>
          cases table <;> cases reply <;> exact UploadPhase.noConfusion isCommitted
      | writeFile => exact UploadPhase.noConfusion isCommitted
      | _ => cases permitted
  | begun | issuer | student | numbered | inserted =>
      cases op with
      | select table | refresh table =>
          cases table <;> first
            | exact (provided_ne UploadPhase.noConfusion isCommitted).elim
            | cases permitted
      | uuid4 =>
          first
          | exact (provided_ne UploadPhase.noConfusion isCommitted).elim
          | cases permitted
      | _ => cases permitted
  | profile | unknown | named =>
      cases op with
      | today | uuid4 | serverNow =>
          first
          | exact (provided_ne UploadPhase.noConfusion isCommitted).elim
          | cases permitted
      | _ => cases permitted

/-- Only a commit changes what is committed. -/
theorem database_of_not_isCommit {Reply : Type} {op : Op Reply} (notCommit : ¬ op.isCommit = true)
    (store : Store) (session : Session) :
    (sessionHandler Reply op (store, session)).2.1.database = store.database := by
  cases sessionHandler_effect op store session with
  | quiet database | wrote _ _ _ database | rolledBack database => exact database
  | committed isCommit => exact absurd isCommit notCommit

end AcademicCredential.CertificateIssuanceService
