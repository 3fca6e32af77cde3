import AcademicCredential.Services.UploadAtomicity
import AcademicCredential.Services.UploadSteps

/-!
# Uploads side by side

Any number of uploads at the same time, statement by statement. Each reads the last UID of the year
without a lock and inserts the next one later; an insert that is refused is not tried again,
although the repository says that the caller retries. `Uploading` says that every upload is where
its phase says, and that what is committed since the start is of the uploads at their end.
`uploads_issued`: in every run in which no upload inserts a UID that is taken by then, every upload
that ends has issued its certificate, and all UIDs are different.
-/

namespace AcademicCredential.CertificateIssuanceService

open AcademicCredential.Lib

/-- The uploads side by side, with the store they share. -/
abbrev UploadWorld := Lib.World Op Exception CertificateDraft UploadCall Store Session

/-- One turn of the uploads side by side. -/
abbrev UploadTurn := Turn UploadCall Inputs (List MinedTransaction)

/-- The uploads side by side, over the operations of a session. -/
def uploadSystem (runtime : Runtime) :
    System Op Exception CertificateDraft UploadCall Inputs (List MinedTransaction) Store Session :=
  readCommitted (UploadCall.action runtime)

/-- The turn starts an upload of another kind, or of a file that is uploaded already. -/
def StartsUnexpected (runtime : Runtime) (start : Database) (world : UploadWorld)
    (turn : UploadTurn) : Prop :=
  ∃ call inputs, turn = .start call inputs ∧
    ¬ (inputs = call.upload.inputs ∧ call.Expected runtime start ∧
      ∀ thread ∈ world.threads, UploadCall.Apart runtime thread.call call)

/-- A certificate with the UID is committed, or another upload has inserted one. -/
def UidTaken (world : UploadWorld) (index : Nat) (certificateUid : String) : Prop :=
  (∃ row ∈ world.shared.database .certificates, row.certificateUid = certificateUid) ∨
    ∃ other thread, other ≠ index ∧ world.threads[other]? = some thread ∧
      ∃ row, .insert .certificates row ∈ thread.own.pending ∧ row.certificateUid = certificateUid

/-- The turn is for the INSERT of a certificate whose UID is taken, or not in the format of the
table. -/
def InsertsTakenUid (world : UploadWorld) (turn : UploadTurn) : Prop :=
  ∃ index thread row next, (turn = .operate index ∨ turn = .cancel index) ∧
    world.Reaches index thread (.insert .certificates row) next ∧
      (isCertificateUidText row.certificateUid = false ∨ UidTaken world index row.certificateUid)

/-- Every upload that has ended has issued its certificate, and the UIDs are different. -/
structure UploadsIssued (world : UploadWorld) : Prop where
  succeeded : ∀ thread ∈ world.threads, ∀ error, thread.program ≠ .raise error
  committed : ∀ thread ∈ world.threads, ∀ draft, thread.program = .ret draft →
    ∃ row : Certificate, world.shared.database.find? .certificates draft.certificateId = some row ∧
      row.certificateUid = draft.certificateUid ∧ row.sha256Hash = draft.sha256Hash
  distinct : ∀ (left right : Nat) (leftThread rightThread)
    (leftDraft rightDraft : CertificateDraft), left ≠ right → world.threads[left]? = some leftThread →
    world.threads[right]? = some rightThread → leftThread.program = .ret leftDraft →
    rightThread.program = .ret rightDraft → leftDraft.certificateUid ≠ rightDraft.certificateUid

/-- Some upload has committed its certificate, with this number. -/
def CommittedAs (world : UploadWorld) (phases : Nat → UploadPhase) (call : UploadCall)
    (sequence : Nat) : Prop :=
  ∃ (index : Nat) (thread : _), world.threads[index]? = some thread ∧ thread.call = call ∧
    phases index = .committed sequence

/-- What is committed since the start is of the uploads that are at their end. -/
structure CommittedRows (runtime : Runtime) (start : Database) (world : UploadWorld)
    (phases : Nat → UploadPhase) : Prop where
  tables : ∀ table, table ≠ .certificates → table ≠ .blockchainTransactions →
    world.shared.database table = start table
  certificates : ∀ row, row ∈ world.shared.database .certificates ↔
    row ∈ start .certificates ∨ ∃ call sequence, CommittedAs world phases call sequence ∧
      row = call.certificate runtime sequence
  transactions : ∀ row ∈ world.shared.database .blockchainTransactions,
    row ∈ start .blockchainTransactions ∨ ∃ call sequence, CommittedAs world phases call sequence ∧
      row = call.storeRow runtime

/-- Every upload is where its phase says. -/
structure Uploading (runtime : Runtime) (start : Database) (world : UploadWorld)
    (phases : Nat → UploadPhase) : Prop where
  isolated : Isolated world.shared.database (pendingOf world)
  tracks : (uploadOutline runtime).Tracks world phases
  calls : ∀ (index : Nat) thread, world.threads[index]? = some thread →
    (phases index).Holds runtime thread.call thread.own
  expected : ∀ call ∈ world.calls, UploadCall.Expected runtime start call
  apart : world.calls.Pairwise (UploadCall.Apart runtime)
  rows : CommittedRows runtime start world phases

/-- A call that goes on has committed when it had, or when its phase now says so. -/
theorem committedAs_resume {world : UploadWorld} {phases : Nat → UploadPhase} {index : Nat}
    {thread : Thread Op Exception CertificateDraft UploadCall Session}
    (found : world.threads[index]? = some thread)
    (underWay : ∀ sequence, phases index ≠ .committed sequence) {rest : Action CertificateDraft}
    {store : Store} {session : Session} {phase : UploadPhase} {call : UploadCall}
    {sequence : Nat} :
    CommittedAs (world.resume index thread rest store session)
        (Function.update phases index phase) call sequence ↔
      CommittedAs world phases call sequence ∨
        thread.call = call ∧ phase = .committed sequence := by
  simp only [CommittedAs, World.resume_threads found]
  constructor
  · rintro ⟨other, otherThread, foundOther, rfl, isCommitted⟩
    by_cases same : other = index
    · subst same
      rw [Function.update_self] at isCommitted
      rw [if_pos rfl] at foundOther
      cases foundOther
      exact .inr ⟨rfl, isCommitted⟩
    · rw [Function.update_of_ne same] at isCommitted
      rw [if_neg same] at foundOther
      exact .inl ⟨other, otherThread, foundOther, rfl, isCommitted⟩
  · rintro (⟨other, otherThread, foundOther, isCall, isCommitted⟩ | ⟨isCall, isCommitted⟩)
    · have different : other ≠ index := by
        rintro rfl
        exact underWay sequence isCommitted
      refine ⟨other, otherThread, ?_, isCall, ?_⟩
      · rw [if_neg different]
        exact foundOther
      · rw [Function.update_of_ne different]
        exact isCommitted
    · exact ⟨index, _, if_pos rfl, isCall, by rw [Function.update_self]; exact isCommitted⟩

/-- An upload that starts commits nothing. -/
theorem committedAs_start {runtime : Runtime} {world : UploadWorld} {phases : Nat → UploadPhase}
    {started call : UploadCall} {inputs : Inputs} {sequence : Nat} :
    CommittedAs ((uploadSystem runtime).apply world (.start started inputs))
        (Function.update phases world.threads.length .opening) call sequence ↔
      CommittedAs world phases call sequence := by
  constructor
  · rintro ⟨index, thread, found, isCall, isCommitted⟩
    by_cases isNew : index = world.threads.length
    · rw [isNew, Function.update_self] at isCommitted
      cases isCommitted
    · rw [Function.update_of_ne isNew] at isCommitted
      have bound := (List.getElem?_eq_some_iff.mp found).1
      simp only [System.apply, List.length_append, List.length_singleton] at bound
      have before : index < world.threads.length := by omega
      simp only [System.apply, List.getElem?_append_left before] at found
      exact ⟨index, thread, found, isCall, isCommitted⟩
  · rintro ⟨index, thread, found, isCall, isCommitted⟩
    have before := (List.getElem?_eq_some_iff.mp found).1
    refine ⟨index, thread, ?_, isCall, ?_⟩
    · simp only [System.apply, List.getElem?_append_left before]
      exact found
    · rw [Function.update_of_ne (Nat.ne_of_lt before)]
      exact isCommitted

/-- The committed rows depend on the certificates and on who has committed only. -/
theorem CommittedRows.congr {runtime : Runtime} {start : Database} {world after : UploadWorld}
    {phases later : Nat → UploadPhase} (rows : CommittedRows runtime start world phases)
    (database : after.shared.database = world.shared.database)
    (same : ∀ call sequence, CommittedAs world phases call sequence ↔
      CommittedAs after later call sequence) :
    CommittedRows runtime start after later := by
  refine ⟨?_, ?_, ?_⟩
  · rw [database]
    exact rows.tables
  · simpa only [database, ← same] using rows.certificates
  · simpa only [database, ← same] using rows.transactions

/-- Being apart is symmetric. -/
theorem UploadCall.Apart.symm {runtime : Runtime} {left right : UploadCall}
    (apart : UploadCall.Apart runtime left right) : UploadCall.Apart runtime right left :=
  ⟨apart.sha256Hash.symm, apart.certId.symm, apart.txId.symm⟩

namespace Uploading

variable {runtime : Runtime} {start : Database} {world : UploadWorld}
  {phases : Nat → UploadPhase}

/-- Two uploads under way are apart. -/
theorem apart_of_ne (uploading : Uploading runtime start world phases) {left right : Nat}
    {leftThread rightThread : Thread Op Exception CertificateDraft UploadCall Session}
    (foundLeft : world.threads[left]? = some leftThread)
    (foundRight : world.threads[right]? = some rightThread) (different : left ≠ right) :
    UploadCall.Apart runtime leftThread.call rightThread.call := by
  obtain ⟨leftBound, rfl⟩ := List.getElem?_eq_some_iff.mp foundLeft
  obtain ⟨rightBound, rfl⟩ := List.getElem?_eq_some_iff.mp foundRight
  have apart := List.pairwise_iff_getElem.mp (List.pairwise_map.mp uploading.apart)
  rcases Nat.lt_or_gt_of_ne different with before | after
  · exact apart left right leftBound rightBound before
  · exact (apart right left rightBound leftBound after).symm

/-- What is committed by others is no row of an upload under way. -/
theorem apart_committed (uploading : Uploading runtime start world phases) {index : Nat}
    {thread : Thread Op Exception CertificateDraft UploadCall Session}
    (found : world.threads[index]? = some thread)
    (underWay : ∀ sequence, phases index ≠ .committed sequence) {call : UploadCall} {sequence : Nat}
    (committed : CommittedAs world phases call sequence) :
    UploadCall.Apart runtime call thread.call := by
  obtain ⟨other, otherThread, foundOther, rfl, isCommitted⟩ := committed
  refine uploading.apart_of_ne foundOther found ?_
  rintro rfl
  exact underWay sequence isCommitted

/-- An upload under way finds no row of its own. -/
theorem room (uploading : Uploading runtime start world phases) {index : Nat}
    {thread : Thread Op Exception CertificateDraft UploadCall Session}
    (found : world.threads[index]? = some thread)
    (underWay : ∀ sequence, phases index ≠ .committed sequence) :
    thread.call.Room runtime start world.shared := by
  have expected := uploading.expected _ (List.mem_map_of_mem (List.mem_of_getElem? found))
  refine ⟨uploading.isolated.committed, uploading.rows.tables, fun row member => ?_,
    fun row member => ?_⟩
  · rcases (uploading.rows.certificates row).mp member with old | ⟨call, sequence, committed, rfl⟩
    · exact ⟨expected.newCertId row old, expected.newHash row old⟩
    · have apart := uploading.apart_committed found underWay committed
      exact ⟨apart.certId, apart.sha256Hash⟩
  · rcases uploading.rows.transactions row member with old | ⟨call, sequence, committed, rfl⟩
    · exact expected.newTxId row old
    · exact (uploading.apart_committed found underWay committed).txId

/-- Where a UID is not taken the INSERT shares no key with what others have pending. -/
theorem passes (uploading : Uploading runtime start world phases) {index : Nat}
    {thread : Thread Op Exception CertificateDraft UploadCall Session} {Reply : Type}
    {op : Op Reply} {next : Reply → Action CertificateDraft}
    (reaches : world.Reaches index thread op next)
    (permitted : (phases index).permits runtime thread.call op)
    (free : ∀ row : Certificate,
      thread.own.statement? world.shared op = some (.insert .certificates row) →
        ¬ UidTaken world index row.certificateUid) :
    Session.waits op world.shared thread.own (world.others index) = false := by
  have holds := uploading.calls index thread reaches.found
  rw [Session.waits]
  cases asked : thread.own.statement? world.shared op with
  | none => rfl
  | some write =>
      simp only [List.any_eq_false, Bool.not_eq_true]
      intro own isOther
      obtain ⟨other, otherThread, different, found, rfl⟩ := world.mem_others.mp isOther
      have otherHolds := uploading.calls other otherThread found
      have apart := uploading.apart_of_ne reaches.found found different.symm
      have room := uploading.room reaches.found (UploadPhase.ne_committed permitted)
      simp only [Session.collides, List.any_eq_false, List.contains_eq_mem, decide_eq_true_eq]
      intro key held alsoHeld
      have otherOwns : ∀ write ∈ otherThread.own.pending,
          otherThread.call.Owns runtime write := fun write member =>
        UploadPhase.owned (otherHolds.pending ▸ member)
      have otherUnderWay : ∀ sequence, phases other ≠ .committed sequence := by
        intro sequence isCommitted
        rw [otherHolds.pending, isCommitted] at alsoHeld
        exact absurd alsoHeld (heldKeys_nil world.shared.database write.table ▸ List.not_mem_nil)
      obtain ⟨theirs, isTheirs, inTheirs⟩ :=
        (uploading.room found otherUnderWay).exists_owned otherOwns alsoHeld
      rcases UploadPhase.asked permitted holds.possible asked with
        ⟨sequence, rfl, nothing⟩ | ⟨sequence, rfl, certificate⟩
      · have owns : ∀ write ∈ thread.own.pending ++ [Write.insert .certificates
            (thread.call.certificate runtime sequence)], thread.call.Owns runtime write := by
          rw [holds.pending, nothing]
          exact List.forall_mem_singleton.mpr ⟨sequence, rfl⟩
        obtain ⟨mine, isMine, inMine⟩ := room.exists_owned owns held
        rw [holds.pending, nothing, List.nil_append, List.mem_singleton] at isMine
        cases isMine
        obtain ⟨otherSequence, rfl⟩ := otherOwns _ isTheirs
        refine certificates_apart apart.certId (fun sameUid => ?_) apart.sha256Hash key inMine
          inTheirs
        exact free _ asked (.inr ⟨other, otherThread, different, found, _, isTheirs, sameUid.symm⟩)
      · have owns : ∀ write ∈ thread.own.pending ++ [Write.insert .blockchainTransactions
            (thread.call.storeRow runtime)], thread.call.Owns runtime write := by
          rw [holds.pending, certificate]
          exact List.forall_mem_cons.mpr ⟨⟨sequence, rfl⟩, List.forall_mem_singleton.mpr rfl⟩
        obtain ⟨mine, isMine, inMine⟩ := room.exists_owned owns held
        obtain rfl : mine = thread.call.storeRow runtime := owns _ isMine
        obtain rfl : theirs = otherThread.call.storeRow runtime := otherOwns _ isTheirs
        exact transactions_apart rfl apart.txId key inMine inTheirs

variable {turn : UploadTurn}

/-- The INSERT that a turn is for finds its UID free. -/
theorem insertable (clear : ¬ InsertsTakenUid world turn) {index : Nat}
    (isTurn : turn = .operate index ∨ turn = .cancel index)
    {thread : Thread Op Exception CertificateDraft UploadCall Session} {Reply : Type}
    {op : Op Reply} {next : Reply → Action CertificateDraft}
    (reaches : world.Reaches index thread op next) (row : Certificate)
    (asked : thread.own.statement? world.shared op = some (.insert .certificates row)) :
    isCertificateUidText row.certificateUid = true ∧
      ¬ UidTaken world index row.certificateUid := by
  cases op with
  | insert table inserted =>
      cases asked
      refine ⟨?_, fun taken => clear ⟨index, thread, _, next, isTurn, reaches, .inr taken⟩⟩
      by_contra notFormat
      exact clear ⟨index, thread, _, next, isTurn, reaches, .inl (Bool.not_eq_true _ ▸ notFormat)⟩
  | flush =>
      obtain ⟨changes, -, -, isUpdate⟩ := Session.statement?_flush asked
      cases isUpdate
  | executeUpdate =>
      obtain ⟨found, -, isUpdate⟩ := Option.map_eq_some_iff.mp asked
      cases isUpdate
  | _ => cases asked

/-- After a turn every upload is where its phase says. -/
theorem calls_advance (uploading : Uploading runtime start world phases) (valid : start.Valid)
    (configured : WellConfigured runtime) (asExpected : ¬ StartsUnexpected runtime start world turn)
    (clear : ¬ InsertsTakenUid world turn) {after : UploadWorld} {later : Nat → UploadPhase}
    (advance : System.Advance (uploadSystem runtime) (uploadOutline runtime) world phases turn after
      later) :
    ∀ (index : Nat) thread, after.threads[index]? = some thread →
      (later index).Holds runtime thread.call thread.own := by
  refine advance.holds (fun call _ session phase => phase.Holds runtime call session)
    ?_ ?_ (fun _ _ _ _ _ _ holds => holds) ?_ (fun _ _ _ _ holds => holds) uploading.calls
  · intro call inputs isTurn
    have sameInputs : inputs = call.upload.inputs := by
      by_contra different
      exact asExpected ⟨call, inputs, isTurn, fun expected => different expected.1⟩
    exact ⟨UploadPhase.noConfusion, sameInputs, rfl, rfl, fun _ _ => rfl, fun _ => rfl⟩
  · intro index thread Reply op next isTurn reaches permitted holds
    have expected := uploading.expected _ (List.mem_map_of_mem (List.mem_of_getElem? reaches.found))
    have room := uploading.room reaches.found (UploadPhase.ne_committed permitted)
    refine holds.perform valid configured expected room permitted fun row asked => ?_
    obtain ⟨format, free⟩ := insertable clear (.inl isTurn) reaches row asked
    exact ⟨format, fun other member sameUid => free (.inl ⟨other, member, sameUid⟩)⟩
  · intro index thread Reply op next reply isTurn reaches answer waits permitted holds
    have passes := uploading.passes reaches permitted fun row asked =>
      (insertable clear (.inr isTurn) reaches row asked).2
    exact absurd (passes.symm.trans waits) Bool.false_ne_true

/-- A call that starts is as expected, and apart from those before. -/
theorem started (uploading : Uploading runtime start world phases)
    (asExpected : ¬ StartsUnexpected runtime start world turn) :
    (∀ call ∈ ((uploadSystem runtime).apply world turn).calls,
      UploadCall.Expected runtime start call) ∧
      ((uploadSystem runtime).apply world turn).calls.Pairwise (UploadCall.Apart runtime) := by
  rw [System.calls_apply]
  cases turn with
  | start call inputs =>
      have starts : inputs = call.upload.inputs ∧ call.Expected runtime start ∧
          ∀ thread ∈ world.threads, UploadCall.Apart runtime thread.call call := by
        by_contra different
        exact asExpected ⟨call, inputs, rfl, different⟩
      obtain ⟨-, expected, apart⟩ := starts
      refine ⟨fun other member => ?_, List.pairwise_append.mpr ⟨uploading.apart,
        List.pairwise_singleton _ _, fun other member new isNew => ?_⟩⟩
      · rcases List.mem_append.mp member with isOld | isNew
        · exact uploading.expected other isOld
        · rw [List.mem_singleton.mp isNew]
          exact expected
      · obtain ⟨thread, isThread, rfl⟩ := List.mem_map.mp member
        rw [List.mem_singleton.mp isNew]
        exact apart thread isThread
  | operate | cancel | change =>
      rw [Turn.started, List.append_nil]
      exact ⟨uploading.expected, uploading.apart⟩

/-- A turn that commits nothing. -/
theorem rows_quiet (uploading : Uploading runtime start world phases) {index : Nat}
    {thread : Thread Op Exception CertificateDraft UploadCall Session} {Reply : Type}
    {op : Op Reply} {next : Reply → Action CertificateDraft}
    (reaches : world.Reaches index thread op next)
    (permitted : (phases index).permits runtime thread.call op) {rest : Action CertificateDraft}
    {store : Store} {session : Session} {phase : UploadPhase}
    (database : store.database = world.shared.database)
    (notCommitted : ∀ sequence, phase ≠ .committed sequence) :
    CommittedRows runtime start (world.resume index thread rest store session)
      (Function.update phases index phase) := by
  refine uploading.rows.congr database fun call sequence => ?_
  rw [committedAs_resume reaches.found (UploadPhase.ne_committed permitted)]
  exact (or_iff_left fun committed => notCommitted sequence committed.2).symm

/-- A commit adds the certificate and the transaction of its upload. -/
theorem rows_commit (uploading : Uploading runtime start world phases) {index : Nat}
    {thread : Thread Op Exception CertificateDraft UploadCall Session}
    {next : Unit → Action CertificateDraft} (reaches : world.Reaches index thread .commit next)
    (permitted : (phases index).permits runtime thread.call .commit) :
    CommittedRows runtime start
      ((uploadSystem runtime).performed world index thread .commit next)
      (Function.update phases index
        ((phases index).next runtime thread.call .commit
          (sessionHandler _ .commit (world.shared, thread.own)).1)) := by
  have holds := uploading.calls index thread reaches.found
  obtain ⟨recorded, isRecorded⟩ : ∃ sequence, phases index = .recorded sequence := by
    cases phase : phases index with
    | recorded sequence => exact ⟨sequence, rfl⟩
    | impossible => exact absurd phase holds.possible
    | _ =>
        rw [phase] at permitted
        cases permitted
  have committed : ∀ call sequence,
      CommittedAs ((uploadSystem runtime).performed world index thread .commit next)
        (Function.update phases index (.committed recorded)) call sequence ↔
      CommittedAs world phases call sequence ∨
        thread.call = call ∧ UploadPhase.committed recorded = .committed sequence := fun _ _ =>
    committedAs_resume reaches.found (UploadPhase.ne_committed permitted)
  have database : ((uploadSystem runtime).performed world index thread .commit
      next).shared.database = applyWrites world.shared.database
        [.insert .certificates (thread.call.certificate runtime recorded),
          .insert .blockchainTransactions (thread.call.storeRow runtime)] := by
    change visible world.shared thread.own = _
    rw [visible, holds.pending, isRecorded]
    rfl
  rw [isRecorded]
  change CommittedRows runtime start _ (Function.update phases index (.committed recorded))
  refine ⟨fun table notCertificates notTransactions => ?_, fun row => ?_, fun row member => ?_⟩
  · rw [database]
    exact (Function.update_of_ne notTransactions ..).trans ((Function.update_of_ne notCertificates
      ..).trans (uploading.rows.tables table notCertificates notTransactions))
  · have certificates : applyWrites world.shared.database
        [.insert .certificates (thread.call.certificate runtime recorded),
          .insert .blockchainTransactions (thread.call.storeRow runtime)] .certificates =
        world.shared.database .certificates ++ [thread.call.certificate runtime recorded] := rfl
    rw [database, certificates, List.mem_append, List.mem_singleton, uploading.rows.certificates]
    simp only [committed, or_and_right, exists_or, or_assoc]
    refine or_congr_right (or_congr_right ⟨?_, ?_⟩)
    · rintro rfl
      exact ⟨_, _, ⟨rfl, rfl⟩, rfl⟩
    · rintro ⟨call, sequence, ⟨rfl, sameSequence⟩, rfl⟩
      cases sameSequence
      rfl
  · have transactions : applyWrites world.shared.database
        [.insert .certificates (thread.call.certificate runtime recorded),
          .insert .blockchainTransactions (thread.call.storeRow runtime)] .blockchainTransactions =
        world.shared.database .blockchainTransactions ++ [thread.call.storeRow runtime] := rfl
    rw [database, transactions, List.mem_append, List.mem_singleton] at member
    simp only [committed]
    rcases member with before | rfl
    · refine (uploading.rows.transactions row before).imp_right ?_
      rintro ⟨call, sequence, isCommitted, rfl⟩
      exact ⟨call, sequence, .inl isCommitted, rfl⟩
    · exact .inr ⟨_, recorded, .inr ⟨rfl, rfl⟩, rfl⟩

/-- What is committed after a turn. -/
theorem rows_advance (uploading : Uploading runtime start world phases) {after : UploadWorld}
    {later : Nat → UploadPhase}
    (advance : System.Advance (uploadSystem runtime) (uploadOutline runtime) world phases turn after
      later) : CommittedRows runtime start after later := by
  cases advance with
  | idle => exact uploading.rows
  | started call inputs =>
      refine uploading.rows.congr rfl fun call sequence => ?_
      exact committedAs_start.symm
  | changed mined => exact uploading.rows.congr rfl fun _ _ => Iff.rfl
  | @performed index thread Reply op next reaches passes permitted =>
      have holds := uploading.calls index thread reaches.found
      by_cases isCommit : op.isCommit = true
      · cases op with
        | commit => exact uploading.rows_commit reaches permitted
        | _ => cases isCommit
      · refine uploading.rows_quiet reaches permitted ?_ ?_
        · exact database_of_not_isCommit isCommit world.shared thread.own
        · intro sequence isCommitted
          exact isCommit (UploadPhase.of_next_committed permitted isCommitted holds.possible).2
  | @cancelled index thread Reply op next reaches reply answer waits permitted =>
      have holds := uploading.calls index thread reaches.found
      refine uploading.rows_quiet reaches permitted rfl fun sequence isCommitted => ?_
      have isCommit := (UploadPhase.of_next_committed permitted isCommitted holds.possible).2
      cases op with
      | commit => cases answer
      | _ => cases isCommit

/-- Whatever turn comes next, it stays so. -/
theorem apply (uploading : Uploading runtime start world phases) (valid : start.Valid)
    (configured : WellConfigured runtime) (asExpected : ¬ StartsUnexpected runtime start world turn)
    (clear : ¬ InsertsTakenUid world turn) :
    ∃ later, Uploading runtime start ((uploadSystem runtime).apply world turn) later := by
  obtain ⟨later, advance, tracks⟩ : ∃ later,
      System.Advance (uploadSystem runtime) (uploadOutline runtime) world phases turn
        ((uploadSystem runtime).apply world turn) later ∧
      (uploadOutline runtime).Tracks ((uploadSystem runtime).apply world turn) later :=
    System.exists_advance (obeys_action runtime) uploading.tracks turn
  have calls := uploading.calls_advance valid configured asExpected clear advance
  obtain ⟨expected, apart⟩ := uploading.started asExpected
  exact ⟨later, isolated_apply uploading.isolated turn, tracks, calls, expected, apart,
    uploading.rows_advance advance⟩

/-- The invariant holds before the first turn. -/
theorem initial (valid : start.Valid) (chain : Chain) (files : List (String × List UInt8)) :
    Uploading runtime start ⟨⟨start, chain, files⟩, []⟩ fun _ => .opening := by
  have nothing : pendingOf (⟨⟨start, chain, files⟩, []⟩ : UploadWorld) = fun _ => [] := by
    ext1 index
    simp [pendingOf]
  have nobody : ∀ call sequence, ¬ CommittedAs (⟨⟨start, chain, files⟩, []⟩ : UploadWorld)
      (fun _ => .opening) call sequence := by
    rintro call sequence ⟨index, thread, found, -⟩
    simp at found
  refine ⟨?_, fun _ _ found => ?_, fun _ _ found => ?_, fun _ member => ?_, .nil, ?_⟩
  · rw [nothing]
    exact .idle valid
  · simp at found
  · simp at found
  · cases member
  · exact ⟨fun _ _ _ => rfl, fun row => by simp [nobody], fun row member => .inl member⟩

/-- An upload that has ended has committed its certificate. -/
theorem ended (uploading : Uploading runtime start world phases) {index : Nat}
    {thread : Thread Op Exception CertificateDraft UploadCall Session}
    (found : world.threads[index]? = some thread) :
    (∀ error, thread.program ≠ .raise error) ∧
      ∀ draft, thread.program = .ret draft → ∃ sequence,
        phases index = .committed sequence ∧
          draft = thread.call.upload.draft runtime thread.call.parties sequence := by
  have holds := uploading.calls index thread found
  have obeys := uploading.tracks index thread found
  refine ⟨fun error isRaise => ?_, fun draft isRet => ?_⟩
  · rw [System.Outline.Follows, isRaise] at obeys
    change thread.call.Ends runtime (phases index) (.error error) at obeys
    cases phase : phases index with
    | impossible => exact holds.possible phase
    | _ => rw [phase] at obeys; exact obeys
  · rw [System.Outline.Follows, isRet] at obeys
    change thread.call.Ends runtime (phases index) (.ok draft) at obeys
    cases phase : phases index with
    | impossible => exact absurd phase holds.possible
    | committed sequence =>
        rw [phase] at obeys
        exact ⟨sequence, rfl, obeys⟩
    | _ => rw [phase] at obeys; exact obeys.elim

/-- The certificates of the uploads that have ended are committed, with UIDs of their own. -/
theorem issued (uploading : Uploading runtime start world phases) : UploadsIssued world := by
  have stored : ∀ {index : Nat} {thread}, world.threads[index]? = some thread → ∀ {draft},
      thread.program = .ret draft → ∃ sequence,
        thread.call.certificate runtime sequence ∈ world.shared.database .certificates ∧
          draft = thread.call.upload.draft runtime thread.call.parties sequence := by
    intro index thread found draft isRet
    obtain ⟨sequence, isCommitted, isDraft⟩ := (uploading.ended found).2 draft isRet
    exact ⟨sequence, (uploading.rows.certificates _).mpr
      (.inr ⟨_, sequence, ⟨index, thread, found, rfl, isCommitted⟩, rfl⟩), isDraft⟩
  refine ⟨fun thread member error => ?_, fun thread member draft isRet => ?_, ?_⟩
  · obtain ⟨index, found⟩ := List.mem_iff_getElem?.mp member
    exact (uploading.ended found).1 error
  · obtain ⟨index, found⟩ := List.mem_iff_getElem?.mp member
    obtain ⟨sequence, isStored, rfl⟩ := stored found isRet
    exact ⟨_, uploading.isolated.committed.keyed.find? isStored, rfl, rfl⟩
  · intro left right leftThread rightThread leftDraft rightDraft different foundLeft foundRight
      leftRet rightRet sameUid
    obtain ⟨leftSequence, leftStored, rfl⟩ := stored foundLeft leftRet
    obtain ⟨rightSequence, rightStored, rfl⟩ := stored foundRight rightRet
    have apart := uploading.apart_of_ne foundLeft foundRight different
    have otherRow : leftThread.call.certificate runtime leftSequence ≠
        rightThread.call.certificate runtime rightSequence := fun same =>
      apart.certId (congrArg Certificate.id same)
    have otherKeys := uploading.isolated.committed.apart_of_ne leftStored rightStored otherRow
    let certificateUid := (leftThread.call.certificate runtime leftSequence).certificateUid
    refine otherKeys ⟨"certificate_uid", .text certificateUid⟩
      (by simp [uniqueKeys, certificateUid]) ?_
    have sameText : certificateUid =
        (rightThread.call.certificate runtime rightSequence).certificateUid := sameUid
    simp [uniqueKeys, sameText]

end Uploading

/-- In every run of uploads of new and different files in which no upload inserts a UID that is
taken by then, every upload that ends has issued its certificate, with a UID of its own. -/
theorem uploads_issued (runtime : Runtime) (start : ValidStore) (configured : WellConfigured runtime)
    (run : List UploadTurn)
    (uploads : ∀ index, ¬ OccursAt (uploadSystem runtime).apply ⟨start.toStore, []⟩ run
      (StartsUnexpected runtime start.database) index)
    (clear : ∀ index, ¬ OccursAt (uploadSystem runtime).apply ⟨start.toStore, []⟩ run
      InsertsTakenUid index) :
    UploadsIssued (stateAfter (uploadSystem runtime).apply ⟨start.toStore, []⟩ run) := by
  let Bad : UploadWorld → UploadTurn → Prop := fun world turn =>
    StartsUnexpected runtime start.database world turn ∨ InsertsTakenUid world turn
  have preserved : ∀ world turn, (∃ phases, Uploading runtime start.database world phases) →
      ¬ Bad world turn →
      ∃ phases, Uploading runtime start.database ((uploadSystem runtime).apply world turn) phases := by
    rintro world turn ⟨phases, uploading⟩ good
    rw [not_or] at good
    exact uploading.apply start.valid configured good.1 good.2
  have never : ∀ index, ¬ OccursAt (uploadSystem runtime).apply ⟨start.toStore, []⟩ run Bad
      index := by
    rintro index ⟨turn, isTurn, unexpected | taken⟩
    · exact uploads index ⟨turn, isTurn, unexpected⟩
    · exact clear index ⟨turn, isTurn, taken⟩
  obtain ⟨phases, uploading⟩ := @stateAfter_invariant_of_never _ _ (uploadSystem runtime).apply _ Bad
    preserved _ ⟨_, .initial start.valid start.chain start.files⟩ run never
  exact uploading.issued

/-- The upload has ended in an error. -/
def hasFailed (program : Action CertificateDraft) : Bool :=
  match program with
  | .raise _ => true
  | _ => false

/-- An upload that has failed is an error. -/
theorem exists_error_of_hasFailed {program : Action CertificateDraft}
    (failed : hasFailed program = true) : ∃ error, program = .raise error := by
  cases program with
  | raise error => exact ⟨error, rfl⟩
  | _ => cases failed

/-- The write inserts a certificate of that UID. -/
def insertsCertificate (certificateUid : String) : Write → Bool
  | .insert .certificates row => Certificate.certificateUid row == certificateUid
  | _ => false

/-- A check that finds every turn of `InsertsTakenUid`. -/
def mayInsertTakenUid (world : UploadWorld) (turn : UploadTurn) : Bool :=
  match turn with
  | .operate index | .cancel index =>
      match world.threads[index]? with
      | none => false
      | some thread =>
          match thread.program with
          | .step (.insert .certificates row) _ =>
              let certificateUid := Certificate.certificateUid row
              !isCertificateUidText certificateUid ||
                (world.shared.database .certificates).any
                  (fun row => Certificate.certificateUid row == certificateUid) ||
                (world.others index).any fun session =>
                  session.pending.any (insertsCertificate certificateUid)
          | _ => false
  | _ => false

/-- A turn that passes the check inserts no UID that is taken. -/
theorem not_insertsTakenUid {world : UploadWorld} {turn : UploadTurn}
    (checked : mayInsertTakenUid world turn = false) : ¬ InsertsTakenUid world turn := by
  rintro ⟨index, thread, row, next, isTurn, reaches, taken⟩
  have notTaken : (!isCertificateUidText row.certificateUid ||
      (world.shared.database .certificates).any
        (fun other => other.certificateUid == row.certificateUid) ||
      (world.others index).any fun session =>
        session.pending.any (insertsCertificate row.certificateUid)) = false := by
    rcases isTurn with rfl | rfl <;>
      simpa only [mayInsertTakenUid, reaches.found, reaches.program] using checked
  simp only [Bool.or_eq_false_iff, Bool.not_eq_false', List.any_eq_false, beq_iff_eq] at notTaken
  obtain ⟨⟨format, uncommitted⟩, unwritten⟩ := notTaken
  rcases taken with notFormat | ⟨other, member, sameUid⟩ | ⟨other, otherThread, different, found,
    otherRow, isPending, sameUid⟩
  · exact absurd (format.symm.trans notFormat) (by decide)
  · exact uncommitted other member sameUid
  · have isOther := world.mem_others.mpr ⟨other, otherThread, different, found, rfl⟩
    refine unwritten _ isOther (List.any_eq_true.mpr ⟨_, isPending, ?_⟩)
    simp [insertsCertificate, sameUid]

namespace Sample

open AcademicCredential.Sample

/-- The file of the second upload. -/
def newerFile : List UInt8 := [0x25, 0x50, 0x44, 0x46, 0x2d, 0x31, 0x2e, 0x37]

/-- The settings of the samples, with the hashes of the files `%PDF-1.4` and `%PDF-1.7`. -/
def twoFiles : Runtime :=
  { Runtime.sample with
    sha256 := fun bytes =>
      if bytes = newerFile then
        ⟨[0x86, 0xed, 0xba, 0xa2, 0x48, 0x31, 0xba, 0xdf, 0xa0, 0xa8, 0xb0, 0x4b, 0xb4, 0x10, 0x14,
          0x1e, 0x2e, 0xe4, 0x18, 0x2b, 0x6d, 0x00, 0x14, 0x49, 0x3f, 0xe2, 0x62, 0xa7, 0xa3, 0x31,
          0xc2, 0x0b], rfl⟩
      else
        ⟨[0xe1, 0x6f, 0xa5, 0xd9, 0xb5, 0x19, 0x28, 0x75, 0x5d, 0xb8, 0x5b, 0x91, 0x7f, 0x02, 0x97,
          0xba, 0xba, 0xf2, 0x2c, 0x7a, 0x47, 0xe9, 0x7d, 0x92, 0x12, 0xad, 0xab, 0x56, 0xe6, 0x1b,
          0xa0, 0x4e], rfl⟩ }

/-- The two files are served as they were uploaded. -/
theorem twoFiles_configured : WellConfigured twoFiles :=
  ⟨sample_configured.contractAddress, sample_configured.networkName,
    sample_configured.networkChainId⟩

/-- The administrator and the graduate of the samples. -/
def parties : Parties := ⟨university, wallet, graduate⟩

/-- A degree of the sample graduate, with a first and a second file. -/
def first : UploadCall where
  upload := { degree "BSc" with fileBytes := [0x25, 0x50, 0x44, 0x46, 0x2d, 0x31, 0x2e, 0x34] }
  parties

/-- The second upload. -/
def second : UploadCall where
  upload := { degree "BSc" with
    fileBytes := newerFile
    inputs := { inputs answered with uuid4 := fun read => 200 + read } }
  parties

/-- The turns in which both uploads start. -/
def starts : List UploadTurn :=
  [.start first first.upload.inputs, .start second second.upload.inputs]

/-- So many turns of one call. -/
def operations (thread count : Nat) : List UploadTurn := List.replicate count (.operate thread)

/-- One upload after the other. -/
def oneByOne : List UploadTurn := starts ++ operations 0 16 ++ operations 1 16

/-- The second upload begins and commits after the first has read the last UID. -/
def meanwhile : List UploadTurn := starts ++ operations 0 6 ++ operations 1 16 ++ operations 0 5

/-- The world after a run. -/
def worldAfter (run : List UploadTurn) : UploadWorld :=
  stateAfter (uploadSystem twoFiles).apply ⟨campus.toStore, []⟩ run

/-- Both uploads find what they expect. -/
theorem expected {call : UploadCall} (among : call = first ∨ call = second) :
    call.Expected twoFiles campus.database := by
  rcases among with rfl | rfl <;> exact {
    between := ⟨⟨by decide +kernel, rfl, by decide +kernel⟩, ⟨by decide +kernel, by decide +kernel⟩⟩
    fits := {
      texts := by decide
      degreeTitle := by decide
      fieldOfStudy := by decide
      gradeClassification := by simp [first, second, degree]
      honors := by simp [first, second, degree]
      issueDate := by decide
      expiryDate := by simp [first, second, degree]
      fileName := by decide
      fileSize := by decide }
    newHash := fun _ member => absurd member List.not_mem_nil
    newCertId := fun _ member => absurd member List.not_mem_nil
    newTxId := fun _ member => absurd member List.not_mem_nil }

/-- The uploads of the samples are as expected. -/
theorem starts_expected {rest : List UploadTurn}
    (operates : ∀ turn ∈ rest, ∃ thread, turn = .operate thread) (index : Nat) :
    ¬ OccursAt (uploadSystem twoFiles).apply ⟨campus.toStore, []⟩ (starts ++ rest)
      (StartsUnexpected twoFiles campus.database) index := by
  rintro ⟨turn, isTurn, call, inputs, rfl, unexpected⟩
  rcases index with _ | _ | index
  · cases isTurn
    exact unexpected ⟨rfl, expected (.inl rfl), fun _ member => absurd member List.not_mem_nil⟩
  · cases isTurn
    refine unexpected ⟨rfl, expected (.inr rfl), fun thread member => ?_⟩
    rw [List.mem_singleton.mp member]
    exact ⟨by decide +kernel, by decide, by decide⟩
  · obtain ⟨thread, isOperate⟩ := operates _ (List.mem_of_getElem? isTurn)
    cases isOperate

/-- The turns of one call are its operations. -/
theorem operates_operations {turn : UploadTurn} {thread count : Nat}
    (member : turn ∈ operations thread count) : ∃ thread, turn = .operate thread :=
  ⟨thread, List.eq_of_mem_replicate member⟩

/-- No turn of the uploads one after the other inserts a UID that is taken. -/
theorem oneByOne_checked : ∀ index < 34, ∀ turn ∈ oneByOne[index]?,
    mayInsertTakenUid (worldAfter (oneByOne.take index)) turn = false := by
  decide +kernel

end Sample

/-- Two uploads, one after the other, are both issued. -/
theorem uploads_issued_one_by_one : UploadsIssued (Sample.worldAfter Sample.oneByOne) := by
  refine uploads_issued Sample.twoFiles Sample.campus Sample.twoFiles_configured Sample.oneByOne
    ?_ ?_
  · have isRun : Sample.oneByOne =
        Sample.starts ++ (Sample.operations 0 16 ++ Sample.operations 1 16) := rfl
    rw [isRun]
    refine Sample.starts_expected fun turn member => ?_
    rcases List.mem_append.mp member with isFirst | isSecond
    · exact Sample.operates_operations isFirst
    · exact Sample.operates_operations isSecond
  · intro index occurred
    have bound : index < 34 := occurred.lt_length
    obtain ⟨turn, isTurn, taken⟩ := occurred
    exact not_insertsTakenUid (Sample.oneByOne_checked index bound turn isTurn) taken

/-- Both uploads read the same last UID; the later INSERT fails, and is not tried again. -/
theorem uid_conflict_fails :
    (∀ index, ¬ OccursAt (uploadSystem Sample.twoFiles).apply ⟨Sample.campus.toStore, []⟩
        Sample.meanwhile (StartsUnexpected Sample.twoFiles Sample.campus.database) index) ∧
      ¬ UploadsIssued (Sample.worldAfter Sample.meanwhile) := by
  constructor
  · have isRun : Sample.meanwhile = Sample.starts ++
        (Sample.operations 0 6 ++ Sample.operations 1 16 ++ Sample.operations 0 5) := rfl
    rw [isRun]
    refine Sample.starts_expected fun turn member => ?_
    simp only [List.mem_append] at member
    rcases member with (isFirst | isSecond) | isFirst
    · exact Sample.operates_operations isFirst
    · exact Sample.operates_operations isSecond
    · exact Sample.operates_operations isFirst
  · intro issued
    have fails : ((Sample.worldAfter Sample.meanwhile).threads.any fun thread =>
        hasFailed thread.program) = true := by decide +kernel
    obtain ⟨thread, member, failed⟩ := List.any_eq_true.mp fails
    obtain ⟨error, isRaise⟩ := exists_error_of_hasFailed failed
    exact issued.succeeded thread member error isRaise

end AcademicCredential.CertificateIssuanceService
