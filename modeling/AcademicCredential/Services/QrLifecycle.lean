import AcademicCredential.Services.QrCalls

/-!
# The life of a QR row

A generation sets the active row of its certificate inactive and inserts another. The partial
UNIQUE index and the CHECK constraints keep the rows in order whatever runs at the same time, and
no UPDATE makes a row active again: a token that was deactivated stays so.
-/

namespace AcademicCredential

open AcademicCredential.Lib
open AcademicCredential.QrVerificationService

/-- A turn of a thread that changes what is committed. -/
def Changes (runtime : Runtime) (index : Nat) (world : QrWorld) (turn : QrTurn) : Prop :=
  (turn = .operate index ∨ turn = .cancel index) ∧
    ((qrSystem runtime).apply world turn).shared.database ≠ world.shared.database

/-- The COMMIT of a thread, after which the token is an active one of the certificate. -/
def CommitsActive (runtime : Runtime) (index : Nat) (certId : Uuid) (token : String)
    (world : QrWorld) (turn : QrTurn) : Prop :=
  turn = .operate index ∧ (∃ thread next, world.Reaches index thread .commit next) ∧
    ∃ row ∈ ((qrSystem runtime).apply world turn).shared.database .qrVerifications,
      row.certificateId = certId ∧ row.token = token ∧ row.isActive = true

/-- The QR rows that are committed after some turns. -/
def qrRows (runtime : Runtime) (store : Store) (run : List QrTurn) : List QRVerification :=
  (qrWorld runtime store run).shared.database .qrVerifications

/-- What holds of the codes in every run. -/
structure QrLifecycle (runtime : Runtime) (store : Store) (run : List QrTurn) : Prop where
  oneActive : ∀ left ∈ qrRows runtime store run, ∀ right ∈ qrRows runtime store run,
    left.isActive = true → right.isActive = true → left.certificateId = right.certificateId →
      left = right
  deactivatedAt : ∀ row ∈ qrRows runtime store run,
    row.deactivatedAt.isSome = true ↔ row.isActive = false
  neverAgain : ∀ earlier, ∀ old ∈ qrRows runtime store (run.take earlier), old.isActive = false →
    ∀ row ∈ qrRows runtime store run, row.token = old.token → row.isActive = false
  /-- A generation that raises has changed nothing. -/
  raised : ∀ index thread certId userId error,
    (qrWorld runtime store run).threads[index]? = some thread →
    thread.call.call = .generate certId userId → thread.program = .raise error →
    ∀ position, ¬ OccursAt (qrSystem runtime).apply ⟨store, []⟩ run (Changes runtime index) position
  /-- A generation that returns has committed its token as an active one. -/
  returned : ∀ index thread certId userId answer,
    (qrWorld runtime store run).threads[index]? = some thread →
    thread.call.call = .generate certId userId → thread.program = .ret answer →
    ∃ qr position, answer = .generated qr ∧ OccursAt (qrSystem runtime).apply ⟨store, []⟩ run
      (CommitsActive runtime index certId qr.token) position

/-- A certificate has at most one active code. -/
theorem one_active {database : Database} (valid : database.Valid) :
    ∀ left ∈ database .qrVerifications, ∀ right ∈ database .qrVerifications,
      left.isActive = true → right.isActive = true → left.certificateId = right.certificateId →
        left = right := by
  intro left isLeft right isRight leftActive rightActive sameCertificate
  by_contra different
  have apart := @Database.Valid.apart_of_ne _ valid .qrVerifications _ _ isLeft isRight different
  refine apart ⟨"uq_qr_one_active_per_certificate", .uuid left.certificateId⟩ ?_ ?_
  · simp [uniqueKeys, leftActive]
  · simp [uniqueKeys, rightActive, sameCertificate]

/-- A code has a time of deactivation exactly when it is inactive. -/
theorem deactivatedAt_iff {database : Database} (valid : database.Valid) {row : QRVerification}
    (member : row ∈ database .qrVerifications) :
    row.deactivatedAt.isSome = true ↔ row.isActive = false := by
  have admissible := violation?_eq_none.mp (valid.admissible .qrVerifications row member)
  simp only [constraints, QRVerification.constraints, List.forall_mem_cons] at admissible
  obtain ⟨-, -, -, -, -, -, deactivation, -⟩ := admissible
  simp only [Truth.passes_or, Truth.passes_and, Truth.passes_certain, Truth.passes_isNull,
    Truth.passes_isNotNull, Bool.or_eq_true, Bool.and_eq_true, Bool.not_eq_true'] at deactivation
  rcases deactivation with ⟨active, unset⟩ | ⟨inactive, set⟩
  · refine iff_of_false (fun set => ?_) (fun inactive => ?_)
    · rw [Option.isNone_iff_eq_none.mp unset] at set
      cases set
    · rw [active] at inactive
      cases inactive
  · exact iff_of_true set inactive

/-- An inactive row has the token. -/
def Retired (token : String) (database : Database) : Prop :=
  ∃ row ∈ database .qrVerifications, row.token = token ∧ row.isActive = false

namespace Retired

variable {token : String} {database : Database}

/-- A retired token stays retired under an update that reactivates nothing. -/
theorem update (retired : Retired token database) {id : Uuid} {assignments : List QRAssignment}
    (keeps : ∀ row : QRVerification, (@assignAll .qrVerifications row assignments).token = row.token ∧
      (row.isActive = false → (@assignAll .qrVerifications row assignments).isActive = false)) :
    Retired token ((Write.update .qrVerifications id assignments).apply database) := by
  obtain ⟨row, member, isToken, inactive⟩ := retired
  by_cases same : @rowId .qrVerifications row = id
  · refine ⟨@assignAll .qrVerifications row assignments, ?_, (keeps row).1.trans isToken,
      (keeps row).2 inactive⟩
    simp only [Write.apply, Function.update_self, updateRows, List.mem_map]
    exact ⟨row, member, if_pos same⟩
  · refine ⟨row, ?_, isToken, inactive⟩
    simp only [Write.apply, Function.update_self, updateRows, List.mem_map]
    exact ⟨row, member, if_neg same⟩

/-- A retired token stays retired when a row is inserted. -/
theorem insert (retired : Retired token database) (table : Table) (row : Row table) :
    Retired token ((Write.insert table row).apply database) := by
  obtain ⟨old, member, rest⟩ := retired
  refine ⟨old, ?_, rest⟩
  by_cases same : table = .qrVerifications
  · subst same
    simp only [Write.apply, Function.update_self]
    exact List.mem_append_left _ member
  · have elsewhere : (Write.insert table row).table ≠ .qrVerifications := same
    rw [Write.apply_of_ne elsewhere]
    exact member

/-- A retired token stays retired under deactivations. -/
theorem deactivations (retired : Retired token database) {writes : List Write}
    (deactivations : ∀ write ∈ writes, Deactivates write) :
    Retired token (applyWrites database writes) := by
  induction writes using List.reverseRecOn with
  | nil => exact retired
  | append_singleton writes write inductionHypothesis =>
      rw [applyWrites_snoc]
      have before := inductionHypothesis fun other member => deactivations other
        (List.mem_append_left _ member)
      cases deactivations write (List.mem_append_right _ (List.mem_singleton_self write)) with
      | update id now among =>
          refine before.update fun row => ?_
          obtain ⟨-, sameToken, -, stays⟩ := assignAll_deactivation among row
          exact ⟨sameToken, stays⟩

/-- What a call commits keeps the row. -/
theorem commit (retired : Retired token database) {call : QrCall} {pending : List Write}
    {phase : QrPhase} (holds : phase.Holds call database pending) :
    Retired token (applyWrites database pending) := by
  have counts : ∀ {database : Database}, Retired token database → ∀ id now,
      Retired token ((counts id now).apply database) := fun retired id now =>
    retired.update fun row => ⟨rfl, fun inactive => inactive⟩
  cases phase with
  | reading seen => exact retired.deactivations holds.2
  | generated row =>
      obtain ⟨-, earlier, rfl, deactivations⟩ := holds
      rw [applyWrites_snoc]
      exact (retired.deactivations deactivations).insert _ _
  | counted id =>
      obtain ⟨-, earlier, now, rfl, deactivations⟩ := holds
      rw [applyWrites_snoc]
      exact counts (retired.deactivations deactivations) id now
  | logged =>
      obtain ⟨id, -, earlier, now, log, -, rfl, deactivations⟩ := holds
      rw [applyWrites_snoc, applyWrites_snoc]
      exact (counts (retired.deactivations deactivations) id now).insert _ _
  | committed row =>
      obtain rfl : pending = [] := holds
      exact retired
  | closed =>
      obtain rfl : pending = [] := holds
      exact retired

end Retired

/-- Once a token was deactivated, some inactive row keeps it. -/
theorem retired_kept {runtime : Runtime} {token : String} {world : QrWorld} {phases : Nat → QrPhase}
    (orderly : Orderly world phases) (retired : Retired token world.shared.database)
    (run : List QrTurn) :
    Retired token (stateAfter (qrSystem runtime).apply world run).shared.database := by
  have kept : ∃ phases, Orderly (stateAfter (qrSystem runtime).apply world run) phases ∧
      Retired token (stateAfter (qrSystem runtime).apply world run).shared.database := by
    induction run using List.reverseRecOn with
    | nil => exact ⟨phases, orderly, retired⟩
    | append_singleton run turn inductionHypothesis =>
        obtain ⟨phases, orderly, retired⟩ := inductionHypothesis
        obtain ⟨later, advance, stillOrderly⟩ := @Orderly.step runtime _ _ orderly turn
        rw [stateAfter_snoc]
        refine ⟨later, stillOrderly, ?_⟩
        rcases Orderly.database_advance advance with same | committed
        · rw [same]
          exact retired
        · obtain ⟨index, thread, next, -, reaches, -, database, -⟩ := committed
          rw [database]
          exact retired.commit (orderly.holds index thread reaches.found)
  exact kept.elim fun _ both => both.2

/-- A call is committed only by committing what it has generated. -/
theorem next_committed {phase : QrPhase} {Reply : Type} {op : Op Reply} {reply : Reply}
    {row : QRVerification} (opened : phase.isOpen = true)
    (committed : phase.next op reply = .committed row) :
    op.isCommit = true ∧ phase = .generated row := by
  have notCommitted : ∀ other, phase ≠ .committed other := by
    rintro other rfl
    cases opened
  cases op with
  | select table condition =>
      cases table with
      | qrVerifications =>
          cases phase with
          | committed other => cases opened
          | _ => cases committed
      | _ => exact absurd committed (notCommitted row)
  | refresh table id =>
      cases table with
      | qrVerifications =>
          cases phase with
          | committed other => cases opened
          | _ => cases committed
      | _ => exact absurd committed (notCommitted row)
  | insert table new =>
      cases reply with
      | error error => cases table <;> exact absurd committed (notCommitted row)
      | ok _ => cases table <;> first | exact absurd committed (notCommitted row) | cases committed
  | executeUpdate table id assignments =>
      cases reply with
      | error error => exact absurd committed (notCommitted row)
      | ok _ => cases committed
  | commit =>
      cases phase with
      | generated new =>
          cases committed
          exact ⟨rfl, rfl⟩
      | committed other => cases opened
      | _ => cases committed
  | rollback => cases committed
  | _ => exact absurd committed (notCommitted row)

/-- What a turn does to a thread: it goes on, in the phase it was in if it had committed. -/
theorem thread_advance {runtime : Runtime} {world after : QrWorld} {phases later : Nat → QrPhase}
    {turn : QrTurn}
    (advance : System.Advance (qrSystem runtime) qrOutline world phases turn after later)
    {index : Nat} {thread : Thread Op Exception QrAnswer QrRequest Session}
    (found : after.threads[index]? = some thread) :
    (world.threads[index]? = none ∧ later index = .reading []) ∨
      ∃ old, world.threads[index]? = some old ∧ old.call = thread.call ∧
        (later index = phases index ∨ (phases index).isOpen = true ∧
          ∀ row, later index = .committed row → phases index = .generated row ∧
            turn = .operate index ∧ (∃ next, world.Reaches index old .commit next) ∧
              after.shared.database = applyWrites world.shared.database old.own.pending) := by
  cases advance with
  | idle => exact .inr ⟨thread, found, rfl, .inl rfl⟩
  | changed mined => exact .inr ⟨thread, found, rfl, .inl rfl⟩
  | started request inputs =>
      simp only [System.apply, List.getElem?_append] at found
      split at found
      · rename_i before
        exact .inr ⟨thread, found, rfl, .inl (Function.update_of_ne (Nat.ne_of_lt before) _ _)⟩
      · have inside := (List.getElem?_eq_some_iff.mp found).1
        obtain rfl : index = world.threads.length := by simp at inside; omega
        exact .inl ⟨List.getElem?_eq_none (Nat.le_refl _), Function.update_self _ _ _⟩
  | @performed other old Reply op next reaches passes permitted =>
      rw [System.performed, World.resume_threads reaches.found] at found
      by_cases same : index = other
      · subst same
        rw [if_pos rfl] at found
        obtain rfl := Option.some.inj found
        refine .inr ⟨old, reaches.found, rfl, .inr ⟨permitted.1, fun row committed => ?_⟩⟩
        rw [Function.update_self] at committed
        obtain ⟨isCommit, generated⟩ := next_committed permitted.1 committed
        cases op with
        | commit => exact ⟨generated, rfl, ⟨next, reaches⟩, rfl⟩
        | _ => cases isCommit
      · rw [if_neg same] at found
        exact .inr ⟨thread, found, rfl, .inl (Function.update_of_ne same _ _)⟩
  | @cancelled other old Reply op next reaches reply answer waits permitted =>
      have isNext : (qrOutline.protocol old.call).next (phases other) op reply = phases other :=
        next_cancelled answer (phases other)
      rw [isNext, Function.update_eq_self]
      rw [World.resume_threads reaches.found] at found
      by_cases same : index = other
      · subst same
        rw [if_pos rfl] at found
        obtain rfl := Option.some.inj found
        exact .inr ⟨old, reaches.found, rfl, .inl rfl⟩
      · rw [if_neg same] at found
        exact .inr ⟨thread, found, rfl, .inl rfl⟩

/-- Threads are never removed. -/
theorem unstarted_before {runtime : Runtime} {world after : QrWorld} {phases later : Nat → QrPhase}
    {turn : QrTurn}
    (advance : System.Advance (qrSystem runtime) qrOutline world phases turn after later)
    {index : Nat} (unstarted : after.threads[index]? = none) : world.threads[index]? = none := by
  cases advance with
  | idle => exact unstarted
  | changed mined => exact unstarted
  | started request inputs =>
      simp only [System.apply, List.getElem?_eq_none_iff, List.length_append] at unstarted ⊢
      omega
  | performed reaches =>
      rw [System.performed, World.resume_threads reaches.found] at unstarted
      split at unstarted
      · cases unstarted
      · exact unstarted
  | cancelled reaches =>
      rw [World.resume_threads reaches.found] at unstarted
      split at unstarted
      · cases unstarted
      · exact unstarted

/-- What the history of a run says of its generations. -/
structure Recorded (runtime : Runtime) (store : Store) (run : List QrTurn)
    (phases : Nat → QrPhase) : Prop where
  orderly : Orderly (qrWorld runtime store run) phases
  unstarted : ∀ index, (qrWorld runtime store run).threads[index]? = none → ∀ position,
    ¬ OccursAt (qrSystem runtime).apply ⟨store, []⟩ run (Changes runtime index) position
  unchanged : ∀ index thread certId userId,
    (qrWorld runtime store run).threads[index]? = some thread →
    thread.call.call = .generate certId userId → (phases index).isOpen = true → ∀ position,
      ¬ OccursAt (qrSystem runtime).apply ⟨store, []⟩ run (Changes runtime index) position
  committed : ∀ index thread certId userId row,
    (qrWorld runtime store run).threads[index]? = some thread →
    thread.call.call = .generate certId userId → phases index = .committed row → ∃ position,
      OccursAt (qrSystem runtime).apply ⟨store, []⟩ run
        (CommitsActive runtime index certId row.token) position

/-- A turn of a generation changes something only if it commits its row. -/
theorem changes_commits {runtime : Runtime} {world : QrWorld} {phases later : Nat → QrPhase}
    {turn : QrTurn}
    (advance : System.Advance (qrSystem runtime) qrOutline world phases turn
      ((qrSystem runtime).apply world turn) later) {index : Nat}
    (changes : Changes runtime index world turn) :
    ∃ thread, world.threads[index]? = some thread ∧ ∀ certId userId,
      thread.call.call = .generate certId userId → (later index).isOpen = false := by
  rcases Orderly.database_advance advance with same | committed
  · exact absurd same changes.2
  · obtain ⟨other, thread, next, rfl, reaches, permitted, -, rfl⟩ := committed
    obtain rfl : other = index := by
      rcases changes.1 with operates | cancels
      · exact (Turn.operate.inj operates)
      · cases cancels
    refine ⟨thread, reaches.found, fun certId userId isCall => ?_⟩
    have commits : (phases other).commits thread.call.call := permitted.2
    rw [isCall] at commits
    obtain ⟨row, generated⟩ := commits
    rw [Function.update_self, generated]
    rfl

/-- One more turn keeps the record of the run. -/
theorem Recorded.snoc {runtime : Runtime} {store : Store} {run : List QrTurn}
    {phases : Nat → QrPhase} (recorded : Recorded runtime store run phases) (turn : QrTurn) :
    ∃ later, Recorded runtime store (run ++ [turn]) later := by
  obtain ⟨later, advance, orderly⟩ := @Orderly.step runtime _ _ recorded.orderly turn
  have isNext : qrWorld runtime store (run ++ [turn]) =
      (qrSystem runtime).apply (qrWorld runtime store run) turn := stateAfter_snoc ..
  refine ⟨later, ?_, fun index none position => ?_,
    fun index thread certId userId found isCall opened position => ?_,
    fun index thread certId userId row found isCall committed => ?_⟩
  · rw [isNext]
    exact orderly
  · rw [isNext] at none
    have before := unstarted_before advance none
    intro occurs
    rcases (occursAt_snoc ..).mp occurs with earlier | ⟨-, changes⟩
    · exact recorded.unstarted index before position earlier
    · obtain ⟨thread, found, -⟩ := changes_commits advance changes
      rw [before] at found
      cases found
  · rw [isNext] at found
    intro occurs
    rcases (occursAt_snoc ..).mp occurs with earlier | ⟨-, changes⟩
    · rcases thread_advance advance found with ⟨none, -⟩ | ⟨old, isOld, sameCall, phase⟩
      · exact recorded.unstarted index none position earlier
      · refine recorded.unchanged index old certId userId isOld (sameCall ▸ isCall) ?_ position earlier
        rcases phase with same | ⟨opened, -⟩
        · rw [← same]
          exact opened
        · exact opened
    · obtain ⟨old, isOld, closes⟩ := changes_commits advance changes
      rcases thread_advance advance found with ⟨none, -⟩ | ⟨other, isOther, sameCall, -⟩
      · rw [none] at isOld
        cases isOld
      · obtain rfl := Option.some.inj (isOld.symm.trans isOther)
        rw [closes certId userId (sameCall ▸ isCall)] at opened
        cases opened
  · rw [isNext] at found
    rcases thread_advance advance found with ⟨-, isReading⟩ | ⟨old, isOld, sameCall, phase⟩
    · rw [isReading] at committed
      cases committed
    · rcases phase with same | ⟨-, commits⟩
      · obtain ⟨position, occurs⟩ := recorded.committed index old certId userId row isOld
          (sameCall ▸ isCall) (same.symm.trans committed)
        exact ⟨position, (occursAt_snoc ..).mpr (.inl occurs)⟩
      · obtain ⟨generated, isTurn, ⟨next, reaches⟩, database⟩ := commits row committed
        refine ⟨run.length, (occursAt_snoc ..).mpr (.inr ⟨rfl, isTurn, ⟨old, next, reaches⟩, ?_⟩)⟩
        have holds := recorded.orderly.holds index old isOld
        rw [generated] at holds
        obtain ⟨inserts, earlier, isPending, -⟩ := holds
        rw [sameCall, isCall] at inserts
        refine ⟨row, ?_, inserts.1, rfl, inserts.2.1⟩
        rw [qrWorld] at database
        rw [database, isPending, applyWrites_snoc]
        simp [Write.apply]

/-- Every run has its record. -/
theorem exists_recorded (runtime : Runtime) {store : Store} (valid : store.database.Valid)
    (run : List QrTurn) : ∃ phases, Recorded runtime store run phases := by
  induction run using List.reverseRecOn with
  | nil =>
      refine ⟨fun _ => .reading [], .idle valid, fun index _ position => not_occursAt_nil _ _ _ _,
        fun index thread certId userId found => ?_, fun index thread certId userId row found => ?_⟩
      · simp [qrWorld] at found
      · simp [qrWorld] at found
  | append_singleton run turn inductionHypothesis =>
      obtain ⟨phases, recorded⟩ := inductionHypothesis
      exact recorded.snoc turn

/-- Whatever generations and scans run at the same time, and wherever they fail, the QR rows keep to
their lifecycle. -/
theorem qr_lifecycle (runtime : Runtime) (store : ValidStore) (run : List QrTurn) :
    QrLifecycle runtime store.toStore run := by
  obtain ⟨phases, recorded⟩ := exists_recorded runtime store.valid run
  have valid := recorded.orderly.isolated.committed
  constructor
  · exact one_active valid
  · exact fun row member => deactivatedAt_iff valid member
  · intro earlier old isOld inactive row member sameToken
    obtain ⟨earlierPhases, atEarlier⟩ := exists_recorded runtime store.valid (run.take earlier)
    have retired := @retired_kept runtime old.token _ _ atEarlier.orderly ⟨old, isOld, rfl, inactive⟩
      (run.drop earlier)
    rw [qrWorld, ← stateAfter_append, List.take_append_drop] at retired
    obtain ⟨kept, isKept, keptToken, keptInactive⟩ := retired
    have same : row = kept := by
      by_contra different
      have apart := @Database.Valid.apart_of_ne _ valid .qrVerifications _ _ member isKept different
      exact apart ⟨"token", .text old.token⟩ (by simp [uniqueKeys, sameToken])
        (by simp [uniqueKeys, keptToken])
    rw [same]
    exact keptInactive
  · intro index thread certId userId error found isCall raised
    have ends := recorded.orderly.tracks index thread found
    rw [System.Outline.Follows, raised] at ends
    exact recorded.unchanged index thread certId userId found isCall ends
  · intro index thread certId userId answer found isCall returned
    have ends := recorded.orderly.tracks index thread found
    rw [System.Outline.Follows, returned] at ends
    cases answer with
    | generated qr =>
        obtain ⟨row, committed, sameToken⟩ := ends
        obtain ⟨position, occurs⟩ := recorded.committed index thread certId userId row found isCall
          committed
        exact ⟨qr, position, rfl, sameToken ▸ occurs⟩
    | verified response =>
        obtain ⟨request, blockchainService, isScan⟩ := ends
        cases isCall.symm.trans isScan

end AcademicCredential
