import AcademicCredential.Footprints
import AcademicCredential.RepositoryRuns
import AcademicCredential.Services.Qr

/-!
# QR rows and the constraints

A confirmed certificate gets a new QR row whenever the random token and the random key
are new and the link made of the token is a URL that fits its column.
-/

namespace AcademicCredential

open AcademicCredential.Lib

/-- The random values a call may draw are new, and the links made of them fit. -/
structure FreshQr (runtime : Runtime) (database : Database) (inputs : Inputs) : Prop where
  id : ∀ read, ∀ row ∈ database .qrVerifications, row.id ≠ inputs.uuid4 read
  token : ∀ read, ∀ row ∈ database .qrVerifications, row.token ≠ inputs.tokenUrlsafe read
  length : ∀ read, 32 ≤ (inputs.tokenUrlsafe read).length ∧
    (inputs.tokenUrlsafe read).length ≤ 128
  url : ∀ read, isWebUrl (runtime.verificationBaseUrl ++ "/" ++ inputs.tokenUrlsafe read) = true ∧
    fits 1000 (runtime.verificationBaseUrl ++ "/" ++ inputs.tokenUrlsafe read) = true

/-- A code is fresh as far as the codes go. -/
theorem FreshQr.congr {runtime : Runtime} {left right : Database} {inputs : Inputs}
    (same : left .qrVerifications = right .qrVerifications) (fresh : FreshQr runtime right inputs) :
    FreshQr runtime left inputs :=
  ⟨same ▸ fresh.id, same ▸ fresh.token, fresh.length, fresh.url⟩

namespace QrVerificationService

/-- The attributes the service sets on the row it replaces. -/
def deactivation (now : Timestamp) : List QRAssignment :=
  [.isActive false, .deactivatedAt (some now), .deactivatedReason (some "Replaced by new QR code")]

variable {direct : Direct} {runtime : Runtime} {qr : QRVerification}

/-- A code may be deactivated at any time. -/
theorem admissible_deactivation (admissible : @Admissible .qrVerifications qr) (now : Timestamp) :
    @Admissible .qrVerifications (@assignAll .qrVerifications qr (deactivation now)) := by
  have fitsReason : fits 255 "Replaced by new QR code" = true := by decide
  unfold Admissible at *
  rw [violation?_eq_none] at *
  simp only [constraints, QRVerification.constraints, List.forall_mem_cons] at admissible ⊢
  simp [deactivation, assignAll, assign, QRAssignment.assign, fitsReason] at admissible ⊢
  obtain ⟨token, url, count, -, length, web, -, expiry, scans⟩ := admissible
  refine ⟨token, url, count, decide_eq_true length, web, expiry, ?_⟩
  rcases scans with ⟨never, unset⟩ | ⟨positive, set⟩
  · exact .inl ⟨never, unset⟩
  · exact .inr ⟨decide_eq_true positive, set⟩

/-- The active row of a certificate can be replaced. -/
theorem accepts_deactivation {database : Database} (valid : database.Valid)
    (member : qr ∈ database .qrVerifications) (now : Timestamp) :
    checkUpdated database .qrVerifications
      (@assignAll .qrVerifications qr (deactivation now)) = .ok () := by
  have admissible := admissible_deactivation (valid.admissible .qrVerifications qr member) now
  refine checkUpdated_ok.mpr ⟨admissible, fun other stored different => ?_⟩
  have otherRow : qr ≠ other := by
    rintro rfl
    exact different (@rowId_assignAll .qrVerifications qr (deactivation now)).symm
  have apart := @Database.Valid.apart_of_ne _ valid .qrVerifications _ _ member stored otherRow
  intro key inNew
  refine apart key ?_
  simp only [uniqueKeys, deactivation, assignAll, assign, QRAssignment.assign, List.foldl_cons,
    List.foldl_nil, Bool.false_eq_true, if_false, List.mem_cons, List.not_mem_nil,
    or_false] at inNew ⊢
  rcases inNew with rfl | rfl
  · exact .inl rfl
  · exact .inr (.inl rfl)

/-- The new row. -/
def generated (runtime : Runtime) (certId user : Uuid) (token : String) (id : Uuid)
    (createdAt : Timestamp) : QRVerification where
  id
  certificateId := certId
  token
  verificationUrl := runtime.verificationBaseUrl ++ "/" ++ token
  totalScanCount := 0
  lastScannedAt := none
  isActive := true
  deactivatedAt := none
  deactivatedReason := none
  expiresAt := none
  generatedBy := user
  createdAt

/-- A generated code fits its columns. -/
theorem admissible_generated {token : String} (length : 32 ≤ token.length ∧ token.length ≤ 128)
    (url : isWebUrl (runtime.verificationBaseUrl ++ "/" ++ token) = true ∧
      fits 1000 (runtime.verificationBaseUrl ++ "/" ++ token) = true) (today : Date)
    (certId user id : Uuid) (createdAt : Timestamp) :
    violation? (insertConstraints today .qrVerifications)
      (generated runtime certId user token id createdAt) = none := by
  rw [violation?_eq_none]
  simp only [insertConstraints, constraints, QRVerification.constraints, List.forall_mem_cons]
  have fitsToken : fits 128 token = true := by simp [fits, length.2]
  simp [generated, length.1, fitsToken, url, isInteger]

/-- The new row is free when no active row of the certificate is left. -/
theorem generated_apart {token : String} {certId user id : Uuid} {createdAt : Timestamp}
    {other : QRVerification} (newId : other.id ≠ id) (newToken : other.token ≠ token)
    (inactive : other.certificateId = certId → other.isActive = false) :
    @Apart .qrVerifications (generated runtime certId user token id createdAt) other := by
  intro key inNew inOther
  simp only [uniqueKeys, generated, if_true, List.mem_cons, List.not_mem_nil, or_false] at inNew
  simp only [uniqueKeys, List.mem_cons] at inOther
  rcases inNew with rfl | rfl | rfl
  · rcases inOther with same | same | same
    · exact newId (by simpa using same.symm)
    · simp at same
    · split at same <;> simp at same
  · rcases inOther with same | same | same
    · simp at same
    · exact newToken (by simpa using same.symm)
    · split at same <;> simp at same
  · rcases inOther with same | same | same
    · simp at same
    · simp at same
    · split at same
      · rename_i active
        have sameCertificate : other.certificateId = certId := by simpa [eq_comm] using same
        rw [inactive sameCertificate] at active
        cases active
      · simp at same

/-- The row with the values drawn in a state. -/
def drawn (runtime : Runtime) (direct : Direct) (certId user : Uuid) : QRVerification :=
  generated runtime certId user (direct.inputs.tokenUrlsafe direct.reads)
    (direct.inputs.uuid4 (direct.reads + 1)) (direct.inputs.databaseClock (direct.reads + 2))

/-- The random values and the time are drawn, and the row is inserted. -/
def insertGenerated (runtime : Runtime) (certId user : Uuid) : Action QRVerification := do
  let token ← Program.perform .tokenUrlsafe
  let id ← Program.perform .uuid4
  let createdAt ← Program.perform .serverNow
  QRVerificationRepository.create (generated runtime certId user token id createdAt)

/-- The new code is inserted. -/
theorem run_insertGenerated {inputs : Inputs} (opened : direct.Open)
    (sameInputs : direct.inputs = inputs) {certId user : Uuid}
    (free : ∀ other ∈ direct.working .qrVerifications,
      (∀ read, other.id ≠ inputs.uuid4 read) ∧ (∀ read, other.token ≠ inputs.tokenUrlsafe read) ∧
        (other.certificateId = certId → other.isActive = false))
    (length : ∀ read, 32 ≤ (inputs.tokenUrlsafe read).length ∧
      (inputs.tokenUrlsafe read).length ≤ 128)
    (url : ∀ read,
      isWebUrl (runtime.verificationBaseUrl ++ "/" ++ inputs.tokenUrlsafe read) = true ∧
        fits 1000 (runtime.verificationBaseUrl ++ "/" ++ inputs.tokenUrlsafe read) = true) :
    (insertGenerated runtime certId user).run directHandler direct =
      (.ok (drawn runtime direct certId user), direct.read.read.read.write
        (.insert .qrVerifications (drawn runtime direct certId user))) := by
  subst sameInputs
  have accepted : checkInsert (direct.inputs.today (direct.reads + 3)) direct.working
      .qrVerifications (drawn runtime direct certId user) = .ok () := by
    refine checkInsert_of_free (admissible_generated (length _) (url _) _ _ _ _ _) ?_
    intro other member
    obtain ⟨newId, newToken, inactive⟩ := free other member
    exact generated_apart (newId _) (newToken _) inactive
  have creates := @BaseRepository.run_create _ opened.read.read.read .qrVerifications
    (drawn runtime direct certId user)
  simp only [Direct.read, accepted] at creates
  simpa [insertGenerated, Program.run_bind, directHandler, QRVerificationRepository.create,
    Direct.read, drawn] using creates

/-- The state after a QR row was replaced. -/
def replaced (direct : Direct) (existing : QRVerification) : Direct :=
  @Direct.stored direct.read .qrVerifications existing
    (deactivation (direct.inputs.wallClock direct.reads))

/-- The existing code is deactivated. -/
theorem run_deactivate (opened : direct.Open) {existing : QRVerification}
    (member : existing ∈ direct.working .qrVerifications) :
    (replaced direct existing).Open ∧
      (QRVerificationRepository.deactivate existing.id "Replaced by new QR code").run directHandler
        direct = (.ok (some (@assignAll .qrVerifications existing
          (deactivation (direct.inputs.wallClock direct.reads)))), replaced direct existing) := by
  have stored := @Database.Keyed.find? _ opened.valid.keyed .qrVerifications _ member
  have distinct : ((deactivation (direct.inputs.wallClock direct.reads)).map
      (@column .qrVerifications)).Nodup := by
    change [0, 1, 2].Nodup
    decide
  have deactivates : (QRVerificationRepository.deactivate existing.id
      "Replaced by new QR code").run directHandler direct =
        @updateOutcome .qrVerifications direct.read existing
          (deactivation (direct.inputs.wallClock direct.reads)) :=
    BaseRepository.run_modify opened stored opened.read rfl
      (by simp [Program.run_map, Except.map, directHandler, deactivation])
      distinct
  have accepted : checkUpdated direct.read.working .qrVerifications
      (@assignAll .qrVerifications existing
        (deactivation (direct.inputs.wallClock direct.reads))) = .ok () :=
    accepts_deactivation opened.valid member _
  refine ⟨opened.read.stored stored accepted, ?_⟩
  rw [deactivates, updateOutcome, accepted]
  rfl

/-- Replacing the row leaves the others as they were. -/
theorem mem_replaced (opened : direct.Open) {existing row : QRVerification}
    (member : existing ∈ direct.working .qrVerifications) :
    row ∈ (replaced direct existing).working .qrVerifications ↔
      (row ∈ direct.working .qrVerifications ∧ row ≠ existing) ∨
        row = @assignAll .qrVerifications existing
          (deactivation (direct.inputs.wallClock direct.reads)) := by
  have sameKey : ∀ old ∈ direct.working .qrVerifications,
      @rowId .qrVerifications old = @rowId .qrVerifications existing ↔ old = existing :=
    fun old isOld => ⟨opened.valid.keyed.eq_of_rowId isOld member, congrArg _⟩
  rw [replaced, @Direct.stored_self direct.read .qrVerifications]
  constructor
  · intro isRow
    obtain ⟨old, isOld, rfl⟩ := List.mem_map.mp isRow
    by_cases same : old = existing
    · rw [if_pos ((sameKey old isOld).mpr same), same]
      exact .inr rfl
    · rw [if_neg fun same' => same ((sameKey old isOld).mp same')]
      exact .inl ⟨isOld, same⟩
  · rintro (⟨isOld, other⟩ | rfl)
    · exact List.mem_map.mpr ⟨row, isOld, if_neg fun same => other ((sameKey row isOld).mp same)⟩
    · exact List.mem_map.mpr ⟨existing, member, if_pos rfl⟩

/-- On a confirmed certificate the generation succeeds. -/
theorem run_generateBlock (opened : direct.Open) {certificate : Certificate} {certId : Uuid}
    (found : direct.working.find? .certificates certId = some certificate)
    (confirmed : certificate.blockchainStatus = .CONFIRMED)
    (fresh : FreshQr runtime direct.working direct.inputs) (user : Uuid) :
    ∃ row after, (generateBlock runtime certId user).run directHandler direct =
      (.ok row, after) := by
  rw [generateBlock]
  simp only [Program.run_bind, CertificateRepository.getById,
    BaseRepository.run_getById opened, found]
  rw [if_neg (not_not.mpr confirmed)]
  simp only [Program.run_bind, QRVerificationRepository.getActiveByCertificate,
    BaseRepository.run_findOne opened]
  cases active : (direct.working .qrVerifications).find? fun row =>
      decide (row.certificateId = certId) && row.isActive with
  | none =>
      have inactive : ∀ other ∈ direct.working .qrVerifications, other.certificateId = certId →
          other.isActive = false := by
        intro other member sameCertificate
        have notActive := List.find?_eq_none.mp active other member
        simpa [sameCertificate] using notActive
      exact ⟨_, _, @run_insertGenerated _ runtime _ opened rfl certId user
        (fun other member => ⟨fun read => fresh.id read other member,
          fun read => fresh.token read other member, inactive other member⟩) fresh.length fresh.url⟩
  | some existing =>
      have member := List.mem_of_find?_eq_some active
      have isActive := List.find?_some active
      simp only [Bool.and_eq_true, decide_eq_true_eq] at isActive
      obtain ⟨replacedOpen, deactivates⟩ := run_deactivate opened member
      have inactive : ∀ other ∈ (replaced direct existing).working .qrVerifications,
          (∀ read, other.id ≠ direct.inputs.uuid4 read) ∧
            (∀ read, other.token ≠ direct.inputs.tokenUrlsafe read) ∧
            (other.certificateId = certId → other.isActive = false) := by
        intro other isOther
        rcases (mem_replaced opened member).mp isOther with ⟨isOld, different⟩ | rfl
        · refine ⟨fun read => fresh.id read other isOld, fun read => fresh.token read other isOld, ?_⟩
          intro sameCertificate
          by_contra stillActive
          have apart := @Database.Valid.apart_of_ne _ opened.valid .qrVerifications _ _ isOld member
            different
          have otherActive : other.isActive = true := by simpa using stillActive
          exact apart ⟨"uq_qr_one_active_per_certificate", .uuid certId⟩
            (by simp [uniqueKeys, otherActive, sameCertificate])
            (by simp [uniqueKeys, isActive.1, isActive.2])
        · exact ⟨fun read => fresh.id read existing member,
            fun read => fresh.token read existing member, fun _ => rfl⟩
      have inserts := @run_insertGenerated _ runtime _ replacedOpen rfl certId user inactive
        fresh.length fresh.url
      simp only [Program.run_bind, deactivates]
      rw [insertGenerated] at inserts
      simp only [Program.run_bind] at inserts
      exact ⟨_, _, inserts⟩

/-- The last steps of a generation that returns. -/
theorem insertGenerated_rows {left : Direct} {certId user : Uuid} {qr : QRVerification}
    (ran : (insertGenerated runtime certId user).run directHandler direct = (.ok qr, left)) :
    (qr.certificateId = certId ∧ qr.isActive = true) ∧
      left.working .certificates = direct.working .certificates ∧
      left.working .qrVerifications = direct.working .qrVerifications ++ [qr] := by
  have isReading : ∀ (Reply : Type) (op : Op Reply), op.isReading = true → op.isReading = true :=
    fun _ _ isReading => isReading
  unfold insertGenerated at ran
  obtain ⟨token, first, drawn, rest⟩ := (Program.run_bind_ok directHandler).mp ran
  have firstSame := working_of_reading (every_reading isReading rfl) drawn
  obtain ⟨id, second, drawn, rest⟩ := (Program.run_bind_ok directHandler).mp rest
  have secondSame := working_of_reading (every_reading isReading rfl) drawn
  obtain ⟨createdAt, third, drawn, creates⟩ := (Program.run_bind_ok directHandler).mp rest
  have thirdSame := working_of_reading (every_reading isReading rfl) drawn
  obtain ⟨isRow, leftIs⟩ := BaseRepository.run_create_ok creates
  have before : third.working = direct.working := by rw [thirdSame, secondSame, firstSame]
  rw [leftIs, before, isRow]
  exact ⟨⟨rfl, rfl⟩, by simp [Write.apply], by simp [Write.apply]⟩

/-- A generation that returns leaves an active row for the certificate and keeps those of
the others. -/
theorem generateBlock_rows {left : Direct} {certId user : Uuid} {qr : QRVerification}
    (opened : direct.Open)
    (ran : (generateBlock runtime certId user).run directHandler direct = (.ok qr, left)) :
    (qr.certificateId = certId ∧ qr.isActive = true) ∧
      left.working .certificates = direct.working .certificates ∧
      qr ∈ left.working .qrVerifications ∧
      ∀ row ∈ direct.working .qrVerifications, row.certificateId ≠ certId →
        row ∈ left.working .qrVerifications := by
  unfold generateBlock at ran
  obtain ⟨certificate, middle, found, rest⟩ := (Program.run_bind_ok directHandler).mp ran
  rw [CertificateRepository.getById, BaseRepository.run_getById opened] at found
  cases found
  split at rest
  · cases rest
  split at rest
  · cases rest
  obtain ⟨active?, looking, looked, rest⟩ := (Program.run_bind_ok directHandler).mp rest
  rw [QRVerificationRepository.getActiveByCertificate, BaseRepository.run_findOne opened] at looked
  obtain ⟨isActive?, rfl⟩ := Prod.mk.inj looked
  obtain rfl := Except.ok.inj isActive?
  cases active : (direct.working .qrVerifications).find? fun row =>
      decide (row.certificateId = certId) && row.isActive with
  | none =>
      rw [active] at rest
      have inserts : (insertGenerated runtime certId user).run directHandler direct =
        (.ok qr, left) := rest
      obtain ⟨isNew, certificates, rows⟩ := insertGenerated_rows inserts
      rw [rows]
      exact ⟨isNew, certificates, List.mem_append_right _ (List.mem_singleton_self qr),
        fun row member _ => List.mem_append_left _ member⟩
  | some existing =>
      have member := List.mem_of_find?_eq_some active
      have isActive := List.find?_some active
      simp only [Bool.and_eq_true, decide_eq_true_eq] at isActive
      obtain ⟨replacedOpen, deactivates⟩ := run_deactivate opened member
      rw [active] at rest
      obtain ⟨updated, replacing, replaces, rest⟩ := (Program.run_bind_ok directHandler).mp rest
      obtain ⟨-, rfl⟩ := Prod.mk.inj (deactivates.symm.trans replaces)
      have inserts : (insertGenerated runtime certId user).run directHandler
        (replaced direct existing) = (.ok qr, left) := rest
      obtain ⟨isNew, certificates, rows⟩ := insertGenerated_rows inserts
      have otherTable : Table.qrVerifications ≠ .certificates := by decide
      rw [rows, certificates]
      refine ⟨isNew, Direct.stored_of_ne otherTable _ _ _,
        List.mem_append_right _ (List.mem_singleton_self qr), fun row isRow other => ?_⟩
      refine List.mem_append_left _ ((mem_replaced opened member).mpr (.inl ⟨isRow, ?_⟩))
      rintro rfl
      exact other isActive.1

/-- So does the whole call. -/
theorem run_generateQr (closed : direct.inTransaction = false) (valid : direct.working.Valid)
    {certificate : Certificate} {certId : Uuid}
    (found : direct.working.find? .certificates certId = some certificate)
    (confirmed : certificate.blockchainStatus = .CONFIRMED)
    (fresh : FreshQr runtime direct.working direct.inputs) (user : Uuid) :
    ∃ qr after, (generateQrForCertificate runtime certId user).run directHandler direct =
      (.ok qr, after) := by
  have touchedOpen : direct.touch.Open := ⟨rfl, valid⟩
  obtain ⟨row, after, ran⟩ := @run_generateBlock _ runtime touchedOpen _ _ found confirmed fresh user
  refine ⟨{ qrId := row.id, token := row.token, verificationUrl := row.verificationUrl },
    after.committed, ?_⟩
  rw [generateQrForCertificate, Program.run_bind, run_transaction _ closed, ran]
  rfl

end QrVerificationService
end AcademicCredential
