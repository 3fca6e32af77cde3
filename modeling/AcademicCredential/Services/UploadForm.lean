import AcademicCredential.Services.Registration
import AcademicCredential.Services.UploadAtomicity

/-!
# The form of an upload

The upload endpoint takes a multipart form and passes its fields on without
`CertificateIssueRequest`. What it commits meets that schema only as far as the service and the
constraints ask for the same; and it looks for the student under the email as it was typed.
-/

namespace AcademicCredential

open AcademicCredential.Lib

namespace CertificateRouter

/-- `ALLOWED_MIME_TYPES`. -/
def allowedMimeTypes : List String := ["application/pdf"]

/-- The file of a form. -/
structure UploadFile where
  contentType : Option String
  fileName : String
  fileBytes : List UInt8

/-- The multipart form, any part of which a client may leave out. -/
structure UploadForm where
  recipientEmail : Option String
  degreeTitle : Option String
  fieldOfStudy : Option String
  issueDate : Option String
  expiryDate : Option String
  gradeClassification : Option String
  honors : Option String
  file : Option UploadFile

/-- The value of a text field; one that is empty counts as missing. -/
def field (value : Option String) : Option String := value.filter (· ≠ "")

/-- The text parameters of `upload_certificate`. -/
structure UploadFields where
  recipientEmail : String
  degreeTitle : String
  fieldOfStudy : String
  issueDate : String
  expiryDate : Option String
  gradeClassification : Option String
  honors : Option String

/-- The text fields of a form, if none is missing that the endpoint requires. -/
def UploadForm.fields? (form : UploadForm) : Option UploadFields := do
  let recipientEmail ← field form.recipientEmail
  let degreeTitle ← field form.degreeTitle
  let fieldOfStudy ← field form.fieldOfStudy
  let issueDate ← field form.issueDate
  return {
    recipientEmail
    degreeTitle
    fieldOfStudy
    issueDate
    expiryDate := field form.expiryDate
    gradeClassification := field form.gradeClassification
    honors := field form.honors }

/-- FastAPI hands the parts of a form to the endpoint, or refuses the form. -/
def UploadForm.receive {Value : Type} (form : UploadForm)
    (router : UploadFields → UploadFile → Action Value) : Action Value :=
  match form.fields?, form.file with
  | some fields, some file => router fields file
  | _, _ => Program.raise .RequestValidationError

/-- A complete form reaches the endpoint, another one nothing. -/
theorem UploadForm.receive_cases {Value : Type} (form : UploadForm)
    (router : UploadFields → UploadFile → Action Value) :
    (∃ fields file, form.fields? = some fields ∧ form.file = some file ∧
      form.receive router = router fields file) ∨
    (form.fields? = none ∨ form.file = none) ∧
      form.receive router = Program.raise .RequestValidationError := by
  cases isFields : form.fields? with
  | none => exact .inr ⟨.inl rfl, by simp only [receive, isFields]⟩
  | some fields =>
      cases isFile : form.file with
      | none => exact .inr ⟨.inr rfl, by simp only [receive, isFields, isFile]⟩
      | some file => exact .inl ⟨fields, file, rfl, rfl, by simp only [receive, isFields, isFile]⟩

end CertificateRouter

namespace CertificateIssuanceService

open CertificateRouter

/-- `DEGREE_TITLE_MAX_LENGTH`. -/
def degreeTitleMaxLength : Nat := 300

/-- `FIELD_OF_STUDY_MAX_LENGTH`. -/
def fieldOfStudyMaxLength : Nat := 300

/-- `CertificateIssueRequest` on a given day: what it makes of the fields if it accepts them. Which
texts pydantic takes for dates is left open. -/
def certificateIssueRequest (emailStr : EmailStr) (pydanticDate : String → Option Date)
    (today : Date) (fields : UploadFields) : Option IssueMetadata := do
  let address ← emailStr.validate (strip fields.recipientEmail)
  let degreeTitle := strip fields.degreeTitle
  let fieldOfStudy := strip fields.fieldOfStudy
  guard (1 ≤ degreeTitle.length ∧ degreeTitle.length ≤ degreeTitleMaxLength)
  guard (1 ≤ fieldOfStudy.length ∧ fieldOfStudy.length ≤ fieldOfStudyMaxLength)
  let issueDate ← pydanticDate fields.issueDate
  guard (issueDate ≤ today)
  let expiryDate ← fields.expiryDate.elim (some none) fun text => (pydanticDate text).map some
  return {
    recipientEmail := lower address
    degreeTitle
    fieldOfStudy
    issueDate
    expiryDate
    gradeClassification := fields.gradeClassification.map strip
    honors := fields.honors.map strip }

/-- What the schema asks beyond the constraints of the table: an address, titles that are more
than white space, and dates, of which the day of issue has come. -/
structure Presentable (emailStr : EmailStr) (pydanticDate : String → Option Date) (today : Date)
    (fields : UploadFields) : Prop where
  recipientEmail : (emailStr.validate (strip fields.recipientEmail)).isSome = true
  degreeTitle : 1 ≤ (strip fields.degreeTitle).length
  fieldOfStudy : 1 ≤ (strip fields.fieldOfStudy).length
  issueDate : ∃ issueDate, pydanticDate fields.issueDate = some issueDate ∧ issueDate ≤ today
  expiryDate : ∀ text, fields.expiryDate = some text → (pydanticDate text).isSome = true

/-- Stripping a text makes it no longer. -/
theorem length_strip_le (text : String) : (strip text).length ≤ text.length := by
  rw [← String.length_toList, ← String.length_toList]
  simp only [strip, String.toList_ofList]
  exact ((List.rdropWhile_prefix isWhiteSpace _).length_le).trans
    (List.dropWhile_sublist isWhiteSpace).length_le

/-- A computation returns when its first step does and the rest after it. -/
theorem isSome_bind {Value Result : Type} (first : Option Value) (next : Value → Option Result) :
    (first >>= next).isSome = true ↔ ∃ value, first = some value ∧ (next value).isSome = true := by
  cases first <;> simp

/-- Within the lengths of the columns, the schema accepts what is presentable. -/
theorem certificateIssueRequest_isSome_iff {emailStr : EmailStr}
    {pydanticDate : String → Option Date} {today : Date} {fields : UploadFields}
    (degreeTitle : fields.degreeTitle.length ≤ 300)
    (fieldOfStudy : fields.fieldOfStudy.length ≤ 300) :
    (certificateIssueRequest emailStr pydanticDate today fields).isSome = true ↔
      Presentable emailStr pydanticDate today fields := by
  have degreeFits := (length_strip_le fields.degreeTitle).trans degreeTitle
  have fieldFits := (length_strip_le fields.fieldOfStudy).trans fieldOfStudy
  have expires : (∃ expiryDate, fields.expiryDate.elim (some none)
      (fun text => (pydanticDate text).map some) = some expiryDate) ↔
        ∀ text, fields.expiryDate = some text → (pydanticDate text).isSome = true := by
    cases fields.expiryDate with
    | none => simp
    | some text => simp [Option.isSome_iff_exists]
  have checked : (certificateIssueRequest emailStr pydanticDate today fields).isSome = true ↔
      (emailStr.validate (strip fields.recipientEmail)).isSome = true ∧
        1 ≤ (strip fields.degreeTitle).length ∧ 1 ≤ (strip fields.fieldOfStudy).length ∧
          (∃ issueDate, pydanticDate fields.issueDate = some issueDate ∧ issueDate ≤ today) ∧
            ∃ expiryDate, fields.expiryDate.elim (some none)
              (fun text => (pydanticDate text).map some) = some expiryDate := by
    simp only [certificateIssueRequest, isSome_bind, Option.guard_eq_some', degreeTitleMaxLength,
      fieldOfStudyMaxLength, degreeFits, fieldFits, and_true]
    constructor
    · rintro ⟨address, validated, -, degree, -, field, issueDate, dated, -, day, expiryDate, expiry, -⟩
      exact ⟨by rw [validated]; rfl, degree, field, ⟨issueDate, dated, day⟩, expiryDate, expiry⟩
    · rintro ⟨validated, degree, field, ⟨issueDate, dated, day⟩, expiryDate, expiry⟩
      obtain ⟨address, isAddress⟩ := Option.isSome_iff_exists.mp validated
      exact ⟨address, isAddress, (), degree, (), field, issueDate, dated, (), day, expiryDate, expiry,
        rfl⟩
  rw [checked, expires]
  exact ⟨fun ⟨address, degree, studied, day, expiry⟩ => ⟨address, degree, studied, day, expiry⟩,
    fun ⟨address, degree, studied, day, expiry⟩ => ⟨address, degree, studied, day, expiry⟩⟩

variable {upload : Upload} {runtime : Runtime} {before after : Store}
  {returned : Except Exception CertificateDraft}

/-- An upload that passes its checks adds a certificate. -/
theorem Upload.Exit.commits (exits : upload.Exit runtime before after returned) {parties : Parties}
    {sequence : Nat} (saves : upload.Saves runtime before.database parties sequence)
    (storable : upload.Storable runtime before.database parties.university) :
    after.database .certificates ≠ before.database .certificates := by
  cases exits with
  | early _ _ _ unsaved => exact absurd saves (unsaved parties sequence)
  | refused _ _ others number otherSaves unstorable =>
      have sameUniversity := Option.some.inj
        (saves.between.issuer.found.symm.trans otherSaves.between.issuer.found)
      rw [← sameUniversity] at unstorable
      exact absurd storable unstorable
  | issued others number _ _ database =>
      intro same
      rw [database] at same
      have longer := congrArg List.length same
      simp [Write.apply] at longer

/-- An upload that adds a certificate has passed its checks. -/
theorem Upload.Exit.saves_of_commits (exits : upload.Exit runtime before after returned)
    (changed : after.database .certificates ≠ before.database .certificates) :
    ∃ parties sequence, upload.Saves runtime before.database parties sequence ∧
      upload.Storable runtime before.database parties.university := by
  cases exits with
  | early _ database => exact absurd (congrFun database .certificates) changed
  | refused _ _ _ _ _ _ database => exact absurd (congrFun database .certificates) changed
  | issued parties sequence saves storable => exact ⟨parties, sequence, saves, storable⟩

/-- An upload is refused as that of an unknown student when the issuer is known and the student
is not. -/
theorem Upload.Exit.unknown_iff (exits : upload.Exit runtime before after returned) :
    (∃ message, returned = .error (.app .UserNotFoundError message)) ↔
      (∃ university walletAddress, upload.Issuer before.database university walletAddress) ∧
        ∀ student, ¬ upload.Recipient before.database student := by
  cases exits with
  | early error _ _ _ unknown =>
      rw [← unknown]
      simp
  | refused error violation parties sequence saves =>
      constructor
      · rintro ⟨message, same⟩
        obtain ⟨table, constraint, isCheck | isUnique⟩ := violation
        · cases isCheck.symm.trans (Except.error.inj same)
        · cases isUnique.symm.trans (Except.error.inj same)
      · rintro ⟨-, unregistered⟩
        exact absurd saves.between.recipient (unregistered _)
  | issued parties sequence saves =>
      constructor
      · rintro ⟨message, same⟩
        cases same
      · rintro ⟨-, unregistered⟩
        exact absurd saves.between.recipient (unregistered _)

end CertificateIssuanceService

namespace CertificateRouter

open CertificateIssuanceService

/-- The metadata that `upload_certificate` makes of the fields, unless a date has not the format of
`date.fromisoformat`. Which texts have it is left open. -/
def uploadMetadata (fromIsoFormat : String → Option Date) (fields : UploadFields) :
    Option IssueMetadata := do
  let issueDate ← fromIsoFormat fields.issueDate
  let expiryDate ← (field fields.expiryDate).elim (some none) fun text =>
    (fromIsoFormat text).map some
  return {
    recipientEmail := fields.recipientEmail
    degreeTitle := fields.degreeTitle
    fieldOfStudy := fields.fieldOfStudy
    issueDate
    expiryDate
    gradeClassification := field fields.gradeClassification
    honors := field fields.honors }

/-- The texts of the metadata are those of the fields. -/
theorem uploadMetadata_texts {fromIsoFormat : String → Option Date} {fields : UploadFields}
    {metadata : IssueMetadata} (made : uploadMetadata fromIsoFormat fields = some metadata) :
    metadata.recipientEmail = fields.recipientEmail ∧
      metadata.degreeTitle = fields.degreeTitle ∧ metadata.fieldOfStudy = fields.fieldOfStudy := by
  simp only [uploadMetadata, Option.bind_eq_bind, Option.bind_eq_some_iff] at made
  obtain ⟨issueDate, -, expiryDate, -, made⟩ := made
  obtain rfl := Option.some.inj made
  exact ⟨rfl, rfl, rfl⟩

/-- `file.filename or "certificate.pdf"`. -/
def UploadFile.originalName (file : UploadFile) : String :=
  if file.fileName = "" then "certificate.pdf" else file.fileName

/-- The checks of the routers on an uploaded file: its type, its size, and that it is not empty. -/
def UploadFile.refusal? (file : UploadFile) (limit : Nat) : Option Exception :=
  if ¬ file.contentType.any allowedMimeTypes.contains then
    some ErrorClass.InvalidFileTypeError.default
  else if limit < file.fileBytes.length then
    some ErrorClass.FileTooLargeError.default
  else if file.fileBytes.length = 0 then
    some (.app .ServiceError "File is empty")
  else
    none

/-- `upload_certificate`. -/
def uploadCertificate (runtime : Runtime) (fromIsoFormat : String → Option Date)
    (currentUser : User) (fields : UploadFields) (file : UploadFile) : Action CertificateDraft :=
  match file.refusal? maxFileSizeBytes with
  | some error => Program.raise error
  | none =>
      match uploadMetadata fromIsoFormat fields with
      | none => Program.raise .ValueError
      | some metadata =>
          uploadAndHashCertificate runtime file.fileBytes file.originalName metadata currentUser

/-- A file that passes the checks. -/
structure UploadFile.Accepted (file : UploadFile) (limit : Nat) : Prop where
  contentType : file.contentType.any allowedMimeTypes.contains = true
  size : 0 < file.fileBytes.length ∧ file.fileBytes.length ≤ limit

/-- A file is accepted, or refused with an error of its own. -/
theorem UploadFile.refusal?_cases (file : UploadFile) (limit : Nat) :
    (file.Accepted limit ∧ file.refusal? limit = none) ∨ ¬ file.Accepted limit ∧
      ∃ error, (∀ message, error ≠ .app .UserNotFoundError message) ∧
        file.refusal? limit = some error := by
  by_cases allowed : file.contentType.any allowedMimeTypes.contains = true
  · by_cases tooLarge : limit < file.fileBytes.length
    · refine .inr ⟨fun accepted => absurd accepted.size.2 (not_le.mpr tooLarge),
        ErrorClass.FileTooLargeError.default, fun message same => ?_, ?_⟩
      · exact absurd (Exception.app.inj same).1 (by decide)
      · simp [refusal?, allowed, tooLarge]
    · by_cases empty : file.fileBytes.length = 0
      · refine .inr ⟨fun accepted => absurd accepted.size.1 (by omega),
          .app .ServiceError "File is empty", fun message same => ?_, ?_⟩
        · exact absurd (Exception.app.inj same).1 (by decide)
        · simp [refusal?, allowed, empty]
      · exact .inl ⟨⟨allowed, by omega, not_lt.mp tooLarge⟩,
          by simp [refusal?, allowed, tooLarge, empty]⟩
  · refine .inr ⟨fun accepted => allowed accepted.contentType,
      ErrorClass.InvalidFileTypeError.default, fun message same => ?_, by simp [refusal?, allowed]⟩
    exact absurd (Exception.app.inj same).1 (by decide)

/-- The form passes the checks of the router, which calls the service with the upload. -/
structure Sends (fromIsoFormat : String → Option Date) (form : UploadForm) (upload : Upload) :
    Prop where
  file : ∃ file, form.file = some file ∧ file.Accepted maxFileSizeBytes ∧
    upload.fileBytes = file.fileBytes ∧
    upload.fileOriginalName = file.originalName
  metadata : ∃ fields, form.fields? = some fields ∧
    uploadMetadata fromIsoFormat fields = some upload.metadata

/-- The form sends one upload. -/
theorem Sends.unique {fromIsoFormat : String → Option Date} {form : UploadForm}
    {upload other : Upload} (sends : Sends fromIsoFormat form upload)
    (otherSends : Sends fromIsoFormat form other) (sameUser : other.currentUser = upload.currentUser)
    (sameInputs : other.inputs = upload.inputs) : upload = other := by
  obtain ⟨file, isFile, -, bytes, name⟩ := sends.file
  obtain ⟨otherFile, isOther, -, otherBytes, otherName⟩ := otherSends.file
  obtain rfl := Option.some.inj (isFile.symm.trans isOther)
  obtain ⟨fields, isFields, made⟩ := sends.metadata
  obtain ⟨otherFields, areOther, otherMade⟩ := otherSends.metadata
  obtain rfl := Option.some.inj (isFields.symm.trans areOther)
  have sameMetadata := Option.some.inj (made.symm.trans otherMade)
  cases upload
  cases other
  simp only [Upload.mk.injEq]
  exact ⟨bytes.trans otherBytes.symm, name.trans otherName.symm, sameMetadata, sameUser.symm,
    sameInputs.symm⟩

/-- The router hands an accepted file with its metadata to the service, and refuses the others
without a look at the database. -/
theorem uploadCertificate_cases (runtime : Runtime) (fromIsoFormat : String → Option Date)
    {form : UploadForm} {fields : UploadFields} {file : UploadFile}
    (isFields : form.fields? = some fields) (isFile : form.file = some file) (currentUser : User)
    (inputs : Inputs) :
    (∃ upload : Upload, Sends fromIsoFormat form upload ∧ upload.currentUser = currentUser ∧
      upload.inputs = inputs ∧
        uploadCertificate runtime fromIsoFormat currentUser fields file = upload.action runtime) ∨
    (∀ upload, ¬ Sends fromIsoFormat form upload) ∧
      ∃ error, (∀ message, error ≠ .app .UserNotFoundError message) ∧
        uploadCertificate runtime fromIsoFormat currentUser fields file = Program.raise error := by
  rcases file.refusal?_cases maxFileSizeBytes with
    ⟨accepted, passes⟩ | ⟨refused, error, isOther, refusal⟩
  · cases made : uploadMetadata fromIsoFormat fields with
    | none =>
        refine .inr ⟨fun upload sends => ?_, .ValueError, fun message same => ?_, ?_⟩
        · obtain ⟨others, areOthers, otherMade⟩ := sends.metadata
          obtain rfl := Option.some.inj (isFields.symm.trans areOthers)
          cases made.symm.trans otherMade
        · cases same
        · simp only [uploadCertificate, passes, made]
    | some metadata =>
        exact .inl ⟨⟨file.fileBytes, file.originalName, metadata, currentUser, inputs⟩,
          ⟨⟨file, isFile, accepted, rfl, rfl⟩, fields, isFields, made⟩, rfl, rfl,
          by simp only [uploadCertificate, passes, made]; rfl⟩
  · refine .inr ⟨fun upload sends => ?_, error, isOther, ?_⟩
    · obtain ⟨other, isOtherFile, accepted, -⟩ := sends.file
      obtain rfl := Option.some.inj (isFile.symm.trans isOtherFile)
      exact refused accepted
    · simp only [uploadCertificate, refusal]

/-- A form that lacks a part sends nothing. -/
theorem Sends.complete {fromIsoFormat : String → Option Date} {form : UploadForm} {upload : Upload}
    (sends : Sends fromIsoFormat form upload) : ¬ (form.fields? = none ∨ form.file = none) := by
  obtain ⟨file, isFile, -⟩ := sends.file
  obtain ⟨fields, isFields, -⟩ := sends.metadata
  rintro (missing | missing)
  · cases isFields.symm.trans missing
  · cases isFile.symm.trans missing

/-- The email is that of a user with a student profile. -/
def RegisteredStudent (database : Database) (email : String) : Prop :=
  ∃ user ∈ database .users, user.email = email ∧
    ∃ student ∈ database .students, student.userId = user.id

/-- A certificate is committed only if the schema accepts the fields of the form, and a form that
the schema accepts is not refused as that of an unknown student if the email it makes of the form's
is a student's. -/
structure SchemaEnforced (emailStr : EmailStr) (pydanticDate : String → Option Date) (today : Date)
    (form : UploadForm) (before after : Database) {Value : Type}
    (returned : Except Exception Value) : Prop where
  committed : after .certificates ≠ before .certificates →
    ∃ fields, form.fields? = some fields ∧
      (certificateIssueRequest emailStr pydanticDate today fields).isSome = true
  known : ∀ fields request, form.fields? = some fields →
    certificateIssueRequest emailStr pydanticDate today fields = some request →
      RegisteredStudent before request.recipientEmail →
        ∀ message, returned ≠ .error (.app .UserNotFoundError message)

/-- What the service takes is presentable, and a student whom the schema would find is found under
the email as it was typed. -/
structure AsTyped (emailStr : EmailStr) (pydanticDate : String → Option Date) (runtime : Runtime)
    (database : Database) (fields : UploadFields) (upload : Upload) : Prop where
  presentable : ∀ parties sequence, upload.Saves runtime database parties sequence →
    upload.Storable runtime database parties.university →
      Presentable emailStr pydanticDate (upload.inputs.today 0) fields
  spelled : ∀ university walletAddress request,
    upload.Issuer database university walletAddress →
      certificateIssueRequest emailStr pydanticDate (upload.inputs.today 0) fields =
        some request → RegisteredStudent database request.recipientEmail →
          RegisteredStudent database upload.metadata.recipientEmail

/-- The email of an upload is a student's exactly when the service finds the recipient. -/
theorem registeredStudent_iff {database : Database} (valid : database.Valid) (upload : Upload) :
    RegisteredStudent database upload.metadata.recipientEmail ↔
      ∃ student, upload.Recipient database student := by
  constructor
  · rintro ⟨user, isUser, sameEmail, student, isStudent, ofUser⟩
    cases found : (database .users).find? fun row => row.email = upload.metadata.recipientEmail with
    | none => exact absurd (decide_eq_true sameEmail) (List.find?_eq_none.mp found user isUser)
    | some other =>
        have isOther := List.mem_of_find?_eq_some found
        have otherEmail : other.email = upload.metadata.recipientEmail := by
          simpa using List.find?_some found
        obtain rfl : other = user := by
          by_contra different
          have apart := @Database.Valid.apart_of_ne _ valid .users _ _ isOther isUser different
          exact apart ⟨"email", .text other.email⟩ (by simp [uniqueKeys])
            (by simp [uniqueKeys, otherEmail, sameEmail])
        refine ⟨other, found, ?_⟩
        rw [List.find?_isSome]
        exact ⟨student, isStudent, decide_eq_true ofUser⟩
  · rintro ⟨student, found, profile⟩
    obtain ⟨row, isRow, ofUser⟩ := List.find?_isSome.mp profile
    exact ⟨student, List.mem_of_find?_eq_some found, by simpa using List.find?_some found, row, isRow,
      by simpa using ofUser⟩

/-- On a session of its own, the router enforces the schema exactly when what the service takes is
presentable and its students are found as typed. -/
theorem schema_enforced_iff (emailStr : EmailStr) (pydanticDate : String → Option Date)
    (runtime : Runtime) (fromIsoFormat : String → Option Date) (form : UploadForm)
    (currentUser : User) (store : ValidStore) (inputs : Inputs)
    (fresh : ∀ read, Unused store.database (inputs.uuid4 read)) :
    let session := (form.receive (uploadCertificate runtime fromIsoFormat currentUser)).run
      sessionHandler (store.toStore, .fresh inputs)
    SchemaEnforced emailStr pydanticDate (inputs.today 0) form store.database
        session.2.1.database session.1 ↔
      ∀ fields upload, form.fields? = some fields → Sends fromIsoFormat form upload →
        upload.currentUser = currentUser → upload.inputs = inputs →
          AsTyped emailStr pydanticDate runtime store.database fields upload := by
  intro session
  -- What the form sends, if the router calls the service, and what becomes of it.
  have sentOrNot : (∃ fields upload, form.fields? = some fields ∧ Sends fromIsoFormat form upload ∧
      upload.currentUser = currentUser ∧ upload.inputs = inputs ∧
        form.receive (uploadCertificate runtime fromIsoFormat currentUser) =
          upload.action runtime) ∨
      (∀ upload, ¬ Sends fromIsoFormat form upload) ∧
        ∃ error, (∀ message, error ≠ .app .UserNotFoundError message) ∧
          form.receive (uploadCertificate runtime fromIsoFormat currentUser) =
            Program.raise error := by
    rcases form.receive_cases (uploadCertificate runtime fromIsoFormat currentUser) with
      ⟨fields, file, isFields, isFile, received⟩ | ⟨missing, refused⟩
    · rw [received]
      rcases uploadCertificate_cases runtime fromIsoFormat isFields isFile currentUser inputs with
        ⟨upload, sends, sameUser, sameInputs, ran⟩ | ⟨never, refused⟩
      · exact .inl ⟨fields, upload, isFields, sends, sameUser, sameInputs, ran⟩
      · exact .inr ⟨never, refused⟩
    · refine .inr ⟨fun upload sends => sends.complete missing, .RequestValidationError, ?_, refused⟩
      intro message same
      cases same
  rcases sentOrNot with ⟨fields, upload, isFields, sends, rfl, rfl, ran⟩ |
      ⟨never, error, notUnknown, raises⟩
  · have exits := upload.run_action runtime store fresh
    have isSession : session = upload.outcome runtime store.toStore := by
      simp only [session, ran]
      rfl
    rw [isSession]
    generalize (upload.outcome runtime store.toStore).1 = returned at exits
    generalize (upload.outcome runtime store.toStore).2.1 = after at exits
    obtain ⟨made, areMade, isMetadata⟩ := sends.metadata
    obtain rfl := Option.some.inj (isFields.symm.trans areMade)
    obtain ⟨-, sameDegree, sameField⟩ := uploadMetadata_texts isMetadata
    have acceptsIff : ∀ parties : Parties, upload.Storable runtime store.database
        parties.university → ((certificateIssueRequest emailStr pydanticDate
          (upload.inputs.today 0) fields).isSome = true ↔
            Presentable emailStr pydanticDate (upload.inputs.today 0) fields) := by
      intro parties storable
      exact certificateIssueRequest_isSome_iff (sameDegree ▸ storable.fits.degreeTitle.1)
        (sameField ▸ storable.fits.fieldOfStudy)
    constructor
    · intro enforced others other areOthers otherSends sameUser sameInputs
      obtain rfl := sends.unique otherSends sameUser sameInputs
      obtain rfl := Option.some.inj (isFields.symm.trans areOthers)
      constructor
      · intro parties sequence saves storable
        obtain ⟨accepted, areAccepted, accepts⟩ :=
          enforced.committed (exits.commits saves storable)
        obtain rfl := Option.some.inj (isFields.symm.trans areAccepted)
        exact (acceptsIff parties storable).mp accepts
      · intro university walletAddress request issuer accepts registered
        by_contra unregistered
        rw [registeredStudent_iff store.valid, not_exists] at unregistered
        obtain ⟨message, isUnknown⟩ := exits.unknown_iff.mpr ⟨⟨_, _, issuer⟩, unregistered⟩
        exact enforced.known fields request isFields accepts registered message isUnknown
    · intro asTyped
      have typed := asTyped fields upload isFields sends rfl rfl
      constructor
      · intro changed
        obtain ⟨parties, sequence, saves, storable⟩ := exits.saves_of_commits changed
        exact ⟨fields, isFields, (acceptsIff parties storable).mpr
          (typed.presentable parties sequence saves storable)⟩
      · intro others request areOthers accepts registered message isUnknown
        obtain rfl := Option.some.inj (isFields.symm.trans areOthers)
        obtain ⟨⟨university, walletAddress, issuer⟩, unregistered⟩ :=
          exits.unknown_iff.mp ⟨message, isUnknown⟩
        obtain ⟨student, recipient⟩ := (registeredStudent_iff store.valid upload).mp
          (typed.spelled university walletAddress request issuer accepts registered)
        exact unregistered student recipient
  · have isSession : session = (.error error, store.toStore, .fresh inputs) := by
      simp only [session, raises]
      rfl
    rw [isSession]
    constructor
    · intro _ fields upload _ sends
      exact absurd sends (never upload)
    · intro _
      exact ⟨fun changed => absurd rfl changed,
        fun _ _ _ _ _ message same => notUnknown message (Except.error.inj same)⟩

namespace Sample

open AcademicCredential.Sample

/-- A form whose one date is that of the sample degrees. -/
def fromIsoFormat (text : String) : Option Date := if text = "2022-01-08" then some 19000 else none

/-- A degree of the sample graduate in the given field, sent as a form. -/
def degreeForm (fieldOfStudy : String) : UploadForm where
  recipientEmail := some "graduate@uni.example"
  degreeTitle := some "BSc"
  fieldOfStudy := some fieldOfStudy
  issueDate := some "2022-01-08"
  expiryDate := none
  gradeClassification := none
  honors := some ""
  file := some { contentType := some "application/pdf", fileName := "degree.pdf", fileBytes := file }

/-- What the router makes of the form on a session of its own. -/
def degreeSession (fieldOfStudy : String) : Except Exception CertificateDraft × Store × Session :=
  ((degreeForm fieldOfStudy).receive
    (uploadCertificate Runtime.sample fromIsoFormat administrator)).run sessionHandler
      (CertificateIssuanceService.Sample.campus.toStore, .fresh (inputs answered))

/-- The fields of the form. -/
def degreeFields (fieldOfStudy : String) : UploadFields where
  recipientEmail := "graduate@uni.example"
  degreeTitle := "BSc"
  fieldOfStudy
  issueDate := "2022-01-08"
  expiryDate := none
  gradeClassification := none
  honors := none

/-- The empty part counts as missing. -/
theorem fields_degreeForm {fieldOfStudy : String} (given : fieldOfStudy ≠ "") :
    (degreeForm fieldOfStudy).fields? = some (degreeFields fieldOfStudy) := by
  have isField : field (some fieldOfStudy) = some fieldOfStudy := by simp [field, given]
  simp only [UploadForm.fields?, degreeForm, isField]
  rfl

end Sample

/-- The degree of a student in a field of study is committed as the schema takes it. -/
theorem schema_enforced_mathematics :
    SchemaEnforced AuthService.Sample.emailStr Sample.fromIsoFormat
      ((AcademicCredential.Sample.inputs AcademicCredential.Sample.answered).today 0)
      (Sample.degreeForm "Mathematics") CertificateIssuanceService.Sample.campus.database
      (Sample.degreeSession "Mathematics").2.1.database (Sample.degreeSession "Mathematics").1 := by
  refine (schema_enforced_iff AuthService.Sample.emailStr Sample.fromIsoFormat Runtime.sample
    Sample.fromIsoFormat (Sample.degreeForm "Mathematics")
    AcademicCredential.Sample.administrator CertificateIssuanceService.Sample.campus
    (AcademicCredential.Sample.inputs AcademicCredential.Sample.answered)
    CertificateIssuanceService.Sample.accounts_unused).mpr ?_
  rintro fields upload areFields sends - sameInputs
  obtain rfl := Option.some.inj (areFields.symm.trans (Sample.fields_degreeForm (by decide)))
  obtain ⟨made, areMade, isMetadata⟩ := sends.metadata
  obtain rfl := Option.some.inj (areFields.symm.trans areMade)
  obtain ⟨sameEmail, -, -⟩ := uploadMetadata_texts isMetadata
  constructor
  · intro _ _ _ _
    rw [sameInputs]
    exact (certificateIssueRequest_isSome_iff (by decide) (by decide)).mp (by decide +kernel)
  · intro _ _ _ _ _ _
    rw [sameEmail]
    exact ⟨AcademicCredential.Sample.graduate, .tail _ (.head _), rfl, _, .head _, rfl⟩

/-- A field of study that is a blank passes every check of the router and not that of the
schema. -/
theorem blank_field_committed :
    ¬ SchemaEnforced AuthService.Sample.emailStr Sample.fromIsoFormat
      ((AcademicCredential.Sample.inputs AcademicCredential.Sample.answered).today 0)
      (Sample.degreeForm " ") CertificateIssuanceService.Sample.campus.database
      (Sample.degreeSession " ").2.1.database (Sample.degreeSession " ").1 := by
  intro enforced
  have commits : ((Sample.degreeSession " ").2.1.database .certificates).length = 1 := by
    decide +kernel
  obtain ⟨fields, areFields, accepts⟩ := enforced.committed fun same => by
    rw [same] at commits
    cases commits
  obtain rfl := Option.some.inj (areFields.symm.trans (Sample.fields_degreeForm (by decide)))
  exact absurd accepts (by decide +kernel)

end CertificateRouter
end AcademicCredential
