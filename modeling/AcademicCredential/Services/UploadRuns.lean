import AcademicCredential.RepositoryRuns
import AcademicCredential.Services.UidSequence

/-!
# What an upload does

The upload reads the issuer, the student, the last UID of the year and the hash before it
writes the file, and inserts its two rows after that. `Upload.Saves` says that the reads let the
file be written, and `Upload.Storable` that the constraints then take both rows: `run_action` has
the exits of an upload, each with the condition it is taken under.
-/

namespace AcademicCredential.CertificateIssuanceService

open AcademicCredential.Lib

/-- The arguments of an upload, with what its session reads. -/
structure Upload where
  fileBytes : List UInt8
  fileOriginalName : String
  metadata : IssueMetadata
  currentUser : User
  inputs : Inputs

/-- Who issues, from which wallet, and to whom. -/
structure Parties where
  university : University
  walletAddress : String
  student : User

namespace Upload

/-- What an upload runs. -/
def action (upload : Upload) (runtime : Runtime) : Action CertificateDraft :=
  uploadAndHashCertificate runtime upload.fileBytes upload.fileOriginalName upload.metadata
    upload.currentUser

/-- The block of an upload. -/
def block (upload : Upload) (runtime : Runtime) : Action CertificateDraft :=
  uploadBlock runtime upload.fileBytes upload.fileOriginalName upload.metadata upload.currentUser

/-- The year of the UID. -/
def year (upload : Upload) : Int := yearOf (upload.inputs.today 0)

/-- Step 1: the administrator's university is verified and has a wallet. -/
structure Issuer (upload : Upload) (database : Database) (university : University)
    (walletAddress : String) : Prop where
  found : (database .universities).find?
    (fun row => some row.id = upload.currentUser.universityId) = some university
  verified : university.isVerified = true
  wallet : walletOf university = some walletAddress

/-- Step 2: the email is that of a user with a student profile. -/
structure Recipient (upload : Upload) (database : Database) (student : User) : Prop where
  found : (database .users).find? (fun row => row.email = upload.metadata.recipientEmail) =
    some student
  profile : ((database .students).find? fun row => row.userId = student.id).isSome = true

/-- Steps 1 and 2. -/
structure Between (upload : Upload) (database : Database) (parties : Parties) : Prop where
  issuer : upload.Issuer database parties.university parties.walletAddress
  recipient : upload.Recipient database parties.student

/-- Steps 1 to 5: everything that is checked before the file is written. -/
structure Saves (upload : Upload) (runtime : Runtime) (database : Database) (parties : Parties)
    (sequence : Nat) : Prop where
  between : upload.Between database parties
  next : CertificateRepository.nextSequence (CertificateRepository.lastUid
    parties.university.shortCode upload.year (database .certificates)) = some sequence
  newHash : (database .certificates).find?
    (fun row => row.sha256Hash = generateHashFromFile runtime upload.fileBytes) = none

/-- The path of the file. -/
def path (upload : Upload) (university : University) : String :=
  "certificates/" ++ uuidText university.id ++ "/" ++ uuidText (upload.inputs.uuid4 1) ++ ".pdf"

/-- The row of the certificate. -/
def certificate (upload : Upload) (runtime : Runtime) (parties : Parties) (sequence : Nat) :
    Certificate where
  id := upload.inputs.uuid4 1
  certificateUid := uidOf parties.university.shortCode upload.year sequence
  universityId := parties.university.id
  studentId := parties.student.id
  issuedBy := upload.currentUser.id
  recipientName := parties.student.firstName ++ " " ++ parties.student.lastName
  recipientEmailSnapshot := upload.metadata.recipientEmail
  degreeTitle := upload.metadata.degreeTitle
  fieldOfStudy := upload.metadata.fieldOfStudy
  gradeClassification := upload.metadata.gradeClassification
  honors := upload.metadata.honors
  issueDate := upload.metadata.issueDate
  expiryDate := upload.metadata.expiryDate
  sha256Hash := generateHashFromFile runtime upload.fileBytes
  blockchainStatus := .PENDING
  filePath := upload.path parties.university
  fileOriginalName := upload.fileOriginalName
  fileSizeBytes := upload.fileBytes.length
  fileMimeType := "application/pdf"
  isActive := true
  revocationReason := none
  revokedBy := none
  revokedAt := none

/-- The STORE_HASH row. -/
def storeRow (upload : Upload) (runtime : Runtime) (parties : Parties) :
    BlockchainTransaction where
  id := upload.inputs.uuid4 2
  certificateId := some (upload.inputs.uuid4 1)
  txHash := none
  txType := .STORE_HASH
  fromAddress := parties.walletAddress
  toAddress := runtime.contractAddress
  contractAddress := runtime.contractAddress
  blockNumber := none
  blockHash := none
  gasUsed := none
  gasPriceWei := none
  transactionFeeWei := none
  networkName := runtime.networkName
  networkChainId := runtime.networkChainId
  certificateHashStored := some (generateHashFromFile runtime upload.fileBytes)
  status := .PENDING
  errorMessage := none
  submittedAt := upload.inputs.databaseClock 3
  confirmedAt := none

/-- The answer of an upload that issues. -/
def draft (upload : Upload) (runtime : Runtime) (parties : Parties) (sequence : Nat) :
    CertificateDraft where
  certificateId := upload.inputs.uuid4 1
  certificateUid := uidOf parties.university.shortCode upload.year sequence
  sha256Hash := generateHashFromFile runtime upload.fileBytes
  blockchainStatus := .PENDING

/-- The texts of a request that its certificate's row stores. -/
def texts (upload : Upload) : List String :=
  [upload.metadata.degreeTitle, upload.metadata.fieldOfStudy, upload.fileOriginalName] ++
    upload.metadata.gradeClassification.toList ++ upload.metadata.honors.toList

/-- What the columns and the CHECK constraints ask of the metadata and the file. -/
structure Fits (upload : Upload) : Prop where
  texts : upload.texts.all isText = true
  degreeTitle : upload.metadata.degreeTitle.length ≤ 300 ∧
    isNotBlank upload.metadata.degreeTitle = true
  fieldOfStudy : upload.metadata.fieldOfStudy.length ≤ 300
  gradeClassification : ∀ grade, upload.metadata.gradeClassification = some grade →
    grade.length ≤ 100
  honors : ∀ honors, upload.metadata.honors = some honors → honors.length ≤ 100
  issueDate : -25567 ≤ upload.metadata.issueDate ∧
    upload.metadata.issueDate ≤ upload.inputs.today 2 + 1
  expiryDate : ∀ expiryDate, upload.metadata.expiryDate = some expiryDate →
    upload.metadata.issueDate < expiryDate
  fileName : upload.fileOriginalName.length ≤ 500
  fileSize : 0 < upload.fileBytes.length ∧ upload.fileBytes.length ≤ 52428800

end Upload

/-- What the columns and the CHECK constraints ask of the settings. -/
structure WellConfigured (runtime : Runtime) : Prop where
  contractAddress : isAddressText runtime.contractAddress = true
  networkName : runtime.networkName.length ≤ 50
  networkChainId : 0 < runtime.networkChainId ∧ runtime.networkChainId < 2 ^ 31

/-- The constraints take the rows of the upload. -/
structure Upload.Storable (upload : Upload) (runtime : Runtime) (database : Database)
    (university : University) : Prop where
  parts : UidParts university.shortCode upload.year
  remaining : ¬ Exhausted university.shortCode upload.year (database .certificates)
  fits : upload.Fits
  configured : WellConfigured runtime

namespace Upload

variable {upload : Upload} {runtime : Runtime} {direct : Direct} {parties : Parties}
  {sequence : Nat}

/-- The text of a UUID is 36 characters long. -/
theorem length_uuidText (uuid : Uuid) : (uuidText uuid).length = 36 := by
  rw [← String.length_toList]
  simp [uuidText]

/-- The text of an address is 42 characters long. -/
theorem length_of_isAddressText {text : String} (format : isAddressText text = true) :
    text.length = 42 := by
  unfold isAddressText prefixedHex at format
  split at format
  · rename_i digits isText
    simp only [exactly, Bool.and_eq_true, beq_iff_eq] at format
    rw [← String.length_toList, isText]
    simp [format.1]
  · cases format

/-- The row of the certificate is admissible exactly when the UID has its format and the metadata
and the file fit. -/
theorem certificate_admissible_iff {database : Database} (valid : database.Valid)
    (between : upload.Between database parties) :
    violation? (insertConstraints (upload.inputs.today 2) .certificates)
        (upload.certificate runtime parties sequence) = none ↔
      (UidParts parties.university.shortCode upload.year ∧ sequence ≤ 99999) ∧ upload.Fits := by
  obtain ⟨⟨university, -, -⟩, ⟨student, -⟩⟩ := between
  have isUniversity := List.mem_of_find?_eq_some university
  have isStudent := List.mem_of_find?_eq_some student
  have universityRow := violation?_eq_none.mp (valid.admissible .universities _ isUniversity)
  have studentRow := violation?_eq_none.mp (valid.admissible .users _ isStudent)
  have isRecipient : parties.student.email = upload.metadata.recipientEmail := by
    simpa using List.find?_some student
  simp only [constraints, University.constraints, User.constraints, List.forall_mem_cons,
    Truth.passes_certain, fits, decide_eq_true_iff] at universityRow studentRow
  obtain ⟨shortCode, -⟩ := universityRow
  obtain ⟨email, -, -, -, -, first, last, studentTexts, -, names, -⟩ := studentRow
  have hash : isSha256Text (generateHashFromFile runtime upload.fileBytes) = true :=
    isSha256Text_hexText (runtime.sha256 upload.fileBytes)
  rw [violation?_eq_none]
  simp only [insertConstraints, Certificate.constraints, Certificate.issueDateReasonable,
    List.forall_mem_append, List.forall_mem_cons]
  have passesAll : ∀ (texts : Option String) (bound : Nat),
      (Truth.test (fits bound) texts).passes = true ↔
        ∀ text, texts = some text → text.length ≤ bound := by
    intro texts bound
    cases texts <;> simp [fits]
  have textsIff : (upload.certificate runtime parties sequence).texts.all isText = true ↔
      upload.texts.all isText = true := by
    simp only [List.all_cons, List.all_nil, Bool.and_true, Bool.and_eq_true] at studentTexts
    obtain ⟨emailText, firstText, lastText⟩ := studentTexts
    rw [isRecipient] at emailText
    simp only [Certificate.texts, Upload.texts, certificate, List.all_append, List.all_cons,
      List.all_nil, isText_append, firstText, lastText, emailText, Bool.and_eq_true, Bool.and_true,
      true_and]
    rw [show isText " " = true by decide]
    simp only [true_and]
  simp only [textsIff, Truth.passes_certain]
  simp only [certificate, passes_nullOr, passesAll, isCertificateUidText_uidOf]
  simp only [fits, decide_eq_true_eq, String.length_append, beq_iff_eq, gt_iff_lt,
    List.contains_eq_mem, List.mem_cons, String.reduceEq, List.not_mem_nil, or_self, or_false,
    decide_true, Bool.not_true, Truth.passes_or, Truth.passes_and, Truth.passes_certain,
    Truth.passes_isNull, Option.isNone_none, Bool.and_self, Truth.passes_isNotNull,
    Option.isSome_none, Bool.or_false, Bool.false_and, Bool.not_false, IsEmpty.forall_iff,
    implies_true, and_true, true_and, Bool.and_eq_true, Option.all_eq_true]
  constructor
  · rintro ⟨⟨-, -, -, degreeTitle, fieldOfStudy, gradeClassification, honors, -, -, fileName, -, texts,
      uid, -, -, expiryDate, positive, fileSize, -, notBlank⟩, earliest, latest⟩
    exact ⟨uid, texts, ⟨degreeTitle, notBlank⟩, fieldOfStudy, gradeClassification, honors,
      ⟨of_decide_eq_true earliest, of_decide_eq_true latest⟩, expiryDate, fileName, positive,
      of_decide_eq_true fileSize⟩
  · rintro ⟨⟨parts, small⟩, fits⟩
    have uidLength : (uidOf parties.university.shortCode upload.year sequence).length ≤ 50 := by
      have yearLength := parts.year
      simp only [exactly, Bool.and_eq_true, beq_iff_eq] at yearLength
      rw [← String.length_toList, toList_uidOf, List.length_append, (fiveDigits_digits small).1]
      simp only [uidPrefix, String.toList_append, List.length_append, yearLength.1,
        String.length_toList]
      have dash : "-".length = 1 := rfl
      omega
    have pathLength : (upload.path parties.university).length ≤ 1000 := by
      simp only [path, String.length_append, length_uuidText]
      decide
    have hashLength : (generateHashFromFile runtime upload.fileBytes).length ≤ 64 := by
      simp only [isSha256Text, exactly, Bool.and_eq_true, beq_iff_eq] at hash
      exact (String.length_toList.symm.trans hash.1).le
    have nameNotBlank :
        isNotBlank (parties.student.firstName ++ " " ++ parties.student.lastName) = true := by
      rw [isNotBlank, String.toList_append, String.toList_append, List.any_append, List.any_append]
      have firstNotBlank : parties.student.firstName.toList.any (· != ' ') = true :=
        (Bool.and_eq_true_iff.mp names).1
      rw [firstNotBlank]
      rfl
    have blank : " ".length = 1 := rfl
    refine ⟨⟨uidLength, by omega, isRecipient ▸ email, fits.degreeTitle.1, fits.fieldOfStudy,
      fits.gradeClassification, fits.honors, hashLength, pathLength, fits.fileName, by decide,
      fits.texts, ⟨parts, small⟩, hash, (simpleLower_of_isSha256Text hash).symm, fits.expiryDate,
      fits.fileSize.1, decide_eq_true fits.fileSize.2, nameNotBlank, fits.degreeTitle.2⟩,
      decide_eq_true fits.issueDate.1, decide_eq_true fits.issueDate.2⟩

/-- The STORE_HASH row is admissible exactly when the settings fit. -/
theorem storeRow_admissible_iff {database : Database} (valid : database.Valid)
    (between : upload.Between database parties) :
    @Admissible .blockchainTransactions (upload.storeRow runtime parties) ↔
      WellConfigured runtime := by
  obtain ⟨⟨university, -, wallet⟩, -⟩ := between
  have isUniversity := List.mem_of_find?_eq_some university
  have universityRow := violation?_eq_none.mp (valid.admissible .universities _ isUniversity)
  have isWallet : parties.university.walletAddress = some parties.walletAddress :=
    (Option.filter_eq_some_iff.mp wallet).1
  simp only [constraints, University.constraints, List.forall_mem_cons, passes_nullOr, isWallet,
    Option.all_some] at universityRow
  obtain ⟨-, -, walletFormat, -⟩ := universityRow
  have walletLength := length_of_isAddressText walletFormat
  have hash : isSha256Text (generateHashFromFile runtime upload.fileBytes) = true :=
    isSha256Text_hexText (runtime.sha256 upload.fileBytes)
  have hashLength : (generateHashFromFile runtime upload.fileBytes).length = 64 := by
    simp only [isSha256Text, exactly, Bool.and_eq_true, beq_iff_eq] at hash
    exact String.length_toList.symm.trans hash.1
  rw [Admissible, violation?_eq_none]
  simp only [constraints, BlockchainTransaction.constraints, List.forall_mem_cons]
  simp only [storeRow, Truth.passes_test_none, fits, walletLength, Std.le_refl, decide_true,
    Truth.passes_certain, isInteger, Truth.passes_test_some, hashLength, passes_nullOr,
    Option.all_none, walletFormat, Truth.passes_or, Truth.passes_and, Truth.passes_isNotNull,
    Option.isSome_none, Bool.and_self, Bool.or_false, bne_iff_ne, ne_eq, reduceCtorEq,
    not_false_eq_true, Option.all_some, hash, Truth.passes_isNull, Option.isNone_none,
    List.not_mem_nil, IsEmpty.forall_iff, implies_true, and_self, and_true, true_and, and_self_left]
  constructor
  · rintro ⟨-, -, networkName, small, contractAddress, positive⟩
    exact ⟨contractAddress, of_decide_eq_true networkName, of_decide_eq_true positive,
      of_decide_eq_true small⟩
  · rintro ⟨contractAddress, networkName, positive, small⟩
    have contractLength := decide_eq_true (length_of_isAddressText contractAddress).le
    exact ⟨contractLength, contractLength, decide_eq_true networkName, decide_eq_true small,
      contractAddress, decide_eq_true positive⟩

/-- While numbers remain, the number has five digits and its UID is free. -/
theorem small_iff {database : Database} (valid : database.Valid)
    (saves : upload.Saves runtime database parties sequence)
    (parts : UidParts parties.university.shortCode upload.year) :
    (sequence ≤ 99999 ↔
      ¬ Exhausted parties.university.shortCode upload.year (database .certificates)) ∧
    (sequence ≤ 99999 → ∀ row ∈ database .certificates,
      row.certificateUid ≠ uidOf parties.university.shortCode upload.year sequence) := by
  rcases nextSequence_cases parts valid.uidFormats with ⟨next, unused⟩ |
    ⟨last, small, next, used, greatest⟩
  · obtain rfl : 1 = sequence := Option.some.inj (next.symm.trans saves.next)
    refine ⟨⟨fun _ => ?_, fun _ => by decide⟩, fun _ row member => unused row member 1⟩
    rintro ⟨row, member, isLast⟩
    exact unused row member 99999 isLast
  · obtain rfl : last + 1 = sequence := Option.some.inj (next.symm.trans saves.next)
    constructor
    · constructor
      · rintro smaller ⟨row, member, isLast⟩
        have atMost := greatest row member 99999 (by decide) isLast
        omega
      · intro remaining
        have notLast : last ≠ 99999 := by
          rintro rfl
          exact remaining used
        omega
    · intro smaller row member isNext
      have atMost := greatest row member (last + 1) smaller isNext
      omega

/-- The INSERT of the certificate is accepted exactly when numbers remain and the metadata and the
file fit. -/
theorem certificate_accepted_iff {database : Database} (valid : database.Valid)
    (saves : upload.Saves runtime database parties sequence)
    (fresh : Unused database (upload.inputs.uuid4 1)) :
    checkInsert (upload.inputs.today 2) database .certificates
        (upload.certificate runtime parties sequence) = .ok () ↔
      (UidParts parties.university.shortCode upload.year ∧
        ¬ Exhausted parties.university.shortCode upload.year (database .certificates)) ∧
          upload.Fits := by
  have admissible := @certificate_admissible_iff upload runtime parties sequence database valid
    saves.between
  constructor
  · intro accepted
    obtain ⟨⟨parts, small⟩, fits⟩ := admissible.mp (checkInsert_ok accepted).1
    exact ⟨⟨parts, (small_iff valid saves parts).1.mp small⟩, fits⟩
  · rintro ⟨⟨parts, remaining⟩, fits⟩
    obtain ⟨small, free⟩ := small_iff valid saves parts
    refine checkInsert_of_free (admissible.mpr ⟨⟨parts, small.mpr remaining⟩, fits⟩) ?_
    intro other member key inNew inOther
    simp only [uniqueKeys, List.mem_cons, List.not_mem_nil, or_false] at inNew
    rcases inNew with isId | isUid | isHash
    · exact fresh .certificates other member key inOther (congrArg UniqueKey.value isId)
    · subst isUid
      have same : other.certificateUid = uidOf parties.university.shortCode upload.year sequence := by
        simpa [uniqueKeys, certificate, eq_comm] using inOther
      exact free (small.mpr remaining) other member same
    · subst isHash
      have same : other.sha256Hash = generateHashFromFile runtime upload.fileBytes := by
        simpa [uniqueKeys, certificate, eq_comm] using inOther
      exact List.find?_eq_none.mp saves.newHash other member (by simpa using same)

/-- The INSERT of the STORE_HASH row is accepted exactly when the settings fit. -/
theorem storeRow_accepted_iff {database : Database} {today : Date} {rows : List Certificate}
    (valid : database.Valid) (between : upload.Between database parties)
    (fresh : Unused database (upload.inputs.uuid4 2)) :
    checkInsert today (Function.update database .certificates rows) .blockchainTransactions
        (upload.storeRow runtime parties) = .ok () ↔ WellConfigured runtime := by
  rw [← storeRow_admissible_iff valid between]
  constructor
  · exact fun accepted => (checkInsert_ok accepted).1
  · intro admissible
    refine checkInsert_of_free admissible fun other member key inNew inOther => ?_
    have isId := List.mem_singleton.mp inNew
    exact fresh .blockchainTransactions other member key inOther (congrArg UniqueKey.value isId)

/-- The state after the file was written. -/
def saved (upload : Upload) (direct : Direct) (university : University) : Direct :=
  { direct.read.read with
    files := direct.files.filter (·.1 ≠ upload.path university) ++
      [(upload.path university, upload.fileBytes)] }

/-- The state after the certificate was inserted. -/
def inserted (upload : Upload) (runtime : Runtime) (direct : Direct) (parties : Parties)
    (sequence : Nat) : Direct :=
  (upload.saved direct parties.university).write
    (.insert .certificates (upload.certificate runtime parties sequence))

/-- The state after both rows were inserted. -/
def issued (upload : Upload) (runtime : Runtime) (direct : Direct) (parties : Parties)
    (sequence : Nat) : Direct :=
  (upload.inserted runtime direct parties sequence).read.read.write
    (.insert .blockchainTransactions (upload.storeRow runtime parties))

/-- The next number follows the last one issued. -/
theorem run_getNextUidSequence (direct : Direct) {shortCode : String} {year : Int}
    (next : CertificateRepository.nextSequence (CertificateRepository.lastUid shortCode year
      (direct.working .certificates)) = some sequence) :
    (CertificateRepository.getNextUidSequence shortCode year).run directHandler direct =
      (.ok sequence, direct.touch) := by
  cases last : CertificateRepository.lastUid shortCode year (direct.working .certificates) with
  | none =>
      rw [last] at next
      obtain rfl : 1 = sequence := Option.some.inj next
      rw [CertificateRepository.lastUid] at last
      simp only [CertificateRepository.getNextUidSequence, Program.run_bind, Program.run_perform,
        directHandler, last]
      rfl
  | some uid =>
      rw [last, CertificateRepository.nextSequence] at next
      obtain ⟨number, parsed, rfl⟩ := Option.map_eq_some_iff.mp next
      rw [CertificateRepository.lastUid] at last
      simp only [CertificateRepository.getNextUidSequence, Program.run_bind, Program.run_perform,
        directHandler, last, parsed]
      rfl

/-- Steps 1 and 2 refuse the upload, or hand it on with its parties. -/
theorem block_cases (opened : direct.Open) (upload : Upload) (runtime : Runtime) :
    ((∀ university walletAddress, ¬ upload.Issuer direct.working university walletAddress) ∧
      ∃ error ∈ [ErrorClass.UnverifiedUniversityError, .MissingWalletAddressError],
        (upload.block runtime).run directHandler direct = (.error error.default, direct)) ∨
    ((∃ university walletAddress, upload.Issuer direct.working university walletAddress) ∧
      (∀ student, ¬ upload.Recipient direct.working student) ∧
      ∃ message, (upload.block runtime).run directHandler direct =
        (.error (.app .UserNotFoundError message), direct)) ∨
    ∃ parties, upload.Between direct.working parties ∧
      (upload.block runtime).run directHandler direct =
        (createRecords runtime upload.fileBytes upload.fileOriginalName upload.metadata
          upload.currentUser parties.student parties.university parties.walletAddress).run
            directHandler direct := by
  have looksUniversity := BaseRepository.run_findOne opened .universities
    fun row => some row.id = upload.currentUser.universityId
  have looksUser := BaseRepository.run_findOne opened .users
    fun row => row.email = upload.metadata.recipientEmail
  simp only [block, uploadBlock, universityOf, Program.run_bind, looksUniversity]
  cases found : (direct.working .universities).find?
      fun row => some row.id = upload.currentUser.universityId with
  | none =>
      left
      refine ⟨fun university walletAddress issuer => ?_, .UnverifiedUniversityError, by decide, rfl⟩
      have same := issuer.found
      rw [found] at same
      cases same
  | some university =>
      have same : ∀ {other : University} {walletAddress : String},
          upload.Issuer direct.working other walletAddress → university = other := fun issuer =>
        Option.some.inj (found.symm.trans issuer.found)
      cases verified : university.isVerified with
      | false =>
          left
          refine ⟨fun other walletAddress issuer => ?_, .UnverifiedUniversityError, by decide, ?_⟩
          · rw [same issuer, issuer.verified] at verified
            cases verified
          · simp [verified]
      | true =>
          cases wallet : walletOf university with
          | none =>
              left
              refine ⟨fun other walletAddress issuer => ?_, .MissingWalletAddressError, by decide, ?_⟩
              · rw [same issuer, issuer.wallet] at wallet
                cases wallet
              · simp [verified, wallet]
          | some walletAddress =>
              right
              have issuer : upload.Issuer direct.working university walletAddress :=
                ⟨found, verified, wallet⟩
              simp only [verified, wallet, UserRepository.getByEmail, Bool.not_true,
                Bool.false_eq_true, if_false, Program.run_bind, looksUser]
              cases known : (direct.working .users).find?
                  fun row => row.email = upload.metadata.recipientEmail with
              | none =>
                  left
                  refine ⟨⟨_, _, issuer⟩, fun student recipient => ?_, _, rfl⟩
                  rw [recipient.found] at known
                  cases known
              | some student =>
                  have looksProfile := BaseRepository.run_findOne opened .students
                    fun row => row.userId = student.id
                  simp only [StudentRepository.getByUserId, Program.run_bind, looksProfile]
                  cases profile : (direct.working .students).find?
                      fun row => row.userId = student.id with
                  | none =>
                      left
                      refine ⟨⟨_, _, issuer⟩, fun other recipient => ?_, _, rfl⟩
                      obtain rfl : student = other :=
                        Option.some.inj (known.symm.trans recipient.found)
                      have some := recipient.profile
                      rw [profile] at some
                      cases some
                  | some _ =>
                      right
                      exact ⟨⟨university, walletAddress, student⟩,
                        ⟨issuer, known, by rw [profile]; rfl⟩, rfl⟩

/-- The file, with the state it is written in. -/
theorem open_saved (opened : direct.Open) (university : University) :
    (upload.saved direct university).Open :=
  ⟨opened.inTransaction, opened.valid⟩

/-- A constraint of some table refused a row. -/
def Violation (error : Exception) : Prop :=
  ∃ table constraint,
    error = .CheckViolation table constraint ∨ error = .UniqueViolation table constraint

/-- A refused row violates a constraint. -/
theorem violation_of_checkInsert {today : Date} {database : Database} {table : Table}
    {row : Row table} {error : Exception}
    (refused : checkInsert today database table row = .error error) : Violation error := by
  unfold checkInsert at refused
  split at refused
  · cases refused
    exact ⟨_, _, .inl rfl⟩
  · split at refused
    · cases refused
      exact ⟨_, _, .inr rfl⟩
    · cases refused

/-- Steps 7 and 8. -/
def inserts (upload : Upload) (runtime : Runtime) (parties : Parties) (sequence : Nat) :
    Action CertificateDraft := do
  let certificate ← CertificateRepository.create (upload.certificate runtime parties sequence)
  let txId ← Program.perform .uuid4
  let submittedAt ← Program.perform .serverNow
  let _ ← BlockchainTransactionRepository.create
    { upload.storeRow runtime parties with
      id := txId
      certificateId := some certificate.id
      submittedAt }
  return { upload.draft runtime parties sequence with certificateId := certificate.id }

/-- The rows are inserted exactly when the constraints take both. -/
theorem inserts_cases (opened : direct.Open) (unread : direct.reads = 0)
    (sameInputs : direct.inputs = upload.inputs)
    (saves : upload.Saves runtime direct.working parties sequence)
    (fresh : ∀ read, Unused direct.working (upload.inputs.uuid4 read)) :
    let outcome := (upload.inserts runtime parties sequence).run directHandler
      (upload.saved direct parties.university)
    (¬ upload.Storable runtime direct.working parties.university ∧
      ∃ error after, outcome = (.error error, after) ∧ Violation error ∧
        after.database = direct.database ∧
          after.files = (upload.saved direct parties.university).files) ∨
    (upload.Storable runtime direct.working parties.university ∧
      outcome = (.ok (upload.draft runtime parties sequence),
        upload.issued runtime direct parties sequence)) := by
  intro outcome
  have openSaved := @open_saved upload _ opened parties.university
  have isSaved : (upload.saved direct parties.university).reads = 2 ∧
      (upload.saved direct parties.university).inputs = upload.inputs ∧
        (upload.saved direct parties.university).working = direct.working := by
    simp [saved, Direct.read, unread, sameInputs]
  have creates := @BaseRepository.run_create _ openSaved .certificates
    (upload.certificate runtime parties sequence)
  rw [isSaved.1, isSaved.2.1, isSaved.2.2] at creates
  have acceptedIff := certificate_accepted_iff opened.valid saves (fresh 1)
  cases accepted : checkInsert (upload.inputs.today 2) direct.working .certificates
      (upload.certificate runtime parties sequence) with
  | error error =>
      left
      rw [accepted] at creates
      refine ⟨fun storable => ?_, error, upload.saved direct parties.university, ?_,
        violation_of_checkInsert accepted, rfl, rfl⟩
      · have isAccepted := acceptedIff.mpr ⟨⟨storable.parts, storable.remaining⟩, storable.fits⟩
        rw [accepted] at isAccepted
        cases isAccepted
      · simp only [outcome, inserts, CertificateRepository.create, Program.run_bind, creates]
  | ok _ =>
      obtain ⟨⟨parts, remaining⟩, fits⟩ := acceptedIff.mp accepted
      rw [accepted] at creates
      have openInserted : (upload.inserted runtime direct parties sequence).Open :=
        openSaved.write_insert accepted
      have isCreated : (BaseRepository.create .certificates (upload.certificate runtime parties
          sequence)).run directHandler (upload.saved direct parties.university) =
            (.ok (upload.certificate runtime parties sequence),
              upload.inserted runtime direct parties sequence) := creates
      have drawsId : directHandler _ .uuid4 (upload.inserted runtime direct parties sequence) =
          (upload.inputs.uuid4 2, (upload.inserted runtime direct parties sequence).read) := by
        simp [directHandler, inserted, saved, Direct.read, Direct.write, unread, sameInputs]
      have readsClock : directHandler _ .serverNow
          (upload.inserted runtime direct parties sequence).read =
            (upload.inputs.databaseClock 3,
              (upload.inserted runtime direct parties sequence).read.read) := by
        simp [directHandler, inserted, saved, Direct.read, Direct.write, unread, sameInputs]
      have records := @BaseRepository.run_create _ openInserted.read.read .blockchainTransactions
        (upload.storeRow runtime parties)
      have isInserted : (upload.inserted runtime direct parties sequence).read.read.working =
          Function.update direct.working .certificates
            (direct.working .certificates ++ [upload.certificate runtime parties sequence]) := rfl
      rw [isInserted] at records
      have ran : outcome = (BaseRepository.create .blockchainTransactions
          (upload.storeRow runtime parties) >>= fun _ =>
            pure (upload.draft runtime parties sequence)).run directHandler
              (upload.inserted runtime direct parties sequence).read.read := by
        simp only [outcome, inserts, CertificateRepository.create, Program.run_bind, isCreated,
          Program.run_perform, drawsId, readsClock, BlockchainTransactionRepository.create]
        rfl
      rw [ran, Program.run_bind]
      have configuredIff := @storeRow_accepted_iff upload runtime parties direct.working
        ((upload.inserted runtime direct parties sequence).read.read.inputs.today
          (upload.inserted runtime direct parties sequence).read.read.reads)
        (direct.working .certificates ++ [upload.certificate runtime parties sequence])
        opened.valid saves.between (fresh 2)
      cases recorded : checkInsert ((upload.inserted runtime direct parties
          sequence).read.read.inputs.today (upload.inserted runtime direct parties
            sequence).read.read.reads) (Function.update direct.working .certificates
              (direct.working .certificates ++ [upload.certificate runtime parties sequence]))
                .blockchainTransactions (upload.storeRow runtime parties) with
      | error error =>
          left
          rw [recorded] at records
          refine ⟨fun storable => ?_, error,
            (upload.inserted runtime direct parties sequence).read.read, by rw [records],
            violation_of_checkInsert recorded, rfl, rfl⟩
          have isRecorded := configuredIff.mpr storable.configured
          rw [recorded] at isRecorded
          cases isRecorded
      | ok _ =>
          right
          rw [recorded] at records
          exact ⟨⟨parts, remaining, fits, configuredIff.mp recorded⟩, by rw [records]; rfl⟩

/-- How an upload between known parties ends: refused before the file is written, refused with the
file written, or issued. -/
theorem createRecords_cases (opened : direct.Open) (unread : direct.reads = 0)
    (sameInputs : direct.inputs = upload.inputs)
    (between : upload.Between direct.working parties)
    (fresh : ∀ read, Unused direct.working (upload.inputs.uuid4 read)) :
    let outcome := (createRecords runtime upload.fileBytes upload.fileOriginalName upload.metadata
      upload.currentUser parties.student parties.university parties.walletAddress).run directHandler
        direct
    (((direct.working .certificates).find?
        (fun row => row.sha256Hash = generateHashFromFile runtime upload.fileBytes) ≠ none) ∧
      outcome = (.error ErrorClass.DuplicateCertificateError.default, direct.read)) ∨
    ∃ sequence, upload.Saves runtime direct.working parties sequence ∧
      ((¬ upload.Storable runtime direct.working parties.university ∧
        ∃ error after, outcome = (.error error, after) ∧ Violation error ∧
          after.database = direct.database ∧
            after.files = (upload.saved direct parties.university).files) ∨
      (upload.Storable runtime direct.working parties.university ∧
        outcome = (.ok (upload.draft runtime parties sequence),
          upload.issued runtime direct parties sequence))) := by
  intro outcome
  obtain ⟨sequence, next⟩ := exists_nextSequence opened.valid.uidFormats
    parties.university.shortCode upload.year
  have drawsYear : directHandler _ .today direct = (upload.inputs.today 0, direct.read) := by
    simp [directHandler, unread, sameInputs]
  have numbers : (CertificateRepository.getNextUidSequence parties.university.shortCode
      (yearOf (upload.inputs.today 0))).run directHandler direct.read =
        (.ok sequence, direct.read) :=
    (run_getNextUidSequence direct.read next).trans (by rw [opened.read.touch])
  have looks := BaseRepository.run_findOne opened.read .certificates
    fun row => row.sha256Hash = generateHashFromFile runtime upload.fileBytes
  have isWorking : direct.read.working = direct.working := rfl
  cases found : (direct.working .certificates).find?
      fun row => row.sha256Hash = generateHashFromFile runtime upload.fileBytes with
  | some other =>
      left
      rw [isWorking, found] at looks
      refine ⟨by simp, ?_⟩
      simp only [outcome, createRecords, Program.run_bind, Program.run_perform, drawsYear,
        numbers, CertificateRepository.getByHash, looks]
      rfl
  | none =>
      right
      have saves : upload.Saves runtime direct.working parties sequence := ⟨between, next, found⟩
      refine ⟨sequence, saves, ?_⟩
      rw [isWorking, found] at looks
      have drawsId : directHandler _ .uuid4 direct.read =
          (upload.inputs.uuid4 1, direct.read.read) := by
        simp [directHandler, Direct.read, unread, sameInputs]
      have writes : (saveCertificate upload.fileBytes parties.university.id
          (upload.inputs.uuid4 1)).run directHandler direct.read.read =
            (.ok (upload.path parties.university), upload.saved direct parties.university) := rfl
      have rest : outcome = (upload.inserts runtime parties sequence).run directHandler
          (upload.saved direct parties.university) := by
        simp only [outcome, createRecords, inserts, Program.run_bind, Program.run_perform, drawsYear,
          numbers, CertificateRepository.getByHash, looks, drawsId, writes]
        rfl
      rw [rest]
      exact inserts_cases opened unread sameInputs saves fresh

/-- How an upload leaves the store, and what it returns. -/
inductive Exit (upload : Upload) (runtime : Runtime) (before after : Store) :
    Except Exception CertificateDraft → Prop
  /-- The issuer, the student or the hash is refused. -/
  | early (error : Exception) (database : after.database = before.database)
      (files : after.files = before.files)
      (unsaved : ∀ parties sequence, ¬ upload.Saves runtime before.database parties sequence)
      (unknown : (∃ message, error = .app .UserNotFoundError message) ↔
        (∃ university walletAddress, upload.Issuer before.database university walletAddress) ∧
          ∀ student, ¬ upload.Recipient before.database student) :
      Exit upload runtime before after (.error error)
  /-- The file is written and a row is refused. -/
  | refused (error : Exception) (violation : Violation error) (parties : Parties) (sequence : Nat)
      (saves : upload.Saves runtime before.database parties sequence)
      (unstorable : ¬ upload.Storable runtime before.database parties.university)
      (database : after.database = before.database)
      (files : after.files = before.files.filter (·.1 ≠ upload.path parties.university) ++
        [(upload.path parties.university, upload.fileBytes)]) :
      Exit upload runtime before after (.error error)
  | issued (parties : Parties) (sequence : Nat)
      (saves : upload.Saves runtime before.database parties sequence)
      (storable : upload.Storable runtime before.database parties.university)
      (database : after.database = (Write.insert .blockchainTransactions
        (upload.storeRow runtime parties)).apply ((Write.insert .certificates
          (upload.certificate runtime parties sequence)).apply before.database))
      (files : after.files = before.files.filter (·.1 ≠ upload.path parties.university) ++
        [(upload.path parties.university, upload.fileBytes)]) :
      Exit upload runtime before after (.ok (upload.draft runtime parties sequence))

/-- The outcome of an upload on a session of its own. -/
def outcome (upload : Upload) (runtime : Runtime) (store : Store) :
    Except Exception CertificateDraft × Store × Session :=
  (upload.action runtime).run sessionHandler (store, .fresh upload.inputs)

/-- An upload ends by one of its exits. -/
theorem run_action (upload : Upload) (runtime : Runtime) (store : ValidStore)
    (fresh : ∀ read, Unused store.database (upload.inputs.uuid4 read)) :
    upload.Exit runtime store.toStore (upload.outcome runtime store.toStore).2.1
      (upload.outcome runtime store.toStore).1 := by
  obtain ⟨sameOutcome, described⟩ := store.run_eq upload.inputs (upload.action runtime)
  have sameDatabase := congrArg Direct.database described
  have sameFiles := congrArg Direct.files described
  have isOutcome : (upload.outcome runtime store.toStore).1 = _ := sameOutcome
  have isDatabase : (upload.outcome runtime store.toStore).2.1.database = _ := sameDatabase
  have isFiles : (upload.outcome runtime store.toStore).2.1.files = _ := sameFiles
  have isBlock : (upload.action runtime).run directHandler (.fresh store.toStore upload.inputs) = _ :=
    run_transaction_fresh (upload.block runtime) store.toStore upload.inputs
  rw [isBlock] at isOutcome isDatabase isFiles
  have opened := Direct.open_begun store upload.inputs
  rcases block_cases opened upload runtime with ⟨unissued, error, isError, ran⟩ |
    ⟨issuer, unreceived, message, ran⟩ | ⟨parties, between, ran⟩
  · rw [ran] at isOutcome isDatabase isFiles
    rw [isOutcome]
    refine .early _ isDatabase isFiles (fun parties sequence saves => ?_) ?_
    · exact unissued _ _ saves.between.issuer
    · constructor
      · rintro ⟨message, same⟩
        have otherClass := (Exception.app.inj same).1
        simp [otherClass] at isError
      · rintro ⟨⟨university, walletAddress, issuer⟩, -⟩
        exact absurd issuer (unissued _ _)
  · rw [ran] at isOutcome isDatabase isFiles
    rw [isOutcome]
    refine .early _ isDatabase isFiles (fun parties sequence saves => ?_) ?_
    · exact unreceived _ saves.between.recipient
    · exact ⟨fun _ => ⟨issuer, unreceived⟩, fun _ => ⟨message, rfl⟩⟩
  · have ends := @createRecords_cases upload runtime _ parties opened rfl rfl between fresh
    rw [← ran] at ends
    rcases ends with ⟨known, same⟩ | ⟨sequence, saves, ⟨unstorable, error, after, same, violation,
      database, files⟩ | ⟨storable, same⟩⟩
    · rw [same] at isOutcome isDatabase isFiles
      rw [isOutcome]
      refine .early _ isDatabase isFiles (fun parties sequence saves => known saves.newHash) ?_
      constructor
      · rintro ⟨message, other⟩
        exact absurd (Exception.app.inj other).1 (by decide)
      · rintro ⟨-, unreceived⟩
        exact absurd between.recipient (unreceived _)
    · rw [same] at isOutcome isDatabase isFiles
      rw [isOutcome]
      exact .refused error violation parties sequence saves unstorable (isDatabase.trans database)
        (isFiles.trans files)
    · rw [same] at isOutcome isDatabase isFiles
      rw [isOutcome]
      exact .issued parties sequence saves storable isDatabase isFiles

end Upload
end AcademicCredential.CertificateIssuanceService
