import AcademicCredential.Services.StatusMachine
import AcademicCredential.Services.UploadRuns

/-!
# What a failed upload leaves behind

The block is rolled back when a row is refused, the file that was written before is not. An
upload is all or nothing exactly when the constraints take its rows once the checks before the
file have passed.
-/

namespace AcademicCredential.CertificateIssuanceService

open AcademicCredential.Lib

/-- The tables an upload inserts into. -/
def uploadTables : List Table := [.certificates, .blockchainTransactions]

/-- An upload that raises leaves the store as it was; one that returns adds one certificate, one
pending STORE_HASH row and the file whose hash the certificate has. -/
inductive AllOrNothing (runtime : Runtime) (before after : Store) :
    Except Exception CertificateDraft → Prop
  | nothing (error : Exception) (database : after.database = before.database)
      (files : after.files = before.files) : AllOrNothing runtime before after (.error error)
  | all (draft : CertificateDraft) (certificate : Certificate) (storeTx : BlockchainTransaction)
      (bytes : List UInt8)
      (certificates : after.database .certificates =
        before.database .certificates ++ [certificate])
      (transactions : after.database .blockchainTransactions =
        before.database .blockchainTransactions ++ [storeTx])
      (others : ∀ table, table ∉ uploadTables → after.database table = before.database table)
      (pending : storeTx.txType = .STORE_HASH ∧ storeTx.status = .PENDING ∧
        storeTx.certificateId = some certificate.id)
      (files : after.files = before.files ++ [(certificate.filePath, bytes)])
      (hashed : certificate.sha256Hash = generateHashFromFile runtime bytes) :
      AllOrNothing runtime before after (.ok draft)

/-- Once the checks before the file have passed, the constraints take the rows. -/
def Upload.StorableOnceSaved (upload : Upload) (runtime : Runtime) (database : Database) : Prop :=
  ∀ parties sequence, upload.Saves runtime database parties sequence →
    upload.Storable runtime database parties.university

/-- A path that no file has yet. -/
def Upload.NewPath (upload : Upload) (files : List (String × List UInt8)) : Prop :=
  ∀ university, ∀ file ∈ files, file.1 ≠ upload.path university

/-- The upload replaces no file. -/
theorem Upload.NewPath.filter {upload : Upload} {files : List (String × List UInt8)}
    (newPath : upload.NewPath files) (university : University) :
    files.filter (·.1 ≠ upload.path university) = files := by
  refine List.filter_eq_self.mpr fun file member => ?_
  exact decide_eq_true (newPath university file member)

/-- An upload is all or nothing, unless its file is written and one of its rows is refused. -/
theorem upload_all_or_nothing_iff (runtime : Runtime) (upload : Upload) (store : ValidStore)
    (fresh : ∀ read, Unused store.database (upload.inputs.uuid4 read))
    (newPath : upload.NewPath store.files) :
    AllOrNothing runtime store.toStore (upload.outcome runtime store.toStore).2.1
        (upload.outcome runtime store.toStore).1 ↔
      upload.StorableOnceSaved runtime store.database := by
  have exits := upload.run_action runtime store fresh
  generalize (upload.outcome runtime store.toStore).2.1 = after at exits
  generalize (upload.outcome runtime store.toStore).1 = returned at exits
  cases exits with
  | early error database files unsaved =>
      constructor
      · intro _ parties sequence saves
        exact absurd saves (unsaved parties sequence)
      · exact fun _ => .nothing error database files
  | refused error _ parties sequence saves unstorable database files =>
      constructor
      · intro complete
        cases complete with
        | nothing _ _ sameFiles =>
            -- The file that was written is still there.
            rw [newPath.filter] at files
            have longer := congrArg List.length (sameFiles.symm.trans files)
            simp at longer
      · exact fun storable => absurd (storable parties sequence saves) unstorable
  | issued parties sequence saves storable database files =>
      constructor
      · intro _ others number otherSaves
        have sameUniversity := Option.some.inj
          (saves.between.issuer.found.symm.trans otherSaves.between.issuer.found)
        exact sameUniversity ▸ storable
      · intro _
        rw [newPath.filter] at files
        refine .all _ (upload.certificate runtime parties sequence)
          (upload.storeRow runtime parties) upload.fileBytes ?_ ?_ ?_ ⟨rfl, rfl, rfl⟩ files rfl
        · rw [database]
          rfl
        · rw [database]
          rfl
        · intro table elsewhere
          simp only [uploadTables, List.mem_cons, List.not_mem_nil, or_false, not_or] at elsewhere
          rw [database, Write.apply_of_ne (Ne.symm elsewhere.2),
            Write.apply_of_ne (Ne.symm elsewhere.1)]

namespace Sample

open AcademicCredential.Sample

/-- The sample accounts, before the first certificate. -/
def campus : ValidStore where
  database := accounts
  chain := .deployed deployer
  files := []
  valid := valid_accounts

/-- A degree of the sample graduate under the given title. -/
def degree (degreeTitle : String) : Upload where
  fileBytes := file
  fileOriginalName := "degree.pdf"
  metadata := {
    recipientEmail := "graduate@uni.example"
    degreeTitle
    fieldOfStudy := "Mathematics"
    issueDate := 19000
    expiryDate := none
    gradeClassification := none
    honors := none }
  currentUser := administrator
  inputs := inputs answered

/-- The identifier drawn is not in use. -/
theorem accounts_unused (read : Nat) : Unused accounts ((inputs answered).uuid4 read) :=
  @unused_of_below accounts 100 _ (by decide +kernel) (by simp [inputs])

/-- The certificate of the sample fits its columns. -/
theorem degree_storable {runtime : Runtime} (configured : WellConfigured runtime) :
    (degree "BSc").StorableOnceSaved runtime accounts := by
  intro parties sequence saves
  have isUniversity : parties.university = university :=
    (Option.some.inj saves.between.issuer.found).symm
  rw [isUniversity]
  refine ⟨⟨by decide, by decide⟩, ?_, ?_, configured⟩
  · rintro ⟨row, member, -⟩
    exact absurd member List.not_mem_nil
  · exact {
      degreeTitle := by decide
      fieldOfStudy := by decide
      gradeClassification := by simp [degree]
      honors := by simp [degree]
      issueDate := by decide
      expiryDate := by simp [degree]
      fileName := by decide
      fileSize := by decide
      texts := by decide }

/-- The environment of the sample is configured well. -/
theorem sample_configured : WellConfigured Runtime.sample :=
  ⟨by decide, by decide, by decide⟩

end Sample

/-- A degree with a title is issued, or leaves nothing. -/
theorem upload_all_or_nothing_titled :
    AllOrNothing Runtime.sample Sample.campus.toStore
      ((Sample.degree "BSc").outcome Runtime.sample Sample.campus.toStore).2.1
      ((Sample.degree "BSc").outcome Runtime.sample Sample.campus.toStore).1 :=
  (upload_all_or_nothing_iff Runtime.sample (Sample.degree "BSc") Sample.campus
    Sample.accounts_unused (fun _ _ none => absurd none List.not_mem_nil)).mpr
      (Sample.degree_storable Sample.sample_configured)

/-- The file of a degree whose title is blank stays. -/
theorem blank_title_leaves_file :
    ¬ AllOrNothing Runtime.sample Sample.campus.toStore
      ((Sample.degree " ").outcome Runtime.sample Sample.campus.toStore).2.1
      ((Sample.degree " ").outcome Runtime.sample Sample.campus.toStore).1 := by
  have fails : ((Sample.degree " ").outcome Runtime.sample Sample.campus.toStore).1 =
      .error (.CheckViolation "certificates" "chk_certificates_degree_not_empty") ∧
        ((Sample.degree " ").outcome Runtime.sample Sample.campus.toStore).2.1.files.length = 1 := by
    decide +kernel
  intro complete
  rw [fails.1] at complete
  cases complete with
  | nothing _ _ sameFiles =>
      have onlyOne := fails.2
      rw [sameFiles] at onlyOne
      cases onlyOne

end AcademicCredential.CertificateIssuanceService
