import AcademicCredential.Services.Lifecycle

/-!
# The upload folder

The paths under which `save_certificate` stores files, and the calls that add neither a certificate
nor a file of one: everything but uploads.
-/

namespace AcademicCredential

open AcademicCredential.Lib

/-- The path of a certificate's file, below the upload root. -/
def certificatePath (universityId certId : Uuid) : String :=
  "certificates/" ++ uuidText universityId ++ "/" ++ uuidText certId ++ ".pdf"

/-- `save_certificate` writes one file and answers with its path. -/
theorem saveCertificate_eq (fileBytes : List UInt8) (universityId certId : Uuid) :
    saveCertificate fileBytes universityId certId = (do
      Program.perform (.writeFile (certificatePath universityId certId) fileBytes)
      return certificatePath universityId certId) := rfl

/-- The path is in the folder of the certificates. -/
def isCertificatePath (path : String) : Bool := "certificates/".toList.isPrefixOf path.toList

/-- The path is one of a certificate. -/
theorem isCertificatePath_certificatePath (universityId certId : Uuid) :
    isCertificatePath (certificatePath universityId certId) = true := by
  rw [isCertificatePath, List.isPrefixOf_iff_prefix]
  simp only [certificatePath, String.toList_append, List.append_assoc]
  exact List.prefix_append _ _

/-- A UUID has 36 characters. -/
theorem length_uuidText (uuid : Uuid) : (uuidText uuid).toList.length = 36 := by
  simp [uuidText, Hex.encode_length]

/-- The paths of certificates whose UUIDs differ are different, in any folder. -/
theorem uuidText_of_certificatePath {left right leftId rightId : Uuid}
    (same : certificatePath left leftId = certificatePath right rightId) :
    uuidText leftId = uuidText rightId := by
  have sameList := congrArg String.toList same
  simp only [certificatePath, String.toList_append, List.append_assoc] at sameList
  have folders := List.append_inj (List.append_cancel_left sameList)
    ((length_uuidText left).trans (length_uuidText right).symm)
  have names := List.append_inj (List.append_cancel_left folders.2)
    ((length_uuidText leftId).trans (length_uuidText rightId).symm)
  exact String.toList_inj.mp names.1

/-- The bytes of a file, if there is one. -/
def fileAt (files : List (String × List UInt8)) (path : String) : Option (List UInt8) :=
  (files.find? fun file => file.1 = path).map Prod.snd

/-- `get_certificate` of the file storage. -/
def FileStorage.getCertificate (files : List (String × List UInt8)) (filePath : String) :
    Except Exception (List UInt8) :=
  match fileAt files filePath with
  | none => .error ErrorClass.FileNotFoundOnDiskError.default
  | some fileBytes => .ok fileBytes

/-- A file that is written is read back, and every other stays. -/
theorem fileAt_write (files : List (String × List UInt8)) (written path : String)
    (bytes : List UInt8) :
    fileAt (files.filter (·.1 ≠ written) ++ [(written, bytes)]) path =
      if written = path then some bytes else fileAt files path := by
  unfold fileAt
  rw [List.find?_append]
  split
  · rename_i same
    subst same
    have replaced : (files.filter (·.1 ≠ written)).find? (fun file => file.1 = written) = none := by
      refine List.find?_eq_none.mpr fun file member => ?_
      simpa using List.of_mem_filter member
    rw [replaced]
    simp
  · rename_i different
    have kept : (files.filter (·.1 ≠ written)).find? (fun file => file.1 = path) =
        files.find? fun file => file.1 = path := by
      induction files with
      | nil => rfl
      | cons file rest inductionHypothesis =>
          by_cases isPath : file.1 = path
          · have other : file.1 ≠ written := fun isWritten =>
              different (isWritten.symm.trans isPath)
            rw [List.filter_cons_of_pos (by simpa using other),
              List.find?_cons_of_pos (by simpa using isPath),
              List.find?_cons_of_pos (by simpa using isPath)]
          · rw [List.find?_cons_of_neg (by simpa using isPath), ← inductionHypothesis]
            by_cases isWritten : file.1 = written
            · simp [isWritten]
            · simp [isWritten, isPath]
    rw [kept]
    simp [different]

/-- The operation adds neither a certificate nor a file of one. -/
def Op.addsNoCertificate : {Reply : Type} → Op Reply → Prop
  | _, .insert .certificates _ => False
  | _, .writeFile path _ => isCertificatePath path = false
  | _, _ => True

/-- The program adds neither a certificate nor a file of one. -/
abbrev AddsNoCertificate {Value : Type} (program : Action Value) : Prop :=
  program.Every fun _ op => op.addsNoCertificate

/-- Reading adds nothing. -/
theorem Op.addsNoCertificate_of_isReading (Reply : Type) (op : Op Reply)
    (isReading : op.isReading = true) : op.addsNoCertificate := by
  cases op with
  | insert | writeFile => cases isReading
  | _ => trivial

/-- A transaction block adds what its body adds. -/
theorem addsNone_transaction {Value : Type} {body : Action Value} (block : AddsNoCertificate body) :
    AddsNoCertificate (transaction body) :=
  every_transaction block trivial trivial trivial

/-- A confirmation of a storage adds neither a certificate nor a file. -/
theorem CertificateIssuanceService.addsNone_confirmBlockchainStorage (runtime : Runtime)
    (certId : Uuid) (blockchainTxHash : String) (currentUser : User) :
    AddsNoCertificate (confirmBlockchainStorage runtime certId blockchainTxHash currentUser) := by
  refine Program.every_bind (addsNone_transaction ?_) fun exit => ?_
  · exact every_confirmBlock Op.addsNoCertificate_of_isReading runtime certId blockchainTxHash
      currentUser (fun _ _ => trivial) fun _ _ => trivial
  · cases exit with
    | submitted => exact Program.every_pure _
    | confirmed certificate receipt record =>
        refine Program.every_bind (Program.every_bind ?_ fun _ => Program.every_pure _) fun _ =>
          Program.every_pure _
        refine addsNone_transaction ?_
        exact QrVerificationService.every_generateBlock Op.addsNoCertificate_of_isReading runtime
          certId currentUser.id (fun _ _ => trivial) fun _ => trivial

namespace CertificateRevocationService

/-- A request for a revocation adds neither a certificate nor a file. -/
theorem addsNone_initiateBlock (runtime : Runtime) (certId : Uuid) (reason : String)
    (currentUser : User) (blockchainService : Bool) :
    AddsNoCertificate (initiateBlock runtime certId reason currentUser blockchainService) :=
  every_initiateBlock Op.addsNoCertificate_of_isReading runtime certId reason currentUser
    blockchainService fun _ _ _ => trivial

/-- A confirmation of a revocation adds neither a certificate nor a file. -/
theorem addsNone_confirmBlock (runtime : Runtime) (certId : Uuid) (blockchainTxHash : String)
    (currentUser : User) :
    AddsNoCertificate (confirmBlock runtime certId blockchainTxHash currentUser) :=
  every_confirmBlock Op.addsNoCertificate_of_isReading runtime certId blockchainTxHash currentUser
    (fun _ _ => trivial) fun _ _ _ _ => trivial

end CertificateRevocationService

end AcademicCredential
