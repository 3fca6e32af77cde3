import AcademicCredential.RepositoryRuns

/-!
# Certificate rows and the constraints

Which status writes the constraints of `certificates` let through: any status on an
active row, and the whole revocation on any row. A row in a status other than REVOKED
is active.
-/

namespace AcademicCredential

open AcademicCredential.Lib

namespace Certificate

variable {certificate : Certificate}

/-- A certificate that is not revoked is active. -/
theorem isActive_of_not_revoked (admissible : @Admissible .certificates certificate)
    (notRevoked : certificate.blockchainStatus ≠ .REVOKED) : certificate.isActive = true := by
  have passes := violation?_eq_none.mp admissible
  have synced := passes ⟨"chk_certificates_blockchain_status_revoked_sync", fun row =>
    Truth.certain (!(!row.isActive && row.blockchainStatus != .REVOKED))⟩ (by
      simp only [AcademicCredential.constraints, Certificate.constraints, List.mem_cons, true_or,
        or_true])
  simpa [notRevoked] using synced

/-- An active certificate may take any status. -/
theorem admissible_status (admissible : @Admissible .certificates certificate)
    (active : certificate.isActive = true) (status : BlockchainStatus) :
    @Admissible .certificates { certificate with blockchainStatus := status } := by
  unfold Admissible at *
  rw [violation?_eq_none] at *
  simp only [AcademicCredential.constraints, Certificate.constraints, List.forall_mem_cons,
    Certificate.texts, active] at admissible ⊢
  simpa using admissible

/-- Every certificate may be revoked. -/
theorem admissible_revocation (admissible : @Admissible .certificates certificate)
    (reason : String) (user : Uuid) (time : Timestamp) :
    @Admissible .certificates (@assignAll .certificates certificate
      (CertificateRepository.revocation reason user time)) := by
  unfold Admissible at *
  rw [violation?_eq_none] at *
  simp only [AcademicCredential.constraints, Certificate.constraints, List.forall_mem_cons,
    Certificate.texts, CertificateRepository.revocation, assignAll, List.foldl, assign,
    CertificateAssignment.assign] at admissible ⊢
  simp at admissible ⊢
  grind

/-- The hash of a stored certificate has its format. -/
theorem isSha256Text_sha256Hash (admissible : @Admissible .certificates certificate) :
    isSha256Text certificate.sha256Hash = true := by
  have passes := violation?_eq_none.mp admissible
  have format := passes ⟨"chk_certificates_sha256_format", fun row =>
    Truth.certain (isSha256Text row.sha256Hash)⟩ (by
      simp only [AcademicCredential.constraints, Certificate.constraints, List.mem_cons, true_or,
        or_true])
  simpa using format

end Certificate

/-- No assignment touches a UNIQUE column of `certificates`. -/
theorem uniqueKeys_assignAll_certificate (certificate : Certificate)
    (assignments : List CertificateAssignment) :
    uniqueKeys (@assignAll .certificates certificate assignments) =
      @uniqueKeys .certificates certificate := by
  induction assignments generalizing certificate with
  | nil => rfl
  | cons first rest inductionHypothesis =>
      refine (inductionHypothesis (first.assign certificate)).trans ?_
      cases first <;> rfl

variable {direct : Direct} {certificate : Certificate}

/-- The state after a status was written to a certificate. -/
def Direct.marked (direct : Direct) (certificate : Certificate) (status : BlockchainStatus) :
    Direct :=
  @Direct.stored direct .certificates certificate [.blockchainStatus status]

/-- A certificate that is not revoked takes any status. -/
theorem Direct.Open.mark (opened : direct.Open)
    (found : direct.working.find? .certificates certificate.id = some certificate)
    (notRevoked : certificate.blockchainStatus ≠ .REVOKED) (status : BlockchainStatus) :
    (direct.marked certificate status).Open ∧
      (CertificateRepository.updateBlockchainStatus certificate.id status).run directHandler
          direct =
        (.ok (some { certificate with blockchainStatus := status }),
          direct.marked certificate status) := by
  have member := (Database.find?_some found).1
  have admissible := opened.valid.admissible .certificates certificate member
  have active := Certificate.isActive_of_not_revoked admissible notRevoked
  have accepted : checkUpdated direct.working .certificates
      (@assignAll .certificates certificate [.blockchainStatus status]) = .ok () :=
    opened.valid.accepts member rfl rfl (Certificate.admissible_status admissible active status)
  refine ⟨opened.stored found accepted, ?_⟩
  rw [CertificateRepository.run_updateBlockchainStatus opened found, updateOutcome, accepted]
  rfl

/-- The state after a certificate was revoked. -/
def Direct.revoked (direct : Direct) (certificate : Certificate) (reason : String)
    (user : Uuid) : Direct :=
  @Direct.stored direct.read .certificates certificate
    (CertificateRepository.revocation reason user (direct.inputs.wallClock direct.reads))

/-- A revocation writes no transaction rows. -/
theorem Direct.revoked_transactions (direct : Direct) (certificate : Certificate)
    (reason : String) (user : Uuid) :
    (direct.revoked certificate reason user).working .blockchainTransactions =
      direct.working .blockchainTransactions := by
  have elsewhere : Table.certificates ≠ .blockchainTransactions := by decide
  exact direct.read.stored_of_ne elsewhere certificate _

/-- The constraints accept every revocation. -/
theorem Database.Valid.accepts_revocation {database : Database} (valid : database.Valid)
    (member : certificate ∈ database .certificates) (reason : String) (user : Uuid)
    (time : Timestamp) :
    checkUpdated database .certificates (@assignAll .certificates certificate
      (CertificateRepository.revocation reason user time)) = .ok () := by
  have admissible := Certificate.admissible_revocation
    (valid.admissible .certificates certificate member) reason user time
  exact valid.accepts member (uniqueKeys_assignAll_certificate certificate _)
    (rowId_assignAll ..) admissible

/-- Every certificate can be revoked. -/
theorem Direct.Open.revoke (opened : direct.Open)
    (found : direct.working.find? .certificates certificate.id = some certificate)
    (reason : String) (user : Uuid) :
    (direct.revoked certificate reason user).Open ∧
      (CertificateRepository.revoke certificate.id reason user).run directHandler direct =
        (.ok (some (@assignAll .certificates certificate (CertificateRepository.revocation reason
          user (direct.inputs.wallClock direct.reads)))),
          direct.revoked certificate reason user) := by
  have member := (Database.find?_some found).1
  have accepted : checkUpdated direct.read.working .certificates
      (@assignAll .certificates certificate (CertificateRepository.revocation reason user
        (direct.inputs.wallClock direct.reads))) = .ok () :=
    opened.valid.accepts_revocation member reason user _
  refine ⟨opened.read.stored found accepted, ?_⟩
  rw [CertificateRepository.run_revoke opened found, updateOutcome, accepted]
  rfl

end AcademicCredential
