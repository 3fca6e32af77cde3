import AcademicCredential.Database.Runs
import AcademicCredential.Database.Updates
import AcademicCredential.Services.ChainAgreement
import AcademicCredential.Services.GoldenRule
import AcademicCredential.Services.StudentCredentials

/-!
# Shared links

A student shares a link with a QR token, and whoever follows it sees a certificate, possibly much
later and after any other calls. No statement of the backend gives a QR row another token or
another certificate, and none deletes one: `shared_links_lead_back`, for any programs side by side.
-/

namespace AcademicCredential

open AcademicCredential.Lib

/-- The rows have the same token, for the same certificate. -/
def SameTarget (old new : QRVerification) : Prop :=
  new.token = old.token ∧ new.certificateId = old.certificateId

/-- Two steps that keep the target keep it together. -/
theorem SameTarget.trans (first middle last : QRVerification) (earlier : SameTarget first middle)
    (later : SameTarget middle last) : SameTarget first last :=
  ⟨later.1.trans earlier.1, later.2.trans earlier.2⟩

/-- No assignment changes the target of a code. -/
theorem sameTarget_assignAll (row : QRVerification) (assignments : List QRAssignment) :
    SameTarget row (@assignAll .qrVerifications row assignments) := by
  induction assignments generalizing row with
  | nil => exact ⟨rfl, rfl⟩
  | cons first rest inductionHypothesis =>
      refine SameTarget.trans _ (first.assign row) _ ?_ (inductionHypothesis (first.assign row))
      cases first <;> exact ⟨rfl, rfl⟩

/-- Writes keep the targets of the codes. -/
theorem rows_keep_target (database : Database) (writes : List Write) :
    @DatabaseFollows .qrVerifications SameTarget database (applyWrites database writes) :=
  DatabaseFollows.applyWrites (fun _ => ⟨rfl, rfl⟩) SameTarget.trans sameTarget_assignAll database
    writes

/-- A token is of one row. -/
theorem QRVerification.eq_of_token {database : Database} (valid : database.Valid)
    {left right : QRVerification} (leftMember : left ∈ database .qrVerifications)
    (rightMember : right ∈ database .qrVerifications) (sameToken : left.token = right.token) :
    left = right := by
  by_contra different
  have apart := @Database.Valid.apart_of_ne _ valid .qrVerifications _ _ leftMember rightMember
    different
  exact apart ⟨"token", .text left.token⟩ (by simp [uniqueKeys]) (by simp [uniqueKeys, sameToken])

/-- The token is for the certificate. -/
def TokenOf (database : Database) (token : String) (certId : Uuid) : Prop :=
  ∃ qr ∈ database .qrVerifications, QRVerification.token qr = token ∧ qr.certificateId = certId

/-- A token goes on leading to its certificate. -/
theorem TokenOf.applyWrites {database : Database} (keyed : database.Keyed) {token : String}
    {certId : Uuid} (isToken : TokenOf database token certId) (writes : List Write) :
    TokenOf (applyWrites database writes) token certId := by
  obtain ⟨qr, member, rfl, rfl⟩ := isToken
  obtain ⟨later, found, sameToken, sameTarget⟩ := rows_keep_target database writes qr.id qr
    (@Database.Keyed.find? _ keyed .qrVerifications _ member)
  exact ⟨later, (Database.find?_some found).1, sameToken, sameTarget⟩

namespace StudentCredentialService

/-- The token of a link is for the certificate that is shared. -/
theorem tokenOf_shareLink {runtime : Runtime} {certId : Uuid} {user : User} {direct : Direct}
    {link : ShareLink}
    (ran : ((getShareLink runtime certId user).run directHandler direct).1 = .ok link)
    {token : String} (isToken : link.qrToken = some token) :
    (∃ certificate, direct.working.find? .certificates certId = some certificate) ∧
      TokenOf direct.working token certId := by
  cases found : direct.working.find? .certificates certId with
  | none =>
      have missing : (direct.working .certificates).find?
          (fun row => decide (@rowId .certificates row = certId)) = none := found
      simp [getShareLink, existingCertificate, Program.run_bind, CertificateRepository.getById,
        BaseRepository.getById, BaseRepository.run_findOne_touch direct, missing] at ran
  | some certificate =>
      obtain ⟨-, rfl⟩ : _ ∧ certificate.id = certId := Database.find?_some found
      refine ⟨⟨certificate, rfl⟩, ?_⟩
      have sameWorking : direct.touch.touch.working = direct.working := rfl
      have looked := BaseRepository.run_findOne_touch direct.touch.touch .qrVerifications
        fun row => row.certificateId = certificate.id && row.isActive
      rw [sameWorking] at looked
      simp only [getShareLink, Program.run_bind, run_existingCertificate found, run_requireOwner]
        at ran
      by_cases owned : (profile? direct.touch.working user).map (·.id) = some certificate.studentId
      · simp only [if_pos owned] at ran
        split at ran
        · cases ran
        · rw [Program.run_bind, QRVerificationRepository.getActiveByCertificate, looked] at ran
          cases isFirst : (direct.working .qrVerifications).find?
              (fun row => row.certificateId = certificate.id && row.isActive) with
          | none =>
              rw [isFirst] at ran
              obtain rfl := Except.ok.inj ran
              cases isToken
          | some qr =>
              rw [isFirst] at ran
              obtain rfl := Except.ok.inj ran
              have shared := List.find?_some isFirst
              rw [Bool.and_eq_true, decide_eq_true_eq] at shared
              exact ⟨qr, List.mem_of_find?_eq_some isFirst, Option.some.inj isToken, shared.1⟩
      · simp only [if_neg owned] at ran
        cases ran

end StudentCredentialService

namespace VerificationService

/-- The certificate that is scanned is the one that the row with the token is for. -/
theorem scannedIn_target {direct : Direct} {token : String} {qr : QRVerification}
    {certificate : Certificate} (scanned : scannedIn direct token = some (qr, certificate)) :
    qr ∈ direct.working .qrVerifications ∧ qr.token = token ∧
      direct.working.find? .certificates qr.certificateId = some certificate := by
  unfold scannedIn scannedRow at scanned
  obtain ⟨row, found, usable⟩ := Option.bind_eq_some_iff.mp scanned
  split at usable
  · obtain ⟨other, foundCertificate, same⟩ := Option.map_eq_some_iff.mp usable
    cases same
    exact ⟨List.mem_of_find?_eq_some found, by simpa using List.find?_some found, foundCertificate⟩
  · cases usable

/-- What a scan of a token may answer when the token is for a certificate. -/
theorem scan_of_token {runtime : Runtime} {store : ValidStore} {token : String} {certId : Uuid}
    (isToken : TokenOf store.database token certId) {certificate : Certificate}
    (stored : store.database.find? .certificates certId = some certificate) (inputs : Inputs)
    {request : ScanRequest} (asked : request.token = token) {blockchainService : Bool}
    {response : VerificationResponse}
    (ran : ((verifyByQrToken runtime request blockchainService).run sessionHandler
      (store.toStore, .fresh inputs)).1 = .ok response) :
    response.result = .NOT_FOUND ∨
      response.certificate.map (·.certificateUid) = some certificate.certificateUid := by
  obtain ⟨block, path, -, outcome⟩ :=
    verifyByQrToken_path runtime store inputs request blockchainService
  rw [(store.run_eq inputs _).1] at ran
  rcases outcome.outcome with
    ⟨error, -, failed, -⟩ | ⟨exit, answered, left, returned, sameResult, sameUid, -⟩
  · cases ran.symm.trans failed
  · obtain rfl := Except.ok.inj (ran.symm.trans returned)
    cases path with
    | notFound absent returns unlogged =>
        obtain rfl := Except.ok.inj left
        exact .inl (sameResult.trans returns)
    | raised => cases left
    | uncounted => cases left
    | counted found isHash consulted room returns calls reports logs =>
        obtain ⟨-, rfl⟩ := map_const_ok left
        obtain ⟨member, sameToken, foundCertificate⟩ := scannedIn_target found
        obtain ⟨qr, isQr, ofToken, ofCertificate⟩ := isToken
        obtain rfl := QRVerification.eq_of_token store.valid isQr member
          (ofToken.trans (asked.symm.trans sameToken.symm))
        rw [ofCertificate] at foundCertificate
        obtain rfl := Option.some.inj (stored.symm.trans foundCertificate)
        exact .inr (sameUid.trans reports)

end VerificationService

/-- What is shared in the first store leads to the same certificate in the second: a scan says
that nothing is found, or reports on the certificate that was shared. -/
def LinksLeadBack (runtime : Runtime) (before after : Store) : Prop :=
  ∀ (inputs : Inputs) (certId : Uuid) (user : User) (link : StudentCredentialService.ShareLink)
    (token : String),
    ((StudentCredentialService.getShareLink runtime certId user).run sessionHandler
      (before, .fresh inputs)).1 = .ok link → link.qrToken = some token →
    ∃ certificate, before.database.find? .certificates certId = some certificate ∧
      ∀ (later : Inputs) (request : VerificationService.ScanRequest) (blockchainService : Bool)
        (response : VerificationService.VerificationResponse), request.token = token →
        ((VerificationService.verifyByQrToken runtime request blockchainService).run
          sessionHandler (after, .fresh later)).1 = .ok response →
        response.result = .NOT_FOUND ∨ response.certificate.map (·.certificateUid) =
          some (Certificate.certificateUid certificate)

/-- In every run of any programs side by side, a link that is shared at some time leads, at every
later time, to the certificate that was shared. -/
theorem shared_links_lead_back {Call Value : Type} (program : Call → Action Value)
    (runtime : Runtime) (start : ValidStore)
    (earlier later : List (Turn Call Inputs (List MinedTransaction))) :
    LinksLeadBack runtime
      (stateAfter (readCommitted program).apply ⟨start.toStore, []⟩ earlier).shared
      (stateAfter (readCommitted program).apply ⟨start.toStore, []⟩ (earlier ++ later)).shared := by
  have validBefore := (isolated_run program start.valid earlier).committed
  have validAfter := (isolated_run program start.valid (earlier ++ later)).committed
  rw [stateAfter_append] at validAfter ⊢
  obtain ⟨writes, database⟩ := database_run program
    (stateAfter (readCommitted program).apply ⟨start.toStore, []⟩ earlier) later
  generalize (stateAfter (readCommitted program).apply (stateAfter (readCommitted program).apply
    ⟨start.toStore, []⟩ earlier) later).shared = after at *
  generalize (stateAfter (readCommitted program).apply ⟨start.toStore, []⟩ earlier).shared =
    before at *
  intro inputs certId user link token shared isToken
  let stored : ValidStore := ⟨before, validBefore⟩
  rw [(stored.run_eq inputs _).1] at shared
  obtain ⟨⟨certificate, found⟩, tokenOf⟩ :=
    StudentCredentialService.tokenOf_shareLink shared isToken
  refine ⟨certificate, found, fun laterInputs request blockchainService response asked ran => ?_⟩
  have tokenLater := tokenOf.applyWrites validBefore.keyed writes
  obtain ⟨certificateLater, foundLater, sameUid, -⟩ :=
    rows_keep_content before.database writes certId certificate found
  rw [← sameUid]
  let storedLater : ValidStore := ⟨after, validAfter⟩
  have ofToken : TokenOf storedLater.database token certId := database ▸ tokenLater
  exact VerificationService.scan_of_token ofToken (database ▸ foundLater) laterInputs asked ran

namespace Sample

/-- The student of a confirmed certificate has a profile whose id is that of the account. -/
def sharedRows : Database
  | .students => [{ id := 4, userId := 4 }]
  | .users => [administrator, graduate]
  | table => database .CONFIRMED [] table

/-- The shared rows are valid. -/
theorem sharedRows_valid : sharedRows.Valid := by decide +kernel

/-- A store with a certificate to share. -/
def sharing : ValidStore where
  database := sharedRows
  chain := .deployed deployer
  files := []
  valid := sharedRows_valid

/-- The calls of the sample: scans of the token. -/
def scan (_ : Unit) : Action VerificationService.VerificationResponse :=
  VerificationService.verifyByQrToken .sample
    { token := qr.token, requestIp := none, userAgent := none } true

/-- The token is scanned once. -/
def scanOnce : List (Turn Unit Inputs (List MinedTransaction)) :=
  .start () (inputs answered) :: List.replicate 4 (.operate 0)

end Sample

/-- The student is handed the token, and it leads back after a scan. -/
theorem shared_links_lead_back_handed_out :
    (((StudentCredentialService.getShareLink .sample 3 Sample.graduate).run sessionHandler
      (Sample.sharing.toStore, .fresh (Sample.inputs Sample.answered))).1.toOption.bind
        fun link => link.qrToken) = some Sample.qr.token ∧
      LinksLeadBack .sample Sample.sharing.toStore
        (stateAfter (readCommitted Sample.scan).apply ⟨Sample.sharing.toStore, []⟩
          Sample.scanOnce).shared :=
  ⟨by decide +kernel,
    shared_links_lead_back Sample.scan .sample Sample.sharing [] Sample.scanOnce⟩

end AcademicCredential
