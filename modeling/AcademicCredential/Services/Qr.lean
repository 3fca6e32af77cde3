import AcademicCredential.Blockchain.Service
import AcademicCredential.Repositories

/-!
# The QR service

`generate_qr_for_certificate`: one transaction that replaces a certificate's active QR
row by a new one.
-/

namespace AcademicCredential

open AcademicCredential.Lib

namespace QrVerificationService

/-- The answer to a request for a QR code. -/
structure GeneratedQr where
  qrId : Uuid
  token : String
  verificationUrl : String
  deriving DecidableEq, Repr

/-- The transaction block of `generate_qr_for_certificate`. -/
def generateBlock (runtime : Runtime) (certId generatedByUserId : Uuid) :
    Action QRVerification := do
  match ← CertificateRepository.getById certId with
  | none => Program.raise ErrorClass.CertificateNotFoundError.default
  | some certificate =>
      if certificate.blockchainStatus ≠ .CONFIRMED then
        Program.raise ErrorClass.UnconfirmedCertificateError.default
      else
        match ← QRVerificationRepository.getActiveByCertificate certId with
        | some existingQr =>
            let _ ← QRVerificationRepository.deactivate existingQr.id "Replaced by new QR code"
        | none => pure ()
        let token ← Program.perform .tokenUrlsafe
        let id ← Program.perform .uuid4
        let createdAt ← Program.perform .serverNow
        QRVerificationRepository.create {
          id
          certificateId := certId
          token
          verificationUrl := runtime.verificationBaseUrl ++ "/" ++ token
          totalScanCount := 0
          lastScannedAt := none
          isActive := true
          deactivatedAt := none
          deactivatedReason := none
          expiresAt := none
          generatedBy := generatedByUserId
          createdAt }

/-- `generate_qr_for_certificate`. -/
def generateQrForCertificate (runtime : Runtime) (certId generatedByUserId : Uuid) :
    Action GeneratedQr := do
  let qr ← transaction (generateBlock runtime certId generatedByUserId)
  return { qrId := qr.id, token := qr.token, verificationUrl := qr.verificationUrl }

end QrVerificationService
end AcademicCredential
