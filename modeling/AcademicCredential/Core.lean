import AcademicCredential.Lib.CaseMapping
import AcademicCredential.Lib.Hex

/-!
# Constants, text formats and errors

The enumerations and limits of `core/constants.py`, the formats its regular
expressions and the table constraints describe, and the errors of
`core/exceptions.py` with their default messages.

Python's `re.match` with a final `$` also accepts one trailing newline;
`pythonMatch` keeps that. PostgreSQL's `~` with `^` and `$` matches whole strings.
-/

namespace AcademicCredential

open AcademicCredential.Lib

/-- `UserRole`. -/
inductive UserRole where
  | SUPER_ADMIN
  | UNIVERSITY_ADMIN
  | STUDENT
  | EMPLOYER
  deriving DecidableEq, Repr

/-- `BlockchainStatus`. -/
inductive BlockchainStatus where
  | PENDING
  | SUBMITTED
  | CONFIRMED
  | FAILED
  | REVOKED
  deriving DecidableEq, Repr

/-- The text an f-string shows for a status since Python 3.11. -/
def BlockchainStatus.text : BlockchainStatus → String
  | .PENDING => "BlockchainStatus.PENDING"
  | .SUBMITTED => "BlockchainStatus.SUBMITTED"
  | .CONFIRMED => "BlockchainStatus.CONFIRMED"
  | .FAILED => "BlockchainStatus.FAILED"
  | .REVOKED => "BlockchainStatus.REVOKED"

/-- `TransactionType`. -/
inductive TransactionType where
  | STORE_HASH
  | REVOKE_HASH
  | AUTHORIZE_ISSUER
  deriving DecidableEq, Repr

/-- `TransactionStatus`. -/
inductive TransactionStatus where
  | PENDING
  | SUBMITTED
  | CONFIRMED
  | FAILED
  | REPLACED
  deriving DecidableEq, Repr

/-- `VerificationMethod`. -/
inductive VerificationMethod where
  | FILE_UPLOAD
  | QR_SCAN
  | MANUAL_ID_LOOKUP
  deriving DecidableEq, Repr

/-- `VerificationResult`. -/
inductive VerificationResult where
  | AUTHENTIC
  | TAMPERED
  | REVOKED
  | NOT_FOUND
  | PENDING_CHAIN
  | ERROR
  deriving DecidableEq, Repr

/-- `MAX_FILE_SIZE_BYTES`. -/
def maxFileSizeBytes : Nat := 10485760

/-- `MAX_VERIFICATION_FILE_SIZE_BYTES`. -/
def maxVerificationFileSizeBytes : Nat := 52428800

/-- A text that PostgreSQL can store: none of its characters is U+0000. -/
def isText (text : String) : Bool := text.toList.all (· != '\x00')

/-- A text is put together from texts. -/
theorem isText_append (left right : String) :
    isText (left ++ right) = (isText left && isText right) := by
  simp [isText, String.toList_append, List.all_append]

/-- Exactly `count` characters of a class. -/
def exactly (count : Nat) (inClass : Char → Bool) (text : List Char) : Bool :=
  text.length == count && text.all inClass

/-- The format `0x` followed by `count` hexadecimal digits of either case. -/
def prefixedHex (count : Nat) : List Char → Bool
  | '0' :: 'x' :: digits => exactly count Hex.isDigit digits
  | _ => false

/-- Such a text has only characters of ASCII. -/
theorem ascii_of_prefixedHex {count : Nat} {text : List Char}
    (format : prefixedHex count text = true) : ∀ char ∈ text, char.toNat < 0x80 := by
  unfold prefixedHex at format
  split at format
  · simp only [exactly, Bool.and_eq_true, List.all_eq_true] at format
    intro char member
    rcases List.mem_cons.mp member with rfl | member
    · decide
    · rcases List.mem_cons.mp member with rfl | member
      · decide
      · exact Hex.ascii_of_isDigit (format.2 char member)
  · cases format

/-- The class `[A-Z0-9]`. -/
def isUpperOrDigit (char : Char) : Bool := ('A' ≤ char && char ≤ 'Z') || char.isDigit

/-- `[A-Z0-9]+-[0-9]{4}-[0-9]{5}`: the last eleven characters have fixed places. -/
def isCertificateUidText (text : String) : Bool :=
  let code := text.toList.take (text.length - 11)
  code != [] && code.all isUpperOrDigit &&
    match text.toList.drop (text.length - 11) with
    | '-' :: year1 :: year2 :: year3 :: year4 :: '-' :: sequence =>
        [year1, year2, year3, year4].all Char.isDigit && exactly 5 Char.isDigit sequence
    | _ => false

/-- `^https?://`. -/
def isWebUrl (text : String) : Bool :=
  "http://".toList.isPrefixOf text.toList || "https://".toList.isPrefixOf text.toList

/-- `LENGTH(TRIM(text)) > 0`: some character is not a blank. -/
def isNotBlank (text : String) : Bool := text.toList.any (· != ' ')

/-- The characters `\s` matches. -/
def isSpace (char : Char) : Bool :=
  [' ', '\t', '\n', '\x0b', '\x0c', '\r'].contains char

/-- `[^@\s]+@[^@\s]+\.[^@\s]+`: one `@`, and behind it a dot that is neither first nor last. -/
def isEmailText (text : String) : Bool :=
  let name := text.toList.takeWhile (· != '@')
  let domain := (text.toList.dropWhile (· != '@')).drop 1
  name != [] && text.toList.all (!isSpace ·) && domain.all (· != '@') &&
    (domain.drop 1).dropLast.contains '.'

/-- `[0-9a-f]{64}`. -/
def isSha256Text (text : String) : Bool := exactly 64 Hex.isLowerDigit text.toList

/-- `0x[0-9a-fA-F]{64}`. -/
def isTxHashText (text : String) : Bool := prefixedHex 64 text.toList

/-- `0x[0-9a-fA-F]{40}`. -/
def isAddressText (text : String) : Bool := prefixedHex 40 text.toList

/-- `re.match` of a pattern that ends in `$`. -/
def pythonMatch (format : String → Bool) (text : String) : Bool :=
  format text ||
    (text.toList.getLast? == some '\n' && format (String.ofList text.toList.dropLast))

/-- `HASH_FORMAT_REGEX.match`. -/
def hashFormatRegex (text : String) : Bool := pythonMatch isSha256Text text

/-- `WALLET_ADDRESS_REGEX.match`. -/
def walletAddressRegex (text : String) : Bool := pythonMatch isAddressText text

/-- A whole-string match is in particular a `re.match`. -/
theorem pythonMatch_of_format {format : String → Bool} {text : String}
    (whole : format text = true) : pythonMatch format text = true := by
  simp [pythonMatch, whole]

/-- The application's exception classes. -/
inductive ErrorClass where
  | AuthenticationError
  | InvalidCredentialsError
  | AccountLockedError
  | TokenExpiredError
  | TokenInvalidError
  | InsufficientPermissionsError
  | OwnershipViolationError
  | UserNotFoundError
  | CertificateNotFoundError
  | UniversityNotFoundError
  | NotFoundError
  | ConflictError
  | DuplicateEmailError
  | DuplicateCertificateError
  | CertificateAlreadyRevokedError
  | ServiceError
  | UnconfirmedCertificateError
  | UnverifiedUniversityError
  | MissingWalletAddressError
  | InvalidFileTypeError
  | FileTooLargeError
  | FileNotFoundOnDiskError
  | BlockchainConnectionError
  | BlockchainTimeoutError
  | BlockchainContractError
  | BlockchainHashFormatError
  | BlockchainAddressError
  deriving DecidableEq, Repr

/-- The class attribute `message`, used when none is given. -/
def ErrorClass.message : ErrorClass → String
  | .AuthenticationError => "Authentication failed"
  | .InvalidCredentialsError => "Invalid credentials"
  | .AccountLockedError => "Account temporarily locked due to too many failed login attempts"
  | .TokenExpiredError => "Token has expired"
  | .TokenInvalidError => "Invalid token"
  | .InsufficientPermissionsError => "Insufficient permissions for this operation"
  | .OwnershipViolationError => "You do not have access to this resource"
  | .UserNotFoundError => "User not found"
  | .CertificateNotFoundError => "Certificate not found"
  | .UniversityNotFoundError => "University not found"
  | .NotFoundError => "Resource not found"
  | .ConflictError => "Resource conflict"
  | .DuplicateEmailError => "An account with this email already exists"
  | .DuplicateCertificateError => "A certificate with this hash already exists"
  | .CertificateAlreadyRevokedError => "Certificate has already been revoked"
  | .ServiceError => "Business rule violation"
  | .UnconfirmedCertificateError => "Certificate is not yet confirmed on the blockchain"
  | .UnverifiedUniversityError =>
      "University has not been verified by the platform administrator"
  | .MissingWalletAddressError => "University does not have a wallet address configured"
  | .InvalidFileTypeError => "Invalid file type. Only PDF files are accepted"
  | .FileTooLargeError => "File exceeds maximum allowed size"
  | .FileNotFoundOnDiskError => "Certificate file could not be located"
  | .BlockchainConnectionError => "Cannot connect to blockchain network"
  | .BlockchainTimeoutError => "Blockchain request timed out"
  | .BlockchainContractError => "Smart contract interaction failed"
  | .BlockchainHashFormatError => "Invalid hash format for blockchain operation"
  | .BlockchainAddressError => "Invalid Ethereum address"

/-- Everything a request can raise. -/
inductive Exception where
  /-- One of the application's own errors. -/
  | app (errorClass : ErrorClass) (message : String)
  /-- SQLAlchemy: `begin()` on a session whose transaction has already begun. -/
  | InvalidRequestError
  /-- A CHECK constraint or the type of a column refused a row of `table`. -/
  | CheckViolation (table constraint : String)
  /-- A UNIQUE constraint or index of `table` refused a row. -/
  | UniqueViolation (table constraint : String)
  /-- An UPDATE matched no row. -/
  | StaleDataError
  /-- `scalar_one()` on an empty result. -/
  | NoResultFound
  /-- Python's `ValueError`: a number or text that cannot be converted. -/
  | ValueError
  /-- A statement that PostgreSQL gave up while it waited, as the victim of a deadlock, or that
  it could not read because a parameter has the character U+0000. -/
  | DBAPIError
  /-- FastAPI: a required part of the request is missing. -/
  | RequestValidationError
  /-- slowapi: the client has used up the limit of an endpoint. -/
  | RateLimitExceeded
  deriving DecidableEq, Repr

/-- `raise` of an application error without a message of its own. -/
def ErrorClass.default (errorClass : ErrorClass) : Exception :=
  .app errorClass errorClass.message

/-- `except (BlockchainConnectionError, BlockchainTimeoutError)`. -/
def Exception.isUnreachable : Exception → Bool
  | .app .BlockchainConnectionError _ => true
  | .app .BlockchainTimeoutError _ => true
  | _ => false

end AcademicCredential
