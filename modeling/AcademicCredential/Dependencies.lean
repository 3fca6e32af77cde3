import AcademicCredential.Lib.CaseMapping
import AcademicCredential.Repositories
import AcademicCredential.Security
import Mathlib.Data.List.Infix

/-!
# The dependencies of a request

`dependencies/`: who the user of a token is and which roles an endpoint is open to, the one
`BlockchainService` of the process, and the rate limiter. `jwt.decode`, the constructor of
`BlockchainService` and the counters of slowapi are parameters.
-/

namespace AcademicCredential

open AcademicCredential.Lib

/-- `jwt.decode` under the public key, which finds the `sub` of a payload or raises a
`JWTError` with a text, and `uuid.UUID`. -/
structure TokenVerifier where
  decode : String → Except String (Option String)
  uuid : String → Option Uuid

/-- `verify_token`, as far as the `sub` of the payload. -/
def TokenVerifier.verifyToken (verifier : TokenVerifier) (token : String) :
    Except Exception (Option String) :=
  match verifier.decode token with
  | .ok subject => .ok subject
  | .error text =>
      if "expired".toList <:+: (lower text).toList then
        .error ErrorClass.TokenExpiredError.default
      else
        .error ErrorClass.TokenInvalidError.default

/-- The id in a token. -/
def TokenVerifier.userId (verifier : TokenVerifier) (token : String) : Except Exception Uuid :=
  match verifier.verifyToken token with
  | .error error => .error error
  | .ok subject =>
      match (subject.filter (· ≠ "")).bind verifier.uuid with
      | none => .error ErrorClass.TokenInvalidError.default
      | some userId => .ok userId

/-- The active user that a token names. -/
def getCurrentUser (verifier : TokenVerifier) (token : String) : Action User := do
  let userId ← Program.ofExcept (verifier.userId token)
  match ← UserRepository.getById userId with
  | none => Program.raise (.app .AuthenticationError "User not found")
  | some user =>
      if !user.isActive then
        Program.raise (.app .AuthenticationError "Account is disabled")
      else
        return user

/-- The same user, whose account is asked once more. -/
def getCurrentActiveUser (verifier : TokenVerifier) (token : String) : Action User := do
  let currentUser ← getCurrentUser verifier token
  if !currentUser.isActive then
    Program.raise (.app .AuthenticationError "Account is disabled")
  else
    return currentUser

/-- The user of the token, if they have one of the roles. -/
def requireRole (verifier : TokenVerifier) (roles : List UserRole) (token : String) :
    Action User := do
  let currentUser ← getCurrentUser verifier token
  if currentUser.role ∉ roles then
    Program.raise ErrorClass.InsufficientPermissionsError.default
  else
    return currentUser

/-- `_blockchain_service` and `_blockchain_init_error`. -/
structure BlockchainProvider where
  initialized : Bool
  initError : Option String

/-- `get_blockchain_service`: the service is built at most once, and the reason why it could not be
built is kept. The constructor may raise an error with a text. -/
def BlockchainProvider.getBlockchainService (provider : BlockchainProvider)
    (contractAddress : String) (construct : Except String Unit) :
    Except Exception Unit × BlockchainProvider :=
  if provider.initialized then
    (.ok (), provider)
  else
    match provider.initError with
    | some reason =>
        (.error (.app .BlockchainConnectionError s!"BlockchainService unavailable: {reason}"),
          provider)
    | none =>
        if contractAddress = "" then
          let reason := "CONTRACT_ADDRESS not configured in environment"
          (.error (.app .BlockchainConnectionError s!"BlockchainService unavailable: {reason}"),
            { provider with initError := some reason })
        else
          match construct with
          | .ok () => (.ok (), { provider with initialized := true })
          | .error text =>
              (.error (.app .BlockchainConnectionError
                s!"BlockchainService initialization failed: {text}"),
                { provider with initError := some text })

/-- What the first request is told, every later one is told: the service, or that there is none. -/
theorem BlockchainProvider.getBlockchainService_again (provider : BlockchainProvider)
    (contractAddress : String) (construct : Except String Unit)
    (laterAddress : String) (laterConstruct : Except String Unit) :
    ((provider.getBlockchainService contractAddress construct).2.getBlockchainService laterAddress
      laterConstruct).1 = .ok () ↔
        (provider.getBlockchainService contractAddress construct).1 = .ok () := by
  by_cases initialized : provider.initialized = true
  · simp [getBlockchainService, initialized]
  · cases isError : provider.initError with
    | some reason => simp [getBlockchainService, initialized, isError]
    | none =>
        by_cases configured : contractAddress = ""
        · simp [getBlockchainService, initialized, isError, configured]
        · cases construct with
          | ok built => simp [getBlockchainService, initialized, isError, configured]
          | error text => simp [getBlockchainService, initialized, isError, configured]

/-- `RATE_LIMIT_CERTIFICATE_UPLOAD`. -/
def rateLimitCertificateUpload : String := "10/minute"

/-- `RATE_LIMIT_VERIFY_UPLOAD`. -/
def rateLimitVerifyUpload : String := "10/minute"

/-- `@limiter.limit(limit)`: the body runs while the client has requests of the limit left. -/
def rateLimited {Value : Type} (withinLimit : String → Bool) (limit : String)
    (body : Action Value) : Action Value :=
  if withinLimit limit then body else Program.raise .RateLimitExceeded

/-- A token names no unknown student: what is wrong with it is said as an error of its own. -/
theorem TokenVerifier.userId_error {verifier : TokenVerifier} {token : String} {error : Exception}
    (refused : verifier.userId token = .error error) :
    error = ErrorClass.TokenExpiredError.default ∨ error = ErrorClass.TokenInvalidError.default := by
  unfold userId verifyToken at refused
  split at refused
  · rename_i text isError
    split at isError
    · cases isError
    · split at isError
      · exact .inl ((Except.error.inj refused).symm.trans (Except.error.inj isError).symm)
      · exact .inr ((Except.error.inj refused).symm.trans (Except.error.inj isError).symm)
  · split at refused
    · exact .inr (Except.error.inj refused).symm
    · cases refused

end AcademicCredential
