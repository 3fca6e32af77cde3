import AcademicCredential.Repositories
import AcademicCredential.Security

/-!
# Accounts

Registration, login, token refresh and logout of `auth_service.py`, with the change of
password and the deactivation of `user_service.py`. A login is two transactions: the
first checks the credentials and keeps the count of failures, the second issues the tokens.
-/

namespace AcademicCredential

open AcademicCredential.Lib

/-- `MAX_FAILED_LOGIN_ATTEMPTS`. -/
def maxFailedLoginAttempts : Nat := 5

namespace AuthService

/-- The fields of `RegisterRequest`. -/
structure Registration where
  email : String
  password : String
  firstName : String
  lastName : String
  role : UserRole
  universityCode : Option String
  companyName : Option String
  deriving DecidableEq, Repr

/-- The answer to a registration. -/
structure Registered where
  userId : Uuid
  email : String
  role : UserRole
  message : String
  deriving DecidableEq, Repr

variable (security : Security)

/-- The university an administrator registers with. -/
def registeringUniversity (data : Registration) : Action (Option Uuid) := do
  if data.role = .UNIVERSITY_ADMIN then
    match ← UniversityRepository.getByShortCode data.universityCode with
    | none => Program.raise (.app .UniversityNotFoundError
        ("University with code '" ++ data.universityCode.getD "None" ++ "' not found"))
    | some university =>
        if !university.isVerified then
          Program.raise ErrorClass.UnverifiedUniversityError.default
        else
          return some university.id
  else
    return none

/-- The profile row that goes with the user's role. -/
def createProfile (data : Registration) (user : User) : Action Unit :=
  match data.role with
  | .STUDENT => do
      let id ← Program.perform .uuid4
      let _ ← StudentRepository.create { id, userId := user.id }
  | .EMPLOYER => do
      let id ← Program.perform .uuid4
      let _ ← EmployerRepository.create {
        id
        userId := user.id
        companyName := data.companyName
        companyWebsite := none
        industry := none
        companySize := none
        country := none
        city := none
        jobTitle := none
        department := none }
  | .SUPER_ADMIN | .UNIVERSITY_ADMIN => return ()

/-- The transaction block of `register_user`. -/
def registerBlock (data : Registration) : Action User := do
  match ← UserRepository.getByEmail data.email with
  | some _ => Program.raise ErrorClass.DuplicateEmailError.default
  | none =>
      let passwordHash ← security.hashPassword data.password
      let universityId ← registeringUniversity data
      let id ← Program.perform .uuid4
      let createdAt ← Program.perform .serverNow
      let user ← UserRepository.create {
        id
        email := data.email
        passwordHash
        role := data.role
        universityId
        firstName := data.firstName
        lastName := data.lastName
        isActive := true
        lastLoginAt := none
        lastLoginIp := none
        failedLoginAttempts := 0
        lockedUntil := none
        createdAt }
      createProfile data user
      return user

/-- `register_user`. -/
def registerUser (data : Registration) : Action Registered := do
  let user ← transaction (registerBlock security data)
  return {
    userId := user.id
    email := user.email
    role := user.role
    message := "Registration successful" }

/-- The answer to a login or a refresh. -/
structure TokenPair where
  accessToken : String
  tokenType : String
  refreshToken : String
  deriving DecidableEq, Repr

/-- Block 1: the user, and whether the password is theirs. -/
def credentialBlock (email password : String) : Action (User × Bool) := do
  match ← UserRepository.getByEmail email with
  | none => Program.raise ErrorClass.InvalidCredentialsError.default
  | some user =>
      if let some lockedUntil := user.lockedUntil then
        let now ← Program.perform .now
        if now < lockedUntil then
          Program.raise ErrorClass.AccountLockedError.default
      if security.verifyPassword password user.passwordHash then
        return (user, true)
      else
        let attempts ← UserRepository.incrementFailedAttempts user.id
        if maxFailedLoginAttempts ≤ attempts then
          let now ← Program.perform .now
          UserRepository.setAccountLock user.id (now + 10 * microsecondsPerMinute)
        return (user, false)

/-- A new token pair for a user, with the row of the refresh token. -/
def issueTokens (user : User) (requestIp : String) : Action (TokenPair × RefreshToken) := do
  let accessToken ← security.createAccessToken user
  let refreshTokenRaw ← Security.generateRefreshToken
  let now ← Program.perform .now
  let row ← RefreshTokenRepository.create user.id (security.hashToken refreshTokenRaw)
    (now + security.jwtRefreshTokenExpireDays * microsecondsPerDay) (some requestIp)
  return ({ accessToken, tokenType := "bearer", refreshToken := refreshTokenRaw }, row)

/-- Block 2, for the user as block 1 read it. -/
def successBlock (user : User) (requestIp : String) : Action TokenPair := do
  if !user.isActive then
    Program.raise ErrorClass.InvalidCredentialsError.default
  else
    UserRepository.resetFailedAttempts user.id
    UserRepository.updateLastLogin user.id requestIp
    let (tokens, _) ← issueTokens security user requestIp
    return tokens

/-- `authenticate_user`: the credentials in one transaction, the tokens in a second. -/
def authenticateUser (email password requestIp : String) : Action (TokenPair × User) := do
  let (user, passwordOk) ← transaction (credentialBlock security email password)
  if !passwordOk then
    Program.raise ErrorClass.InvalidCredentialsError.default
  else
    let tokens ← transaction (successBlock security user requestIp)
    return (tokens, user)

/-- The transaction block of `refresh_access_token`. -/
def refreshBlock (refreshTokenRaw requestIp : String) : Action TokenPair := do
  match ← RefreshTokenRepository.getByTokenHash (security.hashToken refreshTokenRaw) with
  | none => Program.raise (.app .InvalidCredentialsError "Invalid refresh token")
  | some stored =>
      if stored.isRevoked then
        Program.raise (.app .InvalidCredentialsError "Refresh token has been revoked")
      else
        let now ← Program.perform .now
        if stored.expiresAt < now then
          Program.raise (.app .InvalidCredentialsError "Refresh token has expired")
        else
          match ← UserRepository.getById stored.userId with
          | none => Program.raise (.app .InvalidCredentialsError "User account is not available")
          | some user =>
              if !user.isActive then
                Program.raise (.app .InvalidCredentialsError "User account is not available")
              else
                let (tokens, newToken) ← issueTokens security user requestIp
                RefreshTokenRepository.revoke stored.id (some newToken.id)
                return tokens

/-- `refresh_access_token`. -/
def refreshAccessToken (refreshTokenRaw requestIp : String) : Action TokenPair :=
  transaction (refreshBlock security refreshTokenRaw requestIp)

/-- The transaction block of `logout`. -/
def logoutBlock (refreshTokenRaw : String) : Action Unit := do
  match ← RefreshTokenRepository.getByTokenHash (security.hashToken refreshTokenRaw) with
  | some stored =>
      if !stored.isRevoked then
        RefreshTokenRepository.revoke stored.id none
  | none => return ()

/-- `logout`. -/
def logout (refreshTokenRaw : String) : Action Unit :=
  transaction (logoutBlock security refreshTokenRaw)

end AuthService

namespace UserService

variable (security : Security)

/-- The transaction block of `change_password`. -/
def passwordBlock (userId : Uuid) (oldPassword newPassword : String) : Action Unit := do
  match ← UserRepository.getById userId with
  | none => Program.raise ErrorClass.UserNotFoundError.default
  | some user =>
      if !security.verifyPassword oldPassword user.passwordHash then
        Program.raise (.app .InvalidCredentialsError "Current password is incorrect")
      else
        let newHash ← security.hashPassword newPassword
        let _ ← UserRepository.update userId [.passwordHash newHash]
        let _ ← RefreshTokenRepository.revokeAllForUser userId

/-- `change_password`. -/
def changePassword (userId : Uuid) (oldPassword newPassword : String) (currentUser : User) :
    Action Unit :=
  if currentUser.id ≠ userId then
    Program.raise ErrorClass.OwnershipViolationError.default
  else
    transaction (passwordBlock security userId oldPassword newPassword)

/-- The transaction block of `deactivate_account`. -/
def deactivationBlock (userId : Uuid) : Action Unit := do
  match ← UserRepository.getById userId with
  | none => Program.raise ErrorClass.UserNotFoundError.default
  | some _ =>
      UserRepository.delete userId
      let _ ← RefreshTokenRepository.revokeAllForUser userId

/-- `deactivate_account`. -/
def deactivateAccount (userId : Uuid) (currentUser : User) : Action Unit :=
  if currentUser.id ≠ userId && currentUser.role ≠ .SUPER_ADMIN then
    Program.raise ErrorClass.OwnershipViolationError.default
  else
    transaction (deactivationBlock userId)

end UserService
end AcademicCredential
