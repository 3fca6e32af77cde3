import AcademicCredential.Blockchain.Service
import AcademicCredential.Database.Session

/-!
# Passwords and tokens

`core/security.py`. bcrypt and the JWT library are parameters; a refresh token is stored
as the SHA-256 hash of its text.
-/

namespace AcademicCredential

open AcademicCredential.Lib

/-- The payload of an access token. -/
structure AccessClaims where
  subject : Uuid
  role : UserRole
  universityId : Option Uuid
  email : String
  jti : Uuid
  issuedAt : Timestamp
  expiresAt : Timestamp
  deriving DecidableEq, Repr

/-- The settings, with what `bcrypt` and `jose` compute. -/
structure Security extends Runtime where
  /-- `bcrypt.hashpw` of a password with a salt. -/
  hashpw : String → String → String
  /-- `bcrypt.checkpw`; a malformed hash matches nothing. -/
  checkpw : String → String → Bool
  /-- `jwt.encode` under the private key. -/
  encodeToken : AccessClaims → String
  jwtAccessTokenExpireMinutes : Nat
  jwtRefreshTokenExpireDays : Nat

/-- The microseconds of a minute. -/
def microsecondsPerMinute : Nat := 60 * 1000000

/-- The microseconds of a day. -/
def microsecondsPerDay : Nat := 24 * 60 * microsecondsPerMinute

namespace Security

variable (security : Security)

/-- `hash_password`; the salt is as random as the tokens are. -/
def hashPassword (password : String) : Action String := do
  let salt ← Program.perform .tokenUrlsafe
  return security.hashpw password salt

/-- `verify_password`. -/
def verifyPassword (plainPassword hashedPassword : String) : Bool :=
  security.checkpw plainPassword hashedPassword

/-- `create_access_token`: the claims of the user under a fresh identifier, signed. -/
def createAccessToken (user : User) : Action String := do
  let now ← Program.perform .now
  let jti ← Program.perform .uuid4
  return security.encodeToken {
    subject := user.id
    role := user.role
    universityId := user.universityId
    email := user.email
    jti
    issuedAt := now
    expiresAt := now + security.jwtAccessTokenExpireMinutes * microsecondsPerMinute }

/-- `generate_refresh_token`. -/
def generateRefreshToken : Action String := Program.perform .tokenUrlsafe

/-- `hash_token`. -/
def hashToken (token : String) : String :=
  hexText (security.sha256 token.toUTF8.toList).1

end Security
end AcademicCredential
