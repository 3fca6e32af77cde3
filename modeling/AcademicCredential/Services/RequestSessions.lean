import AcademicCredential.Dependencies
import AcademicCredential.Services.UploadForm
import AcademicCredential.Services.Wallets

/-!
# The session of a request

FastAPI hands one session to the dependencies, to the router and to the service of a request.
`get_current_user` reads the user on it, which opens a transaction; the services open theirs with
`db.begin()`. `begins_clean_iff`: an endpoint keeps to the protocol exactly when it turns the
request away before that.
-/

namespace AcademicCredential

open AcademicCredential.Lib
open AcademicCredential.CertificateRouter

namespace EmployerService

/-- The transaction block of `update_employer_profile`. -/
def profileBlock (userId : Uuid) (updateData : List EmployerAssignment) :
    Action (Option Employer) := do
  match ← EmployerRepository.getByUserId userId with
  | none => Program.raise (.app .NotFoundError "Employer profile not found")
  | some employer => EmployerRepository.update employer.id updateData

/-- `update_profile` of the employers. -/
def updateEmployerProfile (userId : Uuid) (updateData : List EmployerAssignment)
    (currentUser : User) : Action (Option Employer) :=
  if currentUser.id ≠ userId then
    Program.raise ErrorClass.OwnershipViolationError.default
  else
    transaction (profileBlock userId updateData)

end EmployerService

/-- The requests to the authenticated endpoints whose service opens a transaction, with a body that
the schemas have let pass. -/
inductive Endpoint where
  | logout (refreshToken : Option String)
  | uploadCertificate (form : UploadForm)
  | confirmHash (certificateId : Uuid) (blockchainTxHash : String)
  | revokeCertificate (certificateId : Uuid) (reason : String)
  | confirmRevocation (certificateId : Uuid) (blockchainTxHash : String)
  | generateQr (certificateId : Uuid)
  | updateWallet (universityId : Uuid) (body : WalletUpdateRequest)
  | updateProfile (updateData : List EmployerAssignment)
  | verifyByUpload (file : UploadFile) (certificateUid : Option String)
      (requestIp userAgent : Option String)

/-- What a request finds: the settings and the libraries, the service of the process and what its
constructor would do, the limits that the client has requests left of, and the token. -/
structure RequestContext where
  security : Security
  verifier : TokenVerifier
  fromIsoFormat : String → Option Date
  blockchain : BlockchainProvider
  construct : Except String Unit
  withinLimit : String → Bool
  token : String

/-- What `get_blockchain_service` answers. -/
def RequestContext.blockchainService (context : RequestContext) : Except Exception Unit :=
  (context.blockchain.getBlockchainService context.security.contractAddress context.construct).1

namespace Endpoint

/-- The user, as the endpoint's dependency finds them. -/
def currentUser (context : RequestContext) : Endpoint → Action User
  | .logout _ => getCurrentActiveUser context.verifier context.token
  | .updateProfile _ | .verifyByUpload _ _ _ _ =>
      requireRole context.verifier [.EMPLOYER] context.token
  | _ => requireRole context.verifier [.UNIVERSITY_ADMIN] context.token

/-- The endpoint depends on `get_blockchain_service`. -/
def dependsOnBlockchain : Endpoint → Bool
  | .confirmHash _ _ | .revokeCertificate _ _ | .confirmRevocation _ _
  | .verifyByUpload _ _ _ _ => true
  | _ => false

/-- The dependency on the service, of the endpoints that have it. -/
def blockchainDependency (context : RequestContext) (endpoint : Endpoint) : Except Exception Unit :=
  if endpoint.dependsOnBlockchain then context.blockchainService else .ok ()

/-- `upload_certificate` behind its limiter. -/
def uploadRouter (context : RequestContext) (currentUser : User) (fields : UploadFields)
    (file : UploadFile) : Action CertificateIssuanceService.CertificateDraft :=
  rateLimited context.withinLimit rateLimitCertificateUpload
    (CertificateRouter.uploadCertificate context.security.toRuntime context.fromIsoFormat
      currentUser fields file)

/-- The body of the endpoint behind its limiter, without the answer that it builds. -/
def body (context : RequestContext) (endpoint : Endpoint) (currentUser : User) : Action Unit := do
  match endpoint with
  | .logout refreshToken =>
      match refreshToken.filter (· ≠ "") with
      | none => return ()
      | some refreshTokenRaw => AuthService.logout context.security refreshTokenRaw
  | .uploadCertificate form =>
      let _ ← form.receive (uploadRouter context currentUser)
  | .confirmHash certificateId blockchainTxHash =>
      let _ ← CertificateIssuanceService.confirmBlockchainStorage context.security.toRuntime
        certificateId blockchainTxHash currentUser
  | .revokeCertificate certificateId reason =>
      let _ ← CertificateRevocationService.initiateRevocation context.security.toRuntime
        certificateId reason currentUser true
  | .confirmRevocation certificateId blockchainTxHash =>
      let _ ← CertificateRevocationService.confirmRevocation context.security.toRuntime
        certificateId blockchainTxHash currentUser
  | .generateQr certificateId =>
      let _ ← QrVerificationService.generateQrForCertificate context.security.toRuntime
        certificateId currentUser.id
  | .updateWallet universityId body =>
      let _ ← UniversityService.updateWalletAddress universityId body.walletAddress currentUser
  | .updateProfile updateData =>
      let _ ← EmployerService.updateEmployerProfile currentUser.id updateData currentUser
  | .verifyByUpload file certificateUid requestIp userAgent =>
      rateLimited context.withinLimit rateLimitVerifyUpload <|
        match file.refusal? maxVerificationFileSizeBytes with
        | some error => Program.raise error
        | none => do
            let _ ← VerificationService.verifyByFileUpload context.security.toRuntime
              file.fileBytes
              { certUidHint := certificateUid, currentUserId := currentUser.id, requestIp,
                userAgent }
              true

/-- The dependencies in the order of the parameters, and then the endpoint. -/
def handle (context : RequestContext) (endpoint : Endpoint) : Action Unit := do
  let currentUser ← endpoint.currentUser context
  Program.ofExcept (endpoint.blockchainDependency context)
  endpoint.body context currentUser

end Endpoint

/-- The operation enters `begin()`. -/
def Op.isBegin : {Reply : Type} → Op Reply → Bool
  | _, .begin => true
  | _, _ => false

/-- Where `begin()` is entered, the session has no open transaction. -/
def BeginsClosed (Reply : Type) (op : Op Reply) (state : Store × Session) : Prop :=
  op.isBegin = true → state.2.inTransaction = false

/-- On a session of its own, the request never enters `begin()` with an open transaction. -/
def Endpoint.Clean (context : RequestContext) (store : Store) (inputs : Inputs)
    (endpoint : Endpoint) : Prop :=
  (endpoint.handle context).Along sessionHandler BeginsClosed (store, .fresh inputs)

/-- On an open session the program gets no further than its first `begin()`, which raises, and
leaves the store as it is. -/
structure StopsAtBegin {Value : Type} (action : Action Value) : Prop where
  unclean : ∀ state : Store × Session, state.2.inTransaction = true →
    ¬ action.Along sessionHandler BeginsClosed state
  raises : ∀ state : Store × Session, state.2.inTransaction = true →
    (action.run sessionHandler state).1 = .error .InvalidRequestError ∧
      (action.run sessionHandler state).2.1 = state.1

/-- `begin()` inside an open transaction raises InvalidRequestError. -/
theorem sessionHandler_begin_open {state : Store × Session} (opened : state.2.inTransaction = true) :
    sessionHandler _ .begin state = (.error .InvalidRequestError, state) := by
  simp only [sessionHandler, opened, if_true]

/-- A service that opens a transaction stops there when one is open. -/
theorem stopsAtBegin_transaction {Value : Type} (block : Action Value) :
    StopsAtBegin (transaction block) := by
  constructor
  · intro state opened along
    have closed := (Program.along_bind.mp (Program.along_bind.mp along).1).1
    rw [Program.along_perform] at closed
    exact absurd ((closed rfl).symm.trans opened) Bool.false_ne_true
  · intro state opened
    simp only [transaction, attempt, Program.run_bind, Program.run_perform,
      sessionHandler_begin_open opened, Program.run_ofExcept, and_self]

namespace StopsAtBegin

variable {Value Result : Type} {action : Action Value}

/-- What stops at once stops whatever follows. -/
theorem bind (stops : StopsAtBegin action) (next : Value → Action Result) :
    StopsAtBegin (action >>= next) := by
  constructor
  · intro state opened along
    exact stops.unclean state opened (Program.along_bind.mp along).1
  · intro state opened
    obtain ⟨raised, kept⟩ := stops.raises state opened
    rw [Program.run_bind]
    generalize action.run sessionHandler state = session at raised kept ⊢
    obtain ⟨returned, after⟩ := session
    obtain rfl : returned = .error .InvalidRequestError := raised
    exact ⟨rfl, kept⟩

/-- What stops at once stops whatever its answer would become. -/
theorem map (stops : StopsAtBegin action) (transform : Value → Result) :
    StopsAtBegin (transform <$> action) := by
  rw [← bind_pure_comp]
  exact stops.bind _

/-- Reading an input leaves an open session open. -/
theorem after_perform {Reply : Type} {op : Op Reply} {next : Reply → Action Value}
    (stays : ∀ state : Store × Session, (sessionHandler _ op state).2.2.inTransaction =
      state.2.inTransaction)
    (keeps : ∀ state : Store × Session, (sessionHandler _ op state).2.1 = state.1)
    (stops : ∀ reply, StopsAtBegin (next reply)) : StopsAtBegin (Program.perform op >>= next) := by
  constructor
  · intro state opened along
    exact (stops _).unclean _ ((stays state).trans opened) ((Program.along_bind.mp along).2 _ _ rfl)
  · intro state opened
    obtain ⟨raised, kept⟩ := (stops _).raises _ ((stays state).trans opened)
    exact ⟨raised, kept.trans (keeps state)⟩

end StopsAtBegin

/-- A program without `begin()`. -/
def NeverBegins {Value : Type} (action : Action Value) : Prop :=
  action.Every fun _ op => op.isBegin = false

/-- What never begins a transaction begins none along its run. -/
theorem NeverBegins.along {Value : Type} {action : Action Value} (never : NeverBegins action)
    (state : Store × Session) : action.Along sessionHandler BeginsClosed state := by
  refine Program.along_of_every (fun _ op state isOther isBegin => ?_) never state
  exact absurd (isOther.symm.trans isBegin) Bool.false_ne_true

/-- The token names the row of the user. -/
def TokenVerifier.Names (verifier : TokenVerifier) (token : String) (database : Database)
    (user : User) : Prop :=
  ∃ userId, verifier.userId token = .ok userId ∧ database.find? .users userId = some user

/-- The row is found, and its read opens a transaction. -/
theorem run_getById_fresh (table : Table) (id : Uuid) (store : Store) (inputs : Inputs) :
    ∃ session : Session, session.inTransaction = true ∧
      (BaseRepository.getById table id).run sessionHandler (store, .fresh inputs) =
        (.ok (store.database.find? table id), (store, session)) := by
  refine ⟨(sessionHandler _ (.select table fun row => decide (rowId row = id))
    (store, .fresh inputs)).2.2, rfl, ?_⟩
  have loaded : loadedRows Database.empty table
      ((store.database table).filter fun row => decide (rowId row = id)) =
        (store.database table).filter fun row => decide (rowId row = id) :=
    List.map_id _
  simp [BaseRepository.getById, BaseRepository.findOne, Program.run_map, sessionHandler,
    Session.fresh, visible, applyWrites, loaded, Except.map, Database.find?, List.head?_filter]

/-- Finding the current user begins no transaction. -/
theorem neverBegins_getCurrentUser (verifier : TokenVerifier) (token : String) :
    NeverBegins (getCurrentUser verifier token) := by
  refine Program.every_bind (Program.every_ofExcept _) fun userId => ?_
  refine Program.every_bind ?_ fun found => ?_
  · exact Program.every_bind (Program.every_perform _ |>.mpr rfl) fun _ => trivial
  · cases found with
    | none => trivial
    | some user =>
        dsimp only
        split <;> trivial

/-- The dependency finds the active user that the token names, and leaves the session open. -/
theorem run_getCurrentUser_ok (verifier : TokenVerifier) (token : String) (store : Store)
    (inputs : Inputs) {user : User} (names : verifier.Names token store.database user)
    (active : user.isActive = true) :
    ∃ session : Session, session.inTransaction = true ∧
      (getCurrentUser verifier token).run sessionHandler (store, .fresh inputs) =
        (.ok user, (store, session)) := by
  obtain ⟨userId, isId, found⟩ := names
  obtain ⟨session, opened, read⟩ := run_getById_fresh .users userId store inputs
  refine ⟨session, opened, ?_⟩
  rw [getCurrentUser, isId, Program.run_bind, Program.run_ofExcept]
  simp only [UserRepository.getById, Program.run_bind, read, found, active]
  rfl

/-- The user returned is the one the token names, and active. -/
theorem getCurrentUser_returns {verifier : TokenVerifier} {token : String} {store : Store}
    {inputs : Inputs} {user : User} {after : Store × Session}
    (returned : (getCurrentUser verifier token).run sessionHandler (store, .fresh inputs) =
      (.ok user, after)) :
    verifier.Names token store.database user ∧ user.isActive = true := by
  obtain ⟨userId, middle, verified, rest⟩ := (Program.run_bind_ok sessionHandler).mp returned
  rw [Program.run_ofExcept] at verified
  obtain ⟨isId, rfl⟩ := Prod.mk.inj verified
  obtain ⟨found, later, isRead, rest⟩ := (Program.run_bind_ok sessionHandler).mp rest
  obtain ⟨session, -, read⟩ := run_getById_fresh .users userId store inputs
  obtain ⟨isFound, rfl⟩ := Prod.mk.inj (isRead.symm.trans read)
  obtain rfl := Except.ok.inj isFound
  cases isUser : store.database.find? .users userId with
  | none =>
      rw [isUser] at rest
      cases rest
  | some row =>
      rw [isUser] at rest
      by_cases active : row.isActive = true
      · simp only [active] at rest
        cases rest
        exact ⟨⟨userId, isId, isUser⟩, active⟩
      · simp only [active] at rest
        cases rest

/-- The roles that an endpoint is open to. -/
def Endpoint.Admits : Endpoint → UserRole → Prop
  | .logout _, _ => True
  | .updateProfile _, role | .verifyByUpload _ _ _ _, role => role = .EMPLOYER
  | _, role => role = .UNIVERSITY_ADMIN

/-- Requiring a role begins no transaction. -/
theorem neverBegins_requireRole (verifier : TokenVerifier) (roles : List UserRole)
    (token : String) : NeverBegins (requireRole verifier roles token) := by
  refine Program.every_bind (neverBegins_getCurrentUser verifier token) fun user => ?_
  split <;> trivial

/-- A user of the role is admitted, inside an open transaction. -/
theorem run_requireRole_ok (verifier : TokenVerifier) (role : UserRole) (token : String)
    (store : Store) (inputs : Inputs) {user : User}
    (names : verifier.Names token store.database user) (active : user.isActive = true)
    (admits : user.role = role) :
    ∃ session : Session, session.inTransaction = true ∧
      (requireRole verifier [role] token).run sessionHandler (store, .fresh inputs) =
        (.ok user, (store, session)) := by
  obtain ⟨session, opened, ran⟩ := run_getCurrentUser_ok verifier token store inputs names active
  refine ⟨session, opened, ?_⟩
  rw [requireRole, Program.run_bind, ran]
  simp [admits]

/-- The user admitted is active, of the role and named by the token. -/
theorem requireRole_returns {verifier : TokenVerifier} {role : UserRole} {token : String}
    {store : Store} {inputs : Inputs} {user : User} {after : Store × Session}
    (returned : (requireRole verifier [role] token).run sessionHandler (store, .fresh inputs) =
      (.ok user, after)) :
    verifier.Names token store.database user ∧ user.isActive = true ∧ user.role = role := by
  obtain ⟨found, middle, ran, rest⟩ := (Program.run_bind_ok sessionHandler).mp returned
  have names := getCurrentUser_returns ran
  by_cases admits : found.role = role
  · simp only [admits, List.mem_singleton, not_true_eq_false, if_false] at rest
    cases rest
    exact ⟨names.1, names.2, admits⟩
  · simp only [admits, List.mem_singleton, not_false_eq_true, if_true] at rest
    cases rest

namespace Endpoint

variable (context : RequestContext) (endpoint : Endpoint)

/-- Finding the user of an endpoint begins no transaction. -/
theorem neverBegins_currentUser : NeverBegins (endpoint.currentUser context) := by
  cases endpoint with
  | logout _ =>
      refine Program.every_bind (neverBegins_getCurrentUser _ _) fun user => ?_
      split <;> trivial
  | _ => exact neverBegins_requireRole _ _ _

/-- An admitted user reaches the body, inside an open transaction. -/
theorem run_currentUser_ok (store : Store) (inputs : Inputs) {user : User}
    (names : context.verifier.Names context.token store.database user)
    (active : user.isActive = true) (admits : endpoint.Admits user.role) :
    ∃ session : Session, session.inTransaction = true ∧
      (endpoint.currentUser context).run sessionHandler (store, .fresh inputs) =
        (.ok user, (store, session)) := by
  cases endpoint with
  | logout _ =>
      obtain ⟨session, opened, ran⟩ :=
        run_getCurrentUser_ok context.verifier context.token store inputs names active
      refine ⟨session, opened, ?_⟩
      simp [currentUser, getCurrentActiveUser, Program.run_bind, ran, active]
  | _ => exact run_requireRole_ok _ _ _ _ _ names active admits

/-- The user returned is admitted by the endpoint. -/
theorem currentUser_returns {store : Store} {inputs : Inputs} {user : User}
    {after : Store × Session}
    (returned : (endpoint.currentUser context).run sessionHandler (store, .fresh inputs) =
      (.ok user, after)) :
    context.verifier.Names context.token store.database user ∧ user.isActive = true ∧
      endpoint.Admits user.role := by
  cases endpoint with
  | logout _ =>
      obtain ⟨found, middle, ran, rest⟩ := (Program.run_bind_ok sessionHandler).mp returned
      have names := getCurrentUser_returns ran
      simp only [names.2] at rest
      cases rest
      exact ⟨names.1, names.2, trivial⟩
  | _ => exact requireRole_returns returned

/-- The endpoint calls its service, which begins a transaction. -/
def Calls (user : User) : Prop :=
  match endpoint with
  | .logout refreshToken => (refreshToken.filter (· ≠ "")).isSome = true
  | .uploadCertificate form => context.withinLimit rateLimitCertificateUpload = true ∧
      ∃ upload, Sends context.fromIsoFormat form upload
  | .updateWallet universityId _ => user.universityId = some universityId
  | .verifyByUpload file _ _ _ => context.withinLimit rateLimitVerifyUpload = true ∧
      file.Accepted maxVerificationFileSizeBytes
  | _ => True

/-- The upload endpoint calls its service, or raises an error without a look at the database. -/
theorem receive_uploadRouter_cases (form : UploadForm) (user : User) :
    (context.withinLimit rateLimitCertificateUpload = true ∧
      ∃ upload, Sends context.fromIsoFormat form upload ∧
        form.receive (uploadRouter context user) = upload.action context.security.toRuntime) ∨
    ¬ (uploadCertificate form).Calls context user ∧
      ∃ error, (∀ message, error ≠ .app .UserNotFoundError message) ∧
        form.receive (uploadRouter context user) = Program.raise error := by
  rcases form.receive_cases (uploadRouter context user) with
    ⟨fields, file, isFields, isFile, received⟩ | ⟨missing, refused⟩
  · by_cases within : context.withinLimit rateLimitCertificateUpload = true
    · rcases uploadCertificate_cases context.security.toRuntime context.fromIsoFormat isFields
        isFile user (AcademicCredential.Sample.inputs AcademicCredential.Sample.answered) with
        ⟨upload, sends, -, -, ran⟩ | ⟨never, error, isOther, ran⟩
      · exact .inl ⟨within, upload, sends, by
          simp only [received, uploadRouter, rateLimited, within, if_true, ran]⟩
      · exact .inr ⟨fun ⟨_, upload, sends⟩ => never upload sends, error, isOther, by
          simp only [received, uploadRouter, rateLimited, within, if_true, ran]⟩
    · refine .inr ⟨fun calls => within calls.1, .RateLimitExceeded, fun message same => ?_, ?_⟩
      · cases same
      · simp only [received, uploadRouter, rateLimited, within]
        rfl
  · refine .inr ⟨fun ⟨_, upload, sends⟩ => sends.complete missing, .RequestValidationError,
      fun message same => ?_, refused⟩
    cases same

/-- An endpoint that calls its service stops at `begin()` on an open session; the others begin
nothing. -/
theorem body_cases (user : User) :
    (endpoint.Calls context user ∧ StopsAtBegin (endpoint.body context user)) ∨
      ¬ endpoint.Calls context user ∧ NeverBegins (endpoint.body context user) := by
  cases endpoint with
  | logout refreshToken =>
      cases given : refreshToken.filter (· ≠ "") with
      | none =>
          refine .inr ⟨?_, ?_⟩
          · rw [Calls, given]
            exact Bool.false_ne_true
          · simp only [body, given]
            trivial
      | some refreshTokenRaw =>
          refine .inl ⟨?_, ?_⟩
          · rw [Calls, given]
            rfl
          · simp only [body, given]
            exact stopsAtBegin_transaction _
  | uploadCertificate form =>
      rcases receive_uploadRouter_cases context form user with
        ⟨within, upload, sends, ran⟩ | ⟨never, error, -, ran⟩
      · refine .inl ⟨⟨within, upload, sends⟩, ?_⟩
        simp only [body, ran]
        exact (stopsAtBegin_transaction _).bind _
      · refine .inr ⟨never, ?_⟩
        simp only [body, ran]
        trivial
  | confirmHash certificateId blockchainTxHash =>
      exact .inl ⟨trivial, ((stopsAtBegin_transaction _).bind _).bind _⟩
  | revokeCertificate certificateId reason =>
      exact .inl ⟨trivial, ((stopsAtBegin_transaction _).bind _).bind _⟩
  | confirmRevocation certificateId blockchainTxHash =>
      exact .inl ⟨trivial, (stopsAtBegin_transaction _).bind _⟩
  | generateQr certificateId =>
      exact .inl ⟨trivial, ((stopsAtBegin_transaction _).bind _).bind _⟩
  | updateWallet universityId walletUpdate =>
      by_cases owner : user.universityId = some universityId
      · refine .inl ⟨owner, ?_⟩
        simp only [body, UniversityService.updateWalletAddress, owner, ne_eq, not_true_eq_false,
          if_false]
        exact (stopsAtBegin_transaction _).bind _
      · refine .inr ⟨owner, ?_⟩
        simp only [body, UniversityService.updateWalletAddress, owner, ne_eq, not_false_eq_true,
          if_true]
        trivial
  | updateProfile updateData =>
      refine .inl ⟨trivial, ?_⟩
      simp only [body, EmployerService.updateEmployerProfile, ne_eq, not_true_eq_false, if_false]
      exact (stopsAtBegin_transaction _).bind _
  | verifyByUpload file certificateUid requestIp userAgent =>
      by_cases within : context.withinLimit rateLimitVerifyUpload = true
      · rcases file.refusal?_cases maxVerificationFileSizeBytes with
          ⟨accepted, passes⟩ | ⟨refused, error, -, refusal⟩
        · refine .inl ⟨⟨within, accepted⟩, ?_⟩
          simp only [body, rateLimited, within, if_true, passes]
          refine StopsAtBegin.bind ?_ _
          refine .after_perform (fun _ => rfl) (fun _ => rfl) fun startTime => ?_
          refine .after_perform (fun _ => rfl) (fun _ => rfl) fun verificationId => ?_
          exact (stopsAtBegin_transaction _).bind _
        · refine .inr ⟨fun calls => refused calls.2, ?_⟩
          simp only [body, rateLimited, within, if_true, refusal]
          trivial
      · refine .inr ⟨fun calls => within calls.1, ?_⟩
        simp only [body, rateLimited, within]
        trivial

/-- The token is that of an active user with a role for the endpoint, the service it depends on is
there, and neither the limiter nor the router turns the request away. -/
def Reaches (database : Database) : Prop :=
  ∃ user, context.verifier.Names context.token database user ∧ user.isActive = true ∧
    endpoint.Admits user.role ∧ endpoint.blockchainDependency context = .ok () ∧
      endpoint.Calls context user

/-- A request that reaches its service enters `begin()` on an open session. -/
theorem Reaches.unclean {context : RequestContext} {endpoint : Endpoint} {store : Store}
    (reaches : endpoint.Reaches context store.database) (inputs : Inputs) :
    ¬ endpoint.Clean context store inputs := by
  intro clean
  obtain ⟨user, names, active, admits, served, calls⟩ := reaches
  obtain ⟨session, opened, ran⟩ :=
    endpoint.run_currentUser_ok context store inputs names active admits
  have along := (Program.along_bind.mp clean).2 user _ ran
  rw [served] at along
  rcases endpoint.body_cases context user with ⟨-, stops⟩ | ⟨refused, -⟩
  · exact stops.unclean (store, session) opened along
  · exact refused calls

/-- It is answered with the error that `begin()` raises, and changes nothing. -/
theorem Reaches.raises {context : RequestContext} {endpoint : Endpoint} {store : Store}
    (reaches : endpoint.Reaches context store.database) (inputs : Inputs) :
    ((endpoint.handle context).run sessionHandler (store, .fresh inputs)).1 =
        .error .InvalidRequestError ∧
      ((endpoint.handle context).run sessionHandler (store, .fresh inputs)).2.1 = store := by
  obtain ⟨user, names, active, admits, served, calls⟩ := reaches
  obtain ⟨session, opened, ran⟩ :=
    endpoint.run_currentUser_ok context store inputs names active admits
  rw [handle, Program.run_bind, ran, served]
  rcases endpoint.body_cases context user with ⟨-, stops⟩ | ⟨refused, -⟩
  · exact stops.raises (store, session) opened
  · exact absurd calls refused

/-- A request keeps to the protocol exactly when it is turned away before its service. -/
theorem begins_clean_iff (store : Store) (inputs : Inputs) :
    endpoint.Clean context store inputs ↔ ¬ endpoint.Reaches context store.database := by
  constructor
  · exact fun clean reaches => reaches.unclean inputs clean
  · intro turnedAway
    refine Program.along_bind.mpr
      ⟨(endpoint.neverBegins_currentUser context).along _, fun user after returned => ?_⟩
    obtain ⟨names, active, admits⟩ := endpoint.currentUser_returns context returned
    cases served : endpoint.blockchainDependency context with
    | error error => exact trivial
    | ok present =>
        rcases endpoint.body_cases context user with ⟨calls, -⟩ | ⟨-, never⟩
        · exact absurd ⟨user, names, active, admits, served, calls⟩ turnedAway
        · exact never.along after

namespace Sample

open AcademicCredential.Sample

/-- A request with the token of the sample administrator. -/
def ofAdministrator : RequestContext where
  security := security
  verifier := { decode := fun token => .ok (some token), uuid := fun _ => administrator.id }
  fromIsoFormat := CertificateRouter.Sample.fromIsoFormat
  blockchain := { initialized := false, initError := none }
  construct := .ok ()
  withinLimit := fun _ => true
  token := "administrator"

/-- The administrator asks for a code of the sample certificate. -/
def generateQr : Endpoint := .generateQr 3

/-- The sample certificate is confirmed. -/
def confirmedStore : Store where
  database := database .CONFIRMED []
  chain := .deployed deployer
  files := []

end Sample

/-- The administrator's request for a code enters `begin()` on an open session. -/
theorem generate_begins_open :
    ¬ Sample.generateQr.Clean Sample.ofAdministrator Sample.confirmedStore
      (AcademicCredential.Sample.inputs AcademicCredential.Sample.answered) := by
  have reaches : Sample.generateQr.Reaches Sample.ofAdministrator Sample.confirmedStore.database :=
    ⟨AcademicCredential.Sample.administrator, ⟨2, rfl, rfl⟩, rfl, rfl, rfl, trivial⟩
  exact reaches.unclean _

end Endpoint

end AcademicCredential
