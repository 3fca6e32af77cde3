import AcademicCredential.Services.Auth
import AcademicCredential.Services.StatusMachine
import AcademicCredential.Services.StudentCredentials

/-!
# Whose certificate it is

A certificate's `student_id` is the `users.id` of the student it was issued to; the
readers compare it with the `students.id` of the student who asks. Registration gives
every student exactly one profile, with an id of its own.
-/

namespace AcademicCredential

open AcademicCredential.Lib
open AcademicCredential.Lib.Paging (RowOrder)
open AcademicCredential.Contract

/-- The calls a student may make about one certificate. -/
inductive Reader where
  | myCredentials
  | credentialDetail
  | shareLink
  | download
  | certificate
  | logs (order : RowOrder VerificationLog.verifiedAt) (page limit : Nat)

/-- The call, on a session of its own, ends in an ownership violation. -/
def Denied {Value : Type} (store : Store) (inputs : Inputs) (program : Action Value) : Prop :=
  (program.run sessionHandler (store, .fresh inputs)).1 =
    .error ErrorClass.OwnershipViolationError.default

/-- The reader lists the certificate, or does not deny it. -/
def Reader.Grants (runtime : Runtime) (store : Store) (inputs : Inputs) (user : User)
    (certificate : Certificate) : Reader → Prop
  | .myCredentials => ∃ credentials,
      ((StudentCredentialService.getMyCredentials user.id).run sessionHandler
        (store, .fresh inputs)).1 = .ok credentials ∧ certificate ∈ credentials
  | .credentialDetail => ¬ Denied store inputs
      (StudentCredentialService.getCredentialDetail runtime certificate.id user)
  | .shareLink => ¬ Denied store inputs
      (StudentCredentialService.getShareLink runtime certificate.id user)
  | .download => ¬ Denied store inputs (StudentRouter.downloadCredential certificate.id user)
  | .certificate => ¬ Denied store inputs (CertificateRouter.getCertificate certificate.id user)
  | .logs order page limit => ¬ Denied store inputs
      (LogRouter.getCertificateLogs order certificate.id page limit user)

/-- Every reader grants a certificate exactly to the student it was issued to. -/
def OwnershipLaw (runtime : Runtime) (store : Store) (inputs : Inputs) (user : User)
    (certificate : Certificate) : Prop :=
  ∀ reader : Reader, reader.Grants runtime store inputs user certificate ↔
    certificate.studentId = user.id

section readers

variable {runtime : Runtime} {store : ValidStore} {inputs : Inputs} {user : User}
  {certificate : Certificate}

/-- A value denies no one. -/
theorem NeverDenies.of_pure {Value : Type} (value : Value) :
    NeverDenies (pure value : Action Value) := by
  intro direct denied
  cases denied

/-- An error other than the denial denies no one. -/
theorem NeverDenies.of_raise {Value : Type} {error : Exception}
    (other : error ≠ ErrorClass.OwnershipViolationError.default) :
    NeverDenies (Program.raise error : Action Value) := by
  intro direct denied
  exact other (Except.error.inj denied)

/-- An operation denies no one by itself. -/
theorem NeverDenies.of_perform {Reply Value : Type} (op : Op Reply) {next : Reply → Action Value}
    (rest : ∀ reply, NeverDenies (next reply)) :
    NeverDenies (Program.perform op >>= next) := by
  intro direct
  simp only [Program.run_bind, Program.run_perform]
  exact rest _ _

/-- Looking for a row denies no one by itself. -/
theorem NeverDenies.of_findOne {table : Table} {condition : Row table → Bool} {Value : Type}
    {next : Option (Row table) → Action Value} (rest : ∀ row, NeverDenies (next row)) :
    NeverDenies (BaseRepository.findOne table condition >>= next) := by
  intro direct
  simp only [Program.run_bind, BaseRepository.run_findOne_touch direct]
  exact rest _ _

/-- Each reader but the listing grants what the profile owns. -/
theorem granted_iff {Value : Type} {check : Certificate → Action Unit}
    (checks : ∀ direct, (check certificate).run directHandler direct =
      (requireOwner user certificate).run directHandler direct)
    {rest : Certificate → Action Value} (never : NeverDenies (rest certificate))
    (stored : certificate ∈ store.database .certificates) :
    ¬ Denied store.toStore inputs (do
        let loaded ← existingCertificate certificate.id
        check loaded
        rest loaded) ↔
      (profile? store.database user).map (·.id) = some certificate.studentId := by
  have found := @Database.Keyed.find? _ store.valid.keyed .certificates _ stored
  rw [Denied, (store.run_eq inputs _).1]
  have denied := @denied_iff (.fresh store.toStore inputs) user certificate Value check (checks _)
    rest never found
  rw [denied, not_not]
  rfl

/-- The list holds the certificates whose owner is the identifier of the user's profile. -/
theorem run_getMyCredentials (direct : Direct) (user : User) :
    ((StudentCredentialService.getMyCredentials user.id).run directHandler direct).1 =
      .ok (match profile? direct.working user with
        | none => []
        | some student => CertificateRepository.byIssueDate
            ((direct.working .certificates).filter fun row => row.studentId = student.id)) := by
  have looked : (StudentRepository.getByUserId user.id).run directHandler direct =
      (.ok (profile? direct.working user), direct.touch) :=
    BaseRepository.run_findOne_touch direct .students _
  simp only [StudentCredentialService.getMyCredentials, Program.run_bind, looked]
  cases profile? direct.working user with
  | none => rfl
  | some student =>
      simp [CertificateRepository.getByStudent, Program.run_map, Except.map, directHandler,
        Direct.touch]

/-- What a reader grants a student is what their profile owns. -/
theorem Reader.grants_iff (isStudent : user.role = .STUDENT)
    (stored : certificate ∈ store.database .certificates) (reader : Reader) :
    reader.Grants runtime store.toStore inputs user certificate ↔
      (profile? store.database user).map (·.id) = some certificate.studentId := by
  cases reader with
  | myCredentials =>
      rw [Reader.Grants, (store.run_eq inputs _).1, run_getMyCredentials]
      have isWorking : (Direct.fresh store.toStore inputs).working = store.database := rfl
      rw [isWorking]
      cases profile? store.database user with
      | none => simp
      | some student =>
          simp [CertificateRepository.byIssueDate, List.mem_insertionSort, stored, eq_comm]
  | credentialDetail => exact granted_iff (fun _ => rfl) (.of_findOne fun _ => .of_pure _) stored
  | shareLink =>
      refine granted_iff (fun _ => rfl) ?_ stored
      split
      · exact .of_raise (by decide)
      · refine .of_findOne fun qr => ?_
        cases qr <;> exact .of_pure _
  | download =>
      refine granted_iff (fun _ => rfl) ?_ stored
      split
      · exact .of_raise (by decide)
      · refine .of_perform _ fun isThere => ?_
        cases isThere
        · exact .of_raise (by decide)
        · exact .of_pure _
  | certificate => exact granted_iff (run_requireReader isStudent) (.of_pure _) stored
  | logs order page limit =>
      refine granted_iff (run_requireReader isStudent) ?_ stored
      exact .of_perform _ fun _ => .of_perform _ fun _ => .of_pure _

/-- A student whose profile has an id of its own is granted none of their certificates. -/
theorem Reader.denies_issued (isStudent : user.role = .STUDENT)
    (stored : certificate ∈ store.database .certificates) {student : Student}
    (profile : student ∈ profile? store.database user) (otherId : student.id ≠ user.id)
    (issued : certificate.studentId = user.id) (reader : Reader) :
    ¬ reader.Grants runtime store.toStore inputs user certificate := by
  rw [Reader.grants_iff isStudent stored, show profile? store.database user = some student from
    profile, Option.map_some, Option.some.injEq, issued]
  exact otherId

end readers

/-- A registration adds the user, and a profile when the user is a student. -/
structure Registers (before after : Database) (user : User) : Prop where
  users : after .users = before .users ++ [user]
  student : user.role = .STUDENT →
    ∃ id, after .students = before .students ++ [{ id, userId := user.id }]
  other : user.role ≠ .STUDENT → after .students = before .students

namespace AuthService

variable {security : Security} {data : Registration} {direct after : Direct} {user : User}

/-- Looking up the university writes nothing. -/
theorem run_registeringUniversity {university : Option Uuid}
    (ran : (registeringUniversity data).run directHandler direct = (.ok university, after)) :
    after.working = direct.working := by
  unfold registeringUniversity at ran
  split at ran
  · obtain ⟨found, middle, looked, rest⟩ := (Program.run_bind_ok directHandler).mp ran
    unfold UniversityRepository.getByShortCode at looked
    split at looked
    · rw [BaseRepository.run_findOne_touch direct] at looked
      obtain ⟨-, rfl⟩ := Prod.mk.inj looked
      cases found with
      | none => cases rest
      | some university =>
          dsimp only at rest
          split at rest
          · cases rest
          · cases rest
            rfl
    · cases looked
  · cases ran
    rfl

/-- A student is given one profile, and no one else is. -/
theorem run_createProfile (ran : (createProfile data user).run directHandler direct =
      (.ok (), after)) :
    after.working .users = direct.working .users ∧
      (data.role = .STUDENT →
        ∃ id, after.working .students = direct.working .students ++ [{ id, userId := user.id }]) ∧
      (data.role ≠ .STUDENT → after.working .students = direct.working .students) := by
  unfold createProfile at ran
  split at ran
  · rename_i isStudent
    obtain ⟨id, read, drawn, rest⟩ := (Program.run_bind_ok directHandler).mp ran
    cases drawn
    obtain ⟨created, last, creates, same⟩ := (Program.run_bind_ok directHandler).mp rest
    cases same
    obtain ⟨-, working⟩ := BaseRepository.run_create_ok creates
    rw [working]
    exact ⟨rfl, fun _ => ⟨_, rfl⟩, fun other => absurd isStudent other⟩
  · rename_i isEmployer
    obtain ⟨id, read, drawn, rest⟩ := (Program.run_bind_ok directHandler).mp ran
    cases drawn
    obtain ⟨created, last, creates, same⟩ := (Program.run_bind_ok directHandler).mp rest
    cases same
    obtain ⟨-, working⟩ := BaseRepository.run_create_ok creates
    rw [working]
    refine ⟨rfl, fun isStudent => ?_, fun _ => rfl⟩
    rw [isEmployer] at isStudent
    cases isStudent
  all_goals
    rename_i isOther
    cases ran
    refine ⟨rfl, fun isStudent => ?_, fun _ => rfl⟩
    rw [isOther] at isStudent
    cases isStudent

/-- The university of an administrator is only read. -/
theorem every_registeringUniversity {allowed : (Reply : Type) → Op Reply → Prop}
    (reading : ∀ (Reply : Type) (op : Op Reply), op.isReading = true → allowed Reply op)
    (data : Registration) : (registeringUniversity data).Every allowed := by
  unfold registeringUniversity
  split
  · refine Program.every_bind (UniversityRepository.every_getByShortCode reading _) fun found => ?_
    cases found with
    | none => exact Program.every_raise _
    | some university =>
        dsimp only
        split
        · exact Program.every_raise _
        · exact Program.every_pure _
  · exact Program.every_pure _

/-- The block reads and inserts, and leaves the transaction open. -/
theorem every_registerBlock : (registerBlock security data).Every fun _ op =>
    op.isControl = false := by
  have reading := Op.not_isControl_of_isReading
  refine Program.every_bind (BaseRepository.every_findOne reading _ _) fun existing => ?_
  cases existing with
  | some existing => exact Program.every_raise _
  | none =>
      refine Program.every_bind ?_ fun passwordHash => ?_
      · exact Program.every_bind (every_reading reading rfl) fun _ => Program.every_pure _
      refine Program.every_bind (every_registeringUniversity reading data) fun university => ?_
      refine Program.every_bind (every_reading reading rfl) fun id => ?_
      refine Program.every_bind (every_reading reading rfl) fun createdAt => ?_
      refine Program.every_bind (BaseRepository.every_create reading rfl) fun user => ?_
      refine Program.every_bind ?_ fun _ => Program.every_pure _
      unfold createProfile
      split
      · refine Program.every_bind (every_reading reading rfl) fun _ => ?_
        exact Program.every_bind (BaseRepository.every_create reading rfl) fun _ =>
          Program.every_pure _
      · refine Program.every_bind (every_reading reading rfl) fun _ => ?_
        exact Program.every_bind (BaseRepository.every_create reading rfl) fun _ =>
          Program.every_pure _
      · exact Program.every_pure _
      · exact Program.every_pure _

/-- The block of a registration that returns. -/
theorem registerBlock_registers
    (ran : (registerBlock security data).run directHandler direct = (.ok user, after)) :
    Registers direct.working after.working user := by
  obtain ⟨existing, looked, isLooked, rest⟩ := (Program.run_bind_ok directHandler).mp ran
  rw [UserRepository.getByEmail, BaseRepository.run_findOne_touch direct] at isLooked
  obtain ⟨-, rfl⟩ := Prod.mk.inj isLooked
  cases existing with
  | some existing => cases rest
  | none =>
      obtain ⟨passwordHash, hashed, hashes, rest⟩ := (Program.run_bind_ok directHandler).mp rest
      obtain ⟨university, checked, checks, rest⟩ := (Program.run_bind_ok directHandler).mp rest
      obtain ⟨id, drawn, draws, rest⟩ := (Program.run_bind_ok directHandler).mp rest
      obtain ⟨createdAt, timed, times, rest⟩ := (Program.run_bind_ok directHandler).mp rest
      obtain ⟨_, written, creates, rest⟩ := (Program.run_bind_ok directHandler).mp rest
      obtain ⟨_, profiled, profiles, same⟩ := (Program.run_bind_ok directHandler).mp rest
      cases same
      cases hashes
      cases draws
      cases times
      have unchanged := run_registeringUniversity checks
      obtain ⟨isUser, isWritten⟩ := BaseRepository.run_create_ok creates
      obtain ⟨users, student, other⟩ := run_createProfile profiles
      have sameRole : user.role = data.role := by rw [isUser]
      have isBefore : written.working = (Write.insert .users user).apply direct.working := by
        rw [isWritten, isUser]
        exact congrArg (Write.apply · _) unchanged
      rw [isBefore] at users student other
      refine ⟨?_, fun isStudent => ?_, fun notStudent => ?_⟩
      · rw [users]
        simp [Write.apply]
      · obtain ⟨id, students⟩ := student (sameRole ▸ isStudent)
        exact ⟨id, students⟩
      · exact other (sameRole ▸ notStudent)

end AuthService

/-- The same users, in the same roles, with the same profiles. -/
def SameAccounts (before after : Database) : Prop :=
  (after .users).map (fun user => (user.id, user.role)) =
      (before .users).map (fun user => (user.id, user.role)) ∧
    after .students = before .students

instance (before after : Database) : Decidable (SameAccounts before after) :=
  inferInstanceAs (Decidable (_ ∧ _))

/-- A registration, a login or another step of the accounts. -/
inductive AccountEvent where
  | register (data : AuthService.Registration) (inputs : Inputs)
  /-- An event of the certificates' life, which creates no account. -/
  | certificates (event : Event)

/-- A step of the accounts. -/
def AccountEvent.apply (security : Security) (store : Store) : AccountEvent → Store
  | .register data inputs =>
      ((AuthService.registerUser security data).run sessionHandler (store, .fresh inputs)).2.1
  | .certificates (.elsewhere database) =>
      if SameAccounts store.database database then
        (Event.elsewhere database).apply security.toRuntime store
      else
        store
  | .certificates event => event.apply security.toRuntime store

/-- The store after a run of registrations and certificate events. -/
def enrolledAfter (security : Security) (deployer : Address) (events : List AccountEvent) :
    Store :=
  stateAfter (AccountEvent.apply security) (initialStore deployer) events

/-- Every student has a profile. -/
def Enrolled (database : Database) : Prop :=
  ∀ user ∈ database .users, user.role = .STUDENT →
    ∃ student ∈ database .students, student.userId = user.id

/-- A registration keeps students and their profiles enrolled. -/
theorem Registers.enrolled {before after : Database} {user : User}
    (registers : Registers before after user) (enrolled : Enrolled before) : Enrolled after := by
  intro other member isStudent
  have kept : ∀ student ∈ before .students, student ∈ after .students := by
    intro student isOld
    by_cases role : user.role = .STUDENT
    · obtain ⟨id, students⟩ := registers.student role
      rw [students]
      exact List.mem_append_left _ isOld
    · rw [registers.other role]
      exact isOld
  rw [registers.users] at member
  rcases List.mem_append.mp member with isOld | isNew
  · obtain ⟨student, isStored, sameUser⟩ := enrolled other isOld isStudent
    exact ⟨student, kept student isStored, sameUser⟩
  · obtain rfl := List.mem_singleton.mp isNew
    obtain ⟨id, students⟩ := registers.student isStudent
    exact ⟨⟨id, other.id⟩, by rw [students]; simp, rfl⟩

/-- A step that leaves the accounts keeps them enrolled. -/
theorem SameAccounts.enrolled {before after : Database} (same : SameAccounts before after)
    (enrolled : Enrolled before) : Enrolled after := by
  intro user member isStudent
  have listed : (user.id, user.role) ∈ (before .users).map fun user => (user.id, user.role) := by
    rw [← same.1]
    exact List.mem_map_of_mem member
  obtain ⟨old, isOld, samePair⟩ := List.mem_map.mp listed
  obtain ⟨sameId, sameRole⟩ := Prod.mk.inj samePair
  obtain ⟨student, isStored, sameUser⟩ := enrolled old isOld (sameRole.trans isStudent)
  exact ⟨student, same.2 ▸ isStored, sameUser.trans sameId⟩

/-- A registration leaves a valid database in which every student has a profile. -/
theorem register_enrolled {security : Security} {store : Store} (valid : store.database.Valid)
    (enrolled : Enrolled store.database) (data : AuthService.Registration) (inputs : Inputs) :
    let after := (AccountEvent.register data inputs).apply security store
    after.database.Valid ∧ Enrolled after.database := by
  have described := ((⟨store, valid⟩ : ValidStore).run_eq inputs
    (AuthService.registerUser security data)).2
  have sameDatabase := congrArg Direct.database described
  have stillValid := (run_valid (AuthService.registerUser security data)
    (⟨valid, valid⟩ : (Direct.fresh store inputs).Valid)).database
  rw [← sameDatabase] at stillValid
  refine ⟨stillValid, ?_⟩
  have isAfter : ((AccountEvent.register data inputs).apply security store).database =
      ((AuthService.registerUser security data).run directHandler (.fresh store inputs)).2.database :=
    sameDatabase
  rw [isAfter]
  simp only [AuthService.registerUser, Program.run_bind, run_transaction_fresh]
  rcases ran : (AuthService.registerBlock security data).run directHandler (.begun store inputs) with
    ⟨error | user, left⟩
  · have follows := (run_follows (@AuthService.every_registerBlock security data)
      (.begun store inputs)).1
    rw [ran] at follows
    have unchanged : left.database = store.database := follows
    exact unchanged ▸ enrolled
  · exact (AuthService.registerBlock_registers ran).enrolled enrolled

/-- One event keeps the database valid and the students enrolled. -/
theorem AccountEvent.apply_enrolled {security : Security} {store : Store}
    (valid : store.database.Valid) (enrolled : Enrolled store.database) (event : AccountEvent) :
    (event.apply security store).database.Valid ∧
      Enrolled (event.apply security store).database := by
  cases event with
  | register data inputs => exact register_enrolled valid enrolled data inputs
  | certificates event =>
      cases event with
      | request call inputs =>
          obtain ⟨sameDatabase, -⟩ := apply_request security.toRuntime ⟨store, valid⟩ call inputs
          have bothValid : (Direct.fresh store inputs).Valid := ⟨valid, valid⟩
          have stillValid := (run_valid (call.action security.toRuntime) bothValid).database
          have keeps : ∀ {table : Table}, table ∉ [Table.certificates, .blockchainTransactions,
              .qrVerifications] → ((Event.request call inputs).apply security.toRuntime
                store).database table = store.database table := by
            intro table apart
            have kept := run_keeps (@CertificateCall.every_elsewhere table apart security.toRuntime
              call) (.fresh store inputs) rfl
            exact (congrFun sameDatabase table).trans kept.database
          have users := @keeps .users (by decide)
          have students := @keeps .students (by decide)
          refine ⟨sameDatabase ▸ stillValid, ?_⟩
          exact SameAccounts.enrolled ⟨congrArg _ users, students⟩ enrolled
      | mined transactions => exact ⟨valid, enrolled⟩
      | elsewhere database =>
          simp only [AccountEvent.apply, Event.apply]
          split
          · rename_i same
            split
            · rename_i only
              exact ⟨only.1, same.enrolled enrolled⟩
            · exact ⟨valid, enrolled⟩
          · exact ⟨valid, enrolled⟩

/-- After every run of the accounts they are valid and enrolled. -/
theorem enrolledAfter_enrolled (security : Security) (deployer : Address)
    (events : List AccountEvent) :
    (enrolledAfter security deployer events).database.Valid ∧
      Enrolled (enrolledAfter security deployer events).database :=
  @stateAfter_invariant _ _ (AccountEvent.apply security)
    (fun store => store.database.Valid ∧ Enrolled store.database)
    (fun _ event both => event.apply_enrolled both.1 both.2) (initialStore deployer)
    ⟨.empty, fun _ member => by cases member⟩ events

/-- The profile's id is the user's own, or the certificate names neither of the two. -/
def NamesNeither (database : Database) (user : User) (certificate : Certificate) : Prop :=
  ∀ student ∈ profile? database user, student.id = user.id ∨
    (certificate.studentId ≠ user.id ∧ certificate.studentId ≠ student.id)

/-- In every state reached by registrations and calls on certificates, the readers grant a
student exactly the certificates issued to them when the student's two ids coincide, and
otherwise only for certificates that bear neither of them. -/
theorem ownership_law_iff (security : Security) (deployer : Address) (events : List AccountEvent)
    (inputs : Inputs) (user : User) (certificate : Certificate)
    (registered : user ∈ (enrolledAfter security deployer events).database .users)
    (isStudent : user.role = .STUDENT)
    (stored : certificate ∈ (enrolledAfter security deployer events).database .certificates) :
    OwnershipLaw security.toRuntime (enrolledAfter security deployer events) inputs user
        certificate ↔
      NamesNeither (enrolledAfter security deployer events).database user certificate := by
  obtain ⟨valid, enrolled⟩ := enrolledAfter_enrolled security deployer events
  generalize enrolledAfter security deployer events = store at *
  have grants : ∀ reader : Reader,
      reader.Grants security.toRuntime store inputs user certificate ↔
        (profile? store.database user).map (·.id) = some certificate.studentId :=
    @Reader.grants_iff security.toRuntime ⟨store, valid⟩ inputs user certificate isStudent stored
  obtain ⟨row, isRow, sameUser⟩ := enrolled user registered isStudent
  have law : OwnershipLaw security.toRuntime store inputs user certificate ↔
      ((profile? store.database user).map (·.id) = some certificate.studentId ↔
        certificate.studentId = user.id) :=
    ⟨fun all => (grants .myCredentials).symm.trans (all .myCredentials),
      fun both reader => (grants reader).trans both⟩
  rw [law, NamesNeither]
  cases found : profile? store.database user with
  | none =>
      have absent := List.find?_eq_none.mp found row isRow
      simp [sameUser] at absent
  | some student =>
      simp only [Option.map_some, Option.some.injEq, Option.mem_def, forall_eq']
      constructor
      · intro both
        by_cases issued : certificate.studentId = user.id
        · exact .inl ((both.mpr issued).trans issued)
        · exact .inr ⟨issued, fun same => issued (both.mp same.symm)⟩
      · rintro (same | ⟨notUser, notStudent⟩)
        · rw [same]
          exact eq_comm
        · exact iff_of_false (fun same => notStudent same.symm) notUser

namespace Sample

/-- The sample settings, with a bcrypt that keeps the password. -/
def security : Security :=
  { Runtime.sample with
    hashpw := fun password _ => password
    checkpw := fun password hashed => password == hashed
    encodeToken := fun claims => claims.email
    jwtAccessTokenExpireMinutes := 15
    jwtRefreshTokenExpireDays := 7 }

/-- The registration of a person. -/
def registration (email firstName lastName : String) (role : UserRole)
    (universityCode : Option String) : AuthService.Registration where
  email
  password := "Passw0rd"
  firstName
  lastName
  role
  universityCode
  companyName := none

/-- A registration whose rows get the ids from `uuid + 1` on. -/
def register (data : AuthService.Registration) (uuid : Uuid) : AccountEvent :=
  .register data { inputs answered with uuid4 := fun read => uuid + read }

/-- One administrator and two students register; a certificate is issued to the first. -/
def enrolment : List AccountEvent :=
  [.certificates (.elsewhere fun
      | .universities => [university]
      | _ => []),
    register (registration "admin@uni.example" "Given" "Admin" .UNIVERSITY_ADMIN (some "UNI")) 1,
    register (registration "graduate@uni.example" "Given" "Graduate" .STUDENT none) 10,
    register (registration "newcomer@uni.example" "Hiring" "Manager" .STUDENT none) 20,
    .certificates upload]

/-- The certificate is issued to the first student and bears neither id of the second. -/
def EnrolmentFacts (store : Store) : Prop :=
  ∃ certificate ∈ store.database.find? .certificates 101,
    ∃ graduate ∈ store.database.find? .users 11, ∃ newcomer ∈ store.database.find? .users 21,
      (graduate.role = .STUDENT ∧ newcomer.role = .STUDENT) ∧
      certificate.studentId = graduate.id ∧
      (∃ student ∈ profile? store.database graduate, student.id ≠ graduate.id) ∧
      ∃ student ∈ profile? store.database newcomer,
        certificate.studentId ≠ newcomer.id ∧ certificate.studentId ≠ student.id

instance (store : Store) : Decidable (EnrolmentFacts store) :=
  inferInstanceAs (Decidable (∃ certificate ∈ store.database.find? .certificates 101, _))

/-- The facts about the database after the enrolment. -/
theorem enrolment_facts : EnrolmentFacts (enrolledAfter security deployer enrolment) := by
  decide +kernel

end Sample

/-- The law holds for a student and a certificate that was issued to another one. -/
theorem ownership_law_other_student :
    ∃ user ∈ (enrolledAfter Sample.security Sample.deployer Sample.enrolment).database .users,
      ∃ certificate ∈ (enrolledAfter Sample.security Sample.deployer
          Sample.enrolment).database .certificates,
        user.role = .STUDENT ∧ OwnershipLaw Sample.security.toRuntime
          (enrolledAfter Sample.security Sample.deployer Sample.enrolment)
          (Sample.inputs Sample.answered) user certificate := by
  obtain ⟨certificate, stored, -, -, newcomer, registered, ⟨-, isStudent⟩, -, -, student, profile,
    neither⟩ := Sample.enrolment_facts
  have isUser := (Database.find?_some registered).1
  have isStored := (Database.find?_some stored).1
  refine ⟨newcomer, isUser, certificate, isStored, isStudent, ?_⟩
  refine (ownership_law_iff Sample.security Sample.deployer Sample.enrolment
    (Sample.inputs Sample.answered) newcomer certificate isUser isStudent isStored).mpr ?_
  intro other isOther
  obtain rfl := Option.some.inj (profile.symm.trans isOther)
  exact .inr neither

/-- Upload stores the `users.id` of the student and the readers compare it with the
`students.id`: no reader grants the student the certificate that was issued to them. -/
theorem issued_certificate_denied :
    ∃ user ∈ (enrolledAfter Sample.security Sample.deployer Sample.enrolment).database .users,
      ∃ certificate ∈ (enrolledAfter Sample.security Sample.deployer
          Sample.enrolment).database .certificates,
        user.role = .STUDENT ∧ certificate.studentId = user.id ∧
        (∀ reader : Reader, ¬ reader.Grants Sample.security.toRuntime
          (enrolledAfter Sample.security Sample.deployer Sample.enrolment)
          (Sample.inputs Sample.answered) user certificate) ∧
        ¬ OwnershipLaw Sample.security.toRuntime
          (enrolledAfter Sample.security Sample.deployer Sample.enrolment)
          (Sample.inputs Sample.answered) user certificate := by
  obtain ⟨certificate, stored, graduate, registered, -, -, ⟨isStudent, -⟩, issued,
    ⟨student, profile, otherId⟩, -⟩ := Sample.enrolment_facts
  have isUser := (Database.find?_some registered).1
  have isStored := (Database.find?_some stored).1
  have valid := (enrolledAfter_enrolled Sample.security Sample.deployer Sample.enrolment).1
  generalize enrolledAfter Sample.security Sample.deployer Sample.enrolment = store at *
  have denies := @Reader.denies_issued Sample.security.toRuntime ⟨store, valid⟩
    (Sample.inputs Sample.answered) graduate certificate isStudent isStored student profile otherId
    issued
  refine ⟨graduate, isUser, certificate, isStored, isStudent, issued, denies, fun law => ?_⟩
  exact denies .myCredentials ((law .myCredentials).mpr issued)

end AcademicCredential
