import AcademicCredential.Services.Ownership
import AcademicCredential.Services.Schemas

/-!
# What a registration ends in

A request that `RegisterRequest` accepts adds one user with the profile of their role, or is
refused with one of three errors and adds nothing. An employer's company name is one exception:
the schema bounds neither its presence nor its length, and the profile's table does. The other is
the character U+0000, which the schema admits in names and codes and PostgreSQL in no text.
-/

namespace AcademicCredential.AuthService

open AcademicCredential.Lib

/-- The row a registration inserts into `users`. -/
def registeredUser (security : Security) (data : Registration) (universityId : Option Uuid)
    (inputs : Inputs) : User where
  id := inputs.uuid4 1
  email := data.email
  passwordHash := security.hashpw data.password (inputs.tokenUrlsafe 0)
  role := data.role
  universityId
  firstName := data.firstName
  lastName := data.lastName
  isActive := true
  lastLoginAt := none
  lastLoginIp := none
  failedLoginAttempts := 0
  lockedUntil := none
  createdAt := inputs.databaseClock 2

/-- The one profile that goes with a user's role, and nothing besides. -/
inductive Profiled (user : User) (companyName : Option String) (before : Database) :
    UserRole → Database → Prop
  | student (student : Student) (ofUser : student.userId = user.id) :
      Profiled user companyName before .STUDENT
        ((Write.insert .students student).apply before)
  | employer (employer : Employer) (ofUser : employer.userId = user.id)
      (named : employer.companyName = companyName) :
      Profiled user companyName before .EMPLOYER
        ((Write.insert .employers employer).apply before)
  | administrator (university : University) (member : university ∈ before .universities)
      (verified : university.isVerified = true)
      (linked : user.universityId = some university.id) :
      Profiled user companyName before .UNIVERSITY_ADMIN before

/-- The errors a registration may raise. -/
def expectedErrors : List ErrorClass :=
  [.DuplicateEmailError, .UniversityNotFoundError, .UnverifiedUniversityError]

/-- A registration that commits one user with one profile, or raises an expected error and leaves
the database as it was. -/
inductive Completes (data : Registration) (before after : Database) :
    Except Exception Registered → Prop
  | committed (user : User) (email : user.email = data.email) (role : user.role = data.role)
      (profiled : Profiled user data.companyName ((Write.insert .users user).apply before)
        data.role after) :
      Completes data before after (.ok {
        userId := user.id
        email := user.email
        role := user.role
        message := "Registration successful" })
  | refused (error : ErrorClass) (message : String) (expected : error ∈ expectedErrors)
      (unchanged : after = before) :
      Completes data before after (.error (.app error message))

section rows

variable {security : Security} {data : Registration} {inputs : Inputs} {database : Database}

/-- The names that PostgreSQL can store. -/
def NamedPerson (data : Registration) : Prop :=
  isText data.firstName = true ∧ isText data.lastName = true

/-- The constraints of `users` accept the row of an accepted request if its names are texts. -/
theorem registeredUser_admissible_iff (accepted : data.Accepted)
    (hashed : ∀ password salt, (security.hashpw password salt).length ≤ 255)
    {universityId : Option Uuid}
    (linked : universityId.isSome = true ↔ data.role = .UNIVERSITY_ADMIN) :
    @Admissible .users (registeredUser security data universityId inputs) ↔ NamedPerson data := by
  rw [Admissible, violation?_eq_none]
  obtain ⟨format, storable, lowered, short⟩ := accepted.email
  have emailFits : data.email.length ≤ 255 := by omega
  have first := accepted.firstName
  have last := accepted.lastName
  have hash := hashed data.password (inputs.tokenUrlsafe 0)
  have noUniversity : data.role ≠ .UNIVERSITY_ADMIN → universityId = none := by
    intro other
    cases universityId with
    | none => rfl
    | some id => exact absurd (linked.mp rfl) other
  simp only [constraints, User.constraints, List.forall_mem_cons]
  by_cases isAdministrator : data.role = .UNIVERSITY_ADMIN
  · have isLinked := linked.mpr isAdministrator
    simp [registeredUser, NamedPerson, fits, emailFits, hash, isSmallInt, format, storable,
      ← lowered, first, last, isAdministrator, isLinked]
  · have notLinked := noUniversity isAdministrator
    simp [registeredUser, NamedPerson, fits, emailFits, hash, isSmallInt, format, storable,
      ← lowered, first, last, isAdministrator, notLinked]

/-- Nobody else has the user's id or email. -/
theorem registeredUser_apart {universityId : Option Uuid}
    (fresh : Unused database (inputs.uuid4 1))
    (absent : (database .users).find? (fun user => user.email = data.email) = none)
    {other : User} (member : other ∈ database .users) :
    @Apart .users (registeredUser security data universityId inputs) other := by
  intro key inNew inOther
  rcases List.mem_cons.mp inNew with isId | isEmail
  · exact fresh .users other member key inOther (congrArg UniqueKey.value isId)
  · have sameEmail := List.find?_eq_none.mp absent other member
    rcases List.mem_cons.mp inOther with isId | isOther
    · rw [List.mem_singleton.mp isEmail] at isId
      exact absurd (congrArg UniqueKey.constraint isId) (by simp)
    · rw [List.mem_singleton.mp isEmail] at isOther
      have same := congrArg UniqueKey.value (List.mem_singleton.mp isOther)
      exact sameEmail (by simpa [registeredUser, eq_comm] using same)

/-- A profile whose id and user are new is free. -/
theorem profile_apart {table : Table} {profile other : Row table}
    (keys : uniqueKeys profile =
      [⟨"id", .uuid (inputs.uuid4 3)⟩, ⟨"user_id", .uuid (inputs.uuid4 1)⟩])
    (fresh : ∀ read, Unused database (inputs.uuid4 read)) (member : other ∈ database table) :
    Apart profile other := by
  intro key inNew inOther
  rw [keys] at inNew
  rcases List.mem_cons.mp inNew with isId | isUser
  · exact fresh 3 table other member key inOther (congrArg UniqueKey.value isId)
  · exact fresh 1 table other member key inOther
      (congrArg UniqueKey.value (List.mem_singleton.mp isUser))

/-- The row a registration inserts into `employers`. -/
def registeredEmployer (data : Registration) (inputs : Inputs) : Employer where
  id := inputs.uuid4 3
  userId := inputs.uuid4 1
  companyName := data.companyName
  companyWebsite := none
  industry := none
  companySize := none
  country := none
  city := none
  jobTitle := none
  department := none

/-- The name an employer's profile needs. -/
def NamedCompany (data : Registration) : Prop :=
  ∃ name, data.companyName = some name ∧ 1 ≤ name.length ∧ name.length ≤ 300 ∧
    isText name = true

/-- The profile of an employer fits its columns exactly when the company is named. -/
theorem registeredEmployer_admissible_iff (accepted : data.Accepted) :
    @Admissible .employers (registeredEmployer data inputs) ↔ NamedCompany data := by
  rw [Admissible, violation?_eq_none]
  simp only [constraints, Employer.constraints, List.forall_mem_cons]
  cases named : data.companyName with
  | none => simp [registeredEmployer, NamedCompany, named]
  | some name =>
      have notBlank := accepted.companyName name named
      have nonempty : isNotBlank name = true → 1 ≤ name.length := by
        intro some
        rcases Nat.eq_zero_or_pos name.length with empty | positive
        · rw [String.length_eq_zero_iff.mp empty] at some
          exact absurd some (by decide)
        · exact positive
      simp [registeredEmployer, Employer.texts, NamedCompany, named, fits]
      constructor
      · rintro ⟨short, storable, some⟩
        exact ⟨nonempty some, short, storable⟩
      · rintro ⟨long, short, storable⟩
        exact ⟨short, storable, notBlank long⟩

end rows

section block

variable {security : Security} {data : Registration} {direct : Direct}

/-- An error of the application that a registration may raise. -/
def Expected (error : Exception) : Prop :=
  ∃ errorClass message, errorClass ∈ expectedErrors ∧ error = .app errorClass message

/-- An administrator's university is found and verified. -/
def Admitted (data : Registration) (database : Database) : Prop :=
  data.role = .UNIVERSITY_ADMIN → ∃ university ∈ database .universities,
    some university.shortCode = data.universityCode ∧ university.isVerified = true

/-- What becomes of an administrator's university. -/
inductive UniversityCase (data : Registration) (direct : Direct) : Prop
  | refused (error : Exception) (expected : Expected error) (isAdmin : data.role = .UNIVERSITY_ADMIN)
      (readable : data.universityCode.all isText = true)
      (unadmitted : ¬ Admitted data direct.working)
      (ran : (registeringUniversity data).run directHandler direct = (.error error, direct))
  | unreadable (isAdmin : data.role = .UNIVERSITY_ADMIN)
      (unreadable : data.universityCode.all isText = false)
      (ran : (registeringUniversity data).run directHandler direct = (.error .DBAPIError, direct))
  | found (universityId : Option Uuid) (admitted : Admitted data direct.working)
      (readable : data.role = .UNIVERSITY_ADMIN → data.universityCode.all isText = true)
      (linked : universityId.isSome = true ↔ data.role = .UNIVERSITY_ADMIN)
      (verified : ∀ id, universityId = some id → ∃ university ∈ direct.working .universities,
        university.isVerified = true ∧ university.id = id)
      (ran : (registeringUniversity data).run directHandler direct = (.ok universityId, direct))

/-- A refused row is not among the errors that a registration may raise. -/
theorem not_expected_violation (table constraint : String) :
    ¬ Expected (.CheckViolation table constraint) := by
  rintro ⟨errorClass, message, -, same⟩
  cases same

/-- Two universities do not have the same code. -/
theorem University.eq_of_shortCode {database : Database} (valid : database.Valid)
    {left right : University} (leftMember : left ∈ database .universities)
    (rightMember : right ∈ database .universities) (sameCode : left.shortCode = right.shortCode) :
    left = right := by
  by_contra different
  have apart := @Database.Valid.apart_of_ne _ valid .universities _ _ leftMember rightMember
    different
  exact apart ⟨"short_code", .text left.shortCode⟩ (by simp [uniqueKeys])
    (by simp [uniqueKeys, sameCode])

/-- The university is that of an administrator, or the registration is refused. -/
theorem registeringUniversity_ends (opened : direct.Open) (valid : direct.working.Valid) :
    UniversityCase data direct := by
  by_cases isAdministrator : data.role = .UNIVERSITY_ADMIN
  · cases readable : data.universityCode.all isText with
    | false =>
        refine .unreadable isAdministrator readable ?_
        simp [registeringUniversity, isAdministrator, Program.run_bind,
          UniversityRepository.getByShortCode, readable]
    | true =>
        have looked := BaseRepository.run_findOne opened .universities
          fun university => some university.shortCode = data.universityCode
        cases found : (direct.working .universities).find? fun university =>
            some university.shortCode = data.universityCode with
        | none =>
            refine .refused _ ⟨.UniversityNotFoundError, _, by decide, rfl⟩ isAdministrator
              readable (fun admitted => ?_) (by
                rw [found] at looked
                simp only [registeringUniversity, isAdministrator, if_true, Program.run_bind,
                  UniversityRepository.getByShortCode, readable, looked]
                rfl)
            obtain ⟨university, member, same, -⟩ := admitted isAdministrator
            exact List.find?_eq_none.mp found university member (by simpa using same)
        | some university =>
            have isFound := List.mem_of_find?_eq_some found
            have hasCode : some university.shortCode = data.universityCode := by
              simpa using List.find?_some found
            cases verified : university.isVerified with
            | false =>
                refine .refused ErrorClass.UnverifiedUniversityError.default
                  ⟨.UnverifiedUniversityError, _, by decide, rfl⟩ isAdministrator readable
                  (fun admitted => ?_) (by
                    simp [registeringUniversity, isAdministrator, Program.run_bind,
                      UniversityRepository.getByShortCode, readable, looked, found, verified])
                obtain ⟨other, member, sameCode, otherVerified⟩ := admitted isAdministrator
                have same := University.eq_of_shortCode valid isFound member
                  (Option.some.inj (hasCode.trans sameCode.symm))
                rw [same, otherVerified] at verified
                cases verified
            | true =>
                refine .found (some university.id)
                  (fun _ => ⟨university, isFound, hasCode, verified⟩) (fun _ => readable)
                  (by simp [isAdministrator]) ?_ (by
                    simp [registeringUniversity, isAdministrator, Program.run_bind,
                      UniversityRepository.getByShortCode, readable, looked, found, verified])
                intro id same
                exact ⟨university, isFound, verified, Option.some.inj same⟩
  · exact .found none (fun isAdmin => absurd isAdmin isAdministrator)
      (fun isAdmin => absurd isAdmin isAdministrator) (by simp [isAdministrator]) (by simp)
      (by simp [registeringUniversity, isAdministrator])

/-- The requests that the block completes: the email is taken, or the code can be looked up, the
names of a user whose university is in order can be stored, and an employer's company is named. -/
def Completable (data : Registration) (database : Database) : Prop :=
  (∃ user ∈ database .users, user.email = data.email) ∨
    ((data.role = .UNIVERSITY_ADMIN → data.universityCode.all isText = true) ∧
      (Admitted data database → NamedPerson data) ∧
      (data.role = .EMPLOYER → NamedCompany data))

/-- What the block of a registration ends in. -/
structure Ends (data : Registration) (before : Database)
    (outcome : Except Exception User × Direct) : Prop where
  completes : Completable data before →
    (∃ user, outcome.1 = .ok user ∧ user.email = data.email ∧ user.role = data.role ∧
      Profiled user data.companyName ((Write.insert .users user).apply before) data.role
        outcome.2.working) ∨
    ∃ error, outcome.1 = .error error ∧ Expected error
  fails : ¬ Completable data before → ∃ error, outcome.1 = .error error ∧ ¬ Expected error

/-- Up to the user's row. -/
theorem run_registerBlock (opened : direct.Open) (unread : direct.reads = 0)
    (absent : (direct.working .users).find? (fun user => user.email = data.email) = none)
    {universityId : Option Uuid}
    (university : (registeringUniversity data).run directHandler direct.read =
      (.ok universityId, direct.read)) :
    (registerBlock security data).run directHandler direct =
      (BaseRepository.create .users (registeredUser security data universityId direct.inputs) >>=
        fun user => createProfile data user >>= fun _ => pure user).run directHandler
          direct.read.read.read := by
  have looked := BaseRepository.run_findOne opened .users fun user => user.email = data.email
  rw [absent] at looked
  have drawsSalt : (security.hashPassword data.password).run directHandler direct =
      (.ok (security.hashpw data.password (direct.inputs.tokenUrlsafe 0)), direct.read) := by
    simp [Security.hashPassword, Program.run_map, Except.map, directHandler, unread]
  have drawsId : directHandler _ .uuid4 direct.read = (direct.inputs.uuid4 1, direct.read.read) := by
    simp [directHandler, Direct.read, unread]
  have readsClock : directHandler _ .serverNow direct.read.read =
      (direct.inputs.databaseClock 2, direct.read.read.read) := by
    simp [directHandler, Direct.read, unread]
  simp only [registerBlock, Program.run_bind, UserRepository.getByEmail, looked, drawsSalt,
    university, Program.run_perform, drawsId, readsClock, UserRepository.create]
  rfl

/-- The row of a user whose names can be stored is inserted, and the others are refused. -/
theorem run_createUser (opened : direct.Open) (atUser : direct.reads = 3)
    (accepted : data.Accepted)
    (hashed : ∀ password salt, (security.hashpw password salt).length ≤ 255)
    (fresh : Unused direct.working (direct.inputs.uuid4 1))
    (absent : (direct.working .users).find? (fun user => user.email = data.email) = none)
    {universityId : Option Uuid}
    (linked : universityId.isSome = true ↔ data.role = .UNIVERSITY_ADMIN) :
    let user := registeredUser security data universityId direct.inputs
    let written := direct.write (.insert .users user)
    (NamedPerson data → written.Open ∧
      (BaseRepository.create .users user).run directHandler direct = (.ok user, written)) ∧
    (¬ NamedPerson data → ∃ constraint, ((BaseRepository.create .users user).run directHandler
      direct).1 = .error (.CheckViolation "users" constraint)) := by
  intro user written
  have creates := @BaseRepository.run_create _ opened .users user
  have admissibleIff := @registeredUser_admissible_iff security data direct.inputs accepted hashed
    universityId linked
  rw [atUser] at creates
  constructor
  · intro named
    have inserted : checkInsert (direct.inputs.today 3) direct.working .users user = .ok () :=
      checkInsert_of_free (admissibleIff.mpr named) fun other member =>
        registeredUser_apart fresh absent member
    rw [inserted] at creates
    exact ⟨opened.write_insert inserted, creates⟩
  · intro unnamed
    cases violated : violation? (constraints .users) user with
    | none => exact absurd (admissibleIff.mp violated) unnamed
    | some name =>
        have refused : checkInsert (direct.inputs.today 3) direct.working .users user =
            .error (.CheckViolation "users" name) := by
          have violatedNow : violation? (insertConstraints (direct.inputs.today 3) .users) user =
            some name := violated
          simp only [checkInsert, violatedNow]
          rfl
        rw [refused] at creates
        rw [creates]
        exact ⟨name, rfl⟩

/-- The profile completes the registration, unless an employer's company is not named. -/
theorem createProfile_ends {before : Database} {universityId : Option Uuid}
    (opened : direct.Open) (atProfile : direct.reads = 3) (accepted : data.Accepted)
    (sameStudents : direct.working .students = before .students)
    (sameEmployers : direct.working .employers = before .employers)
    (fresh : ∀ read, Unused before (direct.inputs.uuid4 read))
    (linked : data.role = .UNIVERSITY_ADMIN → ∃ university ∈ direct.working .universities,
      university.isVerified = true ∧ universityId = some university.id) :
    let user := registeredUser security data universityId direct.inputs
    let outcome := (createProfile data user >>= fun _ => pure user).run directHandler direct
    ((data.role = .EMPLOYER → NamedCompany data) → outcome.1 = .ok user ∧
      Profiled user data.companyName direct.working data.role outcome.2.working) ∧
    (¬ (data.role = .EMPLOYER → NamedCompany data) →
      ∃ table constraint, outcome.1 = .error (.CheckViolation table constraint)) := by
  intro user
  have draws : directHandler _ .uuid4 direct = (direct.inputs.uuid4 3, direct.read) := by
    simp [directHandler, Direct.read, atProfile]
  have sameInputs : direct.read.inputs = direct.inputs := rfl
  have sameWorking : direct.read.working = direct.working := rfl
  cases role : data.role with
  | SUPER_ADMIN => exact absurd role accepted.role
  | UNIVERSITY_ADMIN =>
      obtain ⟨university, member, verified, isLinked⟩ := linked role
      simp only [createProfile, role]
      refine ⟨fun _ => ⟨rfl, .administrator university member verified isLinked⟩, ?_⟩
      intro unnamed
      exact absurd (fun isEmployer => by cases isEmployer) unnamed
  | STUDENT =>
      let student : Student := { id := direct.inputs.uuid4 3, userId := user.id }
      have inserted : checkInsert (direct.inputs.today direct.read.reads) direct.working .students
          student = .ok () := by
        refine checkInsert_of_free rfl fun other member => ?_
        rw [sameStudents] at member
        exact profile_apart rfl fresh member
      have creates := @BaseRepository.run_create _ opened.read .students student
      rw [sameInputs, sameWorking, inserted] at creates
      simp only [createProfile, role, Program.run_bind, Program.run_perform, draws,
        StudentRepository.create]
      rw [creates]
      refine ⟨fun _ => ⟨rfl, .student student rfl⟩, ?_⟩
      intro unnamed
      exact absurd (fun isEmployer => by cases isEmployer) unnamed
  | EMPLOYER =>
      let employer := registeredEmployer data direct.inputs
      have free : ∀ other ∈ direct.working .employers, @Apart .employers employer other := by
        intro other member
        rw [sameEmployers] at member
        exact profile_apart rfl fresh member
      have creates := @BaseRepository.run_create _ opened.read .employers employer
      rw [sameInputs, sameWorking] at creates
      have creating : (createProfile data user).run directHandler direct =
          (BaseRepository.create .employers employer >>= fun _ => pure ()).run directHandler
            direct.read := by
        simp only [createProfile, role, Program.run_bind, Program.run_perform, draws,
          EmployerRepository.create]
        rfl
      rw [Program.run_bind, creating, Program.run_bind]
      constructor
      · intro named
        have inserted : checkInsert (direct.inputs.today direct.read.reads) direct.working
            .employers employer = .ok () :=
          checkInsert_of_free ((registeredEmployer_admissible_iff accepted).mpr (named rfl)) free
        rw [inserted] at creates
        rw [creates]
        exact ⟨rfl, .employer employer rfl rfl⟩
      · intro unnamed
        cases violated : violation? (constraints .employers) employer with
        | none =>
            have named := (registeredEmployer_admissible_iff accepted).mp violated
            exact absurd (fun _ => named) unnamed
        | some name =>
            have refused : checkInsert (direct.inputs.today direct.read.reads) direct.working
                .employers employer = .error (.CheckViolation "employers" name) := by
              have violatedNow : violation? (insertConstraints (direct.inputs.today
                  direct.read.reads) .employers) employer = some name := violated
              simp only [checkInsert, violatedNow]
              rfl
            rw [refused] at creates
            rw [creates]
            exact ⟨_, _, rfl⟩

/-- How the block of an accepted registration ends. -/
theorem registerBlock_ends (store : ValidStore) (inputs : Inputs) (accepted : data.Accepted)
    (hashed : ∀ password salt, (security.hashpw password salt).length ≤ 255)
    (fresh : ∀ read, Unused store.database (inputs.uuid4 read)) :
    Ends data store.database
      ((registerBlock security data).run directHandler (.begun store.toStore inputs)) := by
  have opened := Direct.open_begun store inputs
  have isWorking : (Direct.begun store.toStore inputs).working = store.database := rfl
  have looked := BaseRepository.run_findOne opened .users fun user => user.email = data.email
  cases found : (store.database .users).find? (fun user => user.email = data.email) with
  | some existing =>
      have isTaken : ∃ user ∈ store.database .users, user.email = data.email :=
        ⟨existing, List.mem_of_find?_eq_some found, by simpa using List.find?_some found⟩
      rw [isWorking, found] at looked
      have refused : ((registerBlock security data).run directHandler
          (.begun store.toStore inputs)).1 = .error ErrorClass.DuplicateEmailError.default := by
        simp only [registerBlock, Program.run_bind, UserRepository.getByEmail, looked]
        rfl
      refine ⟨fun _ => .inr ⟨_, refused, .DuplicateEmailError, _, by decide, rfl⟩, ?_⟩
      intro incomplete
      exact absurd (.inl isTaken) incomplete
  | none =>
      have notTaken : ¬ ∃ user ∈ store.database .users, user.email = data.email := by
        rintro ⟨user, member, same⟩
        exact List.find?_eq_none.mp found user member (by simpa using same)
      have readable : Completable data store.database ↔
          (data.role = .UNIVERSITY_ADMIN → data.universityCode.all isText = true) ∧
            (Admitted data store.database → NamedPerson data) ∧
              (data.role = .EMPLOYER → NamedCompany data) := by
        simp [Completable, notTaken]
      have failsWith : ∀ error, (registeringUniversity data).run directHandler
          (Direct.begun store.toStore inputs).read =
            (.error error, (Direct.begun store.toStore inputs).read) →
          ((registerBlock security data).run directHandler
            (.begun store.toStore inputs)).1 = .error error := by
        intro error refused
        rw [isWorking, found] at looked
        have drawsSalt : (security.hashPassword data.password).run directHandler
            (.begun store.toStore inputs) =
              (.ok (security.hashpw data.password (inputs.tokenUrlsafe 0)),
                (Direct.begun store.toStore inputs).read) := rfl
        simp only [registerBlock, Program.run_bind, UserRepository.getByEmail, looked, drawsSalt,
          refused]
      cases @registeringUniversity_ends data _ opened.read store.valid with
      | refused error expected isAdmin isReadable unadmitted refused =>
          refine ⟨fun _ => .inr ⟨error, failsWith error refused, expected⟩, fun incomplete => ?_⟩
          refine absurd (readable.mpr ⟨fun _ => isReadable, fun admitted => absurd admitted unadmitted,
            fun isEmployer => ?_⟩) incomplete
          rw [isAdmin] at isEmployer
          cases isEmployer
      | unreadable isAdmin unreadable refused =>
          refine ⟨fun completable => ?_, fun _ => ⟨_, failsWith _ refused, ?_⟩⟩
          · rw [(readable.mp completable).1 isAdmin] at unreadable
            cases unreadable
          · rintro ⟨errorClass, message, -, same⟩
            cases same
      | found universityId admitted isReadable linked isVerified university =>
          have isLinked : data.role = .UNIVERSITY_ADMIN →
              ∃ university ∈ store.database .universities,
                university.isVerified = true ∧ universityId = some university.id := by
            intro isAdministrator
            obtain ⟨id, isId⟩ := Option.isSome_iff_exists.mp (linked.mpr isAdministrator)
            obtain ⟨university, member, verified, sameId⟩ := isVerified id isId
            exact ⟨university, member, verified, by rw [isId, sameId]⟩
          have creates := run_createUser opened.read.read.read rfl accepted hashed (fresh 1) found
            linked
          rw [run_registerBlock opened rfl found university, Program.run_bind]
          by_cases named : NamedPerson data
          · obtain ⟨isOpen, ran⟩ := creates.1 named
            have profile := @createProfile_ends security data _ store.database universityId isOpen
              rfl accepted rfl rfl fresh isLinked
            have stored : (BaseRepository.create .users (registeredUser security data universityId
                (Direct.begun store.toStore inputs).inputs)).run directHandler
                (Direct.begun store.toStore inputs).read.read.read = _ := ran
            rw [stored]
            refine ⟨fun completable => .inl ?_, fun incomplete => ?_⟩
            · obtain ⟨isUser, profiled⟩ := profile.1 (readable.mp completable).2.2
              exact ⟨_, isUser, rfl, rfl, profiled⟩
            · have unnamed : ¬ (data.role = .EMPLOYER → NamedCompany data) := fun company =>
                incomplete (readable.mpr ⟨isReadable, fun _ => named, company⟩)
              obtain ⟨table, constraint, violates⟩ := profile.2 unnamed
              exact ⟨_, violates, not_expected_violation table constraint⟩
          · obtain ⟨constraint, violates⟩ := creates.2 named
            refine ⟨fun completable => absurd ((readable.mp completable).2.1 admitted) named,
              fun _ => ⟨_, ?_, not_expected_violation "users" constraint⟩⟩
            rcases ran : (BaseRepository.create .users (registeredUser security data universityId
              (Direct.begun store.toStore inputs).inputs)).run directHandler
              (Direct.begun store.toStore inputs).read.read.read with ⟨result, left⟩
            rw [show result = _ from (congrArg Prod.fst ran).symm.trans violates]

end block

namespace Sample

open AcademicCredential.Sample

/-- An email-validator that accepts what PostgreSQL takes for an address. -/
def emailStr : EmailStr where
  validate text :=
    if isEmailText text ∧ isText text ∧ text.utf8ByteSize ≤ 254 then some text else none
  valid text address validated := by
    split at validated
    · obtain rfl := Option.some.inj validated
      assumption
    · cases validated

/-- The sample settings, with one bcrypt hash. -/
def bcrypt : Security := { security with hashpw := fun _ _ => passwordHash }

/-- The sample university and its administrator. -/
def institution : Database
  | .universities => [university]
  | .users => [administrator]
  | _ => []

/-- A store with the university and its administrator. -/
def institutionStore : ValidStore where
  database := institution
  chain := .deployed deployer
  files := []
  valid := by decide +kernel

/-- The identifier drawn is not in use. -/
theorem institution_unused (read : Nat) :
    Unused institution ((inputs answered).uuid4 read) :=
  @unused_of_below institution 100 _ (by decide +kernel) (by simp [inputs])

/-- The body of an employer's registration. -/
def employerBody (companyName : Option String) : RegisterBody where
  email := "Hiring@Company.example"
  password := "Passw0rd"
  firstName := " Hiring "
  lastName := "Manager"
  role := .EMPLOYER
  universityCode := none
  companyName

/-- What the schema passes on. -/
def employer (companyName : Option String) : Registration where
  email := "hiring@company.example"
  password := "Passw0rd"
  firstName := "Hiring"
  lastName := "Manager"
  role := .EMPLOYER
  universityCode := none
  companyName

end Sample

end AcademicCredential.AuthService
