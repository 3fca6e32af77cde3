import AcademicCredential.Database.Companions
import AcademicCredential.Services.Ownership
import AcademicCredential.Services.StatusMachine

/-!
# Profiles

`register_user` inserts a user and, for a student or an employer, the row of the profile. The
services rely on it: an upload looks up the profile of its student, a dashboard that of its
employer.
`profiles_paired`: in every run of registrations and other calls, whatever the order of the
statements, every committed student has exactly one student profile and every employer exactly one
employer profile, and there are no other profiles.
-/

namespace AcademicCredential

open AcademicCredential.Lib

/-- Students and their profiles. -/
def studentProfiles : Pairing where
  owners := .users
  companions := .students
  needs user := decide (User.role user = .STUDENT)
  serves student := some (Student.userId student)
  needs_assign _ assignment := by cases assignment <;> rfl
  serves_assign _ assignment := assignment.elim

/-- Employers and their profiles. -/
def employerProfiles : Pairing where
  owners := .users
  companions := .employers
  needs user := decide (User.role user = .EMPLOYER)
  serves employer := some (Employer.userId employer)
  needs_assign _ assignment := by cases assignment <;> rfl
  serves_assign _ assignment := by cases assignment <;> rfl

/-- Every student has one student profile, every employer one employer profile, and all profiles
are theirs. -/
structure ProfilesPaired (database : Database) : Prop where
  students : ∀ user ∈ database .users, (database .students).countP
    (fun student => Student.userId student = User.id user) =
      if User.role user = .STUDENT then 1 else 0
  employers : ∀ user ∈ database .users, (database .employers).countP
    (fun employer => Employer.userId employer = User.id user) =
      if User.role user = .EMPLOYER then 1 else 0
  ofStudent : ∀ student ∈ database .students, ∃ user ∈ database .users,
    User.id user = Student.userId student ∧ user.role = .STUDENT
  ofEmployer : ∀ employer ∈ database .employers, ∃ user ∈ database .users,
    User.id user = Employer.userId employer ∧ user.role = .EMPLOYER

/-- Both pairings give every account its profile. -/
theorem ProfilesPaired.of_paired {database : Database} (keyed : database.Keyed)
    (students : studentProfiles.Paired database) (employers : employerProfiles.Paired database) :
    ProfilesPaired database := by
  constructor
  · intro user member
    have count := students.countP_companions keyed member
    simpa [studentProfiles, rowId] using count
  · intro user member
    have count := employers.countP_companions keyed member
    simpa [employerProfiles, rowId] using count
  · intro student member
    obtain ⟨user, isUser, sameId, isStudent⟩ := students.exists_owner member rfl
    exact ⟨user, isUser, sameId, of_decide_eq_true isStudent⟩
  · intro employer member
    obtain ⟨user, isUser, sameId, isEmployer⟩ := employers.exists_owner member rfl
    exact ⟨user, isUser, sameId, of_decide_eq_true isEmployer⟩

/-- Any other call of the backend: it inserts no users and no profiles. -/
structure AccountlessCall where
  action : Action Unit
  accountless : action.Every fun _ op => op.insertsInto ≠ some .users ∧
    op.insertsInto ≠ some .students ∧ op.insertsInto ≠ some .employers

/-- A registration, or a call that opens no account. -/
inductive AccountCall (Other : Type) where
  | register (data : AuthService.Registration)
  | elsewhere (call : Other)

/-- What a call runs. -/
def AccountCall.action {Other : Type} (security : Security) (others : Other → AccountlessCall) :
    AccountCall Other → Action (Option AuthService.Registered)
  | .register data => some <$> AuthService.registerUser security data
  | .elsewhere call => (fun _ => none) <$> (others call).action

section protocol

variable {pairing : Pairing}

namespace AuthService

variable {security : Security} {data : Registration}

/-- A registration follows the protocol when its second part does, from the phase in which the
insertion of the user leaves it. -/
theorem closed_registerBlock {opens : Bool}
    (needed : ∀ user : User, user.role = data.role →
      @Pairing.need? pairing .users user = if opens then some user.id else none)
    (unserved : ∀ user : User, @Pairing.serve? pairing .users user = none)
    (profile : ∀ user : User, (createProfile data user).Obeys pairing.protocol Pairing.Closed
      (if opens then .opened user.id else .settled)) :
    (registerBlock security data).Obeys pairing.protocol Pairing.Closed .settled := by
  have reading := @Pairing.unpaired_of_isReading pairing
  have after : ∀ user : User,
      Program.Obeys pairing.protocol Pairing.Closed (createProfile data user >>= fun _ => pure user)
        (if opens then .opened user.id else .settled) := by
    intro user
    rw [Program.obeys_bind]
    refine (profile user).mono fun later result closed => ?_
    cases result with
    | error error => exact Pairing.closed_error later error
    | ok value => cases later <;> exact closed
  refine Pairing.closed_bind (BaseRepository.every_findOne reading _ _) fun found => ?_
  cases found with
  | some user => trivial
  | none =>
      refine Pairing.closed_bind (every_reading reading rfl) fun salt => ?_
      refine Pairing.closed_bind (every_registeringUniversity reading data) fun universityId => ?_
      refine Pairing.closed_bind (every_reading reading rfl) fun id => ?_
      refine Pairing.closed_bind (every_reading reading rfl) fun createdAt => ?_
      rw [Program.obeys_bind]
      cases opens with
      | false =>
          refine Pairing.obeys_of_unpaired (BaseRepository.every_create reading
            ⟨needed _ rfl, unserved _⟩) fun result => ?_
          cases result with
          | error error => exact @Pairing.closed_error User .settled error
          | ok user => exact after user
      | true =>
          refine Pairing.obeys_create_owner (needed _ rfl) (unserved _)
            (@Pairing.closed_error User .settled)
            (fun user sameId => ?_) fun user => Pairing.obeys_impossible _ Pairing.closed_impossible
          have ofUser := after user
          rw [if_pos rfl, show user.id = id from sameId] at ofUser
          exact ofUser

/-- The profile of a student is the companion of the user. -/
theorem closed_createProfile_students (user : User) :
    (createProfile data user).Obeys studentProfiles.protocol Pairing.Closed
      (if decide (data.role = .STUDENT) then .opened user.id else .settled) := by
  unfold createProfile
  cases role : data.role with
  | STUDENT =>
      refine ⟨trivial, fun id => ?_⟩
      change Program.Obeys _ _ (StudentRepository.create _ >>= fun _ => pure ())
        (PairingPhase.opened user.id)
      rw [Program.obeys_bind]
      exact Pairing.obeys_create_companion rfl rfl (@Pairing.closed_error Unit (.opened user.id))
        fun _ => trivial
  | EMPLOYER =>
      refine ⟨trivial, fun id => ?_⟩
      change Program.Obeys _ _ (EmployerRepository.create _ >>= fun _ => pure ())
        PairingPhase.settled
      exact Pairing.closed_bind (BaseRepository.every_create Pairing.unpaired_of_isReading
        ⟨rfl, rfl⟩) fun _ => trivial
  | SUPER_ADMIN | UNIVERSITY_ADMIN => trivial

/-- The profile of a student or administrator owes no employer anything. -/
theorem closed_createProfile_employers (user : User) :
    (createProfile data user).Obeys employerProfiles.protocol Pairing.Closed
      (if decide (data.role = .EMPLOYER) then .opened user.id else .settled) := by
  unfold createProfile
  cases role : data.role with
  | STUDENT =>
      refine ⟨trivial, fun id => ?_⟩
      change Program.Obeys _ _ (StudentRepository.create _ >>= fun _ => pure ())
        PairingPhase.settled
      exact Pairing.closed_bind (BaseRepository.every_create Pairing.unpaired_of_isReading
        ⟨rfl, rfl⟩) fun _ => trivial
  | EMPLOYER =>
      refine ⟨trivial, fun id => ?_⟩
      change Program.Obeys _ _ (EmployerRepository.create _ >>= fun _ => pure ())
        (PairingPhase.opened user.id)
      rw [Program.obeys_bind]
      exact Pairing.obeys_create_companion rfl rfl (@Pairing.closed_error Unit (.opened user.id))
        fun _ => trivial
  | SUPER_ADMIN | UNIVERSITY_ADMIN => trivial

/-- A registration opens an account and pays its profile within the same transaction. -/
theorem obeys_registerUser {opens : Bool}
    (needed : ∀ user : User, user.role = data.role →
      @Pairing.need? pairing .users user = if opens then some user.id else none)
    (unserved : ∀ user : User, @Pairing.serve? pairing .users user = none)
    (profile : ∀ user : User, (createProfile data user).Obeys pairing.protocol Pairing.Closed
      (if opens then .opened user.id else .settled)) :
    (registerUser security data).Obeys pairing.protocol (fun _ _ => True) .settled := by
  refine Program.obeys_bind.mpr ?_
  refine Pairing.obeys_transaction_of_closed (closed_registerBlock needed unserved profile)
    fun phase result => ?_
  cases result <;> trivial

end AuthService

/-- A call follows the protocol of the students and that of the employers. -/
theorem AccountCall.obeys {Other : Type} {security : Security} {others : Other → AccountlessCall}
    (call : AccountCall Other) :
    (call.action security others).Obeys studentProfiles.protocol (fun _ _ => True) .settled ∧
      (call.action security others).Obeys employerProfiles.protocol (fun _ _ => True) .settled := by
  cases call with
  | register data =>
      constructor
      · refine Pairing.obeys_map (@AuthService.obeys_registerUser studentProfiles
          security data (decide (data.role = .STUDENT)) (fun user sameRole => ?_) (fun _ => rfl)
          AuthService.closed_createProfile_students)
        refine (@Pairing.need?_owner studentProfiles user).trans ?_
        rw [← sameRole]
        rfl
      · refine Pairing.obeys_map (@AuthService.obeys_registerUser employerProfiles
          security data (decide (data.role = .EMPLOYER)) (fun user sameRole => ?_) (fun _ => rfl)
          AuthService.closed_createProfile_employers)
        refine (@Pairing.need?_owner employerProfiles user).trans ?_
        rw [← sameRole]
        rfl
  | elsewhere call =>
      have every := (others call).accountless
      exact ⟨Pairing.obeys_map (Pairing.obeys_of_unpaired (every.mono fun _ _ accountless =>
          Pairing.unpaired_of_insertsInto accountless.1 accountless.2.1) fun _ => trivial),
        Pairing.obeys_map (Pairing.obeys_of_unpaired (every.mono fun _ _ accountless =>
          Pairing.unpaired_of_insertsInto accountless.1 accountless.2.2) fun _ => trivial)⟩

end protocol

/-- The registrations side by side, over the operations of a session. -/
def accountSystem {Other : Type} (security : Security) (others : Other → AccountlessCall) :
    System Op Exception (Option AuthService.Registered) (AccountCall Other) Inputs
      (List MinedTransaction) Store Session :=
  readCommitted (AccountCall.action security others)

/-- In every run of registrations and other calls, from the database as it is deployed, every
student has one student profile, every employer one employer profile, and nobody else has any. -/
theorem profiles_paired {Other : Type} (security : Security) (others : Other → AccountlessCall)
    (deployer : Contract.Address)
    (run : List (Turn (AccountCall Other) Inputs (List MinedTransaction))) :
    ProfilesPaired (stateAfter (accountSystem security others).apply ⟨initialStore deployer, []⟩
      run).shared.database := by
  have valid : (initialStore deployer).database.Valid := Database.Valid.empty
  have students : studentProfiles.Paired (initialStore deployer).database := List.Perm.nil
  have employers : employerProfiles.Paired (initialStore deployer).database := List.Perm.nil
  exact .of_paired (isolated_run _ valid run).committed.keyed
    (Pairing.paired_run (fun call => call.obeys.1) students run)
    (Pairing.paired_run (fun call => call.obeys.2) employers run)

end AcademicCredential
