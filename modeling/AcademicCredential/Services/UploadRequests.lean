import AcademicCredential.Services.RequestSessions

/-!
# Requests to upload

What the upload endpoint as a whole makes of a form. `get_current_user` opens a transaction on the
session of the request, on which `upload_and_hash_certificate` cannot begin its own: no certificate
is committed, and the student is never looked for. So what is committed meets
`CertificateIssueRequest`, and no form that it accepts is refused as that of an unknown student.
-/

namespace AcademicCredential

open AcademicCredential.Lib
open AcademicCredential.CertificateRouter

/-- A run that leaves the store as it is and does not say that a user is unknown. -/
structure Calm {Value : Type} (action : Action Value) (state : Store × Session) : Prop where
  keeps : (action.run sessionHandler state).2.1 = state.1
  known : ∀ message, (action.run sessionHandler state).1 ≠
    .error (.app .UserNotFoundError message)

namespace Calm

variable {Value Result : Type} {state : Store × Session}

/-- An error is raised without a look at the store. -/
theorem raise {error : Exception} (isOther : ∀ message, error ≠ .app .UserNotFoundError message) :
    Calm (Program.raise error : Action Value) state :=
  ⟨rfl, fun message same => isOther message (Except.error.inj same)⟩

/-- A value is returned without a look at the store. -/
theorem value (value : Value) : Calm (pure value : Action Value) state :=
  ⟨rfl, fun message same => by cases same⟩

/-- Calm steps one after the other. -/
theorem bind {action : Action Value} {next : Value → Action Result} (first : Calm action state)
    (rest : ∀ value after, action.run sessionHandler state = (.ok value, after) →
      Calm (next value) after) : Calm (action >>= next) state := by
  have ran : ∃ returned after, action.run sessionHandler state = (returned, after) :=
    ⟨_, _, rfl⟩
  obtain ⟨returned, after, ran⟩ := ran
  have kept : after.1 = state.1 := by
    have kept := first.keeps
    rwa [ran] at kept
  cases returned with
  | error error =>
      have known := first.known
      rw [ran] at known
      constructor
      · rw [Program.run_bind, ran]
        exact kept
      · intro message
        rw [Program.run_bind, ran]
        exact fun same => known message (by rw [Except.error.inj same])
  | ok value =>
      obtain ⟨laterKept, laterKnown⟩ := rest value after ran
      constructor
      · rw [Program.run_bind, ran]
        exact laterKept.trans kept
      · intro message
        rw [Program.run_bind, ran]
        exact laterKnown message

end Calm

/-- Who the user of a token is is found without a change of the store. -/
theorem calm_getCurrentUser (verifier : TokenVerifier) (token : String)
    (state : Store × Session) : Calm (getCurrentUser verifier token) state := by
  refine Calm.bind ?_ fun userId after _ => Calm.bind ⟨rfl, fun message same => ?_⟩
    fun found later _ => ?_
  · cases isId : verifier.userId token with
    | ok userId => exact .value userId
    | error error =>
        refine .raise fun message same => ?_
        rcases TokenVerifier.userId_error isId with expired | invalid
        · exact absurd (Exception.app.inj (same.symm.trans expired)).1 (by decide)
        · exact absurd (Exception.app.inj (same.symm.trans invalid)).1 (by decide)
  · cases same
  · cases found with
    | none => exact .raise fun message same => absurd (Exception.app.inj same).1 (by decide)
    | some user =>
        dsimp only
        split
        · exact .raise fun message same => absurd (Exception.app.inj same).1 (by decide)
        · exact .value user

/-- So is whether the user has a role. -/
theorem calm_requireRole (verifier : TokenVerifier) (roles : List UserRole) (token : String)
    (state : Store × Session) : Calm (requireRole verifier roles token) state := by
  refine (calm_getCurrentUser verifier token state).bind fun user after _ => ?_
  split
  · exact .raise fun message same => absurd (Exception.app.inj same).1 (by decide)
  · exact .value user

namespace Endpoint

/-- A request to upload changes nothing and is not refused as that of an unknown student. -/
theorem calm_uploadCertificate (context : RequestContext) (form : UploadForm) (store : Store)
    (inputs : Inputs) :
    Calm ((uploadCertificate form).handle context) (store, .fresh inputs) := by
  refine (calm_requireRole _ _ _ _).bind fun user after ran => ?_
  refine Calm.bind (.value ()) fun _ later stayed => ?_
  obtain ⟨names, active, admits⟩ := currentUser_returns context (uploadCertificate form) ran
  obtain ⟨session, opened, found⟩ :=
    run_currentUser_ok context (uploadCertificate form) store inputs names active admits
  obtain ⟨-, rfl⟩ := Prod.mk.inj (ran.symm.trans found)
  obtain ⟨-, rfl⟩ := Prod.mk.inj stayed
  rcases receive_uploadRouter_cases context form user with ⟨-, upload, -, sent⟩ |
    ⟨-, error, isOther, sent⟩
  · have stops : StopsAtBegin ((uploadCertificate form).body context user) := by
      simp only [body, sent]
      exact (stopsAtBegin_transaction _).bind _
    obtain ⟨raises, keeps⟩ := stops.raises (store, session) opened
    exact ⟨keeps, fun message same => by cases raises.symm.trans same⟩
  · simp only [body, sent]
    exact .raise isOther

end Endpoint
end AcademicCredential
