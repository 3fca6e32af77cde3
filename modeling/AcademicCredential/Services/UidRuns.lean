import AcademicCredential.Services.UploadAtomicity

/-!
# The UIDs of upload after upload

Uploads run one at a time from a database without certificates, and a history says which
university issued in which year. The numbers in use for a university and a year are then
`1, …, count`, so the next one is `count + 1`; the table takes its UID as long as the short code and
the year fit the format and the number has five digits.
-/

namespace AcademicCredential.CertificateIssuanceService

open AcademicCredential.Lib
open CertificateRepository

/-- The store, with the university and the year of every upload that returned. -/
structure IssuingWorld where
  store : Store
  issued : List (Option Uuid × Int)

namespace IssuingWorld

/-- The number of certificates that a university has issued in a year. -/
def issuedBy (world : IssuingWorld) (university : University) (year : Int) : Nat :=
  world.issued.count (some university.id, year)

/-- One upload, on a session of its own. -/
def upload (runtime : Runtime) (world : IssuingWorld) (upload : Upload) : IssuingWorld where
  store := (upload.outcome runtime world.store).2.1
  issued :=
    if (upload.outcome runtime world.store).1.isOk then
      world.issued ++ [(upload.currentUser.universityId, upload.year)]
    else
      world.issued

end IssuingWorld

/-- What uploads one at a time lead to; `uuid4` draws new values. -/
inductive Issuing (runtime : Runtime) (start : ValidStore) : IssuingWorld → Prop
  | start : Issuing runtime start { store := start.toStore, issued := [] }
  | upload {world : IssuingWorld} (before : Issuing runtime start world) (upload : Upload)
      (fresh : ∀ read, Unused world.store.database (upload.inputs.uuid4 read)) :
      Issuing runtime start (world.upload runtime upload)

/-- The number that `get_next_uid_sequence` returns is the one after the certificates issued so
far, and its UID is new and in the format of the table. -/
def IssuingWorld.Mints (world : IssuingWorld) (university : University) (year : Int)
    (inputs : Inputs) : Prop :=
  let sequence := world.issuedBy university year + 1
  ((getNextUidSequence university.shortCode year).run sessionHandler
      (world.store, .fresh inputs)).1 = .ok sequence ∧
    isCertificateUidText (uidOf university.shortCode year sequence) = true ∧
    ∀ row ∈ world.store.database .certificates,
      row.certificateUid ≠ uidOf university.shortCode year sequence

/-- The numbers in use are those up to the number of certificates issued. -/
structure IssuingWorld.Numbered (world : IssuingWorld) : Prop where
  valid : world.store.database.Valid
  used : ∀ university ∈ world.store.database .universities, ∀ year,
    UidParts university.shortCode year → ∀ sequence,
      (∃ row ∈ world.store.database .certificates,
        row.certificateUid = uidOf university.shortCode year sequence) ↔
      1 ≤ sequence ∧ sequence ≤ world.issuedBy university year
  bounded : ∀ university ∈ world.store.database .universities, ∀ year,
    UidParts university.shortCode year → world.issuedBy university year ≤ 99999

section worlds

variable {world : IssuingWorld} {university : University} {year : Int}

/-- The next number is the one after the count. -/
theorem IssuingWorld.Numbered.next (numbered : world.Numbered)
    (stored : university ∈ world.store.database .universities)
    (parts : UidParts university.shortCode year) :
    nextSequence (lastUid university.shortCode year (world.store.database .certificates)) =
      some (world.issuedBy university year + 1) := by
  have used := numbered.used university stored year parts
  have bounded := numbered.bounded university stored year parts
  rcases nextSequence_cases parts numbered.valid.uidFormats with
    ⟨next, unused⟩ | ⟨last, small, next, isUsed, greatest⟩
  · have none : world.issuedBy university year = 0 := by
      by_contra some
      obtain ⟨row, member, isFirst⟩ := (used 1).mpr ⟨le_refl 1, by omega⟩
      exact unused row member 1 isFirst
    rw [next, none]
  · have atMost := ((used last).mp isUsed).2
    have atLeast := ((used last).mp isUsed).1
    obtain ⟨row, member, isCount⟩ := (used (world.issuedBy university year)).mpr ⟨by omega, le_refl _⟩
    have isLast := greatest row member _ bounded isCount
    rw [next, show last = world.issuedBy university year by omega]

/-- The numbering depends on the database and on what was issued. -/
theorem IssuingWorld.Numbered.congr {after : IssuingWorld} (numbered : world.Numbered)
    (database : after.store.database = world.store.database) (issued : after.issued = world.issued) :
    after.Numbered := by
  have sameCount : ∀ university year, after.issuedBy university year =
      world.issuedBy university year := by
    intro university year
    rw [IssuingWorld.issuedBy, issued, IssuingWorld.issuedBy]
  refine ⟨database ▸ numbered.valid, ?_, ?_⟩
  · intro university stored year parts sequence
    rw [database] at stored ⊢
    rw [sameCount]
    exact numbered.used university stored year parts sequence
  · intro university stored year parts
    rw [database] at stored
    rw [sameCount]
    exact numbered.bounded university stored year parts

/-- A UID with the next number of a university and a year keeps the invariant. -/
theorem IssuingWorld.Numbered.issue {after : IssuingWorld} (numbered : world.Numbered)
    (valid : after.store.database.Valid)
    (universities : after.store.database .universities = world.store.database .universities)
    (stored : university ∈ world.store.database .universities)
    (parts : UidParts university.shortCode year)
    (remaining : world.issuedBy university year < 99999) (row : Certificate)
    (isNext : row.certificateUid =
      uidOf university.shortCode year (world.issuedBy university year + 1))
    (certificates : after.store.database .certificates =
      world.store.database .certificates ++ [row])
    (issued : after.issued = world.issued ++ [(some university.id, year)]) : after.Numbered := by
  have counts : ∀ other otherYear, after.issuedBy other otherYear =
      world.issuedBy other otherYear +
        if (some university.id, year) = (some other.id, otherYear) then 1 else 0 := by
    intro other otherYear
    simp [IssuingWorld.issuedBy, issued, List.count_append, List.count_singleton]
  have sameOne : ∀ {other : University}, other ∈ world.store.database .universities →
      other.shortCode = university.shortCode → other = university := by
    intro other isOther sameCode
    by_contra different
    have apart := @Database.Valid.apart_of_ne _ numbered.valid .universities _ _ isOther stored
      different
    exact apart ⟨"short_code", .text other.shortCode⟩ (by simp [uniqueKeys])
      (by simp [uniqueKeys, sameCode])
  refine ⟨valid, ?_, ?_⟩
  · intro other isOther otherYear otherParts sequence
    rw [universities] at isOther
    have used := numbered.used other isOther otherYear otherParts sequence
    rw [certificates, counts]
    constructor
    · rintro ⟨found, member, isUid⟩
      rcases List.mem_append.mp member with isOld | isNew
      · obtain ⟨atLeast, atMost⟩ := used.mp ⟨found, isOld, isUid⟩
        exact ⟨atLeast, by omega⟩
      · obtain rfl := List.mem_singleton.mp isNew
        obtain ⟨sameCode, sameYear, sameSequence⟩ :=
          uidOf_inj otherParts parts (isUid.symm.trans isNext)
        obtain rfl := sameOne isOther sameCode
        subst sameYear
        rw [if_pos rfl]
        omega
    · rintro ⟨atLeast, atMost⟩
      by_cases isSame : (some university.id, year) = (some other.id, otherYear)
      · rw [if_pos isSame] at atMost
        obtain ⟨sameId, rfl⟩ := Prod.mk.inj isSame
        obtain rfl : university = other := @Database.Keyed.eq_of_rowId _ numbered.valid.keyed
          .universities _ _ stored isOther (Option.some.inj sameId)
        rcases Nat.lt_or_ge sequence (world.issuedBy university year + 1) with smaller | larger
        · obtain ⟨found, member, isUid⟩ := used.mpr ⟨atLeast, by omega⟩
          exact ⟨found, List.mem_append_left _ member, isUid⟩
        · obtain rfl : world.issuedBy university year + 1 = sequence := by omega
          exact ⟨row, by simp, isNext⟩
      · rw [if_neg isSame] at atMost
        obtain ⟨found, member, isUid⟩ := used.mpr ⟨atLeast, atMost⟩
        exact ⟨found, List.mem_append_left _ member, isUid⟩
  · intro other isOther otherYear otherParts
    rw [universities] at isOther
    have bounded := numbered.bounded other isOther otherYear otherParts
    rw [counts]
    by_cases isSame : (some university.id, year) = (some other.id, otherYear)
    · obtain ⟨sameId, rfl⟩ := Prod.mk.inj isSame
      obtain rfl : university = other := @Database.Keyed.eq_of_rowId _ numbered.valid.keyed
        .universities _ _ stored isOther (Option.some.inj sameId)
      rw [if_pos isSame]
      omega
    · rw [if_neg isSame]
      omega

/-- An upload keeps the invariant. -/
theorem IssuingWorld.Numbered.upload {runtime : Runtime} (numbered : world.Numbered)
    (upload : Upload) (fresh : ∀ read, Unused world.store.database (upload.inputs.uuid4 read)) :
    (world.upload runtime upload).Numbered := by
  have exits := upload.run_action runtime ⟨world.store, numbered.valid⟩ fresh
  have stillValid := (⟨world.store, numbered.valid⟩ : ValidStore).run_valid upload.inputs
    (upload.action runtime)
  have isStore : (world.upload runtime upload).store = (upload.outcome runtime world.store).2.1 := rfl
  have isIssued : (world.upload runtime upload).issued =
      if (upload.outcome runtime world.store).1.isOk then
        world.issued ++ [(upload.currentUser.universityId, upload.year)]
      else
        world.issued := rfl
  generalize (upload.outcome runtime world.store).1 = returned at exits isIssued
  cases exits with
  | early error database | refused error _ _ _ _ _ database =>
      exact numbered.congr (isStore ▸ database) isIssued
  | issued parties sequence saves storable database =>
      have issuer := saves.between.issuer
      have stored := List.mem_of_find?_eq_some issuer.found
      have isUniversity : some parties.university.id = upload.currentUser.universityId := by
        simpa using List.find?_some issuer.found
      have next := numbered.next stored storable.parts
      obtain rfl : world.issuedBy parties.university upload.year + 1 = sequence :=
        Option.some.inj (next.symm.trans saves.next)
      have small := ((Upload.small_iff numbered.valid saves storable.parts).1).mpr
        storable.remaining
      refine numbered.issue (isStore ▸ stillValid) ?_ stored storable.parts (by omega)
        (upload.certificate runtime parties (world.issuedBy parties.university upload.year + 1))
        rfl ?_ ?_
      · rw [isStore, database]
        rfl
      · rw [isStore, database]
        rfl
      · rw [isIssued, isUniversity]
        rfl

/-- Without a certificate at the start, what is issued is numbered. -/
theorem Issuing.numbered {runtime : Runtime} {start : ValidStore}
    (none : start.database .certificates = []) (reached : Issuing runtime start world) :
    world.Numbered := by
  induction reached with
  | start =>
      refine ⟨start.valid, ?_, fun _ _ _ _ => Nat.zero_le _⟩
      intro university stored year parts sequence
      have noCount : ({ store := start.toStore, issued := [] } : IssuingWorld).issuedBy university
          year = 0 := rfl
      simp only [noCount, none, List.not_mem_nil, false_and, exists_false, false_iff]
      omega
  | upload before upload fresh inductionHypothesis =>
      exact inductionHypothesis.upload upload fresh

end worlds

/-- The next UID is new, in the format and numbered by the count exactly when the short code and the
year make UIDs and a number of five digits remains. -/
theorem next_uid_iff {runtime : Runtime} {start : ValidStore}
    (none : start.database .certificates = []) {world : IssuingWorld}
    (reached : Issuing runtime start world) {university : University}
    (stored : university ∈ world.store.database .universities) (today : Date) (inputs : Inputs) :
    world.Mints university (yearOf today) inputs ↔
      UidParts university.shortCode (yearOf today) ∧
        world.issuedBy university (yearOf today) < 99999 := by
  have numbered := reached.numbered none
  constructor
  · rintro ⟨-, format, -⟩
    obtain ⟨parts, small⟩ := isCertificateUidText_uidOf.mp format
    exact ⟨parts, by omega⟩
  · rintro ⟨parts, remaining⟩
    have next := numbered.next stored parts
    have small : world.issuedBy university (yearOf today) + 1 ≤ 99999 := by omega
    refine ⟨?_, isCertificateUidText_uidOf.mpr ⟨parts, small⟩, ?_⟩
    · have sameOutcome := ((⟨world.store, numbered.valid⟩ : ValidStore).run_eq inputs
        (getNextUidSequence university.shortCode (yearOf today))).1
      exact sameOutcome.trans (congrArg Prod.fst
        (Upload.run_getNextUidSequence (.fresh world.store inputs) next))
    · intro row member isNext
      have atMost := ((numbered.used university stored _ parts _).mp ⟨row, member, isNext⟩).2
      omega

namespace Sample

open AcademicCredential.Sample

/-- The university's first upload. -/
def firstDegree : IssuingWorld :=
  IssuingWorld.upload Runtime.sample { store := campus.toStore, issued := [] } (degree "BSc")

/-- A short code that its own table takes. -/
def dashedUniversity : University := { university with shortCode := "U-CH" }

/-- A store whose university has a code with a dash. -/
def dashed : ValidStore where
  database := Function.update accounts .universities [dashedUniversity]
  chain := .deployed deployer
  files := []
  valid := by decide +kernel

end Sample

/-- The university's second UID of the year. -/
theorem next_uid_second : Sample.firstDegree.Mints AcademicCredential.Sample.university
    (yearOf 19700) (AcademicCredential.Sample.inputs AcademicCredential.Sample.answered) :=
  (@next_uid_iff Runtime.sample Sample.campus rfl Sample.firstDegree
    (.upload .start (Sample.degree "BSc") Sample.accounts_unused)
    AcademicCredential.Sample.university (by decide +kernel) 19700
    (AcademicCredential.Sample.inputs AcademicCredential.Sample.answered)).mpr
      ⟨⟨by decide, by decide⟩, by decide +kernel⟩

/-- Behind a short code with a dash no UID has the format, and every upload is refused. -/
theorem dashed_code_mints_nothing :
    ¬ ({ store := Sample.dashed.toStore, issued := [] } : IssuingWorld).Mints
        Sample.dashedUniversity (yearOf 19700)
        (AcademicCredential.Sample.inputs AcademicCredential.Sample.answered) ∧
      ((Sample.degree "BSc").outcome Runtime.sample Sample.dashed.toStore).1 =
        .error (.CheckViolation "certificates" "chk_certificates_uid_format") := by
  refine ⟨?_, by decide +kernel⟩
  rintro ⟨-, format, -⟩
  have noFormat : isCertificateUidText (uidOf "U-CH" (yearOf 19700) 1) = false := by decide +kernel
  exact absurd (noFormat.symm.trans format) (by decide)

end AcademicCredential.CertificateIssuanceService
