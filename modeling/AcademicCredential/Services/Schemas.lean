import AcademicCredential.Services.Auth
import Mathlib.Data.List.DropRight

/-!
# Request schemas

What the pydantic models of `schemas/` make of a request: `str_strip_whitespace`, the length
bounds, the format of an email address and the validators of the fields. `EmailStr` is the
work of the email-validator package and a parameter.
-/

namespace AcademicCredential

open AcademicCredential.Lib

/-- The characters `str_strip_whitespace` removes: those with the property White_Space. -/
def isWhiteSpace (char : Char) : Bool :=
  let code := char.toNat
  (0x9 ≤ code && code ≤ 0xd) || code == 0x20 || code == 0x85 || code == 0xa0 || code == 0x1680 ||
    (0x2000 ≤ code && code ≤ 0x200a) || code == 0x2028 || code == 0x2029 || code == 0x202f ||
      code == 0x205f || code == 0x3000

/-- `str_strip_whitespace`. -/
def strip (text : String) : String :=
  String.ofList ((text.toList.dropWhile isWhiteSpace).rdropWhile isWhiteSpace)

/-- A text that was stripped and is not empty does not end in a blank. -/
theorem isNotBlank_strip {text : String} (nonempty : 1 ≤ (strip text).length) :
    isNotBlank (strip text) = true := by
  have characters : (strip text).toList =
      (text.toList.dropWhile isWhiteSpace).rdropWhile isWhiteSpace := by simp [strip]
  have some : (text.toList.dropWhile isWhiteSpace).rdropWhile isWhiteSpace ≠ [] := by
    intro none
    rw [← String.length_toList, characters, none] at nonempty
    exact absurd nonempty (by decide)
  have notWhite := List.rdropWhile_last_not isWhiteSpace _ some
  rw [isNotBlank, characters, List.any_eq_true]
  refine ⟨_, List.getLast_mem some, ?_⟩
  rw [bne_iff_ne]
  intro isBlank
  rw [isBlank] at notWhite
  exact notWhite (by decide)

/-- `EmailStr`: the normalised address of a text that the email-validator accepts. It has one
`@`, no white space or control character and a dot in its domain, and at most 254 bytes. -/
structure EmailStr where
  validate : String → Option String
  valid : ∀ text address, validate text = some address →
    isEmailText address = true ∧ isText address = true ∧ address.utf8ByteSize ≤ 254

open CaseMapping in
/-- Lower-casing an address leaves its format. -/
theorem isEmailText_lower {address : String} (format : isEmailText address = true) :
    isEmailText (lower address) = true := by
  have letterwise : Letterwise address.toList (lower address).toList := by
    rw [lower, String.toList_ofList]
    exact letterwise_lowerFrom address.toList []
  have early : '@'.toNat < 0x41 := by decide
  obtain ⟨names, domains⟩ := letterwise.span early
  simp only [isEmailText, Bool.and_eq_true, bne_iff_ne, ne_eq, List.all_eq_true,
    Bool.not_eq_true', List.contains_iff_mem] at format ⊢
  obtain ⟨⟨⟨named, unspaced⟩, single⟩, dotted⟩ := format
  have atDomain : Letterwise ((address.toList.dropWhile (· != '@')).drop 1)
      (((lower address).toList.dropWhile (· != '@')).drop 1) := by
    cases domain : address.toList.dropWhile (· != '@') with
    | nil =>
        rw [domain] at domains
        rw [domains.eq_nil_iff.mpr rfl]
        exact .nil
    | cons first rest =>
        have isAt : first = '@' := by
          have notOther := List.head?_dropWhile_not (· != '@') address.toList
          rw [domain] at notOther
          simpa using notOther
        rw [domain, isAt] at domains
        obtain ⟨image, isImage, restImage⟩ := domains.of_mark (by decide)
        rw [isImage]
        exact restImage
  refine ⟨⟨⟨fun empty => named (names.eq_nil_iff.mp empty), fun char member => ?_⟩,
    fun char member => ?_⟩, atDomain.inside (by decide) dotted⟩
  · by_contra spaced
    rw [Bool.not_eq_false] at spaced
    have early : char.toNat < 0x41 := by
      simp only [isSpace, List.contains_iff_mem, List.mem_cons, List.not_mem_nil, or_false]
        at spaced
      rcases spaced with rfl | rfl | rfl | rfl | rfl | rfl <;> decide
    rw [unspaced char ((letterwise.mem_iff early).mp member)] at spaced
    cases spaced
  · rintro rfl
    exact single '@' ((atDomain.mem_iff (by decide)).mp member) rfl

open CaseMapping in
/-- Lower-casing a text adds no U+0000. -/
theorem isText_lower {text : String} (storable : isText text = true) :
    isText (lower text) = true := by
  have letterwise : Letterwise text.toList (lower text).toList := by
    rw [lower, String.toList_ofList]
    exact letterwise_lowerFrom text.toList []
  simp only [isText, List.all_eq_true, bne_iff_ne] at storable ⊢
  rintro char member rfl
  exact storable _ ((letterwise.mem_iff (by decide)).mp member) rfl

/-- The code points of the digit zero in the scripts that have decimal digits. -/
def zeroDigits : List Nat := [
  0x30, 0x660, 0x6f0, 0x7c0, 0x966, 0x9e6, 0xa66, 0xae6, 0xb66, 0xbe6, 0xc66, 0xce6, 0xd66, 0xde6,
  0xe50, 0xed0, 0xf20, 0x1040, 0x1090, 0x17e0, 0x1810, 0x1946, 0x19d0, 0x1a80, 0x1a90, 0x1b50,
  0x1bb0, 0x1c40, 0x1c50, 0xa620, 0xa8d0, 0xa900, 0xa9d0, 0xa9f0, 0xaa50, 0xabf0, 0xff10, 0x104a0,
  0x10d30, 0x11066, 0x110f0, 0x11136, 0x111d0, 0x112f0, 0x11450, 0x114d0, 0x11650, 0x116c0,
  0x11730, 0x118e0, 0x11950, 0x11c50, 0x11d50, 0x11da0, 0x16a60, 0x16ac0, 0x16b50, 0x1d7ce,
  0x1d7d8, 0x1d7e2, 0x1d7ec, 0x1d7f6, 0x1e140, 0x1e2f0, 0x1e950, 0x1fbf0]

/-- `\d` of a pattern that is a `str`. -/
def isDecimal (char : Char) : Bool :=
  zeroDigits.any fun first => first ≤ char.toNat && char.toNat < first + 10

namespace AuthService

/-- The least length of a password. -/
def passwordMinLength : Nat := 8

/-- The body of a registration; a field that is absent is null. -/
structure RegisterBody where
  email : String
  password : String
  firstName : String
  lastName : String
  role : UserRole
  universityCode : Option String
  companyName : Option String

/-- `Field(..., min_length=1, max_length=100)`. -/
def validName (name : String) : Bool := 1 ≤ name.length && name.length ≤ 100

/-- `validate_password`, after the length bound of the field. -/
def validPassword (password : String) : Bool :=
  passwordMinLength ≤ password.length &&
    password.toList.any (fun char => 'A' ≤ char && char ≤ 'Z') &&
    password.toList.any (fun char => 'a' ≤ char && char ≤ 'z') &&
    password.toList.any isDecimal

/-- `RegisterRequest`: what it passes on if it accepts the body. -/
def registerRequest (emailStr : EmailStr) (body : RegisterBody) : Option Registration := do
  let address ← emailStr.validate (strip body.email)
  let password := strip body.password
  let firstName := strip body.firstName
  let lastName := strip body.lastName
  guard (validPassword password && validName firstName && validName lastName &&
    body.role ≠ .SUPER_ADMIN)
  return {
    email := lower address
    password
    firstName
    lastName
    role := body.role
    universityCode := body.universityCode.map strip
    companyName := body.companyName.map strip }

/-- What every accepted registration has. -/
structure Registration.Accepted (data : Registration) : Prop where
  email : isEmailText data.email = true ∧ isText data.email = true ∧
    data.email = simpleLower data.email ∧ data.email.length ≤ 254
  firstName : data.firstName.length ≤ 100 ∧ isNotBlank data.firstName = true
  lastName : data.lastName.length ≤ 100 ∧ isNotBlank data.lastName = true
  role : data.role ≠ .SUPER_ADMIN
  companyName : ∀ name, data.companyName = some name → 1 ≤ name.length → isNotBlank name = true

/-- A body that the schema lets through is within its bounds. -/
theorem registerRequest_accepted {emailStr : EmailStr} {body : RegisterBody} {data : Registration}
    (accepted : registerRequest emailStr body = some data) : data.Accepted := by
  unfold registerRequest at accepted
  obtain ⟨address, isAddress, rest⟩ := Option.bind_eq_some_iff.mp accepted
  obtain ⟨_, guarded, isData⟩ := Option.bind_eq_some_iff.mp rest
  obtain ⟨-, firstName, lastName, role⟩ : validPassword (strip body.password) = true ∧
      validName (strip body.firstName) = true ∧ validName (strip body.lastName) = true ∧
        body.role ≠ .SUPER_ADMIN := by simpa [guard] using guarded
  cases isData
  obtain ⟨format, storable, short⟩ := emailStr.valid _ _ isAddress
  simp only [validName, Bool.and_eq_true, decide_eq_true_iff] at firstName lastName
  refine ⟨⟨isEmailText_lower format, isText_lower storable, (simpleLower_lower address).symm,
      (length_lower_le address).trans short⟩,
    ⟨firstName.2, isNotBlank_strip firstName.1⟩, ⟨lastName.2, isNotBlank_strip lastName.1⟩, role,
    ?_⟩
  intro name isName nonempty
  obtain ⟨given, -, rfl⟩ := Option.map_eq_some_iff.mp isName
  exact isNotBlank_strip nonempty

end AuthService
end AcademicCredential
