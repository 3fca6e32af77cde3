import AcademicCredential.Database.Validity
import AcademicCredential.Services.Issuance
import Mathlib.Data.String.Basic

/-!
# The sequence of certificate UIDs

`get_next_uid_sequence` takes the last UID of a year in text order. Among UIDs that the
table accepts, five digits behind one prefix, text order is the order of the numbers, so
the next number makes a UID that no row has: `nextSequence_fresh`.
-/

namespace AcademicCredential

open AcademicCredential.Lib

/-- `f"{short_code}-{year}-"`. -/
def uidPrefix (shortCode : String) (year : Int) : String := shortCode ++ "-" ++ toString year ++ "-"

/-- The UID with a number. -/
def uidOf (shortCode : String) (year : Int) (sequence : Nat) : String :=
  shortCode ++ "-" ++ toString year ++ "-" ++ fiveDigits sequence

namespace CertificateRepository

/-- What the SELECT of `get_next_uid_sequence` returns. -/
def lastUid (shortCode : String) (year : Int) (rows : List Certificate) : Option String :=
  (((rows.map Certificate.certificateUid).filter fun uid =>
    like (shortCode ++ "-" ++ toString year ++ "-%").toList uid.toList).insertionSort (· ≥ ·)).head?

/-- The number after a UID. -/
def nextSequence : Option String → Option Nat
  | none => some 1
  | some uid => (parseInt? (afterLastDash uid)).map (· + 1)

end CertificateRepository

open CertificateRepository

/-- The short codes and years that UIDs can be made of. -/
structure UidParts (shortCode : String) (year : Int) : Prop where
  code : shortCode.toList ≠ [] ∧ shortCode.toList.all isUpperOrDigit = true
  year : exactly 4 Char.isDigit (toString year).toList = true

/-- The numbers of a year have run out. -/
def Exhausted (shortCode : String) (year : Int) (rows : List Certificate) : Prop :=
  ∃ row ∈ rows, row.certificateUid = uidOf shortCode year 99999

/-- A character of the class is not one outside it. -/
theorem isUpperOrDigit_ne {char other : Char} (inClass : isUpperOrDigit char = true)
    (outside : isUpperOrDigit other = false) : char ≠ other := by
  rintro rfl
  rw [inClass] at outside
  cases outside

/-- A digit is not a character that is none. -/
theorem isDigit_ne {char other : Char} (inClass : char.isDigit = true)
    (outside : other.isDigit = false) : char ≠ other := by
  rintro rfl
  rw [inClass] at outside
  cases outside

/-- A pattern without special characters and a final `%` matches what it is a prefix of. -/
theorem like_percent {plain : List Char} (special : ∀ char ∈ plain, char ∉ ['%', '_', '\\'])
    (text : List Char) : like (plain ++ ['%']) text = plain.isPrefixOf text := by
  induction plain generalizing text with
  | nil =>
      rw [List.nil_append, List.isPrefixOf, like, List.any_eq_true]
      exact ⟨text.length, by simp, by simp [like]⟩
  | cons char plain inductionHypothesis =>
      have notSpecial := special char List.mem_cons_self
      have rest := inductionHypothesis fun other member =>
        special other (List.mem_cons_of_mem _ member)
      simp only [List.mem_cons, List.not_mem_nil, or_false, not_or] at notSpecial
      obtain ⟨notPercent, notUnderscore, notBackslash⟩ := notSpecial
      cases text with
      | nil =>
          rw [List.cons_append, like]
          all_goals first
            | rfl
            | simp_all
      | cons first text =>
          rw [List.cons_append, like, List.isPrefixOf, rest]
          all_goals simp_all

/-- So many digits denote less than the power of ten. -/
theorem ofDigitChars_lt {digits : List Char} (areDigits : ∀ char ∈ digits, char.isDigit = true) :
    Nat.ofDigitChars 10 digits 0 < 10 ^ digits.length := by
  induction digits with
  | nil => simp
  | cons digit digits inductionHypothesis =>
      have bound := Char.isDigit_iff_toNat.mp (areDigits digit List.mem_cons_self)
      have rest := inductionHypothesis fun char member =>
        areDigits char (List.mem_cons_of_mem _ member)
      have zero : '0'.toNat = 48 := rfl
      have nine : '9'.toNat = 57 := rfl
      have value : digit.toNat - '0'.toNat ≤ 9 := by omega
      rw [Nat.ofDigitChars_cons, Nat.ofDigitChars_eq_ofDigitChars_zero, List.length_cons,
        Nat.pow_succ, Nat.mul_zero, Nat.zero_add]
      have most := Nat.mul_le_mul_left (10 ^ digits.length) value
      omega

/-- Two texts of digits of one length are ordered as the numbers they denote. -/
theorem ofDigitChars_lt_of_lt {left right : List Char} (sameLength : left.length = right.length)
    (leftDigits : ∀ char ∈ left, char.isDigit = true)
    (rightDigits : ∀ char ∈ right, char.isDigit = true) (less : left < right) :
    Nat.ofDigitChars 10 left 0 < Nat.ofDigitChars 10 right 0 := by
  induction left generalizing right with
  | nil =>
      obtain rfl : right = [] := List.length_eq_zero_iff.mp sameLength.symm
      exact absurd less (lt_irrefl _)
  | cons leftDigit left inductionHypothesis =>
      cases right with
      | nil => simp at sameLength
      | cons rightDigit right =>
          have sameRest : left.length = right.length := Nat.succ.inj sameLength
          have leftBound := Char.isDigit_iff_toNat.mp (leftDigits leftDigit List.mem_cons_self)
          have leftRest : ∀ char ∈ left, char.isDigit = true := fun char member =>
            leftDigits char (List.mem_cons_of_mem _ member)
          have rightRest : ∀ char ∈ right, char.isDigit = true := fun char member =>
            rightDigits char (List.mem_cons_of_mem _ member)
          have small := ofDigitChars_lt leftRest
          rw [Nat.ofDigitChars_cons, Nat.ofDigitChars_eq_ofDigitChars_zero, Nat.ofDigitChars_cons,
            @Nat.ofDigitChars_eq_ofDigitChars_zero right, ← sameRest, Nat.mul_zero, Nat.zero_add,
            Nat.zero_add]
          rcases List.cons_lt_cons_iff.mp less with first | ⟨rfl, rest⟩
          · -- A greater first digit outweighs everything behind it.
            have step : leftDigit.toNat - '0'.toNat + 1 ≤ rightDigit.toNat - '0'.toNat := by
              have larger : leftDigit.toNat < rightDigit.toNat := first
              omega
            have outweighs := Nat.mul_le_mul_left (10 ^ left.length) step
            rw [Nat.mul_add] at outweighs
            omega
          · have lessRest := inductionHypothesis sameRest leftRest rightRest rest
            omega

/-- A text is cut at its first dash in one way only. -/
theorem append_dash_inj {left right leftRest rightRest : List Char} (leftPlain : '-' ∉ left)
    (rightPlain : '-' ∉ right) (same : left ++ '-' :: leftRest = right ++ '-' :: rightRest) :
    left = right ∧ leftRest = rightRest := by
  induction left generalizing right with
  | nil =>
      cases right with
      | nil => simpa using same
      | cons first right =>
          obtain rfl : '-' = first := (List.cons.inj same).1
          exact absurd List.mem_cons_self rightPlain
  | cons first left inductionHypothesis =>
      cases right with
      | nil =>
          obtain rfl : first = '-' := (List.cons.inj same).1
          exact absurd List.mem_cons_self leftPlain
      | cons second right =>
          obtain ⟨rfl, sameRest⟩ := List.cons.inj same
          obtain ⟨rfl, rfl⟩ := inductionHypothesis
            (fun member => leftPlain (List.mem_cons_of_mem _ member))
            (fun member => rightPlain (List.mem_cons_of_mem _ member)) sameRest
          exact ⟨rfl, rfl⟩

/-- A text is cut at its last dash in one way only. -/
theorem append_lastDash_inj {left right leftRest rightRest : List Char}
    (leftPlain : '-' ∉ leftRest) (rightPlain : '-' ∉ rightRest)
    (same : left ++ '-' :: leftRest = right ++ '-' :: rightRest) :
    left = right ∧ leftRest = rightRest := by
  have reversed := congrArg List.reverse same
  simp only [List.reverse_append, List.reverse_cons, List.append_assoc, List.singleton_append]
    at reversed
  obtain ⟨rests, fronts⟩ := append_dash_inj (by simpa using leftPlain) (by simpa using rightPlain)
    reversed
  exact ⟨List.reverse_injective fronts, List.reverse_injective rests⟩

/-- A UID is a code, a year and five digits, separated by dashes. -/
theorem isCertificateUidText_iff {uid : String} : isCertificateUidText uid = true ↔
    ∃ code year digits, uid.toList = code ++ '-' :: (year ++ '-' :: digits) ∧
      (code ≠ [] ∧ code.all isUpperOrDigit = true) ∧ exactly 4 Char.isDigit year = true ∧
        exactly 5 Char.isDigit digits = true := by
  constructor
  · intro format
    have split := List.take_append_drop (uid.length - 11) uid.toList
    simp only [isCertificateUidText, Bool.and_eq_true, bne_iff_ne] at format
    obtain ⟨isCode, behind⟩ := format
    generalize uid.toList.drop (uid.length - 11) = tail at split behind
    split at behind
    · rename_i year1 year2 year3 year4 digits
      simp only [Bool.and_eq_true] at behind
      refine ⟨_, [year1, year2, year3, year4], digits, split.symm, isCode, ?_, behind.2⟩
      simpa [exactly] using behind.1
    · cases behind
  · rintro ⟨code, year, digits, isUid, isCode, isYear, areDigits⟩
    simp only [exactly, Bool.and_eq_true, beq_iff_eq] at isYear
    obtain ⟨yearLength, yearDigits⟩ := isYear
    obtain ⟨year1, year2, year3, year4, rfl⟩ : ∃ year1 year2 year3 year4,
        year = [year1, year2, year3, year4] := List.length_eq_four.mp yearLength
    have digitsLength : digits.length = 5 := by
      simp only [exactly, Bool.and_eq_true, beq_iff_eq] at areDigits
      exact areDigits.1
    have isCodeLength : uid.length - 11 = code.length := by
      rw [← String.length_toList, isUid]
      simp [digitsLength]
    have taken : uid.toList.take (uid.length - 11) = code := by
      rw [isCodeLength, isUid, List.take_left]
    have dropped : uid.toList.drop (uid.length - 11) =
        '-' :: ([year1, year2, year3, year4] ++ '-' :: digits) := by
      rw [isCodeLength, isUid, List.drop_left]
    simp only [isCertificateUidText, taken, dropped, Bool.and_eq_true, bne_iff_ne]
    refine ⟨isCode, ?_⟩
    change (_ && _) = true
    rw [Bool.and_eq_true]
    exact ⟨yearDigits, areDigits⟩

/-- Every stored UID is well formed. -/
theorem Database.Valid.uidFormats {database : Database} (valid : database.Valid) :
    ∀ row ∈ database .certificates, isCertificateUidText row.certificateUid = true := by
  intro row member
  have passes := violation?_eq_none.mp (valid.admissible .certificates row member)
  have format := passes ⟨"chk_certificates_uid_format", fun row =>
    Truth.certain (isCertificateUidText row.certificateUid)⟩ (by
      simp only [constraints, Certificate.constraints, List.mem_cons, true_or, or_true])
  simpa using format

/-- A UID of the prefix ends in five digits. -/
theorem UidParts.digits {shortCode : String} {year : Int} (parts : UidParts shortCode year)
    {uid : String} (format : isCertificateUidText uid = true)
    (prefixed : (uidPrefix shortCode year).toList.isPrefixOf uid.toList = true) :
    ∃ digits, uid.toList = (uidPrefix shortCode year).toList ++ digits ∧ digits.length = 5 ∧
      ∀ char ∈ digits, char.isDigit = true := by
  obtain ⟨code, uidYear, digits, isUid, ⟨-, areCode⟩, yearDigits, areDigits⟩ :=
    isCertificateUidText_iff.mp format
  obtain ⟨rest, isPrefix⟩ := List.isPrefixOf_iff_prefix.mp prefixed
  have yearText := parts.year
  simp only [exactly, Bool.and_eq_true, beq_iff_eq, List.all_eq_true] at yearText yearDigits areDigits
  have areUpper := List.all_eq_true.mp areCode
  have codeChars := List.all_eq_true.mp parts.code.2
  have spelled : shortCode.toList ++ '-' :: ((toString year).toList ++ '-' :: rest) =
      code ++ '-' :: (uidYear ++ '-' :: digits) := by
    rw [← isUid, ← isPrefix]
    simp [uidPrefix]
  have dash : isUpperOrDigit '-' = false := by decide
  obtain ⟨-, sameTail⟩ := append_dash_inj
    (fun member => isUpperOrDigit_ne (codeChars _ member) dash rfl)
    (fun member => isUpperOrDigit_ne (areUpper _ member) dash rfl) spelled
  have sameEnd := List.append_inj sameTail (yearText.1.trans yearDigits.1.symm)
  obtain rfl : rest = digits := (List.cons.inj sameEnd.2).2
  exact ⟨rest, isPrefix.symm, areDigits.1, areDigits.2⟩

/-- The five digits are padded with zeros. -/
theorem toList_fiveDigits (sequence : Nat) : (fiveDigits sequence).toList =
    List.replicate (5 - (Nat.toDigits 10 sequence).length) '0' ++ Nat.toDigits 10 sequence := by
  simp [fiveDigits, ← String.length_toList]

/-- The five digits are digits. -/
theorem isDigit_of_mem_fiveDigits {sequence : Nat} {char : Char}
    (member : char ∈ (fiveDigits sequence).toList) : char.isDigit = true := by
  rw [toList_fiveDigits] at member
  rcases List.mem_append.mp member with padding | digit
  · rw [(List.mem_replicate.mp padding).2]
    decide
  · exact Nat.isDigit_of_mem_toDigits (by decide) (by decide) digit

/-- The five digits denote the number. -/
theorem ofDigitChars_fiveDigits (sequence : Nat) :
    Nat.ofDigitChars 10 (fiveDigits sequence).toList 0 = sequence := by
  rw [toList_fiveDigits, Nat.ofDigitChars_append, Nat.ofDigitChars_replicate_zero, Nat.mul_zero,
    Nat.ofDigitChars_ten_toDigits]

/-- Up to 99999 the five digits are five. -/
theorem fiveDigits_digits {sequence : Nat} (small : sequence ≤ 99999) :
    (fiveDigits sequence).toList.length = 5 ∧
      (∀ char ∈ (fiveDigits sequence).toList, char.isDigit = true) ∧
      Nat.ofDigitChars 10 (fiveDigits sequence).toList 0 = sequence := by
  have short : (Nat.toDigits 10 sequence).length ≤ 5 :=
    (Nat.length_toDigits_le_iff (by decide) (by decide)).mpr (by omega)
  refine ⟨?_, fun _ => isDigit_of_mem_fiveDigits, ofDigitChars_fiveDigits sequence⟩
  rw [toList_fiveDigits, List.length_append, List.length_replicate]
  omega

/-- Five digits are those of the number they denote. -/
theorem eq_fiveDigits {digits : List Char} (length : digits.length = 5)
    (areDigits : ∀ char ∈ digits, char.isDigit = true) :
    Nat.ofDigitChars 10 digits 0 ≤ 99999 ∧
      digits = (fiveDigits (Nat.ofDigitChars 10 digits 0)).toList := by
  have bound := ofDigitChars_lt areDigits
  rw [length] at bound
  have small : Nat.ofDigitChars 10 digits 0 ≤ 99999 := by omega
  obtain ⟨sameLength, sameDigits, value⟩ := fiveDigits_digits small
  refine ⟨small, ?_⟩
  rcases lt_trichotomy digits (fiveDigits (Nat.ofDigitChars 10 digits 0)).toList with
    less | same | greater
  · have apart := ofDigitChars_lt_of_lt (length.trans sameLength.symm) areDigits sameDigits less
    omega
  · exact same
  · have apart := ofDigitChars_lt_of_lt (sameLength.trans length.symm) sameDigits areDigits greater
    omega

/-- The texts of the numbers are in the order of the numbers. -/
theorem fiveDigits_lt {left right : Nat} (less : left < right) (small : right ≤ 99999) :
    (fiveDigits left).toList < (fiveDigits right).toList := by
  obtain ⟨leftLength, leftDigits, leftValue⟩ := @fiveDigits_digits left (by omega)
  obtain ⟨rightLength, rightDigits, rightValue⟩ := fiveDigits_digits small
  rcases lt_trichotomy (fiveDigits left).toList (fiveDigits right).toList with
    isLess | same | greater
  · exact isLess
  · rw [← same] at rightValue
    omega
  · have apart := ofDigitChars_lt_of_lt (rightLength.trans leftLength.symm) rightDigits leftDigits
      greater
    omega

/-- A UID is its prefix and its digits. -/
theorem toList_uidOf (shortCode : String) (year : Int) (sequence : Nat) :
    (uidOf shortCode year sequence).toList =
      (uidPrefix shortCode year).toList ++ (fiveDigits sequence).toList := by
  simp [uidOf, uidPrefix]

/-- The number at the end of a UID. -/
theorem parseInt?_digits {uid : String} {front digits : List Char}
    (isUid : uid.toList = front ++ '-' :: digits) (length : digits.length = 5)
    (areDigits : ∀ char ∈ digits, char.isDigit = true) :
    parseInt? (afterLastDash uid) = some (Nat.ofDigitChars 10 digits 0) := by
  have plain : ∀ char ∈ digits.reverse, (char != '-') = true := by
    intro char member
    exact bne_iff_ne.mpr (isDigit_ne (areDigits char (List.mem_reverse.mp member)) (by decide))
  have ends : afterLastDash uid = digits := by
    simp only [afterLastDash, isUid, List.reverse_append, List.reverse_cons, List.append_assoc]
    rw [List.takeWhile_append_of_pos plain]
    simp
  have nonempty : digits ≠ [] := by
    rintro rfl
    cases length
  simpa [parseInt?, ends, nonempty, Nat.ofDigitChars_eq_foldl] using areDigits

/-- No digit is a dash. -/
theorem dash_not_mem_digits {digits : List Char} (areDigits : ∀ char ∈ digits, char.isDigit = true) :
    '-' ∉ digits := fun member =>
  isDigit_ne (areDigits _ member) (by decide) rfl

/-- Longer numbers are not cut. -/
theorem le_of_length_fiveDigits {sequence : Nat} (length : (fiveDigits sequence).toList.length = 5) :
    sequence ≤ 99999 := by
  rw [toList_fiveDigits, List.length_append, List.length_replicate] at length
  have short : (Nat.toDigits 10 sequence).length ≤ 5 := by omega
  have small := (Nat.length_toDigits_le_iff (by decide) (by decide)).mp short
  omega

/-- A year that is behind a code without dashes has no sign. -/
theorem toString_split {shortCode : String} {year : Int} {code yearText : List Char}
    (codePlain : '-' ∉ code) (yearPlain : '-' ∉ yearText)
    (same : shortCode.toList ++ '-' :: (toString year).toList = code ++ '-' :: yearText) :
    shortCode.toList = code ∧ (toString year).toList = yearText := by
  rw [Int.toString_eq_repr, Int.repr_eq_if] at same ⊢
  split at same
  · rename_i nonnegative
    rw [if_pos nonnegative]
    refine append_lastDash_inj ?_ yearPlain same
    rw [Nat.toList_repr]
    exact dash_not_mem_digits fun char member =>
      Nat.isDigit_of_mem_toDigits (by decide) (by decide) member
  · have negative : (shortCode.toList ++ ['-']) ++ '-' :: (Nat.repr (-year).toNat).toList =
        code ++ '-' :: yearText := by
      rw [← same]
      simp
    obtain ⟨isCode, -⟩ := append_lastDash_inj (by
      rw [Nat.toList_repr]
      exact dash_not_mem_digits fun char member =>
        Nat.isDigit_of_mem_toDigits (by decide) (by decide) member) yearPlain negative
    refine absurd ?_ codePlain
    rw [← isCode]
    simp

/-- A UID has the format of the table exactly when its parts allow one and the number has five
digits. -/
theorem isCertificateUidText_uidOf {shortCode : String} {year : Int} {sequence : Nat} :
    isCertificateUidText (uidOf shortCode year sequence) = true ↔
      UidParts shortCode year ∧ sequence ≤ 99999 := by
  have spelled : (uidOf shortCode year sequence).toList =
      shortCode.toList ++ '-' :: ((toString year).toList ++ '-' :: (fiveDigits sequence).toList) := by
    simp [uidOf]
  have areDigits : exactly 5 Char.isDigit (fiveDigits sequence).toList = true ↔
      sequence ≤ 99999 := by
    simp only [exactly, Bool.and_eq_true, beq_iff_eq, List.all_eq_true]
    exact ⟨fun both => le_of_length_fiveDigits both.1,
      fun small => ⟨(fiveDigits_digits small).1, (fiveDigits_digits small).2.1⟩⟩
  rw [isCertificateUidText_iff, spelled]
  constructor
  · rintro ⟨code, yearText, digits, same, isCode, isYear, digitsFive⟩
    have isDigits : ∀ {count : Nat} {text : List Char}, exactly count Char.isDigit text = true →
        '-' ∉ text := by
      intro count text exact
      simp only [exactly, Bool.and_eq_true, List.all_eq_true] at exact
      exact dash_not_mem_digits exact.2
    have regrouped : (shortCode.toList ++ '-' :: (toString year).toList) ++
        '-' :: (fiveDigits sequence).toList = (code ++ '-' :: yearText) ++ '-' :: digits := by
      simpa using same
    obtain ⟨front, isSequence⟩ := append_lastDash_inj
      (dash_not_mem_digits fun _ => isDigit_of_mem_fiveDigits) (isDigits digitsFive) regrouped
    have codePlain : '-' ∉ code := fun member =>
      isUpperOrDigit_ne (List.all_eq_true.mp isCode.2 _ member) (by decide : _ = false) rfl
    obtain ⟨rfl, rfl⟩ := toString_split codePlain (isDigits isYear) front
    exact ⟨⟨isCode, isYear⟩, areDigits.mp (isSequence ▸ digitsFive)⟩
  · rintro ⟨parts, small⟩
    exact ⟨_, _, _, rfl, parts.code, parts.year, areDigits.mpr small⟩

/-- The pattern of the SELECT matches the UIDs of the prefix. -/
theorem UidParts.like {shortCode : String} {year : Int} (parts : UidParts shortCode year)
    (uid : List Char) :
    CertificateRepository.like (shortCode ++ "-" ++ toString year ++ "-%").toList uid =
      (uidPrefix shortCode year).toList.isPrefixOf uid := by
  have pattern : (shortCode ++ "-" ++ toString year ++ "-%").toList =
      (uidPrefix shortCode year).toList ++ ['%'] := by
    simp [uidPrefix]
  have yearText := parts.year
  simp only [exactly, Bool.and_eq_true, beq_iff_eq, List.all_eq_true] at yearText
  rw [pattern]
  refine like_percent (fun char member special => ?_) uid
  have dash : char ≠ '-' := by
    rintro rfl
    simp at special
  simp only [uidPrefix, String.toList_append, List.mem_append] at member
  have marks : isUpperOrDigit char = false ∧ char.isDigit = false := by
    simp only [List.mem_cons, List.not_mem_nil, or_false] at special
    rcases special with rfl | rfl | rfl <;> decide
  rcases member with ((code | isDash) | inYear) | isDash
  · rw [List.all_eq_true.mp parts.code.2 char code] at marks
    cases marks.1
  · exact dash (by simpa using isDash)
  · rw [yearText.2 char inYear] at marks
    cases marks.2
  · exact dash (by simpa using isDash)

/-- The UIDs that the query lists are the stored ones of the prefix. -/
theorem mem_matching {shortCode : String} {year : Int} (parts : UidParts shortCode year)
    {rows : List Certificate} {uid : String} :
    uid ∈ ((rows.map Certificate.certificateUid).filter fun uid =>
        CertificateRepository.like (shortCode ++ "-" ++ toString year ++ "-%").toList
          uid.toList).insertionSort (· ≥ ·) ↔
      (∃ row ∈ rows, row.certificateUid = uid) ∧
        (uidPrefix shortCode year).toList.isPrefixOf uid.toList = true := by
  rw [List.mem_insertionSort, List.mem_filter, parts.like, List.mem_map]

/-- The first text of a list sorted in descending order is the last in text order. -/
theorem le_of_mem_sorted {texts : List String} {first : String}
    (isFirst : (texts.insertionSort (· ≥ ·)).head? = some first) {text : String}
    (member : text ∈ texts.insertionSort (· ≥ ·)) : text ≤ first := by
  have sorted := List.pairwise_insertionSort (· ≥ · : String → String → Prop) texts
  obtain ⟨rest, isSorted⟩ := List.head?_eq_some_iff.mp isFirst
  rw [isSorted] at sorted member
  rcases List.mem_cons.mp member with rfl | later
  · exact le_refl _
  · exact (List.pairwise_cons.mp sorted).1 text later

/-- Behind rows that the table accepts there is always a next number. -/
theorem exists_nextSequence {rows : List Certificate}
    (formats : ∀ row ∈ rows, isCertificateUidText row.certificateUid = true) (shortCode : String)
    (year : Int) : ∃ sequence, nextSequence (lastUid shortCode year rows) = some sequence := by
  cases last : lastUid shortCode year rows with
  | none => exact ⟨1, rfl⟩
  | some uid =>
      have member := List.mem_of_mem_head? last
      rw [List.mem_insertionSort, List.mem_filter, List.mem_map] at member
      obtain ⟨⟨row, isRow, rfl⟩, -⟩ := member
      obtain ⟨code, uidYear, digits, isUid, -, -, areDigits⟩ :=
        isCertificateUidText_iff.mp (formats row isRow)
      simp only [exactly, Bool.and_eq_true, beq_iff_eq, List.all_eq_true] at areDigits
      have regrouped : row.certificateUid.toList = (code ++ '-' :: uidYear) ++ '-' :: digits := by
        simpa using isUid
      exact ⟨_, by rw [nextSequence, parseInt?_digits regrouped areDigits.1 areDigits.2]; rfl⟩

/-- The next number is one, or follows the greatest number in use. -/
theorem nextSequence_cases {shortCode : String} {year : Int} (parts : UidParts shortCode year)
    {rows : List Certificate}
    (formats : ∀ row ∈ rows, isCertificateUidText row.certificateUid = true) :
    (nextSequence (lastUid shortCode year rows) = some 1 ∧
      ∀ row ∈ rows, ∀ sequence, row.certificateUid ≠ uidOf shortCode year sequence) ∨
    ∃ last ≤ 99999, nextSequence (lastUid shortCode year rows) = some (last + 1) ∧
      (∃ row ∈ rows, row.certificateUid = uidOf shortCode year last) ∧
      ∀ row ∈ rows, ∀ sequence ≤ 99999, row.certificateUid = uidOf shortCode year sequence →
        sequence ≤ last := by
  have listed : ∀ row ∈ rows, ∀ sequence, row.certificateUid = uidOf shortCode year sequence →
      row.certificateUid ∈ ((rows.map Certificate.certificateUid).filter fun uid =>
        CertificateRepository.like (shortCode ++ "-" ++ toString year ++ "-%").toList
          uid.toList).insertionSort (· ≥ ·) := by
    intro row member sequence isUid
    refine (mem_matching parts).mpr ⟨⟨row, member, rfl⟩, ?_⟩
    rw [isUid, toList_uidOf, List.isPrefixOf_iff_prefix]
    exact List.prefix_append _ _
  cases last : lastUid shortCode year rows with
  | none =>
      left
      refine ⟨rfl, fun row member sequence isUid => ?_⟩
      have found := listed row member sequence isUid
      rw [List.head?_eq_none_iff.mp last] at found
      exact absurd found List.not_mem_nil
  | some uid =>
      right
      obtain ⟨⟨row, member, rfl⟩, isPrefixed⟩ := (mem_matching parts).mp (List.mem_of_mem_head? last)
      obtain ⟨digits, isUid, length, areDigits⟩ := parts.digits (formats row member) isPrefixed
      obtain ⟨small, isNumber⟩ := eq_fiveDigits length areDigits
      have isUidOf : row.certificateUid = uidOf shortCode year (Nat.ofDigitChars 10 digits 0) := by
        apply String.toList_inj.mp
        rw [toList_uidOf, ← isNumber, isUid]
      have split : row.certificateUid.toList =
          (shortCode ++ "-" ++ toString year).toList ++ '-' :: digits := by
        rw [isUid]
        simp [uidPrefix]
      refine ⟨_, small, ?_, ⟨row, member, isUidOf⟩, ?_⟩
      · rw [nextSequence, parseInt?_digits split length areDigits]
        rfl
      · intro other isOther sequence smallOther isOtherUid
        by_contra larger
        -- A greater number would come later in text order.
        have less : row.certificateUid < other.certificateUid := by
          rw [String.lt_iff_toList_lt, isUidOf, isOtherUid, toList_uidOf, toList_uidOf]
          exact List.append_left_lt (fiveDigits_lt (not_le.mp larger) smallOther)
        have atMost := le_of_mem_sorted last (listed other isOther sequence isOtherUid)
        exact absurd atMost (not_le.mpr less)

/-- Unless the numbers have run out, there is a next one, and no row has its UID. -/
theorem nextSequence_fresh {shortCode : String} {year : Int} (parts : UidParts shortCode year)
    {rows : List Certificate}
    (formats : ∀ row ∈ rows, isCertificateUidText row.certificateUid = true)
    (remaining : ¬ Exhausted shortCode year rows) :
    ∃ sequence, nextSequence (lastUid shortCode year rows) = some sequence ∧ sequence ≤ 99999 ∧
      ∀ row ∈ rows, row.certificateUid ≠ uidOf shortCode year sequence := by
  rcases nextSequence_cases parts formats with ⟨next, unused⟩ | ⟨last, small, next, used, greatest⟩
  · exact ⟨1, next, by decide, fun row member => unused row member 1⟩
  · have notLast : last ≠ 99999 := by
      rintro rfl
      exact remaining used
    have smaller : last + 1 ≤ 99999 := by omega
    refine ⟨last + 1, next, smaller, fun row member isNext => ?_⟩
    have atMost := greatest row member (last + 1) smaller isNext
    omega

/-- The year of a UID is written without a sign. -/
theorem UidParts.toString_year {shortCode : String} {year : Int} (parts : UidParts shortCode year) :
    '-' ∉ (toString year).toList ∧ (toString year).toList = Nat.toDigits 10 year.toNat ∧
      0 ≤ year := by
  have yearText := parts.year
  simp only [exactly, Bool.and_eq_true, List.all_eq_true] at yearText
  have plain := dash_not_mem_digits yearText.2
  refine ⟨plain, ?_⟩
  rw [Int.toString_eq_repr, Int.repr_eq_if] at plain ⊢
  split at plain
  · rename_i nonnegative
    rw [if_pos nonnegative]
    exact ⟨Nat.toList_repr, nonnegative⟩
  · simp at plain

/-- A UID has one code, one year and one number. -/
theorem uidOf_inj {leftCode rightCode : String} {leftYear rightYear : Int}
    (left : UidParts leftCode leftYear) (right : UidParts rightCode rightYear)
    {leftSequence rightSequence : Nat}
    (same : uidOf leftCode leftYear leftSequence = uidOf rightCode rightYear rightSequence) :
    leftCode = rightCode ∧ leftYear = rightYear ∧ leftSequence = rightSequence := by
  have noDash : ∀ {code : String} {year : Int}, UidParts code year → '-' ∉ code.toList :=
    fun parts member => isUpperOrDigit_ne (List.all_eq_true.mp parts.code.2 _ member)
      (by decide : isUpperOrDigit '-' = false) rfl
  have texts := congrArg String.toList same
  have spelled : leftCode.toList ++ '-' :: ((toString leftYear).toList ++ '-' ::
      (fiveDigits leftSequence).toList) = rightCode.toList ++ '-' ::
        ((toString rightYear).toList ++ '-' :: (fiveDigits rightSequence).toList) := by
    simpa [toList_uidOf, uidPrefix] using texts
  obtain ⟨leftPlain, leftText, leftNonnegative⟩ := left.toString_year
  obtain ⟨rightPlain, rightText, rightNonnegative⟩ := right.toString_year
  obtain ⟨sameCode, sameRest⟩ := append_dash_inj (noDash left) (noDash right) spelled
  obtain ⟨sameYear, sameSequence⟩ := append_dash_inj leftPlain rightPlain sameRest
  refine ⟨String.toList_inj.mp sameCode, ?_, ?_⟩
  · have sameDigits := congrArg (fun digits => Nat.ofDigitChars 10 digits 0)
      (leftText.symm.trans (sameYear.trans rightText))
    simp only [Nat.ofDigitChars_ten_toDigits] at sameDigits
    omega
  · have sameNumber := congrArg (fun digits => Nat.ofDigitChars 10 digits 0) sameSequence
    simpa only [ofDigitChars_fiveDigits] using sameNumber

end AcademicCredential
