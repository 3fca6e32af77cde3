import Mathlib.Data.List.Basic

/-!
# Anchored regular expressions

Expressions over quantified character classes, the words they denote and a backtracking
matcher for the anchored expression `^expression$`. The flavours differ in what `$` accepts:
`re` takes the end of the text or the position before a line feed that ends it, PostgreSQL
the end only.
-/

namespace AcademicCredential.Lib

/-- A sequence of quantified character classes. -/
inductive Regex where
  /-- `[…]{count}` -/
  | times (count : Nat) (inClass : Char → Bool)
  /-- `[…]+` -/
  | plus (inClass : Char → Bool)
  | seq (first second : Regex)

namespace Regex

/-- A fixed text. -/
def literal (char : Char) : Regex := .times 1 (· == char)

/-- The words an expression denotes. -/
def Word : Regex → List Char → Prop
  | .times count inClass, word => word.length = count ∧ ∀ char ∈ word, inClass char = true
  | .plus inClass, word => word ≠ [] ∧ ∀ char ∈ word, inClass char = true
  | .seq first second, word =>
      ∃ front back, word = front ++ back ∧ first.Word front ∧ second.Word back

/-- Take `count` characters of a class and go on. -/
def runTimes (inClass : Char → Bool) : Nat → List Char → (List Char → Bool) → Bool
  | 0, text, next => next text
  | _ + 1, [], _ => false
  | count + 1, char :: text, next => inClass char && runTimes inClass count text next

/-- Take as many characters of a class as there are, at least one, and give back one after
another while the rest does not match. -/
def runPlus (inClass : Char → Bool) : List Char → (List Char → Bool) → Bool
  | [], _ => false
  | char :: text, next => inClass char && (runPlus inClass text next || next text)

/-- Match a prefix of the text and hand what is left to `next`. -/
def run : Regex → List Char → (List Char → Bool) → Bool
  | .times count inClass, text, next => runTimes inClass count text next
  | .plus inClass, text, next => runPlus inClass text next
  | .seq first second, text, next => first.run text fun rest => second.run rest next

/-- The repetition is run as its words say. -/
theorem runTimes_iff (inClass : Char → Bool) (count : Nat) (text : List Char)
    (next : List Char → Bool) :
    runTimes inClass count text next = true ↔
      ∃ word rest, text = word ++ rest ∧ (Regex.times count inClass).Word word ∧
        next rest = true := by
  induction count generalizing text with
  | zero =>
      constructor
      · intro goesOn
        exact ⟨[], text, rfl, by simp [Word], goesOn⟩
      · rintro ⟨word, rest, rfl, ⟨empty, -⟩, goesOn⟩
        rw [List.length_eq_zero_iff.mp empty]
        exact goesOn
  | succ count inductionHypothesis =>
      cases text with
      | nil =>
          constructor
          · intro impossible
            simp [runTimes] at impossible
          · rintro ⟨word, rest, split, ⟨length, -⟩, -⟩
            have empty := (List.nil_eq_append_iff.mp split).1
            simp [empty] at length
      | cons char text =>
          rw [runTimes, Bool.and_eq_true, inductionHypothesis]
          constructor
          · rintro ⟨member, word, rest, rfl, ⟨length, all⟩, goesOn⟩
            exact ⟨char :: word, rest, rfl, ⟨by simp [length], by simpa using ⟨member, all⟩⟩,
              goesOn⟩
          · rintro ⟨word, rest, split, ⟨length, all⟩, goesOn⟩
            obtain _ | ⟨first, word⟩ := word
            · simp at length
            · obtain ⟨rfl, rfl⟩ := List.cons_eq_cons.mp split
              simp only [List.mem_cons, forall_eq_or_imp] at all
              exact ⟨all.1, word, rest, rfl, ⟨by simpa using length, all.2⟩, goesOn⟩

/-- The repetition is run as its words say, with at least one character. -/
theorem runPlus_iff (inClass : Char → Bool) (text : List Char) (next : List Char → Bool) :
    runPlus inClass text next = true ↔
      ∃ word rest, text = word ++ rest ∧ (Regex.plus inClass).Word word ∧
        next rest = true := by
  induction text with
  | nil =>
      constructor
      · intro impossible
        simp [runPlus] at impossible
      · rintro ⟨word, rest, split, ⟨nonempty, -⟩, -⟩
        exact absurd (List.nil_eq_append_iff.mp split).1 nonempty
  | cons char text inductionHypothesis =>
      rw [runPlus, Bool.and_eq_true, Bool.or_eq_true, inductionHypothesis]
      constructor
      · rintro ⟨member, ⟨word, rest, rfl, ⟨-, all⟩, goesOn⟩ | goesOn⟩
        · exact ⟨char :: word, rest, rfl, ⟨by simp, by simpa using ⟨member, all⟩⟩, goesOn⟩
        · exact ⟨[char], text, rfl, ⟨by simp, by simpa using member⟩, goesOn⟩
      · rintro ⟨word, rest, split, ⟨nonempty, all⟩, goesOn⟩
        obtain _ | ⟨first, word⟩ := word
        · exact absurd rfl nonempty
        · obtain ⟨rfl, rfl⟩ := List.cons_eq_cons.mp split
          simp only [List.mem_cons, forall_eq_or_imp] at all
          refine ⟨all.1, ?_⟩
          cases word with
          | nil => exact Or.inr goesOn
          | cons second word =>
              exact Or.inl ⟨second :: word, rest, rfl, ⟨by simp, all.2⟩, goesOn⟩

/-- The matcher tries every word of the expression that the text begins with. -/
theorem run_iff (regex : Regex) (text : List Char) (next : List Char → Bool) :
    regex.run text next = true ↔
      ∃ word rest, text = word ++ rest ∧ regex.Word word ∧ next rest = true := by
  induction regex generalizing text next with
  | times count inClass => exact runTimes_iff inClass count text next
  | plus inClass => exact runPlus_iff inClass text next
  | seq first second firstHypothesis secondHypothesis =>
      simp only [run, firstHypothesis, secondHypothesis]
      constructor
      · rintro ⟨front, _, rfl, isFront, back, rest, rfl, isBack, goesOn⟩
        exact ⟨front ++ back, rest, by simp, ⟨front, back, rfl, isFront, isBack⟩, goesOn⟩
      · rintro ⟨_, rest, rfl, ⟨front, back, rfl, isFront, isBack⟩, goesOn⟩
        exact ⟨front, back ++ rest, by simp, isFront, back, rest, rfl, isBack, goesOn⟩

/-- How `$` is read. -/
inductive Flavour where
  | python
  | postgresql
  deriving DecidableEq, Repr

/-- What may be left of the text where `$` stands. -/
def Flavour.atEnd : Flavour → List Char → Bool
  | .python, rest => rest == [] || rest == ['\n']
  | .postgresql, rest => rest == []

/-- `^expression$` finds a match in the text. -/
def isMatch (flavour : Flavour) (regex : Regex) (text : String) : Bool :=
  regex.run text.toList flavour.atEnd

/-- PostgreSQL accepts exactly the words. -/
theorem isMatch_postgresql_iff (regex : Regex) (text : String) :
    regex.isMatch .postgresql text = true ↔ regex.Word text.toList := by
  rw [isMatch, run_iff]
  constructor
  · rintro ⟨word, rest, split, isWord, atEnd⟩
    have empty : rest = [] := by simpa [Flavour.atEnd] using atEnd
    rw [split, empty, List.append_nil]
    exact isWord
  · intro isWord
    exact ⟨text.toList, [], by simp, isWord, by simp [Flavour.atEnd]⟩

/-- Python accepts the words and the words followed by one line feed. -/
theorem isMatch_python_iff (regex : Regex) (text : String) :
    regex.isMatch .python text = true ↔
      regex.Word text.toList ∨ ∃ word, regex.Word word ∧ text.toList = word ++ ['\n'] := by
  rw [isMatch, run_iff]
  constructor
  · rintro ⟨word, rest, split, isWord, atEnd⟩
    have ending : rest = [] ∨ rest = ['\n'] := by simpa [Flavour.atEnd] using atEnd
    rcases ending with rfl | rfl
    · rw [split, List.append_nil]
      exact Or.inl isWord
    · exact Or.inr ⟨word, isWord, split⟩
  · rintro (isWord | ⟨word, isWord, split⟩)
    · exact ⟨text.toList, [], by simp, isWord, by simp [Flavour.atEnd]⟩
    · exact ⟨word, ['\n'], split, isWord, by simp [Flavour.atEnd]⟩

/-- A character that may stand in a word of the expression. -/
def Allows : Regex → Char → Prop
  | .times _ inClass, char => inClass char = true
  | .plus inClass, char => inClass char = true
  | .seq first second, char => first.Allows char ∨ second.Allows char

/-- The characters of a word are those that the pattern allows. -/
theorem Word.allows {regex : Regex} {word : List Char} (isWord : regex.Word word) :
    ∀ char ∈ word, regex.Allows char := by
  induction regex generalizing word with
  | times count inClass => exact isWord.2
  | plus inClass => exact isWord.2
  | seq first second firstHypothesis secondHypothesis =>
      obtain ⟨front, back, rfl, isFront, isBack⟩ := isWord
      intro char member
      rcases List.mem_append.mp member with early | late
      · exact Or.inl (firstHypothesis isFront char early)
      · exact Or.inr (secondHypothesis isBack char late)

end Regex
end AcademicCredential.Lib
