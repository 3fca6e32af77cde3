import Mathlib.Data.List.Sort
import Mathlib.Data.List.Perm.Basic
import Mathlib.Data.Prod.Lex

/-!
# Pages of a sorted query

A result is read page by page, and every page is cut from an arrangement of its own among
those that a choice allows: the ties that a sort leaves may fall differently each time.
`partition_iff_cleanCuts` says when the pages together are the result nevertheless.
-/

namespace AcademicCredential.Lib.Paging

section pages

variable {Row : Type} {rows left right : List Row} {size count index : Nat}

/-- `OFFSET index * size LIMIT size`. -/
def pageAt (size index : Nat) (rows : List Row) : List Row := (rows.drop (index * size)).take size

/-- The first pages, each of an arrangement of its own. -/
def pages (size : Nat) (arrangements : Nat → List Row) (count : Nat) : List (List Row) :=
  (List.range count).map fun index => pageAt size index (arrangements index)

/-- One page more adds its rows behind the others. -/
theorem flatten_pages_succ (size : Nat) (arrangements : Nat → List Row) (count : Nat) :
    (pages size arrangements (count + 1)).flatten =
      (pages size arrangements count).flatten ++ pageAt size count (arrangements count) := by
  simp [pages, List.range_succ]

/-- The rows up to the next page are those before it and the page. -/
theorem take_succ_mul (size index : Nat) (rows : List Row) :
    rows.take ((index + 1) * size) = rows.take (index * size) ++ pageAt size index rows := by
  rw [Nat.succ_mul, List.take_add, pageAt]

/-- The pages of one arrangement are what it begins with. -/
theorem flatten_pages_const (size : Nat) (rows : List Row) (count : Nat) :
    (pages size (fun _ => rows) count).flatten = rows.take (count * size) := by
  induction count with
  | zero => simp [pages]
  | succ count inductionHypothesis =>
      rw [flatten_pages_succ, inductionHypothesis, take_succ_mul]

/-- Pages before `index` from one arrangement, the others from another. -/
def switchAt (index : Nat) (left right : List Row) (page : Nat) : List Row :=
  if page < index then left else right

/-- When the arrangement changes between two pages, the first rows are of the old one and the
others of the new. -/
theorem flatten_pages_switchAt (size index later : Nat) (left right : List Row) :
    (pages size (switchAt index left right) (index + later)).flatten =
      left.take (index * size) ++ (right.drop (index * size)).take (later * size) := by
  induction later with
  | zero =>
      have same : pages size (switchAt index left right) index = pages size (fun _ => left) index := by
        apply List.map_congr_left
        intro page member
        rw [switchAt, if_pos (List.mem_range.mp member)]
      simp [same, flatten_pages_const]
  | succ later inductionHypothesis =>
      have behind : ¬ index + later < index := by omega
      rw [← Nat.add_assoc, flatten_pages_succ, inductionHypothesis, switchAt, if_neg behind, pageAt,
        Nat.succ_mul, List.take_add, List.append_assoc, Nat.add_mul, List.drop_drop]

/-- Where all prefixes agree up to their order, so do the pages. -/
theorem flatten_pages_perm {arrangements : Nat → List Row}
    (agree : ∀ page index, ((arrangements page).take (index * size)).Perm
      (rows.take (index * size))) (count : Nat) :
    (pages size arrangements count).flatten.Perm (rows.take (count * size)) := by
  induction count with
  | zero => simp [pages]
  | succ count inductionHypothesis =>
      have upTo := agree count (count + 1)
      rw [take_succ_mul, take_succ_mul] at upTo
      have samePage := (List.perm_append_left_iff _).mp
        (((agree count count).symm.append_right _).trans upTo)
      rw [flatten_pages_succ, take_succ_mul]
      exact inductionHypothesis.append samePage

/-- Whatever arrangement each page is cut from, the pages together are the rows, exactly if all
arrangements have the same rows in front of every page. -/
theorem partition_iff {Choice : Type} {arrange : Choice → List Row}
    (perm : ∀ choice, (arrange choice).Perm rows) (choice : Choice)
    (enough : rows.length ≤ count * size) :
    (∀ choices : Nat → Choice,
        (pages size (fun page => arrange (choices page)) count).flatten.Perm rows) ↔
      ∀ left right index,
        ((arrange left).take (index * size)).Perm ((arrange right).take (index * size)) := by
  have length : ∀ choice, (arrange choice).length ≤ count * size :=
    fun choice => (perm choice).length_eq.trans_le enough
  constructor
  · intro partition left right index
    by_cases beyond : count ≤ index
    · have whole := Nat.mul_le_mul_right size beyond
      rw [List.take_of_length_le ((length left).trans whole),
        List.take_of_length_le ((length right).trans whole)]
      exact (perm left).trans (perm right).symm
    · obtain ⟨later, rfl⟩ := Nat.exists_eq_add_of_le (Nat.le_of_not_le beyond)
      have mixed := partition fun page => if page < index then left else right
      have same : (fun page => arrange (if page < index then left else right)) =
          switchAt index (arrange left) (arrange right) := by
        funext page
        exact apply_ite arrange _ left right
      have rest : ((arrange right).drop (index * size)).take (later * size) =
          (arrange right).drop (index * size) := by
        apply List.take_of_length_le
        have short := length right
        rw [Nat.add_mul] at short
        rw [List.length_drop]
        omega
      rw [same, flatten_pages_switchAt, rest] at mixed
      have whole := mixed.trans (perm right).symm
      exact (List.perm_append_right_iff _).mp
        (whole.trans (List.Perm.of_eq (List.take_append_drop (index * size) _).symm))
  · intro agree choices
    have together := flatten_pages_perm (fun page index => agree (choices page) choice index) count
    rw [List.take_of_length_le (length choice)] at together
    exact together.trans (perm choice)

end pages

section sorted

variable {Row Key : Type} [LinearOrder Key] {key : Row → Key} {rows left right : List Row}

/-- `ORDER BY key DESC`. -/
def Descending (key : Row → Key) (rows : List Row) : Prop :=
  rows.Pairwise fun earlier later => key later ≤ key earlier

/-- The position falls between two keys: the rows in front of it are those from some key on. -/
def CleanCut (key : Row → Key) (rows : List Row) (position : Nat) : Prop :=
  ∃ row ∈ rows, rows.countP (fun other => key row ≤ key other) = position

instance (key : Row → Key) (rows : List Row) (position : Nat) :
    Decidable (CleanCut key rows position) :=
  inferInstanceAs (Decidable (∃ row ∈ rows, _))

/-- Whether a cut is clean does not depend on the order. -/
theorem CleanCut.perm (same : left.Perm right) {position : Nat} :
    CleanCut key left position ↔ CleanCut key right position := by
  simp only [CleanCut, same.mem_iff, same.countP_eq]

/-- A condition that larger keys meet too holds of the first rows only. -/
theorem Descending.eq_filter_append {condition : Row → Bool} (sorted : Descending key rows)
    (up : ∀ smaller larger, key smaller ≤ key larger → condition smaller = true →
      condition larger = true) :
    rows = rows.filter condition ++ rows.filter fun row => !condition row := by
  induction rows with
  | nil => rfl
  | cons row rows inductionHypothesis =>
      obtain ⟨below, rest⟩ := List.pairwise_cons.mp sorted
      cases holds : condition row with
      | true =>
          rw [List.filter_cons_of_pos holds, List.filter_cons_of_neg (by simp [holds]),
            List.cons_append, ← inductionHypothesis rest]
      | false =>
          have none : ∀ later ∈ rows, condition later = false := by
            intro later member
            by_contra isTrue
            have above := up later row (below later member) (by simpa using isTrue)
            rw [holds] at above
            cases above
          rw [List.filter_cons_of_neg (by simp [holds]), List.filter_cons_of_pos (by simp [holds]),
            List.filter_eq_nil_iff.mpr (by simpa using none),
            List.filter_eq_self.mpr (by simpa using none)]
          rfl

/-- Of sorted rows the larger ones come first. -/
theorem Descending.take_countP {condition : Row → Bool} (sorted : Descending key rows)
    (up : ∀ smaller larger, key smaller ≤ key larger → condition smaller = true →
      condition larger = true) :
    rows.take (rows.countP condition) = rows.filter condition := by
  have split := sorted.eq_filter_append up
  rw [List.countP_eq_length_filter]
  calc rows.take (rows.filter condition).length
      = (rows.filter condition ++ rows.filter fun row => !condition row).take
          (rows.filter condition).length := congrArg _ split
    _ = rows.filter condition := List.take_left

/-- Being at least the bound goes up with the key. -/
theorem le_up (bound : Key) : ∀ smaller larger : Row, key smaller ≤ key larger →
    decide (bound ≤ key smaller) = true → decide (bound ≤ key larger) = true := by
  intro smaller larger ordered holds
  exact decide_eq_true ((of_decide_eq_true holds).trans ordered)

/-- Being above the bound goes up with the key. -/
theorem lt_up (bound : Key) : ∀ smaller larger : Row, key smaller ≤ key larger →
    decide (bound < key smaller) = true → decide (bound < key larger) = true := by
  intro smaller larger ordered holds
  exact decide_eq_true ((of_decide_eq_true holds).trans_le ordered)

/-- In front of a clean cut all arrangements have the same rows. -/
theorem CleanCut.take_perm {position : Nat} (clean : CleanCut key left position)
    (sortedLeft : Descending key left) (sortedRight : Descending key right)
    (same : left.Perm right) : (left.take position).Perm (right.take position) := by
  obtain ⟨row, -, rfl⟩ := clean
  rw [sortedLeft.take_countP (le_up (key row)), same.countP_eq,
    sortedRight.take_countP (le_up (key row))]
  exact same.filter _

/-- The rows with a key, in the order of the arrangement. -/
def ties (key : Row → Key) (bound : Key) (rows : List Row) : List Row :=
  rows.filter fun row => key row = bound

/-- The rows from a key on: first the larger ones, then the ties. -/
theorem Descending.filter_le (sorted : Descending key rows) (bound : Key) :
    (rows.filter fun row => bound ≤ key row) =
      (rows.filter fun row => bound < key row) ++ ties key bound rows := by
  have sortedFront : Descending key (rows.filter fun row => bound ≤ key row) := sorted.filter _
  have split := sortedFront.eq_filter_append (lt_up bound)
  simp only [List.filter_filter] at split
  refine split.trans (congrArg₂ _ (List.filter_congr ?_) (List.filter_congr ?_))
  · intro row _
    rw [Bool.eq_iff_iff]
    simpa using fun above => le_of_lt above
  · intro row _
    rw [Bool.eq_iff_iff, Bool.and_eq_true, Bool.not_eq_true', decide_eq_false_iff_not,
      decide_eq_true_eq, decide_eq_true_eq, not_lt]
    exact le_antisymm_iff.symm

/-- The last row in front of a position has the smallest key there, and the largest key of all
rows behind it. -/
theorem Descending.exists_last (sorted : Descending key rows) {position : Nat}
    (positive : 0 < position) (inside : position < rows.length) :
    ∃ last ∈ rows, (∀ row ∈ rows.take position, key last ≤ key row) ∧
      ∀ row ∈ rows.drop (position - 1), key row ≤ key last := by
  have bound : position - 1 < rows.length := by omega
  refine ⟨rows[position - 1], List.getElem_mem bound, ?_, ?_⟩
  · intro row member
    obtain ⟨index, inTake, rfl⟩ := List.getElem_of_mem member
    rw [List.getElem_take]
    rw [List.length_take] at inTake
    rcases Nat.lt_or_ge index (position - 1) with earlier | isLast
    · exact List.pairwise_iff_getElem.mp sorted index (position - 1) (by omega) bound earlier
    · obtain rfl : index = position - 1 := by omega
      exact le_refl _
  · intro row member
    obtain ⟨index, inDrop, rfl⟩ := List.getElem_of_mem member
    rw [List.getElem_drop]
    rw [List.length_drop] at inDrop
    rcases Nat.eq_zero_or_pos index with rfl | later
    · exact le_refl _
    · exact List.pairwise_iff_getElem.mp sorted (position - 1) (position - 1 + index)
        bound (by omega) (by omega)

/-- A position that is no clean cut falls between ties. -/
theorem Descending.exists_tie (sorted : Descending key rows) {position : Nat}
    (positive : 0 < position) (inside : position < rows.length)
    (unclean : ¬ CleanCut key rows position) :
    ∃ bound, rows.countP (fun row => bound < key row) < position ∧
      position < rows.countP fun row => bound ≤ key row := by
  obtain ⟨last, member, front, behind⟩ := sorted.exists_last positive inside
  refine ⟨key last, ?_, ?_⟩
  · have none : (rows.drop (position - 1)).countP (fun row => key last < key row) = 0 := by
      rw [List.countP_eq_zero]
      intro row isBehind
      simpa using behind row isBehind
    have counted : (rows.take (position - 1) ++ rows.drop (position - 1)).countP
        (fun row => key last < key row) =
      (rows.take (position - 1)).countP (fun row => key last < key row) +
        (rows.drop (position - 1)).countP fun row => key last < key row := List.countP_append
    have atMost : (rows.take (position - 1)).countP (fun row => key last < key row) ≤
        (rows.take (position - 1)).length := List.countP_le_length
    rw [List.take_append_drop, none] at counted
    rw [List.length_take] at atMost
    omega
  · have all : (rows.take position).countP (fun row => key last ≤ key row) =
        (rows.take position).length := List.countP_eq_length.mpr (by simpa using front)
    have within : (rows.take position).countP (fun row => key last ≤ key row) ≤
        rows.countP fun row => key last ≤ key row := (List.take_sublist position rows).countP_le
    have apart : rows.countP (fun row => key last ≤ key row) ≠ position :=
      fun same => unclean ⟨last, member, same⟩
    rw [all, List.length_take] at within
    omega

/-- What is in front of a position between ties. -/
theorem Descending.take_between (sorted : Descending key rows) {bound : Key} {position : Nat}
    (above : rows.countP (fun row => bound < key row) ≤ position)
    (below : position ≤ rows.countP fun row => bound ≤ key row) :
    rows.take position = (rows.filter fun row => bound < key row) ++
      (ties key bound rows).take (position - rows.countP fun row => bound < key row) := by
  have front := sorted.take_countP (le_up bound)
  rw [sorted.filter_le] at front
  have shorter := congrArg (List.take position) front
  rw [List.take_take, Nat.min_eq_left below, List.take_append, ← List.countP_eq_length_filter]
    at shorter
  rw [shorter, List.take_of_length_le]
  rw [← List.countP_eq_length_filter]
  exact above

/-- In front of a position between ties, two arrangements that have the ties in opposite order
have different rows. -/
theorem Descending.not_take_perm (sortedLeft : Descending key left)
    (sortedRight : Descending key right) (same : left.Perm right) (distinct : left.Nodup)
    {bound : Key} (reversed : ties key bound right = (ties key bound left).reverse)
    {position : Nat} (above : left.countP (fun row => bound < key row) < position)
    (below : position < left.countP fun row => bound ≤ key row) :
    ¬ (left.take position).Perm (right.take position) := by
  intro agree
  have countRight := same.countP_eq fun row => decide (bound ≤ key row)
  have largerRight := same.countP_eq fun row => decide (bound < key row)
  rw [sortedLeft.take_between above.le below.le, sortedRight.take_between (largerRight ▸ above.le)
    (countRight ▸ below.le), ← largerRight, reversed] at agree
  have larger : (left.filter fun row => bound < key row).Perm
      (right.filter fun row => bound < key row) := same.filter _
  have tiesAgree := (List.perm_append_left_iff _).mp ((larger.symm.append_right _).trans agree)
  have total : (ties key bound left).length =
      left.countP (fun row => bound ≤ key row) - left.countP fun row => bound < key row := by
    have split := congrArg List.length (sortedLeft.filter_le bound)
    rw [List.length_append, ← List.countP_eq_length_filter, ← List.countP_eq_length_filter] at split
    omega
  have nodup : (ties key bound left).Nodup := distinct.filter _
  generalize ties key bound left = tied at tiesAgree total nodup
  obtain _ | ⟨first, tied⟩ := tied
  · simp at total
    omega
  · -- The first of the ties is the last one in the other arrangement, behind the position.
    have isIn : first ∈ (first :: tied).take
        (position - left.countP fun row => bound < key row) := by
      obtain ⟨count, isCount⟩ : ∃ count,
          position - left.countP (fun row => bound < key row) = count + 1 :=
        ⟨position - left.countP (fun row => bound < key row) - 1, by omega⟩
      rw [isCount]
      exact List.mem_cons_self
    have isInReverse := tiesAgree.mem_iff.mp isIn
    rw [List.reverse_cons, List.take_append_of_le_length] at isInReverse
    · have later := List.mem_of_mem_take isInReverse
      exact (List.nodup_cons.mp nodup).1 (List.mem_reverse.mp later)
    · rw [List.length_cons] at total
      rw [List.length_reverse]
      omega

/-- The stable sort that `ORDER BY key DESC` asks for. -/
def sortDescending (key : Row → Key) (rows : List Row) : List Row :=
  rows.insertionSort fun earlier later => key later ≤ key earlier

/-- Sorting keeps the rows. -/
theorem sortDescending_perm (key : Row → Key) (rows : List Row) :
    (sortDescending key rows).Perm rows := List.perm_insertionSort _ rows

/-- Sorted rows descend. -/
theorem sortDescending_descending (key : Row → Key) (rows : List Row) :
    Descending key (sortDescending key rows) := by
  have total : Std.Total fun earlier later : Row => key later ≤ key earlier :=
    ⟨fun earlier later => le_total (key later) (key earlier)⟩
  have trans : IsTrans Row fun earlier later => key later ≤ key earlier :=
    ⟨fun _ _ _ first second => second.trans first⟩
  exact List.pairwise_insertionSort _ rows

/-- Ties keep their order. -/
theorem ties_sortDescending (key : Row → Key) (bound : Key) (rows : List Row) :
    ties key bound (sortDescending key rows) = ties key bound rows := by
  have total : Std.Total fun earlier later : Row => key later ≤ key earlier :=
    ⟨fun earlier later => le_total (key later) (key earlier)⟩
  have trans : IsTrans Row fun earlier later => key later ≤ key earlier :=
    ⟨fun _ _ _ first second => second.trans first⟩
  have tied : (ties key bound rows).Pairwise fun earlier later => key later ≤ key earlier := by
    rw [ties, List.pairwise_filter]
    refine List.pairwise_of_forall fun earlier later isEarlier isLater => ?_
    rw [of_decide_eq_true isEarlier, of_decide_eq_true isLater]
  have kept : (ties key bound rows).Sublist (sortDescending key rows) :=
    List.sublist_insertionSort tied List.filter_sublist
  have within := kept.filter fun row => decide (key row = bound)
  rw [ties, List.filter_filter] at within
  simp only [Bool.and_self] at within
  exact (within.eq_of_length ((sortDescending_perm key rows).filter _).length_eq.symm).symm

/-- Sorting rows that a second key has sorted already sorts them by both keys. -/
theorem sortDescending_lex {Second : Type} [LinearOrder Second] {second : Row → Second}
    (sorted : Descending second rows) :
    sortDescending key rows = sortDescending (fun row => toLex (key row, second row)) rows := by
  induction rows with
  | nil => rfl
  | cons row rows inductionHypothesis =>
      obtain ⟨below, rest⟩ := List.pairwise_cons.mp sorted
      have tail := inductionHypothesis rest
      rw [sortDescending, List.insertionSort_cons, ← sortDescending, tail]
      rw [sortDescending, sortDescending, List.insertionSort_cons, ← sortDescending]
      have among : ∀ other ∈ sortDescending (fun row => toLex (key row, second row)) rows,
          second other ≤ second row := fun other member =>
        below other ((sortDescending_perm _ rows).mem_iff.mp member)
      generalize sortDescending (fun row => toLex (key row, second row)) rows = others at among
      induction others with
      | nil => rfl
      | cons other others othersHypothesis =>
          have smaller := among other List.mem_cons_self
          have same : key other ≤ key row ↔
              toLex (key other, second other) ≤ toLex (key row, second row) := by
            rw [Prod.Lex.toLex_le_toLex]
            constructor
            · intro ordered
              exact (lt_or_eq_of_le ordered).imp_right fun equal => ⟨equal, smaller⟩
            · rintro (strict | ⟨equal, -⟩)
              · exact strict.le
              · exact equal.le
          rw [List.orderedInsert_cons, List.orderedInsert_cons]
          by_cases ordered : key other ≤ key row
          · rw [if_pos ordered, if_pos (same.mp ordered)]
          · rw [if_neg ordered, if_neg (mt same.mpr ordered), othersHypothesis fun next member =>
              among next (List.mem_cons_of_mem _ member)]

/-- All arrangements show the same keys. -/
theorem Descending.map_key (sortedLeft : Descending key left) (sortedRight : Descending key right)
    (same : left.Perm right) : left.map key = right.map key := by
  have keysLeft : (left.map key).Pairwise fun earlier later => later ≤ earlier :=
    List.pairwise_map.mpr sortedLeft
  have keysRight : (right.map key).Pairwise fun earlier later => later ≤ earlier :=
    List.pairwise_map.mpr sortedRight
  refine (same.map key).eq_of_pairwise ?_ keysLeft keysRight
  intro first second _ _ down up
  exact le_antisymm up down

/-- A row behind a position is outnumbered by the rows that are not smaller. -/
theorem Descending.lt_countP (sorted : Descending key rows) {row : Row} {position : Nat}
    (behind : row ∈ rows.drop position) :
    position < rows.countP fun other => key row ≤ key other := by
  have inside : position < rows.length := by
    by_contra beyond
    rw [List.drop_of_length_le (Nat.le_of_not_lt beyond)] at behind
    cases behind
  have split : Descending key (rows.take position ++ rows.drop position) :=
    (List.take_append_drop position rows).symm ▸ sorted
  have front : ∀ other ∈ rows.take position, key row ≤ key other := fun other member =>
    (List.pairwise_append.mp split).2.2 other member row behind
  have counted : (rows.take position ++ rows.drop position).countP
      (fun other => key row ≤ key other) =
    (rows.take position).countP (fun other => key row ≤ key other) +
      (rows.drop position).countP fun other => key row ≤ key other := List.countP_append
  have all : (rows.take position).countP (fun other => key row ≤ key other) =
      (rows.take position).length := List.countP_eq_length.mpr (by simpa using front)
  have some : 0 < (rows.drop position).countP fun other => key row ≤ key other :=
    List.countP_pos_iff.mpr ⟨row, behind, by simp⟩
  rw [List.take_append_drop, all, List.length_take] at counted
  omega

/-- What a query with `ORDER BY key DESC` may make of its rows. -/
structure RowOrder (key : Row → Key) where
  arrange : List Row → List Row
  perm : ∀ rows, (arrange rows).Perm rows
  descending : ∀ rows, Descending key (arrange rows)

namespace RowOrder

/-- Ties keep the order of the table. -/
def stable (key : Row → Key) : RowOrder key where
  arrange := sortDescending key
  perm := sortDescending_perm key
  descending := sortDescending_descending key

/-- Ties have the opposite order. -/
def turned (key : Row → Key) : RowOrder key where
  arrange rows := sortDescending key rows.reverse
  perm rows := (sortDescending_perm key _).trans (List.reverse_perm rows)
  descending _ := sortDescending_descending key _

/-- Turning an order reverses its ties. -/
theorem ties_turned (key : Row → Key) (bound : Key) (rows : List Row) :
    ties key bound ((turned key).arrange rows) =
      (ties key bound ((stable key).arrange rows)).reverse := by
  change ties key bound (sortDescending key rows.reverse) =
    (ties key bound (sortDescending key rows)).reverse
  rw [ties_sortDescending, ties_sortDescending, ties, ties, List.filter_reverse]

/-- The given row is the last one among its ties. -/
def last [DecidableEq Row] (key : Row → Key) (row : Row) : RowOrder key where
  arrange rows :=
    sortDescending key ((rows.filter fun other => other ≠ row) ++ rows.filter (· = row))
  perm rows := by
    refine (sortDescending_perm key _).trans (List.Perm.trans ?_
      (List.filter_append_perm (fun other => decide (other ≠ row)) rows))
    refine List.Perm.append_left _ (List.Perm.of_eq (List.filter_congr fun other _ => ?_))
    simp
  descending _ := sortDescending_descending key _

/-- A row may come behind a position that fewer rows than the larger ones and its ties fill. -/
theorem mem_drop_last [DecidableEq Row] {row : Row} (member : row ∈ rows) {position : Nat}
    (outnumbered : position < rows.countP fun other => key row ≤ key other) :
    row ∈ ((last key row).arrange rows).drop position := by
  have sorted := (last key row).descending rows
  have split := sorted.eq_filter_append (le_up (key row))
  have counted := ((last key row).perm rows).countP_eq fun other =>
    decide (key row ≤ key other)
  have tied : ties key (key row) ((last key row).arrange rows) =
      ties key (key row) (rows.filter fun other => other ≠ row) ++ rows.filter (· = row) := by
    have same : ties key (key row) (rows.filter (· = row)) = rows.filter (· = row) :=
      List.filter_eq_self.mpr fun other isRow => by
        have equal := (List.mem_filter.mp isRow).2
        simpa using congrArg key (of_decide_eq_true equal)
    change ties key (key row) (sortDescending key _) = _
    rw [ties_sortDescending, ties, List.filter_append, ← ties, ← ties, same]
  obtain ⟨front, isLast⟩ : ∃ front, rows.filter (· = row) = front ++ [row] := by
    have nonempty : rows.filter (· = row) ≠ [] :=
      List.ne_nil_of_mem (List.mem_filter.mpr ⟨member, by simp⟩)
    have equal := (List.mem_filter.mp (List.getLast_mem nonempty)).2
    have ends := List.dropLast_append_getLast nonempty
    rw [of_decide_eq_true equal] at ends
    exact ⟨_, ends.symm⟩
  rw [sorted.filter_le, tied, isLast, ← List.append_assoc, ← List.append_assoc] at split
  have length := congrArg List.length (sorted.filter_le (key row))
  rw [tied, isLast, ← List.countP_eq_length_filter, counted, ← List.append_assoc,
    ← List.append_assoc, List.length_append, List.length_singleton] at length
  rw [split, List.append_assoc, List.drop_append_of_le_length (by omega)]
  exact List.mem_append_right _ (List.mem_append_left _ (List.mem_singleton_self row))

end RowOrder

variable {Choice : Type} {arrange : Choice → List Row}

/-- Where the choice can turn the ties around, all arrangements agree on what is in front of a
position exactly if it is a clean cut. -/
theorem prefixes_agree_iff (perm : ∀ choice, (arrange choice).Perm rows)
    (sorted : ∀ choice, Descending key (arrange choice)) (distinct : rows.Nodup)
    {stable turned : Choice}
    (reversed : ∀ bound, ties key bound (arrange turned) =
      (ties key bound (arrange stable)).reverse) (position : Nat) :
    (∀ left right, ((arrange left).take position).Perm ((arrange right).take position)) ↔
      (0 < position → position < rows.length → CleanCut key rows position) := by
  constructor
  · intro agree positive inside
    by_contra unclean
    have uncleanStable : ¬ CleanCut key (arrange stable) position :=
      fun clean => unclean ((CleanCut.perm (perm stable)).mp clean)
    have insideStable : position < (arrange stable).length :=
      (perm stable).length_eq.symm ▸ inside
    obtain ⟨bound, above, below⟩ :=
      (sorted stable).exists_tie positive insideStable uncleanStable
    exact (sorted stable).not_take_perm (sorted turned)
      ((perm stable).trans (perm turned).symm) ((perm stable).nodup_iff.mpr distinct)
      (reversed bound) above below (agree stable turned)
  · intro clean left right
    have same := (perm left).trans (perm right).symm
    rcases Nat.eq_zero_or_pos position with rfl | positive
    · simp
    · rcases Nat.lt_or_ge position rows.length with inside | beyond
      · exact ((CleanCut.perm (perm left)).mpr (clean positive inside)).take_perm
          (sorted left) (sorted right) same
      · rw [List.take_of_length_le ((perm left).length_eq.trans_le beyond),
          List.take_of_length_le ((perm right).length_eq.trans_le beyond)]
        exact same

/-- Whatever arrangement each page is cut from, the pages together are the rows, exactly if no
page ends between ties. -/
theorem partition_iff_cleanCuts {size count : Nat} (perm : ∀ choice, (arrange choice).Perm rows)
    (sorted : ∀ choice, Descending key (arrange choice)) (distinct : rows.Nodup)
    {stable turned : Choice}
    (reversed : ∀ bound, ties key bound (arrange turned) =
      (ties key bound (arrange stable)).reverse)
    (enough : rows.length ≤ count * size) :
    (∀ choices : Nat → Choice,
        (pages size (fun page => arrange (choices page)) count).flatten.Perm rows) ↔
      ∀ index, 0 < index * size → index * size < rows.length →
        CleanCut key rows (index * size) := by
  rw [partition_iff perm stable enough]
  constructor
  · intro agree index
    exact (prefixes_agree_iff perm sorted distinct reversed _).mp
      fun left right => agree left right index
  · intro clean left right index
    exact (prefixes_agree_iff perm sorted distinct reversed _).mpr (clean index) left right

/-- The pages together are sorted. -/
theorem flatten_pages_descending (perm : ∀ choice, (arrange choice).Perm rows)
    (sorted : ∀ choice, Descending key (arrange choice)) (size count : Nat)
    (choices : Nat → Choice) :
    Descending key (pages size (fun page => arrange (choices page)) count).flatten := by
  have sameKeys : ∀ page, (arrange (choices page)).map key = (arrange (choices 0)).map key :=
    fun page => (sorted _).map_key (sorted _) ((perm _).trans (perm _).symm)
  have keys : (pages size (fun page => arrange (choices page)) count).flatten.map key =
      (pages size (fun _ => (arrange (choices 0)).map key) count).flatten := by
    simp only [pages, List.map_flatten, List.map_map]
    refine congrArg _ (List.map_congr_left fun page _ => ?_)
    simp only [Function.comp_apply, pageAt, List.map_take, List.map_drop, sameKeys]
  have sortedKeys : ((arrange (choices 0)).map key).Pairwise fun earlier later =>
      later ≤ earlier := List.pairwise_map.mpr (sorted _)
  have together : ((pages size (fun page => arrange (choices page)) count).flatten.map
      key).Pairwise fun earlier later => later ≤ earlier := by
    rw [keys, flatten_pages_const]
    exact sortedKeys.sublist (List.take_sublist _ _)
  exact List.pairwise_map.mp together

end sorted
end AcademicCredential.Lib.Paging
