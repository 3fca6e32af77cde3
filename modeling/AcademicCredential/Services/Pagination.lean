import AcademicCredential.Core
import AcademicCredential.Lib.Paging

/-!
# Paginated responses

`PaginationMeta.build`, and what a client reads that asks for page after page while there is a
next one. Every request is answered on its own: where a query leaves a choice, such as the order
of ties, each request may make another one.
-/

namespace AcademicCredential

open AcademicCredential.Lib.Paging

/-- `PaginationMeta`. -/
structure PaginationMeta where
  total : Nat
  page : Nat
  limit : Nat
  pages : Nat
  hasNext : Bool
  hasPrev : Bool
  deriving DecidableEq, Repr

/-- `math.ceil(total / limit)`; the quotient of two counts of rows is exact enough as a float. -/
def ceilDiv (total limit : Nat) : Nat := (total + limit - 1) / limit

/-- `PaginationMeta.build`. -/
def PaginationMeta.build (total page limit : Nat) : PaginationMeta :=
  let pages := if limit > 0 then max 1 (ceilDiv total limit) else 1
  { total, page, limit, pages, hasNext := page < pages, hasPrev := page > 1 }

/-- The number of pages a response tells. -/
def pageCount (total limit : Nat) : Nat := (PaginationMeta.build total 1 limit).pages

/-- There is a next page exactly before the last. -/
theorem hasNext_build (total page limit : Nat) :
    (PaginationMeta.build total page limit).hasNext = decide (page < pageCount total limit) := rfl

/-- There is at least one page. -/
theorem pageCount_positive (total limit : Nat) : 0 < pageCount total limit := by
  rw [pageCount, PaginationMeta.build]
  change 0 < if limit > 0 then _ else _
  split
  · exact Nat.lt_of_lt_of_le Nat.one_pos (Nat.le_max_left ..)
  · exact Nat.one_pos

/-- The pages have room for all rows. -/
theorem total_le_pageCount {limit : Nat} (positive : 0 < limit) (total : Nat) :
    total ≤ pageCount total limit * limit := by
  have enough : total ≤ ceilDiv total limit * limit := by
    have below := Nat.lt_mul_div_succ (total + limit - 1) positive
    rw [Nat.mul_add, Nat.mul_one] at below
    rw [ceilDiv, Nat.mul_comm]
    omega
  rw [pageCount, PaginationMeta.build, if_pos positive]
  exact enough.trans (Nat.mul_le_mul_right _ (Nat.le_max_right ..))

/-- How one request for a page is answered, with the choice the database makes. -/
abbrev PageAnswer (Choice Row : Type) : Type :=
  Choice → Nat → Except Exception (List Row × PaginationMeta)

variable {Choice Row : Type}

/-- What a client reads that starts with a page and goes on while there is a next one. -/
inductive Listing (answer : PageAnswer Choice Row) : Nat → List (List Row) → Prop where
  | last {page : Nat} {items : List Row} {pagination : PaginationMeta} (choice : Choice)
      (answered : answer choice page = .ok (items, pagination))
      (noNext : pagination.hasNext = false) : Listing answer page [items]
  | next {page : Nat} {items : List Row} {pagination : PaginationMeta}
      {later : List (List Row)} (choice : Choice)
      (answered : answer choice page = .ok (items, pagination))
      (hasNext : pagination.hasNext = true) (rest : Listing answer (page + 1) later) :
      Listing answer page (items :: later)

section listings

variable {answer : PageAnswer Choice Row} {arrange : Choice → List Row} {total limit : Nat}
  (paged : ∀ choice page, answer choice page =
    .ok (pageAt limit (page - 1) (arrange choice), PaginationMeta.build total page limit))

include paged

/-- From a page on a client reads the pages up to the last one. -/
theorem Listing.exists_choices {page : Nat} {listing : List (List Row)}
    (reads : Listing answer page listing) (positive : 0 < page)
    (within : page ≤ pageCount total limit) :
    ∃ choices : Nat → Choice, listing =
      (List.range' (page - 1) (pageCount total limit + 1 - page)).map fun index =>
        pageAt limit index (arrange (choices index)) := by
  induction reads with
  | last choice answered noNext =>
      rename_i page items pagination
      rw [paged] at answered
      obtain ⟨rfl, rfl⟩ := Prod.mk.inj (Except.ok.inj answered)
      have isLast : ¬ page < pageCount total limit := of_decide_eq_false noNext
      have one : pageCount total limit + 1 - page = 1 := by omega
      exact ⟨fun _ => choice, by simp [one]⟩
  | next choice answered hasNext rest inductionHypothesis =>
      rename_i page items pagination later
      rw [paged] at answered
      obtain ⟨rfl, rfl⟩ := Prod.mk.inj (Except.ok.inj answered)
      have goesOn : page < pageCount total limit := of_decide_eq_true hasNext
      obtain ⟨choices, rfl⟩ := inductionHypothesis (Nat.succ_pos _) goesOn
      refine ⟨Function.update choices (page - 1) choice, ?_⟩
      have more : pageCount total limit + 1 - page =
          pageCount total limit + 1 - (page + 1) + 1 := by omega
      have following : page - 1 + 1 = page + 1 - 1 := by omega
      rw [more, List.range'_succ, List.map_cons, Function.update_self, following]
      refine congrArg _ (List.map_congr_left fun index member => ?_)
      have behind : index ≠ page - 1 := by
        have bound := (List.mem_range'_1.mp member).1
        omega
      rw [Function.update_of_ne behind]

/-- Whatever is chosen, a client that starts with a page ends with the last one. -/
theorem listing_of_choices (choices : Nat → Choice) (count : Nat) {page : Nat}
    (positive : 0 < page) (isCount : page + count = pageCount total limit) :
    Listing answer page ((List.range' (page - 1) (count + 1)).map fun index =>
      pageAt limit index (arrange (choices index))) := by
  induction count generalizing page with
  | zero =>
      refine .last (choices (page - 1)) (paged _ page) ?_
      rw [hasNext_build]
      exact decide_eq_false (by omega)
  | succ count inductionHypothesis =>
      have later := inductionHypothesis (Nat.succ_pos page) (by omega)
      have following : page - 1 + 1 = page + 1 - 1 := by omega
      rw [List.range'_succ, List.map_cons, following]
      refine .next (choices (page - 1)) (paged _ page) ?_ later
      rw [hasNext_build]
      exact decide_eq_true (by omega)

/-- From the first page on, a client reads all pages, each with a choice of its own. -/
theorem listing_iff {listing : List (List Row)} :
    Listing answer 1 listing ↔ ∃ choices : Nat → Choice,
      listing = pages limit (fun page => arrange (choices page)) (pageCount total limit) := by
  have positive := pageCount_positive total limit
  constructor
  · intro reads
    obtain ⟨choices, rfl⟩ := reads.exists_choices paged Nat.one_pos positive
    exact ⟨choices, by rw [Nat.add_sub_cancel, Nat.sub_self, ← List.range_eq_range', pages]⟩
  · rintro ⟨choices, rfl⟩
    have reads := listing_of_choices paged choices (pageCount total limit - 1) Nat.one_pos
      (by omega)
    rw [Nat.sub_add_cancel positive, Nat.sub_self, ← List.range_eq_range'] at reads
    exact reads

end listings

end AcademicCredential
