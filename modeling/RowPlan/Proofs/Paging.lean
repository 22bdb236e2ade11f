import RowPlan.Execution.Page

/-!
# Paging through rows

Rows are read page by page for as long as a page may have one behind it. The pages are then
those of the first numbers, none of their offsets is cut off, and their contents put one behind
the other are the rows.
-/

namespace RowPlan

/-! ## Numbers of pages -/

theorem saturate_of_nonneg {number : Int} (nonneg : 0 ≤ number) :
    saturate number = min number Int64.maxValue.toInt := by
  have least : Int64.minValue.toInt ≤ 0 := by decide
  have greatest : 0 ≤ Int64.maxValue.toInt := by decide
  rw [saturate, Int.min_comm, Int.max_eq_right]
  exact Int.le_trans least (Int.le_min.mpr ⟨nonneg, greatest⟩)

theorem saturate_of_fits {number : Int} (nonneg : 0 ≤ number)
    (fits : number ≤ Int64.maxValue.toInt) : saturate number = number := by
  rw [saturate_of_nonneg nonneg, Int.min_eq_left fits]

namespace Pageable

/-- The request for a page of a number. -/
def numbered (size number : Nat) : Pageable where
  page := number
  size := size

variable {size number : Nat}

theorem offset_numbered (fits : ((number * size : Nat) : Int) ≤ Int64.maxValue.toInt) :
    (numbered size number).offset = (number * size : Nat) := by
  rw [offset, numbered, ← Int.natCast_mul]
  exact saturate_of_fits (Int.natCast_nonneg _) fits

theorem next_numbered (fits : ((number + 1 : Nat) : Int) ≤ Int64.maxValue.toInt) :
    (numbered size number).next = numbered size (number + 1) := by
  rw [next, numbered, numbered, ← Int.natCast_succ]
  rw [saturate_of_fits (Int.natCast_nonneg _) fits]

/-- An offset is cut off at the greatest number, and that of the page that follows is not
before it. -/
theorem offset_le_next {request : Pageable} (nonneg : 0 ≤ request.page)
    (fits : request.page ≤ Int64.maxValue.toInt) (positive : 0 ≤ request.size) :
    request.offset = min (request.page * request.size) Int64.maxValue.toInt ∧
      request.offset ≤ request.next.offset := by
  have product := Int.mul_nonneg nonneg positive
  have later : request.page ≤ request.next.page := by
    rw [next, saturate_of_nonneg (Int.le_trans nonneg (Int.le_add_one (Int.le_refl _)))]
    exact Int.le_min.mpr ⟨Int.le_add_one (Int.le_refl _), fits⟩
  have laterProduct := Int.mul_le_mul_of_nonneg_right later positive
  constructor
  · exact saturate_of_nonneg product
  · have laterOffset : request.next.offset =
        min (request.next.page * request.size) Int64.maxValue.toInt :=
      saturate_of_nonneg (Int.le_trans product laterProduct)
    rw [offset, saturate_of_nonneg product, laterOffset]
    exact Int.le_min.mpr
      ⟨Int.le_trans (Int.min_le_left _ _) laterProduct, Int.min_le_right _ _⟩

end Pageable

section

variable {α : Type}

/-! ## Reading pages -/

/-- The page that a request gets of some rows: those behind its offset, up to its limit. -/
def Page.of (rows : List α) (request : Pageable) : Page α where
  request := request
  content := (rows.drop request.offset.toNat).take request.limit.toNat

/-- The pages that are read from a request on. The last of them is the first that shows that
none follows. -/
inductive Paged (rows : List α) : Pageable → List (Page α) → Prop where
  | last {request : Pageable} :
      (Page.of rows request).mayHaveNext = false →
      Paged rows request [Page.of rows request]
  | more {request : Pageable} {pages : List (Page α)} :
      (Page.of rows request).mayHaveNext = true →
      Paged rows request.next pages →
      Paged rows request (Page.of rows request :: pages)

/-- Pages are those of the numbers from one on, up to that behind the last full page. None of
their offsets is cut off, and they have all rows from the first of them on. -/
structure TilesFrom (rows : List α) (size number : Nat) (pages : List (Page α)) : Prop where
  count : number + pages.length = rows.length / size + 1
  requests : pages.map Page.request =
    (List.range' number pages.length).map (Pageable.numbered size)
  offsets : ∀ page, page ∈ pages →
    page.request.offset = page.request.page * page.request.size
  content : pages.flatMap Page.content = rows.drop (number * size)

/-- There is one way at most to read pages from a request on. -/
theorem Paged.unique {rows : List α} {request : Pageable} {pages others : List (Page α)}
    (paged : Paged rows request pages) (otherPaged : Paged rows request others) :
    others = pages := by
  induction paged generalizing others with
  | last ends =>
      cases otherPaged with
      | last => rfl
      | more goesOn => cases ends.symm.trans goesOn
  | more goesOn _ induction =>
      cases otherPaged with
      | last ends => cases ends.symm.trans goesOn
      | more _ later => rw [induction later]

section

variable {rows : List α} {size number : Nat}

/-- A page has as many rows as fit behind the rows of those before it. -/
theorem Page.content_numbered (fits : ((number * size : Nat) : Int) ≤ Int64.maxValue.toInt) :
    (Page.of rows (.numbered size number)).content = (rows.drop (number * size)).take size := by
  rw [Page.of, Pageable.offset_numbered fits]
  rfl

/-- A page may have a next one just where it is before the last full one. -/
theorem Page.mayHaveNext_numbered (positive : 0 < size)
    (few : (rows.length : Int) ≤ Int64.maxValue.toInt)
    (fits : ((number * size : Nat) : Int) ≤ Int64.maxValue.toInt) :
    (Page.of rows (.numbered size number)).mayHaveNext = true ↔
      number < rows.length / size := by
  have full : number < rows.length / size ↔ number * size + size ≤ rows.length := by
    rw [Nat.lt_iff_add_one_le, Nat.le_div_iff_mul_le positive, Nat.succ_mul]
  have content : (Page.of rows (.numbered size number)).content =
      (rows.drop (number * size)).take size := Page.content_numbered fits
  have counted : (((Page.of rows (.numbered size number)).content.length : Nat) : Int) ≤
      Int64.maxValue.toInt := by
    rw [content, List.length_take, List.length_drop]
    omega
  rw [Page.mayHaveNext, Bool.and_eq_true, decide_eq_true_iff, decide_eq_true_iff,
    and_iff_right counted, content, full]
  simp only [Page.of, Pageable.numbered, List.length_take, List.length_drop]
  omega

theorem Page.offset_of_numbered (fits : ((number * size : Nat) : Int) ≤ Int64.maxValue.toInt) :
    (Page.of rows (.numbered size number)).request.offset =
      (Page.of rows (.numbered size number)).request.page *
        (Page.of rows (.numbered size number)).request.size :=
  (Pageable.offset_numbered fits).trans (Int.natCast_mul _ _)

/-- From a page on that the rows reach, reading ends with the page behind the last full one. -/
theorem Paged.of_number (positive : 0 < size) (few : (rows.length : Int) ≤ Int64.maxValue.toInt)
    (number remaining : Nat) (reached : number + remaining = rows.length / size) :
    ∃ pages, Paged rows (.numbered size number) pages ∧ TilesFrom rows size number pages := by
  have within : number * size ≤ rows.length :=
    (Nat.le_div_iff_mul_le positive).mp (reached ▸ Nat.le_add_right number remaining)
  have fits : ((number * size : Nat) : Int) ≤ Int64.maxValue.toInt :=
    Int.le_trans (Int.ofNat_le.mpr within) few
  induction remaining generalizing number with
  | zero =>
      have ends : (Page.of rows (.numbered size number)).mayHaveNext = false := by
        rw [← Bool.not_eq_true, Page.mayHaveNext_numbered positive few fits]
        omega
      refine ⟨_, .last ends, ?_, rfl, List.forall_mem_singleton.mpr (Page.offset_of_numbered fits),
        ?_⟩
      · rw [List.length_singleton, ← reached]
      · -- The last page is not full, so that it has all rows behind the pages before it.
        have short : rows.length < number * size + size := by
          rw [← Nat.succ_mul, ← Nat.div_lt_iff_lt_mul positive]
          omega
        rw [List.flatMap_singleton, Page.content_numbered fits]
        apply List.take_of_length_le
        rw [List.length_drop]
        omega
  | succ remaining induction =>
      have goesOn : (Page.of rows (.numbered size number)).mayHaveNext = true := by
        rw [Page.mayHaveNext_numbered positive few fits]
        omega
      have nextReached : number + 1 + remaining = rows.length / size := by omega
      have nextWithin : (number + 1) * size ≤ rows.length :=
        (Nat.le_div_iff_mul_le positive).mp (nextReached ▸ Nat.le_add_right _ _)
      obtain ⟨pages, paged, tiles⟩ := induction (number + 1) nextReached nextWithin
        (Int.le_trans (Int.ofNat_le.mpr nextWithin) few)
      have nextFits : ((number + 1 : Nat) : Int) ≤ Int64.maxValue.toInt :=
        Int.le_trans (Int.ofNat_le.mpr
          (Nat.le_trans (Nat.le_mul_of_pos_right _ positive) nextWithin)) few
      rw [← Pageable.next_numbered nextFits] at paged
      refine ⟨_, .more goesOn paged, ?_, ?_, ?_, ?_⟩
      · rw [List.length_cons, ← tiles.count]
        omega
      · rw [List.map_cons, tiles.requests, List.length_cons, List.range'_succ, List.map_cons]
        rfl
      · exact List.forall_mem_cons.mpr ⟨Page.offset_of_numbered fits, tiles.offsets⟩
      · rw [List.flatMap_cons, tiles.content, Page.content_numbered fits, Nat.succ_mul,
          ← List.drop_drop, List.take_append_drop]

end

/-- Reading rows page by page ends, in one way. There is one page more than full ones, none of
their offsets is cut off, and their contents put one behind the other are the rows, none of them
lost or repeated. The offset of any page is cut off at the greatest number if at all, and that of
the page that follows is not before it. -/
theorem pages_tile_rows {rows : List α} {size : Int}
    (few : (rows.length : Int) ≤ Int64.maxValue.toInt) (positive : 1 ≤ size) :
    (∃ pages, Paged rows { page := 0, size } pages ∧
      (∀ others, Paged rows { page := 0, size } others → others = pages) ∧
      (pages.length : Int) = rows.length / size + 1 ∧
      pages.map Page.request =
        ((List.range pages.length).map fun number => { page := number, size }) ∧
      (∀ page, page ∈ pages →
        page.request.offset = page.request.page * page.request.size) ∧
      pages.flatMap Page.content = rows) ∧
    ∀ page, 0 ≤ page → page ≤ Int64.maxValue.toInt →
      let request : Pageable := { page, size }
      request.offset = min (page * size) Int64.maxValue.toInt ∧
        request.offset ≤ request.next.offset := by
  constructor
  · obtain ⟨size, rfl⟩ := Int.eq_ofNat_of_zero_le (Int.le_trans Int.one_nonneg positive)
    obtain ⟨pages, paged, tiles⟩ :=
      Paged.of_number (Int.ofNat_lt.mp positive) few 0 (rows.length / size) (Nat.zero_add _)
    refine ⟨pages, paged, fun others => paged.unique, ?_, ?_, tiles.offsets, ?_⟩
    · have count := tiles.count
      rw [Nat.zero_add] at count
      rw [count]
      rfl
    · rw [tiles.requests, List.range_eq_range']
      rfl
    · rw [tiles.content, Nat.zero_mul, List.drop_zero]
  · intro page nonneg small
    exact Pageable.offset_le_next nonneg small (Int.le_trans Int.one_nonneg positive)

end

/-- Behind two full pages stands an empty one. -/
theorem pages_tile_rows_even :
    ∃ pages, Paged [1, 2, 3, 4] { page := 0, size := 2 } pages ∧
      pages.map Page.content = [[1, 2], [3, 4], []] ∧
      pages.flatMap Page.content = [1, 2, 3, 4] := by
  have few : (([1, 2, 3, 4] : List Nat).length : Int) ≤ Int64.maxValue.toInt := by decide
  have positive : (1 : Int) ≤ 2 := by decide
  obtain ⟨⟨pages, paged, only, _, _, _, content⟩, _⟩ := pages_tile_rows few positive
  have emptyBehind := only _ (.more rfl (.more rfl (.last rfl)))
  exact ⟨pages, paged, congrArg (List.map Page.content) emptyBehind.symm, content⟩

end RowPlan
