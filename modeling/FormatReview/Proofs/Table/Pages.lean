import Mathlib
import FormatReview.Table

namespace FormatReview

/-! The pages of a table are its rows, cut into runs of one size of which the last may be
shorter. -/

theorem Row.listText_append (rows more : List Row) (colour : Bool) :
    Row.listText (rows ++ more) colour = Row.listText rows colour ++ Row.listText more colour := by
  simp [Row.listText]

theorem Row.join_listText (pages : List (List Row)) (colour : Bool) :
    String.join (pages.map (Row.listText · colour)) = Row.listText pages.flatten colour := by
  induction pages with
  | nil => rfl
  | cons rows rest ih =>
      rw [List.map_cons, String.join_cons, ih, List.flatten_cons, Row.listText_append]

namespace Table

variable (table : Table)

theorem getElem?_rows (i : Nat) :
    table.rows[i]? = table.findings[i]?.map (.ofFinding table.contextWidth (i + 1)) := by
  simp [rows, List.getElem?_zipIdx, Option.map_map, Function.comp_def]

@[simp] theorem length_rows : table.rows.length = table.findings.length := by
  simp [rows]

theorem one_le_totalPages : 1 ≤ table.totalPages := Nat.le_max_left 1 _

theorem pageNumber_of_mem {number : Nat} (first : 1 ≤ number)
    (last : number ≤ table.totalPages) : table.pageNumber number = number := by
  rw [pageNumber, Nat.max_eq_right first, Nat.min_eq_left last]

theorem pageNumber_pageNumber (number : Nat) :
    table.pageNumber (table.pageNumber number) = table.pageNumber number := by
  have least := table.one_le_totalPages
  simp only [pageNumber]
  omega

theorem page_pageNumber (number : Nat) :
    table.page (table.pageNumber number) = table.page number := by
  simp only [page, pageNumber_pageNumber]

theorem rows_page {number : Nat} (first : 1 ≤ number) (last : number ≤ table.totalPages) :
    (table.page number).rows =
      (table.rows.drop ((number - 1) * table.pageSize)).take table.pageSize := by
  rw [page, table.pageNumber_of_mem first last]

/-- The rows up to the end of a page. -/
theorem flatten_pages {count : Nat} (last : count ≤ table.totalPages) :
    ((List.range' 1 count).map fun number => (table.page number).rows).flatten =
      table.rows.take (count * table.pageSize) := by
  induction count with
  | zero => simp
  | succ count ih =>
      have page := table.rows_page (Nat.le_add_left 1 count) (by omega)
      rw [List.range'_1_concat, List.map_append, List.flatten_append, ih (by omega),
        Nat.succ_mul, List.take_add, Nat.add_comm 1 count]
      simp [page]

section

variable {table} (sized : 0 < table.pageSize)

include sized

theorem length_le_of_totalPages :
    table.findings.length ≤ table.totalPages * table.pageSize := by
  have rounded := Nat.lt_div_mul_add (a := table.findings.length + table.pageSize - 1) sized
  have most : (table.findings.length + table.pageSize - 1) / table.pageSize ≤ table.totalPages :=
    Nat.le_max_right 1 _
  have grown := Nat.mul_le_mul_right table.pageSize most
  omega

theorem lt_length_of_page {before : Nat} (earlier : 1 ≤ before)
    (last : before + 1 ≤ table.totalPages) :
    before * table.pageSize < table.findings.length := by
  have reached : before + 1 ≤ (table.findings.length + table.pageSize - 1) / table.pageSize := by
    rw [totalPages] at last
    omega
  have whole := (Nat.le_div_iff_mul_le sized).1 reached
  rw [Nat.succ_mul] at whole
  omega

theorem length_page_of_lt {number : Nat} (first : 1 ≤ number) (inner : number < table.totalPages) :
    (table.page number).rows.length = table.pageSize := by
  have filled := lt_length_of_page sized first inner
  obtain ⟨before, rfl⟩ := Nat.exists_eq_add_of_le' first
  rw [table.rows_page first (by omega), List.length_take, List.length_drop, length_rows,
    Nat.add_sub_cancel]
  rw [Nat.succ_mul] at filled
  omega

theorem rows_eq_flatten :
    ((List.range' 1 table.totalPages).map fun number => (table.page number).rows).flatten =
      table.rows := by
  rw [table.flatten_pages (Nat.le_refl _), List.take_of_length_le]
  rw [length_rows]
  exact length_le_of_totalPages sized

theorem last_page_nonempty (found : table.findings ≠ []) :
    (table.page table.totalPages).rows ≠ [] := by
  have some : 0 < table.findings.length := List.length_pos_iff.2 found
  obtain ⟨before, last⟩ := Nat.exists_eq_add_of_le' table.one_le_totalPages
  rw [table.rows_page table.one_le_totalPages (Nat.le_refl _), ← List.length_pos_iff,
    List.length_take, List.length_drop, length_rows, last, Nat.add_sub_cancel]
  rcases Nat.eq_zero_or_pos before with rfl | earlier
  · omega
  · have reached := lt_length_of_page sized earlier (Nat.le_of_eq last.symm)
    omega

end

theorem length_page_le (number : Nat) : (table.page number).rows.length ≤ table.pageSize :=
  List.length_take_le _ _

theorem pageSize_ofReview (review : Review) (requested contextWidth : Nat) :
    (ofReview review requested contextWidth).pageSize ∈ ReportSettings.pageSizes := by
  simp only [ofReview]
  split
  · assumption
  · decide

theorem pageSize_ofReview_pos (review : Review) (requested contextWidth : Nat) :
    0 < (ofReview review requested contextWidth).pageSize := by
  have offered := pageSize_ofReview review requested contextWidth
  simp only [ReportSettings.pageSizes, List.mem_cons, List.not_mem_nil, or_false] at offered
  omega

/-- The pages of a review's table, from the first to the last, are its rows in their order, each
once, and read together as all of them do. Every page but the last is full, and the last is empty
only if there is nothing to show. A number outside shows the nearest page. -/
theorem pages_partition_rows (review : Review) (requested contextWidth : Nat) :
    let table := ofReview review requested contextWidth
    let pages := (List.range' 1 table.totalPages).map fun number => (table.page number).rows
    pages.flatten = table.rows ∧
    (∀ i, table.rows[i]? = review.findings[i]?.map (Row.ofFinding contextWidth (i + 1))) ∧
    (∀ i row, table.rows[i]? = some row → row.index = i + 1) ∧
    (table.pageSize ∈ ReportSettings.pageSizes ∧
      (requested ∈ ReportSettings.pageSizes → table.pageSize = requested) ∧
      (requested ∉ ReportSettings.pageSizes → table.pageSize = ReportSettings.smallestPage)) ∧
    (∀ number, 1 ≤ number → number < table.totalPages →
      (table.page number).rows.length = table.pageSize) ∧
    ((table.page table.totalPages).rows.length ≤ table.pageSize ∧
      ((table.page table.totalPages).rows = [] ↔ review.findings = [])) ∧
    (∀ number,
      table.page number = table.page (min (max 1 number) table.totalPages) ∧
      (table.page number).number = min (max 1 number) table.totalPages) ∧
    ∀ colour, String.join (pages.map (Row.listText · colour)) =
      Row.listText table.rows colour := by
  intro table pages
  have sized : 0 < table.pageSize := pageSize_ofReview_pos review requested contextWidth
  have joined : pages.flatten = table.rows := rows_eq_flatten sized
  refine ⟨joined, table.getElem?_rows, ?numbered, ⟨?offered, ?taken, ?refused⟩,
    fun number => length_page_of_lt sized, ⟨table.length_page_le _, ?emptied⟩, ?nearest, ?read⟩
  case numbered =>
    intro i row shown
    rw [table.getElem?_rows] at shown
    obtain ⟨finding, -, rfl⟩ := Option.map_eq_some_iff.1 shown
    rfl
  case offered => exact pageSize_ofReview review requested contextWidth
  case taken => exact fun offered => if_pos offered
  case refused => exact fun foreign => if_neg foreign
  case emptied =>
    constructor
    · intro empty
      by_contra found
      exact last_page_nonempty sized found empty
    · intro none
      have bare : table.rows = [] := by
        rw [← List.length_eq_zero_iff, length_rows]
        exact List.length_eq_zero_iff.2 none
      rw [table.rows_page table.one_le_totalPages (Nat.le_refl _), bare]
      simp
  case nearest => exact fun number => ⟨(table.page_pageNumber number).symm, rfl⟩
  case read =>
    intro colour
    rw [Row.join_listText, joined]

end Table

end FormatReview
