import Mathlib
import FormatReview.Proofs.Chart
import FormatReview.Proofs.Table.Pages
import FormatReview.Proofs.Review.Counts
import FormatReview.Proofs.Paper.Order
import FormatReview.Proofs.Paper.Spelling

namespace FormatReview

/-! The views of one review: the chart of its counts, the table of its findings, and the report on
paper. They are made apart from each other, and agree. -/

open CodeCounts

namespace Chart

def total (chart : Chart) : Nat := (chart.bars.map fun bar => bar.count.toNat).sum

variable {review : Review} (tallied : review.counts.Tallies review.findings)

include tallied

theorem count_ofReview {bar : Bar} (member : bar ∈ (ofReview review).bars) :
    bar.count.toNat = (codes review.findings).count bar.code ∧ 1 ≤ bar.count := by
  obtain ⟨number, some⟩ :=
    tallied.number bar.code bar.count ((mem_ofReview review bar).1 member)
  have positive : bar.count.toNat ≠ 0 := fun zero => some (UInt64.toNat_inj.1 zero)
  exact ⟨number, UInt64.le_iff_toNat_le.2 (Nat.one_le_iff_ne_zero.2 positive)⟩

theorem exists_bar {code : String} (listed : code ∈ codes review.findings) :
    ∃ bar ∈ (ofReview review).bars, bar.code = code := by
  have key := (tallied.keys code).2 (List.mem_map.1 listed)
  obtain ⟨count, counted⟩ := Option.isSome_iff_exists.1 ((SortedMap.mem_keys _ code).1 key)
  exact ⟨⟨code, count⟩, (mem_ofReview review ⟨code, count⟩).2 counted, rfl⟩

theorem total_ofReview : (ofReview review).total = review.findings.length := by
  rw [← tallied.total, total, ofReview, SortedMap.values, List.map_map, List.map_map]
  rfl

end Chart

namespace Table

variable (table : Table)

theorem codes_rows : table.rows.map Row.code = codes table.findings := by
  refine List.ext_getElem? fun i => ?_
  rw [List.getElem?_map, getElem?_rows, codes, List.getElem?_map, Option.map_map]
  rfl

theorem countP_rows (code : String) :
    table.rows.countP (fun row => row.code = code) = (codes table.findings).count code := by
  rw [← codes_rows, List.count, List.countP_map]
  congr 1

end Table

/-- The bars of the chart are in the order of their codes, stand for the codes of the table's rows
and are as long as there are such rows. Both and the report on paper have one number of rows. -/
structure Agreement (review : Review) (chart : Chart) (table : Table) (drawn : Nat) : Prop where
  increasing : chart.bars.Pairwise fun bar next => bar.code < next.code
  counted : ∀ bar ∈ chart.bars, 1 ≤ bar.count ∧
    table.rows.countP (fun row => row.code = bar.code) = bar.count.toNat
  barred : ∀ row ∈ table.rows, ∃ bar ∈ chart.bars, bar.code = row.code
  total : chart.total = review.findings.length
  paged : ∀ number, (table.page number).totalRows = review.findings.length
  printed : drawn = review.findings.length

open Paper

/-- A row of the table and the texts of a row on paper show the same finding. On paper the texts are
broken into lines, and the context is whole. -/
structure SameRow {α : Type} [Measure α] (contextWidth : Nat) (finding : Finding) (row : Row)
    (texts : List (String × α)) : Prop where
  code : row.code = finding.code
  message : row.message = finding.message
  suggestion : row.suggestion = finding.suggestion
  context : row.context = shorten finding.context contextWidth
  printed : ∃ cells : Columns Cell, texts = rowTexts α cells ∧
    Spells cells ⟨row.code, row.message, row.suggestion, finding.context⟩

theorem agreement_ofResponse {body : Json} {review : Review}
    (taken : Review.ofResponse body = .ok review) (short : review.findings.length < UInt64.size)
    (pageSize contextWidth : Nat) :
    Agreement review (.ofReview review) (.ofReview review pageSize contextWidth)
      review.findings.length := by
  have tallied : review.counts.Tallies review.findings := by
    rw [Review.counts_ofResponse taken]
    exact tallies_ofFindings short
  refine ⟨Chart.increasing_ofReview review, ?counted, ?barred, Chart.total_ofReview tallied,
    fun _ => rfl, rfl⟩
  case counted =>
    intro bar member
    obtain ⟨number, some⟩ := Chart.count_ofReview tallied member
    rw [Table.countP_rows]
    exact ⟨some, number.symm⟩
  case barred =>
    intro row member
    refine Chart.exists_bar tallied ?_
    have listed := List.mem_map_of_mem (f := Row.code) member
    rwa [Table.codes_rows] at listed

theorem sameRow_ofFinding {α : Type} [Measure α] (face : Typeface α) (size : α)
    (contextWidth index : Nat) (finding : Finding) :
    SameRow contextWidth finding (.ofFinding contextWidth index finding)
      (findingTexts face size finding) where
  code := rfl
  message := rfl
  suggestion := rfl
  context := rfl
  printed := ⟨_, rfl, spells_wrapCells face size (Columns.ofFinding finding)⟩

/-- For every review that a body is taken as, chart, table and a finished report agree in the codes
and in the number of rows, and row by row in what they show of a finding. The report has nothing
besides its rows but the title and the header on its first page, and the header on the others. -/
theorem views_agree {α : Type} [Measure α] {body : Json} {review : Review}
    (taken : Review.ofResponse body = .ok review) (short : review.findings.length < UInt64.size)
    (pageSize contextWidth : Nat) (face : Typeface α) (title : String) (size : α) {σ : Type}
    {canvas : Canvas α σ} {state next : σ} {extent : Extent}
    (finished : (drawReport canvas face title size review.findings).result state =
      (.ok extent, next)) :
    let table := Table.ofReview review pageSize contextWidth
    Agreement review (.ofReview review) table extent.rows ∧
    ∃ (marks : List (Mark α)) (first : List (String × α)) (rest : List (List (String × α)))
      (printed : List (List (String × α))),
      (drawReport canvas.traced face title size review.findings).result (state, []) =
        (.ok extent, (next, marks)) ∧
      pages marks =
        ([], (titleTexts α (titleLines face title size) ++ headerTexts face size ++ first) ::
          rest.map (headerTexts face size ++ ·)) ∧
      first ++ rest.flatten = printed.flatten ∧
      table.rows.length = review.findings.length ∧ printed.length = review.findings.length ∧
      ∀ (i : Nat) (finding : Finding), review.findings[i]? = some finding →
        ∃ row texts, table.rows[i]? = some row ∧ printed[i]? = some texts ∧
          SameRow contextWidth finding row texts := by
  intro table
  obtain ⟨marks, ending, yields, shown⟩ := reads_drawReport face title size review.findings
  obtain ⟨completed, traced⟩ := yields.traced finished
  obtain ⟨first, rest, paged, texts⟩ := shown extent completed
  have rows := rows_drawReport face title size review.findings finished
  refine ⟨rows ▸ agreement_ofResponse taken short pageSize contextWidth, marks, first, rest,
    review.findings.map (findingTexts face size), traced, paged, ?joined, ?listed, ?drawn, ?same⟩
  case joined => rw [texts, List.flatMap_def]
  case listed => simp [table, Table.rows, Table.ofReview]
  case drawn => rw [List.length_map]
  case same =>
    intro i finding here
    have row : table.rows[i]? = some (.ofFinding contextWidth (i + 1) finding) := by
      rw [Table.getElem?_rows, show table.findings[i]? = some finding from here]
      rfl
    exact ⟨_, findingTexts face size finding, row, by rw [List.getElem?_map, here]; rfl,
      sameRow_ofFinding face size contextWidth (i + 1) finding⟩

/-- Two codes in three findings. The report has its last row on a second page, and the table shortens
two contexts. -/
theorem views_agree_two_codes :
    let body : Json := .array [
      .object [("code", .string "Font"), ("context", .string "First page")],
      .object [("code", .string "Bold"), ("message", .string "Not bold")],
      .object [("code", .string "Font"), ("context", .string "Last page")]]
    let review : Review := .ofFindings [⟨"Font", "", "", "First page"⟩,
      ⟨"Bold", "Not bold", "", ""⟩, ⟨"Font", "", "", "Last page"⟩]
    let table := Table.ofReview review 25 4
    let face : Typeface Rat := ⟨"plain", fun _ => some 0⟩
    let canvas : Canvas Rat Unit := ⟨fun _ _ => .ok ()⟩
    Review.ofResponse body = .ok review ∧
    (drawReport canvas face "T" 100 review.findings).result () = (.ok ⟨2, 3⟩, ()) ∧
    Agreement review (.ofReview review) table 3 ∧
    ∃ (marks : List (Mark Rat)) (first : List (String × Rat)) (rest : List (List (String × Rat)))
      (printed : List (List (String × Rat))),
      (drawReport canvas.traced face "T" 100 review.findings).result ((), []) =
        (.ok ⟨2, 3⟩, ((), marks)) ∧
      pages marks =
        ([], (titleTexts Rat (titleLines face "T" 100) ++ headerTexts face 100 ++ first) ::
          rest.map (headerTexts face 100 ++ ·)) ∧
      first ++ rest.flatten = printed.flatten ∧
      table.rows.length = 3 ∧ printed.length = 3 ∧
      ∀ (i : Nat) (finding : Finding), review.findings[i]? = some finding →
        ∃ row texts, table.rows[i]? = some row ∧ printed[i]? = some texts ∧
          SameRow 4 finding row texts := by
  intro body review table face canvas
  have taken : Review.ofResponse body = .ok review := rfl
  have short : review.findings.length < UInt64.size := by decide
  have finished : (drawReport canvas face "T" 100 review.findings).result () =
      (.ok ⟨2, 3⟩, ()) := by
    cbv
  exact ⟨taken, finished, views_agree taken short 25 4 face "T" 100 finished⟩

end FormatReview
