import Mathlib
import FormatReview.Proofs.Paper.Reading

namespace FormatReview.Paper

/-! The report in reading order. Page breaks, wherever they fall, only repeat the header: no line of
the title or of a row is lost, drawn twice or drawn out of turn. -/

variable {α : Type} [Measure α]

/-- The text of a cell in one line of its row, unless the cell has ended or the line is empty. -/
def cellText (span : Span α) (cell : Cell) (i : Nat) : Option (String × α) :=
  match cell[i]? with
  | none | some [] => none
  | some (c :: line) => some (String.ofList (c :: line), span.x + padding α)

def lineTexts (α : Type) [Measure α] (cells : Columns Cell) (i : Nat) : List (String × α) :=
  [cellText (spans α).code cells.code i, cellText (spans α).message cells.message i,
    cellText (spans α).suggestion cells.suggestion i,
    cellText (spans α).context cells.context i].reduceOption

def longestCell (cells : Columns Cell) : Nat :=
  max (max cells.code.length cells.message.length)
    (max cells.suggestion.length cells.context.length)

/-- The texts of a row, line by line to the end of its longest cell. -/
def rowTexts (α : Type) [Measure α] (cells : Columns Cell) : List (String × α) :=
  (List.range (longestCell cells)).flatMap (lineTexts α cells)

def titleTexts (α : Type) [Measure α] (lines : List Line) : List (String × α) :=
  lines.map fun line => (String.ofList line, margin α)

theorem lineCount_eq_longestCell (cells : Columns Cell) : lineCount cells = longestCell cells := by
  simp only [lineCount, longestCell, Columns.toList, List.map_cons, List.map_nil, List.foldl_cons,
    List.foldl_nil]
  omega

theorem cellText_eq (span : Span α) (cell : Cell) (i : Nat) :
    cellText span cell i =
      (cell[i]?.filter (· ≠ [])).map fun line => (String.ofList line, span.x + padding α) := by
  unfold cellText
  cases cell[i]? with
  | none => rfl
  | some line => cases line <;> simp [Option.filter]

theorem lineTexts_eq (cells : Columns Cell) (i : Nat) :
    lineTexts α cells i = (textsAt cells i).flatMap fun (entry : Span α × Line) =>
      [(String.ofList entry.2, entry.1.x + padding α)] := by
  simp only [lineTexts, textsAt, Columns.zipWith, Columns.toList, cellText_eq]
  generalize cells.code[i]?.filter (· ≠ []) = code
  generalize cells.message[i]?.filter (· ≠ []) = message
  generalize cells.suggestion[i]?.filter (· ≠ []) = suggestion
  generalize cells.context[i]?.filter (· ≠ []) = context
  cases code <;> cases message <;> cases suggestion <;> cases context <;> rfl

/-! The texts of each part, read in any way that follows the marks. -/

section Shows

variable {ι : Type} {Shows : List (Mark α) → List (String × α) → Prop} {style : Style α}
  {cursor next : Cursor α} {marks : List (Mark α)}

omit [Measure α] in
theorem Reading.shows_texts (reading : Reading Shows) (entries : List (String × α)) (y : α) :
    Shows (entries.map fun entry => .text entry.1 entry.2 y) entries := by
  induction entries with
  | nil => exact reading.nil
  | cons entry rest ih => exact reading.append (reading.text entry.1 entry.2 y) ih

theorem Reading.shows_lineMarks (reading : Reading Shows) (style : Style α) (cells : Columns Cell)
    (i : Nat) (cursor : Cursor α) :
    Shows (lineMarks style cells i cursor) (lineTexts α cells i) := by
  have shown := reading.shows_texts (lineTexts α cells i)
    (cursor.y - style.lineHeight + style.lineHeight * 0.25)
  rw [lineTexts_eq] at shown ⊢
  simpa [lineMarks, ← List.map_eq_flatMap, Function.comp_def] using shown

theorem Reading.shows_across (reading : Reading Shows) (y : α) : Shows [across y] [] :=
  reading.rule ..

omit [Measure α] in
theorem Chain.shows {Step : ι → Stretch α} {items : List ι}
    (chain : Chain Step items cursor marks next) (reading : Reading Shows)
    {shown : ι → List (String × α)}
    (each : ∀ item cursor marks next, Step item cursor marks next → Shows marks (shown item)) :
    Shows marks (items.flatMap shown) := by
  induction chain with
  | nil => exact reading.nil
  | cons step chain ih => exact reading.append (each _ _ _ _ step) ih

theorem RowLine.shows {Full : Stretch α} {cells : Columns Cell} {i : Nat}
    (line : RowLine style Full cells i cursor marks next) (reading : Reading Shows)
    (full : ∀ cursor marks next, Full cursor marks next → Shows marks []) :
    Shows marks (lineTexts α cells i) := by
  cases line with
  | fits room => exact reading.shows_lineMarks style cells i cursor
  | full short turned =>
      exact reading.append (full _ _ _ turned) (reading.shows_lineMarks style cells i _)

theorem Block.shows {Full : Stretch α} {cells : Columns Cell}
    (block : Block style Full cells cursor marks next) (reading : Reading Shows)
    (full : ∀ cursor marks next, Full cursor marks next → Shows marks []) :
    Shows marks (rowTexts α cells) := by
  cases block with
  | intro lines =>
      have shown := lines.shows reading fun i cursor marks next line => line.shows reading full
      rw [rowTexts, ← lineCount_eq_longestCell, ← List.append_nil (List.flatMap _ _)]
      exact reading.append (reading.shows_across _)
        (reading.append shown (reading.shows_across _))

theorem Title.shows {lines : List Line} (title : Title style lines cursor marks next)
    (reading : Reading Shows) : Shows marks (titleTexts α lines) := by
  cases title with
  | @intro cursor middle drawing drawn =>
      have shown : Shows drawing (lines.flatMap fun line => [(String.ofList line, margin α)]) := by
        refine drawn.shows reading fun line cursor marks next one => ?_
        cases one with
        | intro => exact reading.text ..
      rw [titleTexts, List.map_eq_flatMap, ← List.append_nil (List.flatMap _ _)]
      exact reading.append (reading.font ..) (reading.append shown (reading.font ..))

section Turning

variable (turning : Turning style.font style.size (rowTexts α style.header) Shows)

include turning

theorem HeadedPage.shows (headed : HeadedPage style cursor marks next) : Shows marks [] := by
  cases headed with
  | intro header => exact turning.turn (header.shows reading_onePage fun _ _ _ => False.elim)

theorem Continuation.shows (continued : Continuation style cursor marks next) : Shows marks [] := by
  cases continued with
  | intro headed =>
      exact turning.append (headed.shows turning) (turning.toReading.shows_across _)

theorem Row.shows {cells : Columns Cell} (row : Row style cells cursor marks next) :
    Shows marks (rowTexts α cells) := by
  have full (cursor : Cursor α) (marks : List (Mark α)) (next : Cursor α)
      (continued : Continuation style cursor marks next) : Shows marks [] :=
    continued.shows turning
  cases row with
  | stays here block => exact block.shows turning.toReading full
  | moves short small headed block =>
      exact turning.append (headed.shows turning) (block.shows turning.toReading full)

end Turning

end Shows

def headerTexts (face : Typeface α) (size : α) : List (String × α) :=
  rowTexts α (wrapCells face size Columns.headings)

def findingTexts (face : Typeface α) (size : α) (finding : Finding) : List (String × α) :=
  rowTexts α (wrapCells face size (Columns.ofFinding finding))

variable (face : Typeface α) (title : String) (size : α) (findings : List Finding)

theorem Report.shows {Shows : List (Mark α) → List (String × α) → Prop}
    (turning : Turning face.name size (headerTexts face size) Shows) {marks : List (Mark α)}
    {extent : Extent} (report : Report face title size findings marks extent) :
    ∃ above head body, marks = .page :: .font face.name size :: (above ++ (head ++ body)) ∧
      OnePage above (titleTexts α (titleLines face title size)) ∧
      OnePage head (headerTexts face size) ∧
      Shows body (findings.flatMap (findingTexts face size)) := by
  cases report with
  | intro titled header rows =>
      exact ⟨_, _, _, rfl, titled.shows reading_onePage,
        header.shows reading_onePage fun _ _ _ => False.elim,
        rows.shows turning.toReading fun _ _ _ _ row => row.shows turning⟩

theorem reads_drawReport :
    Picture.Reads (fun _ canvas => drawReport canvas face title size findings)
      (Paged (titleTexts α (titleLines face title size) ++ headerTexts face size)
        (headerTexts face size))
      (findings.flatMap (findingTexts face size)) := by
  refine (ensures_drawReport face title size findings).mono fun marks extent report => ?_
  obtain ⟨above, head, body, rfl, titled, headed, shown⟩ :=
    report.shows face title size findings (turning_headed _ _ _)
  exact (Opened.prepend titled (.intro headed shown)).paged face.name size

theorem rows_drawReport {σ : Type} {canvas : Canvas α σ} {state next : σ} {extent : Extent}
    (finished : (drawReport canvas face title size findings).result state = (.ok extent, next)) :
    extent.rows = findings.length := by
  obtain ⟨marks, -, report⟩ := (ensures_drawReport face title size findings).traced finished
  cases report with
  | intro titled header rows => rfl

/-- A finished report shows every line of its title, and then of each finding in turn every line of
its row, column by column in each line, with nothing between but the header of every page: after the
title, and at the top of the pages that follow. -/
theorem report_in_order {σ : Type} {canvas : Canvas α σ} {state next : σ} {extent : Extent}
    (finished : (drawReport canvas face title size findings).result state = (.ok extent, next)) :
    extent.rows = findings.length ∧
    ∃ (marks : List (Mark α)) (first : List (String × α)) (rest : List (List (String × α))),
      (drawReport canvas.traced face title size findings).result (state, []) =
        (.ok extent, (next, marks)) ∧
      pages marks =
        ([], (titleTexts α (titleLines face title size) ++ headerTexts face size ++ first) ::
          rest.map (headerTexts face size ++ ·)) ∧
      first ++ rest.flatten = findings.flatMap (findingTexts face size) := by
  obtain ⟨marks, ending, yields, shown⟩ := reads_drawReport face title size findings
  obtain ⟨completed, traced⟩ := yields.traced finished
  obtain ⟨first, rest, paged, texts⟩ := shown extent completed
  exact ⟨rows_drawReport face title size findings finished, marks, first, rest, traced, paged,
    texts⟩

/-- Three rows of large type, of which the last has to move to a second page. -/
theorem report_in_order_two_pages :
    let face : Typeface Rat := ⟨"plain", fun _ => some 0⟩
    let canvas : Canvas Rat Unit := ⟨fun _ _ => .ok ()⟩
    let findings : List Finding := List.replicate 3 ⟨"A", "b", "c", "d"⟩
    (drawReport canvas face "T" 100 findings).result () = (.ok ⟨2, 3⟩, ()) ∧
    ∃ (marks : List (Mark Rat)) (first : List (String × Rat)) (rest : List (List (String × Rat))),
      (drawReport canvas.traced face "T" 100 findings).result ((), []) =
        (.ok ⟨2, 3⟩, ((), marks)) ∧
      pages marks =
        ([], (titleTexts Rat (titleLines face "T" 100) ++ headerTexts face 100 ++ first) ::
          rest.map (headerTexts face 100 ++ ·)) ∧
      first ++ rest.flatten = findings.flatMap (findingTexts face 100) := by
  intro face canvas findings
  have finished : (drawReport canvas face "T" 100 findings).result () = (.ok ⟨2, 3⟩, ()) := by
    cbv
  exact ⟨finished, (report_in_order face "T" 100 findings finished).2⟩

end FormatReview.Paper
