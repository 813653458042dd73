import FormatReview.Proofs.Paper.Script

namespace FormatReview.Paper

/-! What each part of a report draws on its way from one cursor to the next, and where the parts
decide. No marks but these are drawn. -/

variable {α ι : Type}

/-- The marks that may be drawn between two cursors. -/
abbrev Stretch (α : Type) := Cursor α → List (Mark α) → Cursor α → Prop

/-- The stretches of some items, one behind the other. -/
inductive Chain (Step : ι → Stretch α) : List ι → Stretch α
  | nil {cursor : Cursor α} : Chain Step [] cursor [] cursor
  | cons {item : ι} {rest : List ι} {cursor middle next : Cursor α} {marks more : List (Mark α)}
      (step : Step item cursor marks middle) (chain : Chain Step rest middle more next) :
      Chain Step (item :: rest) cursor (marks ++ more) next

theorem ensures_foldlM {Step : ι → Stretch α} {step : Cursor α → ι → Picture α (Cursor α)}
    (each : ∀ cursor item, (step cursor item).Ensures (Step item cursor)) (items : List ι)
    (cursor : Cursor α) :
    Picture.Ensures
      (fun σ canvas => items.foldlM (fun cursor item => step cursor item σ canvas) cursor)
      (Chain Step items cursor) := by
  induction items generalizing cursor with
  | nil => exact Picture.ensures_pure .nil
  | cons item rest ih =>
      refine (each cursor item).bind fun marks middle drawn => ?_
      exact (ih middle).mono fun more next => .cons drawn

/-- No drawing that fails gets to a next cursor. -/
def never : Stretch α := fun _ _ _ => False

variable [Measure α]

def Cursor.down (cursor : Cursor α) (height : α) : Cursor α :=
  { cursor with y := cursor.y - height }

@[simp] theorem Cursor.pages_down (cursor : Cursor α) (height : α) :
    (cursor.down height).pages = cursor.pages := rfl

@[simp] theorem Cursor.y_down (cursor : Cursor α) (height : α) :
    (cursor.down height).y = cursor.y - height := rfl

def across (y : α) : Mark α := .rule (margin α) y (pageWidth α - margin α) y

variable (style : Style α)

def lineMarks (cells : Columns Cell) (i : Nat) (cursor : Cursor α) : List (Mark α) :=
  (textsAt cells i).map fun entry =>
    .text (String.ofList entry.2) (entry.1.x + padding α)
      (cursor.y - style.lineHeight + style.lineHeight * 0.25)

/-- A line is drawn where the row has come to, or below what `Full` draws if there is no room. -/
inductive RowLine (Full : Stretch α) (cells : Columns Cell) (i : Nat) : Stretch α
  | fits {cursor : Cursor α} (room : ¬cursor.y - style.lineHeight < margin α) :
      RowLine Full cells i cursor (lineMarks style cells i cursor) (cursor.down style.lineHeight)
  | full {cursor middle : Cursor α} {marks : List (Mark α)}
      (short : cursor.y - style.lineHeight < margin α) (turned : Full cursor marks middle) :
      RowLine Full cells i cursor (marks ++ lineMarks style cells i middle)
        (middle.down style.lineHeight)

/-- The lines of a row between its two rules. -/
inductive Block (Full : Stretch α) (cells : Columns Cell) : Stretch α
  | intro {cursor middle : Cursor α} {marks : List (Mark α)}
      (lines : Chain (RowLine style Full cells) (List.range (lineCount cells))
        (cursor.down (padding α)) marks middle) :
      Block Full cells cursor
        (across cursor.y :: (marks ++ [across (middle.down (padding α)).y]))
        (middle.down (padding α))

/-- A new page with the header at its top. -/
inductive HeadedPage : Stretch α
  | intro {cursor next : Cursor α} {marks : List (Mark α)}
      (header : Block style never style.header ⟨top α, cursor.pages + 1⟩ marks next) :
      HeadedPage cursor (.page :: .font style.font style.size :: marks) next

/-- A new page on which a row goes on. -/
inductive Continuation : Stretch α
  | intro {cursor middle : Cursor α} {marks : List (Mark α)}
      (headed : HeadedPage style cursor marks middle) :
      Continuation cursor (marks ++ [across middle.y]) (middle.down (padding α))

inductive Row (cells : Columns Cell) : Stretch α
  | stays {cursor next : Cursor α} {marks : List (Mark α)}
      (here : ¬(cursor.y - style.rowHeight cells < margin α ∧
        style.rowHeight cells ≤ style.pageRoom))
      (block : Block style (Continuation style) cells cursor marks next) :
      Row cells cursor marks next
  | moves {cursor middle next : Cursor α} {marks more : List (Mark α)}
      (short : cursor.y - style.rowHeight cells < margin α)
      (small : style.rowHeight cells ≤ style.pageRoom)
      (headed : HeadedPage style cursor marks middle)
      (block : Block style (Continuation style) cells middle more next) :
      Row cells cursor (marks ++ more) next

def titleHeight : α := titleSize style * point α * spacing α

inductive TitleLine (line : Line) : Stretch α
  | intro {cursor : Cursor α} :
      TitleLine line cursor
        [.text (String.ofList line) (margin α) (cursor.down (titleHeight style)).y]
        (cursor.down (titleHeight style))

inductive Title (lines : List Line) : Stretch α
  | intro {cursor middle : Cursor α} {marks : List (Mark α)}
      (drawn : Chain (TitleLine style) lines cursor marks middle) :
      Title lines cursor
        (.font style.font (titleSize style) :: (marks ++ [.font style.font style.size]))
        (middle.down (titleSize style * point α))

theorem yields_newPage (cursor : Cursor α) :
    Picture.Yields (fun _ canvas => newPage canvas style cursor)
      [.page, .font style.font style.size] (.ok ⟨top α, cursor.pages + 1⟩) :=
  (Picture.Yields.put .page).bind
    ((Picture.Yields.put (.font style.font style.size)).bind (.pure _))

theorem yields_titleLines (lines : List Line) (cursor : Cursor α) :
    ∃ marks next, Picture.Yields
        (fun _ canvas => lines.foldlM (drawTitleLine canvas style) cursor) marks (.ok next) ∧
      Chain (TitleLine style) lines cursor marks next := by
  induction lines generalizing cursor with
  | nil => exact ⟨[], cursor, .pure cursor, .nil⟩
  | cons line rest ih =>
      have first : Picture.Yields (fun _ canvas => drawTitleLine canvas style cursor line)
          [.text (String.ofList line) (margin α) (cursor.down (titleHeight style)).y]
          (.ok (cursor.down (titleHeight style))) :=
        (Picture.Yields.put _).bind (.pure _)
      obtain ⟨more, next, yields, chain⟩ := ih (cursor.down (titleHeight style))
      exact ⟨_, next, first.bind yields, .cons .intro chain⟩

theorem yields_drawTitle (lines : List Line) (cursor : Cursor α) :
    ∃ marks next, Picture.Yields (fun _ canvas => drawTitle canvas style lines cursor) marks
        (.ok next) ∧ Title style lines cursor marks next := by
  obtain ⟨marks, middle, yields, drawn⟩ := yields_titleLines style lines cursor
  exact ⟨_, _, (Picture.Yields.put _).bind (yields.bind ((Picture.Yields.put _).bind (.pure _))),
    .intro drawn⟩

/-- The drawing of a line once there is room for it. -/
theorem yields_line (cells : Columns Cell) (i : Nat) (cursor : Cursor α) :
    Picture.Yields (fun σ (canvas : Canvas α σ) => do
      (textsAt cells i).forM fun entry =>
        canvas.put (.text (String.ofList entry.2) (entry.1.x + padding α)
          (cursor.y - style.lineHeight + style.lineHeight * 0.25))
      return { cursor with y := cursor.y - style.lineHeight })
      (lineMarks style cells i cursor) (.ok (cursor.down style.lineHeight)) := by
  rw [← List.append_nil (lineMarks style cells i cursor)]
  exact (Picture.Yields.forM _ _).bind (.pure _)

section Lines

variable {Full : Stretch α} {whenFull : (σ : Type) → Canvas α σ → Cursor α → Drawing σ (Cursor α)}
  (full : ∀ cursor, Picture.Ensures (fun σ canvas => whenFull σ canvas cursor) (Full cursor))

include full

theorem ensures_drawLine (cells : Columns Cell) (cursor : Cursor α) (i : Nat) :
    Picture.Ensures (fun σ canvas => drawLine canvas style (whenFull σ canvas) cells cursor i)
      (RowLine style Full cells i cursor) := by
  by_cases short : cursor.y - style.lineHeight < margin α
  · simp only [drawLine, short, if_true]
    refine (full cursor).bind fun marks middle turned => ?_
    exact (yields_line style cells i middle).ensures (.full short turned)
  · simp only [drawLine, short, if_false, pure_bind]
    exact (yields_line style cells i cursor).ensures (.fits short)

theorem ensures_drawCells (cells : Columns Cell) (cursor : Cursor α) :
    Picture.Ensures (fun σ canvas => drawCells canvas style (whenFull σ canvas) cells cursor)
      (Block style Full cells cursor) := by
  refine Picture.ensures_put_bind
    ((ensures_foldlM (ensures_drawLine style full cells) _ (cursor.down (padding α))).bind ?_)
  intro marks middle lines
  exact Picture.ensures_put_bind (Picture.ensures_pure (.intro lines))

end Lines

theorem ensures_drawHeader (cursor : Cursor α) :
    Picture.Ensures (fun _ canvas => drawHeader canvas style cursor)
      (Block style never style.header cursor) :=
  ensures_drawCells style (fun _ => Picture.ensures_throw headerTooTall) style.header cursor

theorem ensures_headedPage (cursor : Cursor α) :
    Picture.Ensures (fun _ canvas => headedPage canvas style cursor)
      (HeadedPage style cursor) :=
  (yields_newPage style cursor).ensures_bind
    ((ensures_drawHeader style _).mono fun _ _ header => .intro header)

theorem ensures_continueRow (cursor : Cursor α) :
    Picture.Ensures (fun _ canvas => continueRow canvas style cursor)
      (Continuation style cursor) := by
  refine (ensures_headedPage style cursor).bind fun marks middle headed => ?_
  exact Picture.ensures_put_bind (Picture.ensures_pure (.intro headed))

theorem ensures_drawRow (cells : Columns Cell) (cursor : Cursor α) :
    Picture.Ensures (fun _ canvas => drawRow canvas style cells cursor)
      (Row style cells cursor) := by
  have block := ensures_drawCells style (ensures_continueRow style) cells
  by_cases moved : cursor.y - style.rowHeight cells < margin α ∧
      style.rowHeight cells ≤ style.pageRoom
  · simp only [drawRow, moved, and_self, if_true]
    refine (ensures_headedPage style cursor).bind fun marks middle headed => ?_
    exact (block middle).mono fun more next drawn => .moves moved.1 moved.2 headed drawn
  · simp only [drawRow, moved, if_false, pure_bind]
    exact (block cursor).mono fun marks next drawn => .stays moved drawn

variable (face : Typeface α) (title : String) (size : α) (findings : List Finding)

def titleLines : List Line := Gauge.wrap ⟨face, size + 2.0, textWidth α⟩ title.toList

/-- The title and a header on the first page, and below them the rows. -/
inductive Report : List (Mark α) → Extent → Prop
  | intro {cursor middle next : Cursor α} {above head body : List (Mark α)}
      (titled : Title (Style.ofTypeface face size) (titleLines face title size) ⟨top α, 1⟩
        above cursor)
      (header : Block (Style.ofTypeface face size) never (wrapCells face size Columns.headings)
        cursor head middle)
      (rows : Chain (fun finding => Row (Style.ofTypeface face size)
        (wrapCells face size (Columns.ofFinding finding))) findings middle body next) :
      Report (.page :: .font face.name size :: (above ++ (head ++ body)))
        ⟨next.pages, findings.length⟩

section Report

variable {σ : Type} {canvas : Canvas α σ} {face title size findings}

theorem drawReport_of_missing (missing : face.missing (reportTexts title findings) ≠ []) :
    drawReport canvas face title size findings =
      throw (noGlyphs face.name (face.missing (reportTexts title findings))) := by
  simp only [drawReport, if_pos missing]
  rfl

def drawFindings (canvas : Canvas α σ) (face : Typeface α) (size : α) (findings : List Finding)
    (cursor : Cursor α) : Drawing σ Extent := do
  let cursor ← findings.foldlM
    (fun cursor finding => drawRow canvas (Style.ofTypeface face size)
      (wrapCells face size (Columns.ofFinding finding)) cursor)
    cursor
  return ⟨cursor.pages, findings.length⟩

theorem drawReport_of_covered (covered : face.missing (reportTexts title findings) = []) :
    drawReport canvas face title size findings = (do
      let style := Style.ofTypeface face size
      let cursor ← newPage canvas style ⟨top α, 0⟩
      let cursor ← drawTitle canvas style (titleLines face title size) cursor
      let cursor ← drawHeader canvas style cursor
      drawFindings canvas face size findings cursor) := by
  have shown : ¬face.missing (reportTexts title findings) ≠ [] := fun missing => missing covered
  simp only [drawReport, if_neg shown]
  rfl

end Report

theorem ensures_drawReport :
    Picture.Ensures (fun _ canvas => drawReport canvas face title size findings)
      (Report face title size findings) := by
  by_cases covered : face.missing (reportTexts title findings) = []
  · simp only [drawReport_of_covered covered]
    let style := Style.ofTypeface face size
    obtain ⟨above, cursor, drawn, titled⟩ :=
      yields_drawTitle style (titleLines face title size) ⟨top α, 1⟩
    refine (yields_newPage style ⟨top α, 0⟩).ensures_bind (drawn.ensures_bind ?_)
    refine (ensures_drawHeader style cursor).bind ?_
    intro head middle header
    refine (ensures_foldlM (fun cursor finding => ensures_drawRow style
      (wrapCells face size (Columns.ofFinding finding)) cursor) findings middle).bind ?_
    intro body next rows
    have report := Report.intro titled header rows
    refine Picture.ensures_pure ?_
    rw [List.append_nil]
    exact report
  · simp only [drawReport_of_missing covered]
    exact Picture.ensures_throw _

end FormatReview.Paper
