import FormatReview.Paper.Canvas
import FormatReview.Paper.Wrap
import FormatReview.Review

namespace FormatReview.Paper

/-! The report on paper: a title and a table whose header is repeated on every page. A row moves to
a new page if it fits there as a whole, and is split if it fits on none. -/

/-- One thing for each column of the table. -/
structure Columns (β : Type) where
  code : β
  message : β
  suggestion : β
  context : β
  deriving DecidableEq, Repr

namespace Columns

def toList (columns : Columns β) : List β :=
  [columns.code, columns.message, columns.suggestion, columns.context]

def map (f : β → γ) (columns : Columns β) : Columns γ :=
  ⟨f columns.code, f columns.message, f columns.suggestion, f columns.context⟩

def zipWith (f : β → γ → δ) (a : Columns β) (b : Columns γ) : Columns δ :=
  ⟨f a.code b.code, f a.message b.message, f a.suggestion b.suggestion, f a.context b.context⟩

def headings : Columns String :=
  ⟨"Тип ошибки", "Сообщение об ошибке", "Предложение", "Контекст ошибки"⟩

def ofFinding (finding : Finding) : Columns String :=
  ⟨finding.code, finding.message, finding.suggestion, finding.context⟩

end Columns

abbrev Cell := List Line

/-- Where a column starts, and how wide it is. -/
structure Span (α : Type) where
  x : α
  width : α

section Geometry

variable (α : Type) [Measure α]

/-- The widths of the columns are as two to five to five to five. -/
def share (weight : α) : α := textWidth α * weight / (0.0 + 2.0 + 5.0 + 5.0 + 5.0)

def spans : Columns (Span α) :=
  let narrow := share α 2.0
  let wide := share α 5.0
  let second := margin α + narrow
  let third := second + wide
  ⟨⟨margin α, narrow⟩, ⟨second, wide⟩, ⟨third, wide⟩, ⟨third + wide, wide⟩⟩

end Geometry

def lineCount (cells : Columns Cell) : Nat := (cells.toList.map List.length).foldl max 0

variable [Measure α]

def wrapCells (face : Typeface α) (size : α) (texts : Columns String) : Columns Cell :=
  (spans α).zipWith
    (fun span text => Gauge.wrap ⟨face, size, span.width - 2.0 * padding α⟩ text.toList) texts

/-- What stays the same on all pages. -/
structure Style (α : Type) where
  font : String
  size : α
  header : Columns Cell

/-- Where the next thing goes on the page, and the number of pages. -/
structure Cursor (α : Type) where
  y : α
  pages : Nat

namespace Style

def ofTypeface (face : Typeface α) (size : α) : Style α :=
  ⟨face.name, size, wrapCells face size Columns.headings⟩

def lineHeight (style : Style α) : α := style.size * point α * spacing α

def rowHeight (style : Style α) (cells : Columns Cell) : α :=
  Measure.ofNat (lineCount cells) * style.lineHeight + 2.0 * padding α

def pageRoom (style : Style α) : α :=
  pageHeight α - 2.0 * margin α - style.rowHeight style.header

end Style

/-- The non-empty lines with number `i`, each with its column. -/
def textsAt (cells : Columns Cell) (i : Nat) : List (Span α × Line) :=
  ((spans α).zipWith (fun span (cell : Cell) =>
    (cell[i]?.filter (· ≠ [])).map (span, ·)) cells).toList.reduceOption

section Drawing

variable (canvas : Canvas α σ) (style : Style α)

def ruleAcross (y : α) : Drawing σ Unit :=
  canvas.put (.rule (margin α) y (pageWidth α - margin α) y)

def newPage (cursor : Cursor α) : Drawing σ (Cursor α) := do
  canvas.put .page
  canvas.put (.font style.font style.size)
  return ⟨top α, cursor.pages + 1⟩

/-- Draws the lines with one number, after `whenFull` if there is no room for them. -/
def drawLine (whenFull : Cursor α → Drawing σ (Cursor α)) (cells : Columns Cell)
    (cursor : Cursor α) (i : Nat) : Drawing σ (Cursor α) := do
  let cursor ← if cursor.y - style.lineHeight < margin α then whenFull cursor else pure cursor
  let y := cursor.y - style.lineHeight
  (textsAt cells i).forM fun (span, line) =>
    canvas.put (.text (String.ofList line) (span.x + padding α) (y + style.lineHeight * 0.25))
  return { cursor with y := y }

def drawCells (whenFull : Cursor α → Drawing σ (Cursor α)) (cells : Columns Cell)
    (cursor : Cursor α) : Drawing σ (Cursor α) := do
  ruleAcross canvas cursor.y
  let cursor ← (List.range (lineCount cells)).foldlM (drawLine canvas style whenFull cells)
    { cursor with y := cursor.y - padding α }
  let y := cursor.y - padding α
  ruleAcross canvas y
  return { cursor with y := y }

def headerTooTall : Fault := .renderFailed "header row does not fit on a page"

def drawHeader (cursor : Cursor α) : Drawing σ (Cursor α) :=
  drawCells canvas style (fun _ => throw headerTooTall) style.header cursor

def headedPage (cursor : Cursor α) : Drawing σ (Cursor α) := do
  drawHeader canvas style (← newPage canvas style cursor)

def continueRow (cursor : Cursor α) : Drawing σ (Cursor α) := do
  let cursor ← headedPage canvas style cursor
  ruleAcross canvas cursor.y
  return { cursor with y := cursor.y - padding α }

def drawRow (cells : Columns Cell) (cursor : Cursor α) : Drawing σ (Cursor α) := do
  let height := style.rowHeight cells
  let cursor ←
    if cursor.y - height < margin α ∧ height ≤ style.pageRoom then headedPage canvas style cursor
    else pure cursor
  drawCells canvas style (continueRow canvas style) cells cursor

/-- The title is two points larger than the table. -/
def titleSize : α := style.size + 2.0

def drawTitleLine (cursor : Cursor α) (line : Line) : Drawing σ (Cursor α) := do
  let y := cursor.y - titleSize style * point α * spacing α
  canvas.put (.text (String.ofList line) (margin α) y)
  return { cursor with y := y }

def drawTitle (lines : List Line) (cursor : Cursor α) : Drawing σ (Cursor α) := do
  canvas.put (.font style.font (titleSize style))
  let cursor ← lines.foldlM (drawTitleLine canvas style) cursor
  canvas.put (.font style.font style.size)
  return { cursor with y := cursor.y - titleSize style * point α }

end Drawing

structure Extent where
  pages : Nat
  rows : Nat
  deriving DecidableEq, Repr

def reportTexts (title : String) (findings : List Finding) : List String :=
  title :: (Columns.headings.toList ++
    findings.flatMap fun finding => (Columns.ofFinding finding).toList)

/-- The fault of a typeface that lacks characters, of which the first twenty are shown. -/
def noGlyphs (name : String) (missing : List Char) : Fault :=
  .renderFailed ("font '" ++ name ++ "' has no glyphs for " ++ toString missing.length ++
    " character(s): " ++ String.ofList (missing.take 20))

/-- Draws the report of some findings, provided that every visible character has a glyph. -/
def drawReport (canvas : Canvas α σ) (face : Typeface α) (title : String) (size : α)
    (findings : List Finding) : Drawing σ Extent := do
  let missing := face.missing (reportTexts title findings)
  if missing ≠ [] then throw (noGlyphs face.name missing)
  let style := Style.ofTypeface face size
  let cursor ← newPage canvas style ⟨top α, 0⟩
  let titleLines := Gauge.wrap ⟨face, titleSize style, textWidth α⟩ title.toList
  let cursor ← drawTitle canvas style titleLines cursor
  let cursor ← drawHeader canvas style cursor
  let cursor ← findings.foldlM
    (fun cursor finding =>
      drawRow canvas style (wrapCells face size (Columns.ofFinding finding)) cursor)
    cursor
  return ⟨cursor.pages, findings.length⟩

end FormatReview.Paper
