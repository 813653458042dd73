import Mathlib
import FormatReview.Proofs.Paper.Borders
import FormatReview.Proofs.Paper.Sheets

namespace FormatReview.Paper

/-! The rows of a report in pieces, in exact numbers. A row that fits on a page stays whole; a
taller one is divided where a line has no room, and takes a line to every page that it begins. -/

/-- Consecutive lines of a row on one page, below a rule. -/
structure Piece where
  y : Rat
  first : Nat
  count : Nat

/-- Where a row went. Its first piece is on the page where the row before ended or, if it moved, on
a new one. Each of its later pieces begins a page. -/
structure Placement where
  moved : Bool
  first : Piece
  later : List Piece

section Marks

variable (style : Style Rat) (cells : Columns Cell)

def lineRun (first : Nat) : Nat → Rat → List (Mark Rat)
  | 0, _ => []
  | count + 1, y =>
      lineMarks style cells first ⟨y, 0⟩ ++ lineRun (first + 1) count (y - style.lineHeight)

/-- Where the rows of a page begin that has nothing but the header above them. -/
def rowsTop : Rat := top Rat - style.rowHeight style.header

namespace Piece

def lines (piece : Piece) : List Nat := List.range' piece.first piece.count

/-- Where the lines end. -/
def foot (piece : Piece) : Rat := piece.y - padding Rat - piece.count * style.lineHeight

def marks (piece : Piece) : List (Mark Rat) :=
  across piece.y :: lineRun style cells piece.first piece.count (piece.y - padding Rat)

def grow (piece : Piece) : Piece := { piece with count := piece.count + 1 }

end Piece

def whole (y : Rat) : Piece := ⟨y, 0, lineCount cells⟩

def wholeMarks (y : Rat) : List (Mark Rat) :=
  (whole cells y).marks style cells ++ [across ((whole cells y).foot style - padding Rat)]

/-- A new page with the header. -/
def turn : List (Mark Rat) :=
  .page :: .font style.font style.size :: wholeMarks style style.header (top Rat)

/-- Pieces of one row, of which each but the first begins a page. -/
def pieceMarks (first : Piece) (later : List Piece) : List (Mark Rat) :=
  first.marks style cells ++ later.flatMap fun piece => turn style ++ piece.marks style cells

namespace Placement

def pieces (placement : Placement) : List Piece := placement.first :: placement.later

/-- The pieces that begin a page. -/
def turned (placement : Placement) : List Piece :=
  if placement.moved then placement.pieces else placement.later

/-- Where the row ends, at its second rule. -/
def bottom (placement : Placement) : Rat :=
  (placement.later.getLastD placement.first).foot style - padding Rat

def marks (placement : Placement) : List (Mark Rat) :=
  (if placement.moved then turn style else []) ++
    (pieceMarks style cells placement.first placement.later ++ [across (placement.bottom style)])

end Placement

def placedMarks (rows : List (Columns Cell)) (placements : List Placement) : List (Mark Rat) :=
  (List.zipWith (fun cells placement => placement.marks style cells) rows placements).flatten

end Marks

/-- Pieces that are divided only at a line without room on the page. The page after takes it. -/
structure Divided (style : Style Rat) (first : Piece) (later : List Piece) : Prop where
  above : ∀ piece ∈ first :: later, 0 < piece.count → margin Rat ≤ piece.foot style
  broken : ∀ piece ∈ (first :: later).dropLast, piece.foot style - style.lineHeight < margin Rat
  turned : ∀ piece ∈ later, piece.y = rowsTop style ∧ 0 < piece.count

/-- How a row is placed if the row before ended at `start`. All its lines are there, once and in
their order. It moves exactly if it fits on a page but not here, and it is divided only if it fits on
none. -/
structure Placement.Sound (style : Style Rat) (cells : Columns Cell) (start : Rat)
    (placement : Placement) : Prop where
  lines : placement.pieces.flatMap Piece.lines = List.range (lineCount cells)
  begins : placement.first.y = if placement.moved then rowsTop style else start
  divided : Divided style placement.first placement.later
  carried : ∀ piece ∈ placement.turned, 0 < piece.count
  small : style.rowHeight cells ≤ style.pageRoom →
    placement.later = [] ∧ margin Rat ≤ placement.bottom style ∧
      (placement.moved = true ↔ start - margin Rat < style.rowHeight cells)
  tall : style.pageRoom < style.rowHeight cells →
    placement.moved = false ∧
      (placement.first.count = 0 ↔ start - padding Rat - style.lineHeight < margin Rat)

/-- Rows that are placed one behind the other. -/
inductive Placed (style : Style Rat) : Rat → List (Columns Cell) → List Placement → Prop
  | nil {start : Rat} : Placed style start [] []
  | cons {start : Rat} {cells : Columns Cell} {rest : List (Columns Cell)} {placement : Placement}
      {more : List Placement} (sound : placement.Sound style cells start)
      (placed : Placed style (placement.bottom style) rest more) :
      Placed style start (cells :: rest) (placement :: more)

section Marks

variable {style : Style Rat} {cells : Columns Cell}

theorem lineRun_succ (first count : Nat) (y : Rat) :
    lineRun style cells first (count + 1) y =
      lineRun style cells first count y ++
        lineMarks style cells (first + count) ⟨y - count * style.lineHeight, 0⟩ := by
  induction count generalizing first y with
  | zero => simp [lineRun]
  | succ count ih =>
      rw [lineRun, ih, lineRun, List.append_assoc]
      have next : y - style.lineHeight - count * style.lineHeight =
          y - ((count + 1 : Nat) : Rat) * style.lineHeight := by
        push_cast
        ring
      rw [next, Nat.add_right_comm first 1 count, Nat.add_assoc]

namespace Piece

variable (piece : Piece)

theorem lines_grow : piece.grow.lines = piece.lines ++ [piece.first + piece.count] := by
  rw [lines, grow, List.range'_concat, Nat.one_mul]
  rfl

theorem foot_grow : piece.grow.foot style = piece.foot style - style.lineHeight := by
  simp only [foot, grow]
  push_cast
  ring

theorem marks_grow :
    piece.grow.marks style cells = piece.marks style cells ++
      lineMarks style cells (piece.first + piece.count) ⟨piece.foot style, 0⟩ := by
  rw [marks, grow, lineRun_succ]
  rfl

end Piece

end Marks

theorem two_rat : (2.0 : Rat) = 2 := by
  norm_num

theorem pageRoom_eq (style : Style Rat) : style.pageRoom = rowsTop style - margin Rat := by
  rw [Style.pageRoom, two_rat, rowsTop, top]
  ring

theorem rowHeight_eq (style : Style Rat) (cells : Columns Cell) :
    style.rowHeight cells = lineCount cells * style.lineHeight + 2 * padding Rat := by
  rw [Style.rowHeight, two_rat]
  rfl

section Stretches

variable {style : Style Rat} {cells : Columns Cell} {cursor next : Cursor Rat}
  {marks : List (Mark Rat)}

theorem Chain.marks_of_never {first count : Nat} {items : List Nat}
    (numbered : items = List.range' first count)
    (chain : Chain (RowLine style never cells) items cursor marks next) :
    marks = lineRun style cells first count cursor.y := by
  induction chain generalizing first count with
  | nil =>
      have none := congrArg List.length numbered
      rw [List.length_range', List.length_nil] at none
      rw [← none, lineRun]
  | @cons item rest cursor middle next marks more step chain ih =>
      cases count with
      | zero => cases numbered
      | succ count =>
          obtain ⟨rfl, others⟩ := List.cons.inj (numbered.trans List.range'_succ)
          cases step with
          | fits room => rw [ih others, lineRun, Cursor.y_down]; rfl
          | full short turned => exact turned.elim

theorem Block.eq_wholeMarks (block : Block style never cells cursor marks next) :
    marks = wholeMarks style cells cursor.y ∧ next.y = cursor.y - style.rowHeight cells := by
  have y := block.y_of_never
  cases block with
  | @intro _ middle drawn lines =>
      have drawn := lines.marks_of_never (List.range_eq_range' ..)
      have foot := lines.y_of_never
      rw [List.length_range] at foot
      constructor
      · rw [drawn, Cursor.y_down, Cursor.y_down, foot]
        rfl
      · rw [y, rowHeight_eq, padding_rat]
        ring

theorem HeadedPage.eq_turn (headed : HeadedPage style cursor marks next) :
    marks = turn style ∧ next.y = rowsTop style := by
  cases headed with
  | intro header =>
      obtain ⟨drawn, y⟩ := header.eq_wholeMarks
      exact ⟨by rw [drawn, turn], y⟩

theorem Continuation.eq_turn (continued : Continuation style cursor marks next) :
    marks = turn style ++ [across (rowsTop style)] ∧ next.y = rowsTop style - padding Rat := by
  cases continued with
  | intro headed =>
      obtain ⟨rfl, y⟩ := headed.eq_turn
      rw [Cursor.y_down, y]
      exact ⟨rfl, rfl⟩

end Stretches

theorem Roomy.margin_le_foot {style : Style Rat} (roomy : Roomy style) (line : Nat) :
    margin Rat ≤ (⟨rowsTop style, line, 1⟩ : Piece).foot style := by
  have room := roomy.room
  rw [Piece.foot, rowsTop, rowHeight_eq, top_rat, margin_rat, padding_rat, Nat.cast_one]
  linarith

section Dividing

variable {style : Style Rat} {cells : Columns Cell} {cursor next : Cursor Rat}
  {marks : List (Mark Rat)}

theorem Chain.divided (roomy : Roomy style) {items : List Nat}
    (chain : Chain (RowLine style (Continuation style) cells) items cursor marks next)
    {begun : Piece} {count : Nat} (numbered : items = List.range' (begun.first + begun.count) count)
    (foot : cursor.y = begun.foot style)
    (above : 0 < begun.count → margin Rat ≤ begun.foot style) :
    ∃ first later, Divided style first later ∧ first.y = begun.y ∧ begun.count ≤ first.count ∧
      (first :: later).flatMap Piece.lines = begun.lines ++ items ∧
      pieceMarks style cells first later = begun.marks style cells ++ marks ∧
      next.y = (later.getLastD first).foot style := by
  -- The induction carries the piece that is open. It grows by a line that has room below it, and
  -- another line opens the next piece.
  induction chain generalizing begun count with
  | nil =>
      refine ⟨begun, [], ⟨?_, ?_, ?_⟩, rfl, Nat.le_refl _, ?_, ?_, foot⟩
      · simpa using above
      · simp
      · simp
      · simp
      · simp [pieceMarks]
  | @cons item rest cursor middle next marks more step chain ih =>
      cases count with
      | zero => cases numbered
      | succ count =>
          obtain ⟨rfl, others⟩ := List.cons.inj (numbered.trans List.range'_succ)
          cases step with
          | fits room =>
              have grown : (cursor.down style.lineHeight).y = begun.grow.foot style := by
                rw [Cursor.y_down, foot, Piece.foot_grow]
              obtain ⟨first, later, divided, y, least, lines, drawn, ended⟩ :=
                ih others grown fun _ => not_lt.1 (grown ▸ room)
              refine ⟨first, later, divided, y, Nat.le_of_succ_le least, ?_, ?_, ended⟩
              · rw [lines, Piece.lines_grow, List.append_assoc]
                rfl
              · rw [drawn, Piece.marks_grow, List.append_assoc, ← foot]
                rfl
          | @full _ middle turning short turned =>
              obtain ⟨rfl, onTop⟩ := turned.eq_turn
              let taken : Piece := ⟨rowsTop style, begun.first + begun.count, 1⟩
              have grown : (middle.down style.lineHeight).y = taken.foot style := by
                rw [Cursor.y_down, onTop, Piece.foot, Nat.cast_one, one_mul]
              obtain ⟨first, later, divided, y, least, lines, drawn, ended⟩ :=
                @ih taken count others grown fun _ => roomy.margin_le_foot _
              refine ⟨begun, first :: later, ⟨?_, ?_, ?_⟩, rfl, Nat.le_refl _, ?_, ?_, ?_⟩
              · exact List.forall_mem_cons.2 ⟨above, divided.above⟩
              · exact List.forall_mem_cons.2 ⟨foot ▸ short, divided.broken⟩
              · exact List.forall_mem_cons.2 ⟨⟨y, least⟩, divided.turned⟩
              · rw [List.flatMap_cons, lines]
                rfl
              · rw [pieceMarks] at drawn ⊢
                have opened : taken.marks style cells =
                    across (rowsTop style) ::
                      lineMarks style cells (begun.first + begun.count) middle := by
                  rw [Piece.marks, lineRun, lineRun, List.append_nil, ← onTop]
                  rfl
                rw [List.flatMap_cons, List.append_assoc, drawn, opened]
                simp
              · rw [ended, List.getLastD_cons]

theorem Block.divided (roomy : Roomy style)
    (block : Block style (Continuation style) cells cursor marks next) :
    ∃ first later, Divided style first later ∧ first.y = cursor.y ∧
      (first :: later).flatMap Piece.lines = List.range (lineCount cells) ∧
      marks = pieceMarks style cells first later ++ [across next.y] ∧
      next.y = (later.getLastD first).foot style - padding Rat := by
  cases block with
  | @intro _ middle drawing chain =>
      let begun : Piece := ⟨cursor.y, 0, 0⟩
      have foot : (cursor.down (padding Rat)).y = begun.foot style := by
        rw [Cursor.y_down, Piece.foot, Nat.cast_zero, zero_mul, sub_zero]
      obtain ⟨first, later, divided, y, -, lines, drawn, ended⟩ :=
        @Chain.divided style cells _ _ _ roomy _ chain begun _ (List.range_eq_range' ..) foot
          fun none => absurd none (Nat.lt_irrefl 0)
      refine ⟨first, later, divided, y, lines, ?_, ?_⟩
      · rw [drawn]
        rfl
      · rw [Cursor.y_down, ended]

end Dividing

namespace Divided

variable {style : Style Rat} {cells : Columns Cell} {first : Piece} {later : List Piece}

theorem count_of_alone (lines : [first].flatMap Piece.lines = List.range (lineCount cells)) :
    first.count = lineCount cells := by
  have counted := congrArg List.length lines
  simpa [Piece.lines] using counted

theorem count_lt (divided : Divided style first later) (some : later ≠ [])
    (lines : (first :: later).flatMap Piece.lines = List.range (lineCount cells)) :
    first.count < lineCount cells := by
  cases later with
  | nil => exact absurd rfl some
  | cons piece more =>
      have taken := (divided.turned piece List.mem_cons_self).2
      have counted := congrArg List.length lines
      simp only [List.flatMap_cons, List.length_append, Piece.lines, List.length_range',
        List.length_range] at counted
      omega

theorem broken_first (divided : Divided style first later) (some : later ≠ []) :
    first.foot style - style.lineHeight < margin Rat := by
  apply divided.broken
  rw [List.dropLast_cons_of_ne_nil some]
  exact List.mem_cons_self

theorem later_eq_nil (divided : Divided style first later) (positive : 0 < style.lineHeight)
    (lines : (first :: later).flatMap Piece.lines = List.range (lineCount cells))
    (room : margin Rat ≤ first.y - style.rowHeight cells) : later = [] := by
  -- A divided row has a line more that had no room below its first piece.
  by_contra some
  have short := divided.broken_first some
  have fewer : ((first.count + 1 : Nat) : Rat) ≤ lineCount cells := by
    exact_mod_cast divided.count_lt some lines
  have height : ((first.count + 1 : Nat) : Rat) * style.lineHeight ≤
      lineCount cells * style.lineHeight := by gcongr
  rw [Piece.foot] at short
  rw [rowHeight_eq] at room
  rw [padding_rat] at short room
  push_cast at height
  linarith

theorem whole_of_room (divided : Divided style first later) (positive : 0 < style.lineHeight)
    (lines : (first :: later).flatMap Piece.lines = List.range (lineCount cells))
    (room : margin Rat ≤ first.y - style.rowHeight cells) :
    later = [] ∧ margin Rat ≤ (later.getLastD first).foot style - padding Rat := by
  obtain rfl := divided.later_eq_nil positive lines room
  refine ⟨rfl, ?_⟩
  have bottom : first.foot style - padding Rat = first.y - style.rowHeight cells := by
    rw [Piece.foot, count_of_alone lines, rowHeight_eq]
    ring
  rw [List.getLastD_nil, bottom]
  exact room

/-- The first piece has no line exactly if not even one has room below the rule. -/
theorem count_eq_zero_iff (divided : Divided style first later) (positive : 0 < style.lineHeight)
    (some : 0 < lineCount cells)
    (lines : (first :: later).flatMap Piece.lines = List.range (lineCount cells)) :
    first.count = 0 ↔ first.y - padding Rat - style.lineHeight < margin Rat := by
  constructor
  · intro none
    have more : later ≠ [] := by
      rintro rfl
      exact some.ne' ((count_of_alone lines).symm.trans none)
    have short := divided.broken_first more
    rwa [Piece.foot, none, Nat.cast_zero, zero_mul, sub_zero] at short
  · intro short
    by_contra taken
    have above := divided.above first List.mem_cons_self (Nat.pos_of_ne_zero taken)
    have one : (1 : Rat) ≤ first.count := by exact_mod_cast Nat.pos_of_ne_zero taken
    have height : 1 * style.lineHeight ≤ first.count * style.lineHeight := by gcongr
    rw [Piece.foot] at above
    linarith

end Divided

section Rows

variable {style : Style Rat} {cells : Columns Cell} {cursor next : Cursor Rat}
  {marks : List (Mark Rat)}

theorem Row.placed (roomy : Roomy style) (some : 0 < lineCount cells)
    (row : Row style cells cursor marks next) :
    ∃ placement : Placement, placement.Sound style cells cursor.y ∧
      marks = placement.marks style cells ∧ next.y = placement.bottom style := by
  cases row with
  | stays here block =>
      obtain ⟨first, later, divided, y, lines, drawn, ended⟩ := block.divided roomy
      refine ⟨⟨false, first, later⟩, ⟨lines, y, divided, ?carried, ?small, ?tall⟩, ?marks, ended⟩
      case carried => exact fun piece member => (divided.turned piece member).2
      case small =>
        intro small
        -- A row that could have moved and did not had room where it is.
        have room : margin Rat ≤ cursor.y - style.rowHeight cells :=
          not_lt.1 fun short => here ⟨short, small⟩
        obtain ⟨alone, above⟩ := divided.whole_of_room roomy.positive lines (y ▸ room)
        refine ⟨alone, above, fun moved => Bool.noConfusion moved, fun short => ?_⟩
        linarith
      case tall =>
        intro tall
        rw [← y]
        exact ⟨rfl, divided.count_eq_zero_iff roomy.positive some lines⟩
      case marks =>
        rw [drawn, ended]
        rfl
  | moves short small headed block =>
      obtain ⟨rfl, onTop⟩ := headed.eq_turn
      obtain ⟨first, later, divided, y, lines, drawn, ended⟩ := block.divided roomy
      have room : margin Rat ≤ first.y - style.rowHeight cells := by
        rw [pageRoom_eq] at small
        rw [y, onTop]
        linarith
      obtain ⟨rfl, above⟩ := divided.whole_of_room roomy.positive lines room
      refine ⟨⟨true, first, []⟩, ⟨lines, y.trans onTop, divided, ?carried, ?small, ?tall⟩, ?marks,
        ended⟩
      case carried =>
        intro piece member
        obtain rfl := List.mem_singleton.1 member
        rw [Divided.count_of_alone lines]
        exact some
      case small =>
        intro
        exact ⟨rfl, above, fun _ => by linarith, fun _ => rfl⟩
      case tall => exact fun tall => absurd small (not_le.2 tall)
      case marks =>
        rw [drawn, ended]
        rfl

theorem Chain.placed (roomy : Roomy style) {ι : Type} {row : ι → Columns Cell}
    (some : ∀ item, 0 < lineCount (row item)) {items : List ι}
    (chain : Chain (fun item => Row style (row item)) items cursor marks next) :
    ∃ placements, Placed style cursor.y (items.map row) placements ∧
      marks = placedMarks style (items.map row) placements := by
  induction chain with
  | nil => exact ⟨[], .nil, rfl⟩
  | @cons item rest cursor middle next marks more step chain ih =>
      obtain ⟨placement, sound, rfl, ended⟩ := step.placed roomy (some item)
      obtain ⟨placements, placed, rfl⟩ := ih
      exact ⟨placement :: placements, .cons sound (ended ▸ placed), rfl⟩

end Rows

/-! Pages begin with the pieces that are turned to, and with nothing else. -/

section Counting

variable (style : Style Rat) (cells : Columns Cell)

@[simp] theorem countP_lineRun (first count : Nat) (y : Rat) :
    (lineRun style cells first count y).countP Mark.isPage = 0 := by
  induction count generalizing first y with
  | zero => rfl
  | succ count ih =>
      have line := (reading_onePage.shows_lineMarks style cells first ⟨y, 0⟩).unbroken
      rw [lineRun, List.countP_append, line, ih]

@[simp] theorem Piece.countP_marks (piece : Piece) :
    (piece.marks style cells).countP Mark.isPage = 0 := by
  simp [Piece.marks, across, Mark.isPage]

@[simp] theorem countP_wholeMarks (y : Rat) :
    (wholeMarks style cells y).countP Mark.isPage = 0 := by
  simp [wholeMarks, across, Mark.isPage]

@[simp] theorem countP_turn : (turn style).countP Mark.isPage = 1 := by
  simp [turn, List.countP_cons, Mark.isPage]

theorem countP_turned (pieces : List Piece) :
    (pieces.flatMap fun piece => turn style ++ piece.marks style cells).countP Mark.isPage =
      pieces.length := by
  induction pieces with
  | nil => rfl
  | cons piece rest ih =>
      rw [List.flatMap_cons, List.countP_append, ih, List.countP_append, countP_turn,
        Piece.countP_marks, List.length_cons]
      omega

theorem Placement.countP_marks (placement : Placement) :
    (placement.marks style cells).countP Mark.isPage = placement.turned.length := by
  obtain ⟨moved, first, later⟩ := placement
  cases moved with
  | false =>
      simp [Placement.marks, pieceMarks, Placement.turned, countP_turned, across, Mark.isPage]
  | true =>
      simp [Placement.marks, pieceMarks, Placement.turned, Placement.pieces, countP_turned, across,
        Mark.isPage]
      omega

theorem Placed.countP_marks {style : Style Rat} {start : Rat} {rows : List (Columns Cell)}
    {placements : List Placement} (placed : Placed style start rows placements) :
    (placedMarks style rows placements).countP Mark.isPage =
      (placements.map fun placement => placement.turned.length).sum := by
  induction placed with
  | nil => rfl
  | @cons start cells rest placement more sound placed ih =>
      rw [List.map_cons, List.sum_cons, ← ih, ← placement.countP_marks style cells,
        ← List.countP_append]
      rfl

end Counting

variable (face : Typeface Rat) (title : String) (size : Rat) (findings : List Finding)

def tableRows : List (Columns Cell) :=
  findings.map fun finding => wrapCells face size (Columns.ofFinding finding)

/-- A finished report in exact numbers. Below the header of the first page its rows are placed one
behind the other, and every page after the first begins with a piece that has a line. -/
theorem rows_split_only_when_full {σ : Type} {canvas : Canvas Rat σ} {state next : σ}
    {extent : Extent} (positive : 0 < size)
    (finished : (drawReport canvas face title size findings).result state = (.ok extent, next)) :
    let style := Style.ofTypeface face size
    ∃ (above : List (Mark Rat)) (y : Rat) (placements : List Placement),
      (drawReport canvas.traced face title size findings).result (state, []) =
        (.ok extent, (next, .page :: .font face.name size ::
          (above ++ (wholeMarks style style.header y ++
            placedMarks style (tableRows face size findings) placements)))) ∧
      OnePage above (titleTexts Rat (titleLines face title size)) ∧
      Placed style (y - style.rowHeight style.header) (tableRows face size findings) placements ∧
      extent.pages = 1 + (placements.map fun placement => placement.turned.length).sum := by
  intro style
  obtain ⟨marks, traced, report⟩ :=
    (ensures_drawReport face title size findings).traced finished
  have counted := report.counted
  cases report with
  | @intro cursor middle last above head body titled header rows =>
      have roomy := roomy_of_header positive titled header
      have onePage := titled.shows reading_onePage
      obtain ⟨rfl, ended⟩ := header.eq_wholeMarks
      obtain ⟨placements, placed, rfl⟩ :=
        rows.placed roomy fun _ => lineCount_wrapCells_pos face size _
      refine ⟨above, cursor.y, placements, traced, onePage, ended ▸ placed, ?_⟩
      rw [counted, ← placed.countP_marks]
      simp only [List.countP_cons, List.countP_append, onePage.unbroken, countP_wholeMarks,
        Mark.isPage, if_true, Bool.false_eq_true, if_false]
      omega

/-- Rows of one line on two pages, and a row of five lines that goes on from the second page to a
third. -/
theorem rows_split_only_when_full_three_pages :
    let face : Typeface Rat := ⟨"plain", fun c => some (if c = 'x' then 100 else 0)⟩
    let canvas : Canvas Rat Unit := ⟨fun _ _ => .ok ()⟩
    let line : Finding := ⟨"A", "b", "c", "d"⟩
    let findings : List Finding := [line, line, line, ⟨"A", "b", "c", "xxxxx"⟩]
    let style := Style.ofTypeface face 100
    (0 : Rat) < 100 ∧
    (drawReport canvas face "T" 100 findings).result () = (.ok ⟨3, 4⟩, ()) ∧
    ∃ (above : List (Mark Rat)) (y : Rat) (placements : List Placement),
      (drawReport canvas.traced face "T" 100 findings).result ((), []) =
        (.ok ⟨3, 4⟩, ((), .page :: .font "plain" 100 ::
          (above ++ (wholeMarks style style.header y ++
            placedMarks style (tableRows face 100 findings) placements)))) ∧
      OnePage above (titleTexts Rat (titleLines face "T" 100)) ∧
      Placed style (y - style.rowHeight style.header) (tableRows face 100 findings) placements ∧
      3 = 1 + (placements.map fun placement => placement.turned.length).sum := by
  intro face canvas line findings style
  have positive : (0 : Rat) < 100 := by norm_num
  have finished : (drawReport canvas face "T" 100 findings).result () = (.ok ⟨3, 4⟩, ()) := by
    cbv
  exact ⟨positive, finished, rows_split_only_when_full face "T" 100 findings positive finished⟩

end FormatReview.Paper
