import Mathlib
import FormatReview.Proofs.Paper.Order
import FormatReview.Proofs.Paper.Spelling

namespace FormatReview.Paper

/-! The borders of a page, in exact numbers. No test keeps the lines of the title above the lower
margin, nor the first line of a row that goes on below a repeated header. Both are there because the
first page had room for its header below the title. -/

theorem margin_rat : margin Rat = 15 := by
  norm_num [margin]

theorem top_rat : top Rat = 282 := by
  norm_num [top, pageHeight, margin]

theorem padding_rat : padding Rat = 1.5 := rfl

theorem point_rat : point Rat = 0.352778 := rfl

theorem spacing_rat : spacing Rat = 1.3 := rfl

/-- Texts have their base between the margins. Rules may go below the lower one by the padding of a
cell. -/
def Mark.Inside : Mark Rat → Prop
  | .page | .font _ _ => True
  | .text _ _ y => 15 ≤ y ∧ y ≤ 282
  | .rule _ y _ toY => (15 - 1.5 ≤ y ∧ y ≤ 282) ∧ 15 - 1.5 ≤ toY ∧ toY ≤ 282

def AllInside (marks : List (Mark Rat)) : Prop := ∀ mark ∈ marks, mark.Inside

/-- Where a row may begin. -/
def Between (cursor : Cursor Rat) : Prop := 15 - 1.5 ≤ cursor.y ∧ cursor.y ≤ 282

namespace AllInside

variable {marks more : List (Mark Rat)}

theorem nil : AllInside [] := List.forall_mem_nil _

theorem append (inside : AllInside marks) (insideMore : AllInside more) :
    AllInside (marks ++ more) :=
  List.forall_mem_append.2 ⟨inside, insideMore⟩

theorem cons {mark : Mark Rat} (inside : mark.Inside) (insideMore : AllInside more) :
    AllInside (mark :: more) :=
  List.forall_mem_cons.2 ⟨inside, insideMore⟩

theorem across {y : Rat} (low : 15 - 1.5 ≤ y) (high : y ≤ 282) : AllInside [across y] :=
  .cons ⟨⟨low, high⟩, low, high⟩ .nil

end AllInside

section Steps

variable {ι : Type} {Step : ι → Stretch Rat} {items : List ι} {cursor next : Cursor Rat}
  {marks : List (Mark Rat)}

/-- What every step leads to from where it may begin holds behind all steps, if there are any. -/
theorem Chain.allInside {Before After : Cursor Rat → Prop}
    (again : ∀ cursor, After cursor → Before cursor)
    (each : ∀ item cursor marks next, Before cursor → Step item cursor marks next →
      AllInside marks ∧ After next)
    (chain : Chain Step items cursor marks next) (before : Before cursor) :
    AllInside marks ∧ Before next ∧ (items ≠ [] → After next) := by
  induction chain with
  | nil => exact ⟨.nil, before, fun some => absurd rfl some⟩
  | @cons item rest cursor middle next marks more step chain ih =>
      obtain ⟨inside, after⟩ := each item cursor marks middle before step
      obtain ⟨insideMore, beforeNext, afterNext⟩ := ih (again middle after)
      refine ⟨inside.append insideMore, beforeNext, fun _ => ?_⟩
      cases chain with
      | nil => exact after
      | cons step chain => exact afterNext (List.cons_ne_nil _ _)

end Steps

/-- A page has room for the header and for one more line below it. -/
structure Roomy (style : Style Rat) : Prop where
  positive : 0 < style.lineHeight
  header : 0 < lineCount style.header
  room : ((lineCount style.header : Rat) + 1) * style.lineHeight ≤ 262.5

section Parts

variable {style : Style Rat} {Full : Stretch Rat} {cells : Columns Cell} {cursor next : Cursor Rat}
  {marks : List (Mark Rat)}

theorem allInside_lineMarks (positive : 0 < style.lineHeight) (i : Nat)
    (low : 15 ≤ (cursor.down style.lineHeight).y) (high : cursor.y ≤ 282) :
    AllInside (lineMarks style cells i cursor) := by
  intro mark member
  obtain ⟨entry, -, rfl⟩ := List.mem_map.1 member
  rw [Cursor.y_down] at low
  constructor <;> linarith

/-- A full page is left for a place with room for a line. -/
def Turns (style : Style Rat) (Full : Stretch Rat) : Prop :=
  ∀ cursor marks next, Full cursor marks next →
    AllInside marks ∧ 15 + style.lineHeight ≤ next.y ∧ next.y ≤ 282

theorem turns_never : Turns style never := fun _ _ _ => False.elim

theorem RowLine.allInside (positive : 0 < style.lineHeight) (turns : Turns style Full) {i : Nat}
    (line : RowLine style Full cells i cursor marks next) (high : cursor.y ≤ 282) :
    AllInside marks ∧ 15 ≤ next.y ∧ next.y ≤ 282 := by
  cases line with
  | fits room =>
      have low : 15 ≤ (cursor.down style.lineHeight).y := by
        rw [margin_rat] at room
        exact not_lt.1 room
      refine ⟨allInside_lineMarks positive i low high, low, ?_⟩
      rw [Cursor.y_down]
      linarith
  | @full _ middle _ short turned =>
      obtain ⟨inside, room, below⟩ := turns _ _ _ turned
      have low : 15 ≤ (middle.down style.lineHeight).y := by
        rw [Cursor.y_down]
        linarith
      refine ⟨inside.append (allInside_lineMarks positive i low below), low, ?_⟩
      rw [Cursor.y_down]
      linarith

/-- A row ends where another may begin, and is on the page if it begins there. -/
theorem Block.between (positive : 0 < style.lineHeight) (turns : Turns style Full)
    (some : 0 < lineCount cells) (block : Block style Full cells cursor marks next)
    (high : cursor.y ≤ 282) : Between next ∧ (15 - 1.5 ≤ cursor.y → AllInside marks) := by
  cases block with
  | @intro _ middle drawn lines =>
      have below : (cursor.down (padding Rat)).y ≤ 282 := by
        rw [Cursor.y_down, padding_rat]
        linarith
      have again (cursor : Cursor Rat) : 15 ≤ cursor.y ∧ cursor.y ≤ 282 → cursor.y ≤ 282 := And.right
      obtain ⟨inside, -, after⟩ := lines.allInside again
        (fun _ _ _ _ before line => line.allInside positive turns before) below
      obtain ⟨least, most⟩ := after (by simpa using some.ne')
      have between : Between (middle.down (padding Rat)) := by
        rw [Between, Cursor.y_down, padding_rat]
        constructor <;> linarith
      exact ⟨between, fun low =>
        (AllInside.across low high).append (inside.append (.across between.1 between.2))⟩

theorem Chain.y_of_never {items : List Nat}
    (chain : Chain (RowLine style never cells) items cursor marks next) :
    next.y = cursor.y - items.length * style.lineHeight := by
  induction chain with
  | nil => simp
  | cons step chain ih =>
      cases step with
      | fits room =>
          rw [ih, Cursor.y_down, List.length_cons]
          push_cast
          ring
      | full short turned => exact turned.elim

theorem Block.y_of_never (block : Block style never cells cursor marks next) :
    next.y = cursor.y - 1.5 - lineCount cells * style.lineHeight - 1.5 := by
  cases block with
  | intro lines =>
      rw [Cursor.y_down, lines.y_of_never, Cursor.y_down, padding_rat, List.length_range]

section Turning

variable (roomy : Roomy style)

include roomy

theorem HeadedPage.allInside (headed : HeadedPage style cursor marks next) :
    AllInside marks ∧ Between next ∧ 15 + style.lineHeight ≤ next.y - 1.5 := by
  cases headed with
  | @intro _ _ drawn header =>
      obtain ⟨between, inside⟩ :=
        header.between roomy.positive turns_never roomy.header top_rat.le
      have drawn := inside (by rw [top_rat]; norm_num)
      refine ⟨.cons trivial (.cons trivial drawn), between, ?_⟩
      have room := roomy.room
      rw [header.y_of_never, top_rat]
      linarith

theorem turns_continuation : Turns style (Continuation style) := by
  intro cursor marks next continued
  cases continued with
  | intro headed =>
      obtain ⟨inside, ⟨low, high⟩, room⟩ := headed.allInside roomy
      rw [Cursor.y_down, padding_rat]
      exact ⟨inside.append (.across low high), room, by linarith⟩

theorem Row.allInside (some : 0 < lineCount cells) (row : Row style cells cursor marks next)
    (between : Between cursor) : AllInside marks ∧ Between next := by
  have block {cursor next : Cursor Rat} {marks : List (Mark Rat)} (start : Between cursor)
      (block : Block style (Continuation style) cells cursor marks next) :
      AllInside marks ∧ Between next := by
    obtain ⟨after, inside⟩ :=
      block.between roomy.positive (turns_continuation roomy) some start.2
    exact ⟨inside start.1, after⟩
  cases row with
  | stays here drawn => exact block between drawn
  | moves short small headed drawn =>
      obtain ⟨inside, onTop, -⟩ := headed.allInside roomy
      obtain ⟨insideMore, after⟩ := block onTop drawn
      exact ⟨inside.append insideMore, after⟩

end Turning

end Parts

/-! The lines of the header. Its texts are short, so that they have few lines in small type, where a
page has room for many. -/

variable (face : Typeface Rat) (title : String) (size : Rat) (findings : List Finding)

theorem lineCount_headings_le : lineCount (wrapCells face size Columns.headings) ≤ 20 := by
  have spells := spells_wrapCells face size Columns.headings
  have code := spells.code.length_le
  have message := spells.message.length_le
  have suggestion := spells.suggestion.length_le
  have context := spells.context.length_le
  have shortCode : (spaced Columns.headings.code.toList).length ≤ 19 := by decide
  have shortMessage : (spaced Columns.headings.message.toList).length ≤ 19 := by decide
  have shortSuggestion : (spaced Columns.headings.suggestion.toList).length ≤ 19 := by decide
  have shortContext : (spaced Columns.headings.context.toList).length ≤ 19 := by decide
  rw [lineCount_eq_longestCell, longestCell]
  omega

section Title

variable {style : Style Rat} {lines : List Line} {cursor next : Cursor Rat}
  {marks : List (Mark Rat)}

theorem TitleLine.y {line : Line} (drawn : TitleLine style line cursor marks next) :
    next.y = cursor.y - titleHeight style := by
  cases drawn with
  | intro => rfl

theorem Chain.y_of_title (chain : Chain (TitleLine style) lines cursor marks next) :
    next.y = cursor.y - lines.length * titleHeight style := by
  induction chain with
  | nil => simp
  | cons step chain ih =>
      rw [ih, step.y, List.length_cons]
      push_cast
      ring

theorem Title.y (title : Title style lines cursor marks next) :
    next.y = cursor.y - lines.length * titleHeight style - titleSize style * 0.352778 := by
  cases title with
  | intro drawn => rw [Cursor.y_down, drawn.y_of_title, point_rat]

theorem titleHeight_pos (positive : 0 < titleSize style) : 0 < titleHeight style := by
  rw [titleHeight, point_rat, spacing_rat]
  positivity

theorem Title.le (title : Title style lines cursor marks next) (positive : 0 < titleSize style) :
    next.y ≤ cursor.y := by
  have tall := titleHeight_pos positive
  have height : 0 ≤ (lines.length : Rat) * titleHeight style := by positivity
  rw [title.y]
  linarith

theorem Chain.allInside_of_title (chain : Chain (TitleLine style) lines cursor marks next)
    (tall : 0 < titleHeight style) (high : cursor.y ≤ 282) (low : 15 ≤ next.y) :
    AllInside marks ∧ next.y ≤ cursor.y := by
  -- No line of the title is tested, so each is on the page because all lines below it are.
  induction chain with
  | nil => exact ⟨.nil, le_rfl⟩
  | @cons line rest cursor middle next marks more step chain ih =>
      have lower := step.y
      obtain ⟨inside, below⟩ := ih (by linarith) low
      cases step with
      | intro => exact ⟨.cons ⟨by linarith, by linarith⟩ inside, by linarith⟩

theorem Title.allInside (title : Title style lines cursor marks next)
    (positive : 0 < titleSize style) (high : cursor.y ≤ 282) (low : 15 ≤ next.y) :
    AllInside marks := by
  cases title with
  | @intro _ middle _ drawn =>
      rw [Cursor.y_down, point_rat] at low
      obtain ⟨inside, -⟩ := drawn.allInside_of_title (titleHeight_pos positive) high (by linarith)
      exact .cons trivial (inside.append (.cons trivial .nil))

end Title

variable {face title size findings}

theorem lineHeight_ofTypeface :
    (Style.ofTypeface face size).lineHeight = size * 0.352778 * 1.3 := rfl

theorem titleSize_ofTypeface : titleSize (Style.ofTypeface face size) = size + 2 := by
  show size + 2.0 = size + 2
  norm_num

theorem titleHeight_ofTypeface :
    titleHeight (Style.ofTypeface face size) = (size + 2) * 0.352778 * 1.3 := by
  rw [titleHeight, titleSize_ofTypeface, point_rat, spacing_rat]

theorem lineHeight_pos (positive : 0 < size) : 0 < (Style.ofTypeface face size).lineHeight := by
  rw [lineHeight_ofTypeface]
  positivity

theorem titleSize_pos (positive : 0 < size) : 0 < titleSize (Style.ofTypeface face size) := by
  rw [titleSize_ofTypeface]
  positivity

section FirstPage

variable {cursor middle : Cursor Rat} {above head : List (Mark Rat)} (positive : 0 < size)
  (titled : Title (Style.ofTypeface face size) (titleLines face title size) ⟨top Rat, 1⟩
    above cursor)
  (header : Block (Style.ofTypeface face size) never (wrapCells face size Columns.headings)
    cursor head middle)

include positive titled header

/-- A header below a title ends where a row may begin. -/
theorem between_of_header :
    Between middle ∧ (15 - 1.5 ≤ cursor.y → AllInside head) := by
  have high : cursor.y ≤ 282 := (titled.le (titleSize_pos positive)).trans top_rat.le
  exact header.between (lineHeight_pos positive) turns_never
    (lineCount_wrapCells_pos face size Columns.headings) high

/-- If there is room for a header below a title, any page has room for the header and one line
more. -/
theorem roomy_of_header : Roomy (Style.ofTypeface face size) := by
  have some : 0 < lineCount (wrapCells face size Columns.headings) :=
    lineCount_wrapCells_pos face size Columns.headings
  have titleLine : 1 ≤ ((titleLines face title size).length : Rat) := by
    have := (Gauge.rejoins_wrap ⟨face, size + 2.0, textWidth Rat⟩ title.toList).ne_nil
    exact_mod_cast List.length_pos_iff.2 this
  have few : (lineCount (wrapCells face size Columns.headings) : Rat) ≤ 20 := by
    exact_mod_cast lineCount_headings_le face size
  refine ⟨lineHeight_pos positive, some, ?_⟩
  show ((lineCount (wrapCells face size Columns.headings) : Rat) + 1) * _ ≤ _
  obtain ⟨⟨low, -⟩, -⟩ := between_of_header positive titled header
  have below := header.y_of_never
  have start := titled.y
  rw [titleHeight_ofTypeface, titleSize_ofTypeface, top_rat] at start
  rw [lineHeight_ofTypeface] at below ⊢
  generalize (lineCount (wrapCells face size Columns.headings) : Rat) = count at *
  have oneLine : (size + 2) * 0.352778 * 1.3 ≤
      ((titleLines face title size).length : Rat) * ((size + 2) * 0.352778 * 1.3) :=
    le_mul_of_one_le_left (by positivity) titleLine
  -- Small type has room for the few lines that a header can have. In larger type, the title takes
  -- more of the first page than a further line below the header would take of another.
  by_cases small : size ≤ 4
  · calc (count + 1) * (size * 0.352778 * 1.3)
        ≤ 21 * (4 * 0.352778 * 1.3) := by gcongr; linarith
      _ ≤ 262.5 := by norm_num
  · linarith

end FirstPage

theorem Report.allInside (positive : 0 < size) {marks : List (Mark Rat)} {extent : Extent}
    (report : Report face title size findings marks extent) : AllInside marks := by
  have shown := lineCount_wrapCells_pos face size
  have lineHeight : 0 < (Style.ofTypeface face size).lineHeight := lineHeight_pos positive
  cases report with
  | @intro cursor middle next above head body titled header rows =>
      obtain ⟨between, inside⟩ := between_of_header positive titled header
      have roomy := roomy_of_header positive titled header
      -- The title has no test of its own; the header below it did fit.
      have low : 15 ≤ cursor.y := by
        have lines := header.y_of_never
        have height : 0 ≤ (lineCount (wrapCells face size Columns.headings) : Rat) *
            (Style.ofTypeface face size).lineHeight := by positivity
        linarith [between.1]
      have insideTitle := titled.allInside (titleSize_pos positive) top_rat.le low
      obtain ⟨insideRows, -, -⟩ := rows.allInside (fun _ => id)
        (fun _ _ _ _ start row => row.allInside roomy (shown _) start) between
      exact .cons trivial (.cons trivial
        (insideTitle.append ((inside (by linarith)).append insideRows)))

/-- A finished report in exact numbers keeps to the borders of its pages, in every size of type and
with all widths of characters. -/
theorem report_within_borders {σ : Type} {canvas : Canvas Rat σ} {state next : σ} {extent : Extent}
    (positive : 0 < size)
    (finished : (drawReport canvas face title size findings).result state = (.ok extent, next)) :
    ∃ marks : List (Mark Rat),
      (drawReport canvas.traced face title size findings).result (state, []) =
        (.ok extent, (next, marks)) ∧
      ∀ mark ∈ marks, mark.Inside := by
  obtain ⟨marks, traced, report⟩ :=
    (ensures_drawReport face title size findings).traced finished
  exact ⟨marks, traced, report.allInside positive⟩

/-- A row of five lines that goes on below the header of a second page. -/
theorem report_within_borders_of_tall_row :
    let face : Typeface Rat := ⟨"plain", fun c => some (if c = 'x' then 100 else 0)⟩
    let canvas : Canvas Rat Unit := ⟨fun _ _ => .ok ()⟩
    let finding : Finding := ⟨"A", "b", "c", "xxxxx"⟩
    (0 : Rat) < 100 ∧ (drawReport canvas face "T" 100 [finding]).result () = (.ok ⟨2, 1⟩, ()) ∧
    ∃ marks : List (Mark Rat),
      (drawReport canvas.traced face "T" 100 [finding]).result ((), []) =
        (.ok ⟨2, 1⟩, ((), marks)) ∧
      ∀ mark ∈ marks, mark.Inside := by
  intro face canvas finding
  have positive : (0 : Rat) < 100 := by norm_num
  have finished : (drawReport canvas face "T" 100 [finding]).result () = (.ok ⟨2, 1⟩, ()) := by
    cbv
  exact ⟨positive, finished, report_within_borders positive finished⟩

end FormatReview.Paper
