import Mathlib
import FormatReview.Settings
import FormatReview.Proofs.Paper.Refusal
import FormatReview.Proofs.Paper.Single
import FormatReview.Proofs.Paper.Spelling
import FormatReview.Proofs.Paper.Throughout
import FormatReview.Proofs.Paper.Coverage

namespace FormatReview.Paper

/-! Coordinates in single precision. Settings are taken with every type size that is not at most
zero, and so with one that is not a number; with any other, all sizes and coordinates of a report
are numbers, whether it is completed or not. -/

open Single

section Keeps

variable {α β γ : Type}

/-- Completed or not, each mark of the picture is as `Each` says. If it is completed, `Post` holds of
what it returns. -/
def Picture.Keeps (picture : Picture α β) (Each : Mark α → Prop) (Post : β → Prop) : Prop :=
  ∃ marks ending, picture.Yields marks ending ∧ (∀ mark ∈ marks, Each mark) ∧
    ∀ b, ending = .ok b → Post b

variable {Each : Mark α → Prop} {First Post : β → Prop} {picture : Picture α β}

theorem Picture.Yields.keeps {marks : List (Mark α)} {b : β} (yields : picture.Yields marks (.ok b))
    (each : ∀ mark ∈ marks, Each mark) (holds : Post b) : picture.Keeps Each Post := by
  refine ⟨marks, .ok b, yields, each, ?_⟩
  rintro c completed
  obtain rfl := Except.ok.inj completed
  exact holds

theorem keeps_pure {b : β} (holds : Post b) : Picture.Keeps (fun _ _ => pure b) Each Post :=
  (Picture.Yields.pure b).keeps (List.forall_mem_nil _) holds

theorem keeps_throw (fault : Fault) :
    Picture.Keeps (fun _ _ => throw fault : Picture α β) Each Post :=
  ⟨[], .error fault, .throw fault, List.forall_mem_nil _, by simp⟩

theorem Picture.Keeps.bind {Post : γ → Prop} {next : β → Picture α γ}
    (first : picture.Keeps Each First) (second : ∀ b, First b → (next b).Keeps Each Post) :
    Picture.Keeps (fun σ canvas => picture σ canvas >>= fun b => next b σ canvas) Each Post := by
  obtain ⟨marks, ending, yields, each, holds⟩ := first
  cases ending with
  | error fault => exact ⟨marks, .error fault, yields.bind_error next, each, by simp⟩
  | ok b =>
      obtain ⟨more, final, yieldsMore, eachMore, holdsMore⟩ := second b (holds b rfl)
      exact ⟨marks ++ more, final, yields.bind yieldsMore, List.forall_mem_append.2 ⟨each, eachMore⟩,
        holdsMore⟩

end Keeps

section Table

variable {α ι : Type} [Measure α]

abbrev Leads (picture : Picture α (Cursor α)) (Place : α → Prop) (Each : Mark α → Prop) : Prop :=
  picture.Keeps Each fun next => Place next.y

/-- Places on a page from which the parts of a table lead to such places again, with marks that are
as `Each` says. -/
structure Steady (style : Style α) (Place : α → Prop) (Each : Mark α → Prop) : Prop where
  top : Place (top α)
  padding : ∀ {y}, Place y → Place (y - padding α)
  line : ∀ {y}, Place y → Place (y - style.lineHeight)
  page : Each .page
  font : Each (.font style.font style.size)
  ruled : ∀ {y}, Place y → Each (across y)
  written : ∀ {cells i cursor}, Place cursor.y → ∀ mark ∈ lineMarks style cells i cursor, Each mark

variable {style : Style α} {Place : α → Prop} {Each : Mark α → Prop}

omit [Measure α] in
theorem leads_foldlM {step : Cursor α → ι → Picture α (Cursor α)}
    (each : ∀ {cursor : Cursor α}, Place cursor.y → ∀ item, Leads (step cursor item) Place Each)
    (items : List ι) {cursor : Cursor α} (place : Place cursor.y) :
    Leads (fun σ canvas => items.foldlM (fun cursor item => step cursor item σ canvas) cursor)
      Place Each := by
  induction items generalizing cursor with
  | nil => exact keeps_pure place
  | cons item rest ih => exact (each place item).bind fun _ next => ih next

namespace Steady

variable (steady : Steady style Place Each)

include steady

theorem keeps_across {y : α} (place : Place y) :
    Picture.Keeps (fun _ canvas => ruleAcross canvas y) Each fun _ => True :=
  (Picture.Yields.put (across y)).keeps (List.forall_mem_singleton.2 (steady.ruled place)) trivial

section Lines

variable {whenFull : (σ : Type) → Canvas α σ → Cursor α → Drawing σ (Cursor α)}
  (full : ∀ cursor, Leads (fun σ canvas => whenFull σ canvas cursor) Place Each)
  (cells : Columns Cell) {cursor : Cursor α} (place : Place cursor.y)

include full place

theorem leads_drawLine (i : Nat) :
    Leads (fun σ canvas => drawLine canvas style (whenFull σ canvas) cells cursor i) Place Each := by
  by_cases short : cursor.y - style.lineHeight < margin α
  · simp only [drawLine, short, if_true]
    refine (full cursor).bind fun middle turned => ?_
    exact (yields_line style cells i middle).keeps (steady.written turned) (steady.line turned)
  · simp only [drawLine, short, if_false, pure_bind]
    exact (yields_line style cells i cursor).keeps (steady.written place) (steady.line place)

theorem leads_drawCells :
    Leads (fun σ canvas => drawCells canvas style (whenFull σ canvas) cells cursor) Place Each := by
  refine (steady.keeps_across place).bind fun _ _ => ?_
  have start : Place (cursor.down (Paper.padding α)).y := steady.padding place
  refine (leads_foldlM (fun place i => steady.leads_drawLine full cells place i) _ start).bind
    fun middle below => ?_
  exact (steady.keeps_across (steady.padding below)).bind fun _ _ =>
    keeps_pure (steady.padding below)

end Lines

theorem leads_drawHeader {cursor : Cursor α} (place : Place cursor.y) :
    Leads (fun _ canvas => drawHeader canvas style cursor) Place Each :=
  steady.leads_drawCells (fun _ => keeps_throw headerTooTall) style.header place

theorem leads_headedPage (cursor : Cursor α) :
    Leads (fun _ canvas => headedPage canvas style cursor) Place Each := by
  have turned : ∀ mark ∈ [.page, .font style.font style.size], Each mark := by
    simpa using ⟨steady.page, steady.font⟩
  exact ((yields_newPage style cursor).keeps turned steady.top).bind
    fun _ place => steady.leads_drawHeader place

theorem leads_continueRow (cursor : Cursor α) :
    Leads (fun _ canvas => continueRow canvas style cursor) Place Each := by
  refine (steady.leads_headedPage cursor).bind fun _ below => ?_
  exact (steady.keeps_across below).bind fun _ _ => keeps_pure (steady.padding below)

theorem leads_drawRow (cells : Columns Cell) {cursor : Cursor α} (place : Place cursor.y) :
    Leads (fun _ canvas => drawRow canvas style cells cursor) Place Each := by
  have block {cursor : Cursor α} (place : Place cursor.y) :=
    steady.leads_drawCells steady.leads_continueRow cells place
  by_cases moved : cursor.y - style.rowHeight cells < margin α ∧
      style.rowHeight cells ≤ style.pageRoom
  · simp only [drawRow, moved, and_self, if_true]
    exact (steady.leads_headedPage cursor).bind fun _ below => block below
  · simp only [drawRow, moved, if_false, pure_bind]
    exact block place

end Steady

section Report

variable {face : Typeface α} {title : String} {size : α} {findings : List Finding}

def drawTable {σ : Type} (canvas : Canvas α σ) (face : Typeface α) (size : α)
    (findings : List Finding) (cursor : Cursor α) : Drawing σ Extent := do
  let cursor ← drawHeader canvas (Style.ofTypeface face size) cursor
  drawFindings canvas face size findings cursor

theorem Steady.keeps_drawTable (steady : Steady (Style.ofTypeface face size) Place Each)
    {cursor : Cursor α} (place : Place cursor.y) :
    Picture.Keeps (fun _ canvas => drawTable canvas face size findings cursor) Each
      fun _ => True := by
  refine (steady.leads_drawHeader place).bind fun middle below => ?_
  have rows := leads_foldlM (fun place (finding : Finding) =>
    steady.leads_drawRow (wrapCells face size (Columns.ofFinding finding)) place) findings below
  exact rows.bind fun _ _ => keeps_pure trivial

theorem keeps_drawReport (page : Each .page) (font : Each (.font face.name size))
    (titled : ∀ {marks cursor}, Title (Style.ofTypeface face size) (titleLines face title size)
      ⟨top α, 1⟩ marks cursor → (∀ mark ∈ marks, Each mark) ∧ Place cursor.y)
    (table : ∀ {cursor : Cursor α}, Place cursor.y →
      Picture.Keeps (fun _ canvas => drawTable canvas face size findings cursor) Each
        fun _ => True) :
    Picture.Keeps (fun _ canvas => drawReport canvas face title size findings) Each
      fun _ => True := by
  by_cases covered : face.missing (reportTexts title findings) = []
  · simp only [drawReport_of_covered covered]
    let style := Style.ofTypeface face size
    obtain ⟨above, cursor, drawn, title⟩ :=
      yields_drawTitle style (titleLines face title size) ⟨top α, 1⟩
    obtain ⟨each, below⟩ := titled title
    obtain ⟨marks, ending, yields, eachBelow, -⟩ := table below
    refine ⟨_, _, (yields_newPage style ⟨top α, 0⟩).bind (drawn.bind yields), ?_, by simp⟩
    exact List.forall_mem_append.2 ⟨List.forall_mem_cons.2 ⟨page, List.forall_mem_singleton.2 font⟩,
      List.forall_mem_append.2 ⟨each, eachBelow⟩⟩
  · simp only [drawReport_of_missing covered]
    exact keeps_throw _

end Report

/-- A header without room for its first line is given up after its first rule. -/
theorem yields_drawHeader_of_short {cursor : Cursor α}
    (some : 0 < lineCount style.header)
    (short : cursor.y - padding α - style.lineHeight < margin α) :
    Picture.Yields (fun _ canvas => drawHeader canvas style cursor) [across cursor.y]
      (.error headerTooTall) := by
  obtain ⟨count, counted⟩ := Nat.exists_eq_add_of_lt some
  have line : Picture.Yields (fun _ canvas => drawLine canvas style (fun _ => throw headerTooTall)
      style.header (cursor.down (padding α)) 0) [] (.error headerTooTall) := by
    simp only [drawLine, Cursor.y_down, short, if_true]
    exact (Picture.Yields.throw headerTooTall).bind_error _
  have lines : Picture.Yields (fun _ canvas => (List.range (lineCount style.header)).foldlM
      (drawLine canvas style (fun _ => throw headerTooTall) style.header)
      (cursor.down (padding α))) [] (.error headerTooTall) := by
    rw [counted, Nat.zero_add, List.range_succ_eq_map]
    exact line.bind_error _
  exact (Picture.Yields.put (across cursor.y)).bind (lines.bind_error _)

end Table

/-! Single precision. -/

/-- Every size and every coordinate of the mark is a number. -/
def Mark.Real : Mark Float32 → Prop
  | .page => True
  | .font _ size => size.isNaN = false
  | .text _ x y => x.isNaN = false ∧ y.isNaN = false
  | .rule x y toX toY => (x.isNaN = false ∧ y.isNaN = false) ∧ toX.isNaN = false ∧ toY.isNaN = false

theorem isNaN_pageWidth_sub_margin : (pageWidth Float32 - margin Float32).isNaN = false := rfl

theorem isNaN_span {span : Span Float32} (listed : span ∈ (spans Float32).toList) :
    (span.x + padding Float32).isNaN = false := by
  have numbers : ((spans Float32).toList.all fun span => !(span.x + padding Float32).isNaN) = true :=
    rfl
  simpa using List.all_eq_true.1 numbers span listed

theorem solid_point : solid (unpacked (point Float32)) := rfl

theorem solid_spacing : solid (unpacked (spacing Float32)) := rfl

theorem solid_margin : solid (unpacked (margin Float32)) := rfl

theorem solid_top : solid (unpacked (top Float32)) := rfl

theorem solid_padding : solid (unpacked (padding Float32)) := rfl

theorem isNaN_margin : (margin Float32).isNaN = false := (isUp_of_solid solid_margin).isNaN

theorem isLow_top : IsLow (top Float32) := isLow_of_solid solid_top

theorem isUp_padding : IsUp (padding Float32) := isUp_of_solid solid_padding

theorem mem_spans_of_mem_textsAt {α : Type} [Measure α] {cells : Columns Cell} {i : Nat}
    {entry : Span α × Line} (member : entry ∈ textsAt cells i) : entry.1 ∈ (spans α).toList := by
  have of_some {span : Span α} {cell : Cell}
      (listed : some entry = (cell[i]?.filter (· ≠ [])).map (span, ·)) : entry.1 = span := by
    obtain ⟨line, -, rfl⟩ := Option.map_eq_some_iff.1 listed.symm
    rfl
  rw [textsAt, List.reduceOption_mem_iff] at member
  simp only [Columns.toList, Columns.zipWith, List.mem_cons, List.not_mem_nil, or_false]
    at member ⊢
  exact member.imp of_some (.imp of_some (.imp of_some of_some))

theorem real_across {y : Float32} (place : IsLow y) : (across y).Real :=
  ⟨⟨isNaN_margin, place.isNaN⟩, isNaN_pageWidth_sub_margin, place.isNaN⟩

section Sizes

variable {style : Style Float32} (size : IsUp style.size)

include size

theorem isUp_lineHeight : IsUp style.lineHeight := (size.mul solid_point).mul solid_spacing

theorem isUp_titleSize : IsUp (titleSize style) := size.add rfl

theorem isUp_titleHeight : IsUp (titleHeight style) :=
  ((isUp_titleSize size).mul solid_point).mul solid_spacing

theorem steady_single (low : IsLow style.lineHeight) : Steady style IsLow Mark.Real where
  top := isLow_top
  padding place := place.sub isUp_padding
  line place := place.sub (isUp_lineHeight size)
  page := trivial
  font := size.isNaN
  ruled := real_across
  written {cells i cursor} place := by
    intro mark member
    obtain ⟨entry, listed, rfl⟩ := List.mem_map.1 member
    exact ⟨isNaN_span (mem_spans_of_mem_textsAt listed),
      isNaN_add_quarter (place.sub (isUp_lineHeight size)) (isUp_lineHeight size) low⟩

variable {lines : List Line} {cursor next : Cursor Float32} {marks : List (Mark Float32)}

theorem Chain.real_of_title (chain : Chain (TitleLine style) lines cursor marks next)
    (place : IsLow cursor.y) : (∀ mark ∈ marks, mark.Real) ∧ IsLow next.y := by
  induction chain with
  | nil => exact ⟨List.forall_mem_nil _, place⟩
  | @cons line rest cursor middle next marks more step chain ih =>
      cases step with
      | intro =>
          have below : IsLow (cursor.down (titleHeight style)).y :=
            place.sub (isUp_titleHeight size)
          obtain ⟨real, after⟩ := ih below
          exact ⟨List.forall_mem_cons.2 ⟨⟨isNaN_margin, below.isNaN⟩, real⟩, after⟩

theorem Title.real (title : Title style lines cursor marks next) (place : IsLow cursor.y) :
    (∀ mark ∈ marks, mark.Real) ∧ IsLow next.y := by
  cases title with
  | @intro _ middle drawing drawn =>
      obtain ⟨real, below⟩ := drawn.real_of_title size place
      refine ⟨List.forall_mem_cons.2 ⟨(isUp_titleSize size).isNaN, ?_⟩,
        below.sub ((isUp_titleSize size).mul solid_point)⟩
      exact List.forall_mem_append.2 ⟨real, List.forall_mem_singleton.2 size.isNaN⟩

end Sizes

section Report

variable (face : Typeface Float32) (title : String) {size : Float32} (findings : List Finding)
  (up : IsUp size)

include up

theorem keeps_drawTable_single {cursor : Cursor Float32} (place : IsLow cursor.y) :
    Picture.Keeps (fun _ canvas => drawTable canvas face size findings cursor) Mark.Real
      fun _ => True := by
  have style : IsUp (Style.ofTypeface face size).size := up
  rcases (isUp_lineHeight style).low_or with low | highest
  · exact (steady_single style low).keeps_drawTable place
  · -- Infinitely high lines have no room, so the header is given up before it has any.
    have short : cursor.y - padding Float32 - (Style.ofTypeface face size).lineHeight <
        margin Float32 := sub_lt_of_highest (place.sub isUp_padding) highest solid_margin
    refine ⟨_, _, (yields_drawHeader_of_short ?_ short).bind_error _,
      List.forall_mem_singleton.2 (real_across place), by simp⟩
    exact lineCount_wrapCells_pos face size Columns.headings

theorem real_wholeReport : ∀ mark ∈ (wholeReport face title size findings).2, mark.Real := by
  have style : IsUp (Style.ofTypeface face size).size := up
  obtain ⟨marks, ending, yields, real, -⟩ := keeps_drawReport trivial up.isNaN
    (fun titled => titled.real style isLow_top) (keeps_drawTable_single face findings up)
  rwa [wholeReport, yields.recorded]

end Report

theorem font_mem_wholeReport {α : Type} [Measure α] {face : Typeface α} {title : String} {size : α}
    {findings : List Finding} (covered : face.missing (reportTexts title findings) = []) :
    .font face.name size ∈ (wholeReport face title size findings).2 := by
  have any : Tabular (Style.ofTypeface face size) (rowCells face size findings) fun _ => True :=
    ⟨trivial, fun _ _ => trivial, trivial, fun _ => trivial, fun _ _ _ _ => trivial⟩
  obtain ⟨above, cursor, body, ending, yields, -⟩ :=
    yields_drawReport face title size findings covered any
  rw [wholeReport, yields.recorded]
  exact List.mem_cons_of_mem _ List.mem_cons_self

end FormatReview.Paper

namespace FormatReview.Settings

open Paper Single

theorem fontSize_of_build {changes : List Setting} {settings : Settings}
    (built : build changes = .ok settings) : ¬settings.report.fontSize ≤ 0 := by
  rw [build, checked] at built
  cases flawed : (standard.setAll changes).flaw? with
  | some flaw =>
      rw [flawed] at built
      cases built
  | none =>
      rw [flawed] at built
      obtain rfl := Except.ok.inj built
      intro small
      simp [flaw?, fontFlaw?, small] at flawed

/-- Settings that are taken have a type size above zero, and draw numbers only, unless the size is
not a number itself. -/
theorem draws_numbers_iff {changes : List Setting} {settings : Settings}
    (built : build changes = .ok settings) :
    (0 < settings.report.fontSize ∧
      ∀ (face : Typeface Float32) (findings : List Finding),
        ∀ mark ∈ (wholeReport face settings.report.title settings.report.fontSize findings).2,
          mark.Real) ↔
      settings.report.fontSize.isNaN = false := by
  constructor
  · rintro ⟨positive, -⟩
    exact (isUp_of_pos positive).isNaN
  · intro number
    have positive := pos_of_not_le number (fontSize_of_build built)
    exact ⟨positive, fun face findings =>
      real_wholeReport face settings.report.title findings (isUp_of_pos positive)⟩

theorem draws_numbers_of_standard :
    build [] = .ok standard ∧ 0 < standard.report.fontSize ∧
      ∀ (face : Typeface Float32) (findings : List Finding),
        ∀ mark ∈ (wholeReport face standard.report.title standard.report.fontSize findings).2,
          mark.Real := by
  have sound : standard.flaw? = none := rfl
  have built : build [] = .ok standard := by rw [build, setAll_nil, checked, sound]
  exact ⟨built, (draws_numbers_iff built).2 rfl⟩

/-- Settings whose type size is not a number. -/
def unsized : ReportSettings := { ReportSettings.standard with fontSize := 0.0 / 0.0 }

/-- A type size that is not a number is taken, and it is drawn with. -/
theorem build_takes_nan :
    let face : Typeface Float32 := ⟨"plain", fun _ => some 0.5⟩
    ∃ settings, build [.report unsized] = .ok settings ∧ settings.report = unsized ∧
      ¬0 < unsized.fontSize ∧
      ∃ mark ∈ (wholeReport face unsized.title unsized.fontSize []).2, ¬mark.Real := by
  intro face
  have sound : (standard.set (.report unsized)).flaw? = none := rfl
  have built : build [.report unsized] = .ok (standard.set (.report unsized)) := by
    rw [build, setAll_cons, setAll_nil, checked, sound]
  have covered (texts : List String) : face.missing texts = [] :=
    (face.missing_eq_nil_iff texts).2 fun _ _ _ _ _ => rfl
  have nan : unsized.fontSize.isNaN = true := rfl
  -- With a glyph for each character, the report begins by selecting the size.
  refine ⟨_, built, rfl, fun positive => ?_, _, font_mem_wholeReport (covered _), fun real => ?_⟩
  · exact Bool.noConfusion (nan.symm.trans (isUp_of_pos positive).isNaN)
  · exact Bool.noConfusion (nan.symm.trans real)

end FormatReview.Settings
