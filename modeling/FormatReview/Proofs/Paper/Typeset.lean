import Mathlib.Data.List.ReduceOption
import FormatReview.Font
import FormatReview.Paper.Document
import FormatReview.Proofs.Paper.Refusal
import FormatReview.Proofs.Paper.Throughout

namespace FormatReview.Paper

/-! The type in which texts are set. A page begins with nothing selected, and each text of a report
finds its type selected on its own page, so that a document with the font of the report takes every
mark of it. -/

variable {α : Type}

/-- A font with the size at which it is selected. -/
structure Selected (α : Type) where
  name : String
  size : α

def Mark.selects (current : Option (Selected α)) : Mark α → Option (Selected α)
  | .page => none
  | .font name size => some ⟨name, size⟩
  | .text _ _ _ => current
  | .rule _ _ _ _ => current

def selectedAfter (current : Option (Selected α)) (marks : List (Mark α)) : Option (Selected α) :=
  marks.foldl Mark.selects current

/-- The texts in their order, each with what is selected on its page when it is drawn. -/
def setTexts (current : Option (Selected α)) : List (Mark α) → List (String × Option (Selected α))
  | [] => []
  | .page :: rest => setTexts none rest
  | .font name size :: rest => setTexts (some ⟨name, size⟩) rest
  | .text content _ _ :: rest => (content, current) :: setTexts current rest
  | .rule _ _ _ _ :: rest => setTexts current rest

@[simp] theorem selectedAfter_nil (current : Option (Selected α)) :
    selectedAfter current [] = current := rfl

@[simp] theorem selectedAfter_cons (current : Option (Selected α)) (mark : Mark α)
    (rest : List (Mark α)) :
    selectedAfter current (mark :: rest) = selectedAfter (mark.selects current) rest := rfl

theorem selectedAfter_append (current : Option (Selected α)) (marks more : List (Mark α)) :
    selectedAfter current (marks ++ more) = selectedAfter (selectedAfter current marks) more :=
  List.foldl_append

theorem setTexts_append (current : Option (Selected α)) (marks more : List (Mark α)) :
    setTexts current (marks ++ more) =
      setTexts current marks ++ setTexts (selectedAfter current marks) more := by
  induction marks generalizing current with
  | nil => rfl
  | cons mark rest ih =>
      cases mark with
      | page => exact ih none
      | font name size => exact ih (some ⟨name, size⟩)
      | text content x y => exact congrArg ((content, current) :: ·) (ih current)
      | rule x y toX toY => exact ih current

theorem exists_mem_setTexts (current : Option (Selected α)) {marks : List (Mark α)}
    {content : String} {x y : α} (drawn : .text content x y ∈ marks) :
    ∃ entry ∈ setTexts current marks, entry.1 = content := by
  induction marks generalizing current with
  | nil => cases drawn
  | cons mark rest ih =>
      rcases List.mem_cons.1 drawn with rfl | later
      · exact ⟨_, List.mem_cons_self, rfl⟩
      · cases mark with
        | page => exact ih none later
        | font name size => exact ih (some ⟨name, size⟩) later
        | text other toX toY =>
            obtain ⟨entry, member, same⟩ := ih current later
            exact ⟨entry, List.mem_cons_of_mem _ member, same⟩
        | rule x y toX toY => exact ih current later

/-- All texts are as `Shows` says and set in one type, which stays selected. -/
structure SetIn (type : Selected α) (Shows : String → Prop) (marks : List (Mark α)) : Prop where
  named : ∀ name size, .font name size ∈ marks → name = type.name
  stays : selectedAfter (some type) marks = some type
  texts : ∀ entry ∈ setTexts (some type) marks, entry.2 = some type ∧ Shows entry.1

namespace SetIn

variable {type : Selected α} {Shows : String → Prop} {marks more : List (Mark α)}

theorem nil : SetIn type Shows [] := ⟨by simp, rfl, by simp [setTexts]⟩

theorem append (first : SetIn type Shows marks) (second : SetIn type Shows more) :
    SetIn type Shows (marks ++ more) where
  named name size member :=
    (List.mem_append.1 member).elim (first.named name size) (second.named name size)
  stays := by rw [selectedAfter_append, first.stays, second.stays]
  texts entry member := by
    rw [setTexts_append, first.stays] at member
    exact (List.mem_append.1 member).elim (first.texts entry) (second.texts entry)

theorem turn : SetIn type Shows [.page, .font type.name type.size] :=
  ⟨by simp, rfl, by simp [setTexts]⟩

theorem rule (x y toX toY : α) : SetIn type Shows [.rule x y toX toY] :=
  ⟨by simp, rfl, by simp [setTexts]⟩

theorem text {content : String} (shows : Shows content) (x y : α) :
    SetIn type Shows [.text content x y] :=
  ⟨by simp, rfl, by simp [setTexts, shows]⟩

theorem ofTexts {ι : Type} {entries : List ι} {content : ι → String} (x y : ι → α)
    (shows : ∀ entry ∈ entries, Shows (content entry)) :
    SetIn type Shows (entries.map fun entry => .text (content entry) (x entry) (y entry)) := by
  induction entries with
  | nil => exact nil
  | cons entry rest ih =>
      obtain ⟨here, later⟩ := List.forall_mem_cons.1 shows
      exact (text here (x entry) (y entry)).append (ih later)

theorem setTexts_eq (set : SetIn type Shows marks) :
    setTexts (some type) marks =
      (setTexts (some type) marks).map fun entry => (entry.1, some type) := by
  conv_lhs => rw [← List.map_id (setTexts (some type) marks)]
  exact List.map_congr_left fun entry member => Prod.ext rfl (set.texts entry member).1

end SetIn

/-! The texts of a report. -/

variable [Measure α]

/-- The text is a line of some cell of the rows. -/
def IsCellLine (rows : List (Columns Cell)) (text : String) : Prop :=
  ∃ cells ∈ rows, ∃ cell ∈ cells.toList, ∃ line ∈ cell, String.ofList line = text

theorem exists_cell_of_mem_textsAt {cells : Columns Cell} {i : Nat} {entry : Span α × Line}
    (member : entry ∈ textsAt cells i) : ∃ cell ∈ cells.toList, entry.2 ∈ cell := by
  have taken {span : Span α} {cell : Cell}
      (same : some entry = (cell[i]?.filter (· ≠ [])).map (span, ·)) : entry.2 ∈ cell := by
    obtain ⟨line, kept, rfl⟩ := Option.map_eq_some_iff.1 same.symm
    exact List.mem_of_getElem? (Option.filter_eq_some_iff.1 kept).1
  rw [textsAt, List.reduceOption_mem_iff] at member
  simp only [Columns.zipWith, Columns.toList, List.mem_cons, List.not_mem_nil, or_false] at member
  rcases member with same | same | same | same
  · exact ⟨cells.code, by simp [Columns.toList], taken same⟩
  · exact ⟨cells.message, by simp [Columns.toList], taken same⟩
  · exact ⟨cells.suggestion, by simp [Columns.toList], taken same⟩
  · exact ⟨cells.context, by simp [Columns.toList], taken same⟩

theorem tabular_setIn (style : Style α) (rows : List (Columns Cell)) :
    Tabular style rows
      (SetIn ⟨style.font, style.size⟩ (IsCellLine (style.header :: rows))) where
  nil := .nil
  append := .append
  turn := .turn
  ruled _ := .rule ..
  line cells listed i cursor := by
    have shown : ∀ entry ∈ textsAt (α := α) cells i,
        IsCellLine (style.header :: rows) (String.ofList entry.2) := by
      intro entry member
      obtain ⟨cell, held, line⟩ := exists_cell_of_mem_textsAt member
      exact ⟨cells, listed, cell, held, entry.2, line, rfl⟩
    exact .ofTexts _ _ shown

section Title

variable {style : Style α} {lines : List Line} {cursor next : Cursor α} {marks : List (Mark α)}

theorem Chain.setTexts_titleLines (chain : Chain (TitleLine style) lines cursor marks next)
    (type : Selected α) :
    setTexts (some type) marks = lines.map (fun line => (String.ofList line, some type)) ∧
      selectedAfter (some type) marks = some type ∧
      ∀ name size, .font name size ∉ marks := by
  induction chain with
  | nil => exact ⟨rfl, rfl, by simp⟩
  | cons step chain ih =>
      cases step with
      | intro =>
          obtain ⟨set, stays, plain⟩ := ih
          exact ⟨congrArg (_ :: ·) set, stays, by simpa using plain⟩

theorem Title.setTexts (title : Title style lines cursor marks next)
    (current : Option (Selected α)) :
    setTexts current marks = lines.map (fun line =>
        (String.ofList line, some ⟨style.font, titleSize style⟩)) ∧
      selectedAfter current marks = some ⟨style.font, style.size⟩ ∧
      ∀ name size, .font name size ∈ marks → name = style.font := by
  cases title with
  | @intro cursor middle drawing drawn =>
      obtain ⟨set, stays, plain⟩ := drawn.setTexts_titleLines ⟨style.font, titleSize style⟩
      refine ⟨?_, ?_, ?_⟩
      · rw [Paper.setTexts, setTexts_append, set]
        exact List.append_nil _
      · rw [selectedAfter_cons, selectedAfter_append]
        rfl
      · intro name size member
        simp only [List.mem_cons, List.mem_append, Mark.font.injEq, List.not_mem_nil, or_false,
          plain name size, false_or] at member
        exact member.elim And.left And.left

end Title

variable (face : Typeface α) (title : String) (size : α) (findings : List Finding)

/-- The cells of the table, those of its header first. -/
def tableCells : List (Columns Cell) :=
  wrapCells face size Columns.headings :: rowCells face size findings

/-- A report whose characters all have a glyph sets the lines of its title two points larger than
all lines of the table. -/
theorem wholeReport_of_covered (covered : face.missing (reportTexts title findings) = []) :
    (∀ fault, (wholeReport face title size findings).1 = .error fault → fault = headerTooTall) ∧
    ∃ (marks : List (Mark α)) (below : List String),
      (wholeReport face title size findings).2 = .page :: marks ∧
      (∀ name points, .font name points ∈ marks → name = face.name) ∧
      setTexts none marks =
        (titleLines face title size).map
            (fun line => (String.ofList line, some ⟨face.name, size + 2.0⟩)) ++
          below.map (fun text => (text, some ⟨face.name, size⟩)) ∧
      ∀ text ∈ below, IsCellLine (tableCells face size findings) text := by
  obtain ⟨above, cursor, body, ending, yields, titled, seen, fails⟩ :=
    yields_drawReport face title size findings covered (tabular_setIn _ _)
  have whole : wholeReport face title size findings =
      (ending, .page :: .font face.name size :: (above ++ body)) := yields.recorded
  obtain ⟨set, selected, named⟩ := titled.setTexts (some ⟨face.name, size⟩)
  rw [whole]
  refine ⟨fails, _, (setTexts (some ⟨face.name, size⟩) body).map (·.1), rfl, ?_, ?_, ?_⟩
  · intro name points member
    simp only [List.mem_cons, List.mem_append, Mark.font.injEq] at member
    rcases member with ⟨same, -⟩ | member | member
    · exact same
    · exact named name points member
    · exact seen.named name points member
  · rw [setTexts, setTexts_append, selected, set, List.map_map]
    exact congrArg (_ ++ ·) seen.setTexts_eq
  · intro text member
    obtain ⟨entry, listed, rfl⟩ := List.mem_map.1 member
    exact (seen.texts entry listed).2

theorem wholeReport_of_missing (missing : face.missing (reportTexts title findings) ≠ []) :
    wholeReport face title size findings =
      (.error (noGlyphs face.name (face.missing (reportTexts title findings))), []) := by
  rw [wholeReport, drawReport_of_missing missing, Drawing.result_throw]

/-! Documents. -/

namespace Document

def selected? (document : Document α) : Option (Selected α) :=
  document.size?.map (⟨document.font.name, ·⟩)

omit [Measure α] in
theorem draw_ok {document : Document α} {mark : Mark α} (begun : mark = .page ∨ document.pages ≠ [])
    (named : ∀ name size, mark = .font name size → name = document.font.name)
    (set : ∀ content x y, mark = .text content x y → document.selected?.isSome) :
    ∃ next, document.draw mark = .ok next ∧ next.font = document.font ∧ next.pages ≠ [] ∧
      next.selected? = mark.selects document.selected? := by
  obtain ⟨heading, font, pages, early⟩ := document
  cases mark with
  | page => exact ⟨_, rfl, rfl, by simp, rfl⟩
  | font name size =>
      obtain rfl := named name size rfl
      cases pages with
      | nil => simp at begun
      | cons page rest => exact ⟨_, if_pos rfl, rfl, by simp [select], rfl⟩
  | text content x y =>
      cases pages with
      | nil => simp at begun
      | cons page rest =>
          obtain ⟨items, chosen⟩ := page
          cases chosen with
          | none => simpa [selected?, size?] using set content x y rfl
          | some size => exact ⟨_, rfl, rfl, by simp, rfl⟩
  | rule x y toX toY =>
      cases pages with
      | nil => simp at begun
      | cons page rest => exact ⟨_, rfl, rfl, by simp, rfl⟩

omit [Measure α] in
/-- Once it has a page, a document takes all marks in its own font that find something selected. -/
theorem putAll_ok {marks : List (Mark α)} {document : Document α} (begun : document.pages ≠ [])
    (named : ∀ name size, .font name size ∈ marks → name = document.font.name)
    (set : ∀ entry ∈ setTexts document.selected? marks, entry.2.isSome) :
    ∃ final, (canvas.putAll marks).result document = (.ok (), final) := by
  induction marks generalizing document with
  | nil => exact ⟨document, rfl⟩
  | cons mark rest ih =>
      obtain ⟨next, drawn, font, pages, selected⟩ : ∃ next, document.draw mark = .ok next ∧
          next.font = document.font ∧ next.pages ≠ [] ∧
          next.selected? = mark.selects document.selected? := by
        refine draw_ok (.inr begun) ?_ ?_
        · rintro name size rfl
          exact named name size List.mem_cons_self
        · rintro content x y rfl
          exact set (content, document.selected?) List.mem_cons_self
      have onward : ∀ entry ∈ setTexts next.selected? rest, entry.2.isSome := by
        intro entry member
        refine set entry ?_
        rw [selected] at member
        cases mark with
        | text content x y => exact List.mem_cons_of_mem _ member
        | page | font | rule => exact member
      have taken : canvas.draw document mark = .ok next := drawn
      rw [Canvas.result_putAll_cons, taken]
      refine ih pages (fun name size member => ?_) onward
      rw [font]
      exact named name size (List.mem_cons_of_mem _ member)

omit [Measure α] in
theorem putAll_page_ok {marks : List (Mark α)} (document : Document α)
    (named : ∀ name size, .font name size ∈ marks → name = document.font.name)
    (set : ∀ entry ∈ setTexts none marks, entry.2.isSome) :
    ∃ final, (canvas.putAll (.page :: marks)).result document = (.ok (), final) := by
  have begun : canvas.draw document .page =
      .ok { document with pages := ⟨[], none⟩ :: document.pages } := rfl
  rw [Canvas.result_putAll_cons, begun]
  exact putAll_ok (by simp) named set

end Document

theorem exists_document (font : Font) (heading : String) :
    ∃ document : Document α,
      (Document.canvas.putAll (wholeReport font.typeface title size findings).2).result
        (.empty heading font) = (.ok (), document) := by
  by_cases covered : font.typeface.missing (α := α) (reportTexts title findings) = []
  · obtain ⟨-, marks, below, begins, named, set, -⟩ :=
      wholeReport_of_covered font.typeface title size findings covered
    rw [begins]
    refine Document.putAll_page_ok _ named fun entry member => ?_
    rw [set] at member
    rcases List.mem_append.1 member with above | under
    · obtain ⟨line, -, rfl⟩ := List.mem_map.1 above
      rfl
    · obtain ⟨text, -, rfl⟩ := List.mem_map.1 under
      rfl
  · rw [wholeReport_of_missing _ title size findings covered]
    exact ⟨_, rfl⟩

/-- A document with the font of the report takes every mark of it, so that the report ends on it as
it does where nothing is refused. Each text finds the report's font selected on its own page, at the
larger size for the lines of the title, which come first, and at the plain size for all others,
which are lines of the table. -/
theorem document_takes_report (font : Font) (heading : String) :
    let whole := wholeReport font.typeface title size findings
    let missing := font.typeface.missing (α := α) (reportTexts title findings)
    (∃ document : Document α,
      (Document.canvas.putAll whole.2).result (.empty heading font) = (.ok (), document) ∧
      (drawReport Document.canvas font.typeface title size findings).result
        (.empty heading font) = (whole.1, document)) ∧
    (missing ≠ [] → whole = (.error (noGlyphs font.name missing), [])) ∧
    (missing = [] →
      (∀ fault, whole.1 = .error fault → fault = headerTooTall) ∧
      ∃ below : List String,
        setTexts none whole.2 =
          (titleLines font.typeface title size).map
              (fun line => (String.ofList line, some ⟨font.name, size + 2.0⟩)) ++
            below.map (fun text => (text, some ⟨font.name, size⟩)) ∧
        ∀ text ∈ below, IsCellLine (tableCells font.typeface size findings) text) := by
  refine ⟨?_, wholeReport_of_missing _ title size findings, fun covered => ?_⟩
  · obtain ⟨document, taken⟩ := exists_document title size findings font heading
    have ended := (yields_wholeReport font.typeface title size findings).result Document.canvas
      (.empty heading font)
    rw [taken] at ended
    exact ⟨document, taken, ended⟩
  · obtain ⟨fails, marks, below, begins, -, set, lines⟩ :=
      wholeReport_of_covered font.typeface title size findings covered
    rw [begins]
    exact ⟨fails, below, set, lines⟩

end FormatReview.Paper
