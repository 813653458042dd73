import FormatReview.Proofs.Paper.Advances
import FormatReview.Proofs.Paper.Typeset

namespace FormatReview.Paper

/-! Only characters with a glyph are drawn. The check before the report, the table of advances and
the breaking of lines agree on the characters that matter, for all texts. -/

variable {α : Type}

/-- All visible characters of the texts have a glyph. -/
def Typeface.Covers (face : Typeface α) (texts : List String) : Prop :=
  ∀ text ∈ texts, ∀ c ∈ text.toList, Text.isBlank c = false → (face.advance? c).isSome

theorem Typeface.missing_eq_nil_iff (face : Typeface α) (texts : List String) :
    face.missing texts = [] ↔ face.Covers texts := by
  have listed (c : Char) : c ∈ face.missing texts ↔
      ∃ text ∈ texts, c ∈ text.toList ∧ Text.isBlank c = false ∧ face.advance? c = none := by
    simp [missing, mem_distinct]
  rw [List.eq_nil_iff_forall_not_mem]
  constructor
  · intro none text member c occurs visible
    rw [Option.isSome_iff_ne_none]
    intro lacking
    exact none c ((listed c).2 ⟨text, member, occurs, visible, lacking⟩)
  · intro covers c lacking
    obtain ⟨text, member, occurs, visible, missing⟩ := (listed c).1 lacking
    have given := covers text member c occurs visible
    rw [missing] at given
    cases given

variable [Measure α]

namespace Typeface.Covers

variable {face : Typeface α} {texts : List String} (covers : face.Covers texts)

include covers

omit [Measure α] in
theorem occurs_of_mem_words {text : String} (member : text ∈ texts) :
    ∀ word ∈ Text.words text.toList, ∀ c ∈ word, face.Occurs texts c := by
  intro word listed c occurs
  obtain ⟨inside, visible⟩ := Text.mem_and_not_isBlank_of_mem_words listed occurs
  exact .inr ⟨List.mem_flatMap.2 ⟨text, member, inside⟩, covers text member c inside visible⟩

theorem wrap?_advances {text : String} (member : text ∈ texts) (size room : α) :
    (rulerBy (face.advances texts) size room).wrap? text.toList =
      some (Gauge.wrap ⟨face, size, room⟩ text.toList) :=
  (face.agrees texts size room).wrap? (covers.occurs_of_mem_words member)

theorem occurs_of_mem_wrap {text : String} (member : text ∈ texts) {size room : α} {line : Line}
    (broken : line ∈ Gauge.wrap ⟨face, size, room⟩ text.toList) :
    ∀ c ∈ line, face.Occurs texts c :=
  Gauge.known_wrap _ (.inl rfl) (covers.occurs_of_mem_words member) line broken

end Typeface.Covers

variable (face : Typeface α) (title : String) (size : α) (findings : List Finding)

/-- The texts of the table, those of its header first. -/
def tableTexts (findings : List Finding) : List (Columns String) :=
  Columns.headings :: findings.map Columns.ofFinding

omit [Measure α] in
theorem mem_reportTexts {texts : Columns String} (row : texts ∈ tableTexts findings)
    {text : String} (member : text ∈ texts.toList) : text ∈ reportTexts title findings := by
  refine List.mem_cons_of_mem _ (List.mem_append.2 ?_)
  rcases List.mem_cons.1 row with rfl | row
  · exact .inl member
  · obtain ⟨finding, listed, rfl⟩ := List.mem_map.1 row
    exact .inr (List.mem_flatMap.2 ⟨finding, listed, member⟩)

theorem tableCells_eq :
    tableCells face size findings = (tableTexts findings).map (wrapCells face size) := by
  rw [tableCells, rowCells, tableTexts, List.map_cons, List.map_map]
  rfl

theorem exists_text_of_mem_wrapCells {texts : Columns String} {cell : Cell}
    (member : cell ∈ (wrapCells face size texts).toList) :
    ∃ text ∈ texts.toList, ∃ room, cell = Gauge.wrap ⟨face, size, room⟩ text.toList := by
  simp only [wrapCells, Columns.zipWith, Columns.toList, List.mem_cons, List.not_mem_nil,
    or_false] at member
  rcases member with rfl | rfl | rfl | rfl
  · exact ⟨texts.code, by simp [Columns.toList], _, rfl⟩
  · exact ⟨texts.message, by simp [Columns.toList], _, rfl⟩
  · exact ⟨texts.suggestion, by simp [Columns.toList], _, rfl⟩
  · exact ⟨texts.context, by simp [Columns.toList], _, rfl⟩

/-- The cells of a row, broken by the advances of a table alone. -/
def wrapCells? (advances : List (Char × α)) (size : α) (texts : Columns String) :
    Columns (Option Cell) :=
  (spans α).zipWith (fun span text =>
    (rulerBy advances size (span.width - 2.0 * padding α)).wrap? text.toList) texts

section Covered

variable {title findings} (covers : face.Covers (reportTexts title findings))

include covers

theorem wrapCells?_advances {texts : Columns String} (row : texts ∈ tableTexts findings) :
    wrapCells? (face.advances (reportTexts title findings)) size texts =
      (wrapCells face size texts).map some := by
  have wrapped (span : Span α) {text : String} (member : text ∈ texts.toList) :=
    covers.wrap?_advances (mem_reportTexts title findings row member) size
      (span.width - 2.0 * padding α)
  simp only [wrapCells?, wrapCells, Columns.zipWith, Columns.map, Columns.mk.injEq]
  refine ⟨wrapped _ ?_, wrapped _ ?_, wrapped _ ?_, wrapped _ ?_⟩ <;> simp [Columns.toList]

theorem occurs_of_isCellLine {text : String}
    (shown : IsCellLine (tableCells face size findings) text) :
    ∀ c ∈ text.toList, face.Occurs (reportTexts title findings) c := by
  obtain ⟨cells, row, cell, member, line, broken, rfl⟩ := shown
  rw [tableCells_eq] at row
  obtain ⟨texts, listed, rfl⟩ := List.mem_map.1 row
  obtain ⟨text, inside, room, rfl⟩ := exists_text_of_mem_wrapCells face size member
  rw [String.toList_ofList]
  exact covers.occurs_of_mem_wrap (mem_reportTexts title findings listed inside) broken

theorem occurs_of_drawn {content : String} {x y : α}
    (drawn : .text content x y ∈ (wholeReport face title size findings).2) :
    ∀ c ∈ content.toList, face.Occurs (reportTexts title findings) c := by
  have covered := (face.missing_eq_nil_iff (reportTexts title findings)).2 covers
  obtain ⟨-, marks, below, begins, -, set, lines⟩ :=
    wholeReport_of_covered face title size findings covered
  rw [begins] at drawn
  obtain ⟨entry, member, rfl⟩ := exists_mem_setTexts none drawn
  rw [setTexts, set] at member
  rcases List.mem_append.1 member with above | under
  · obtain ⟨line, broken, rfl⟩ := List.mem_map.1 above
    rw [String.toList_ofList]
    exact covers.occurs_of_mem_wrap List.mem_cons_self broken
  · obtain ⟨text, listed, rfl⟩ := List.mem_map.1 under
    exact occurs_of_isCellLine face size covers (lines text listed)

end Covered

/-- If a visible character of the title, of the headings or of a cell has no glyph, the report fails
on every surface without a mark. Otherwise it draws, on every surface, nothing but spaces and
characters with a glyph, and the lines of the title and of all cells are those that come of the
advances of its own characters, where only a space may be there without a glyph. -/
theorem report_of_glyphs :
    let texts := reportTexts title findings
    (¬face.Covers texts → ∀ {σ : Type} (canvas : Canvas α σ),
      drawReport canvas face title size findings =
        throw (noGlyphs face.name (face.missing texts))) ∧
    (face.Covers texts →
      (∃ marks ending,
        Picture.Yields (fun _ canvas => drawReport canvas face title size findings) marks ending ∧
        ∀ content x y, .text content x y ∈ marks →
          ∀ c ∈ content.toList, c = ' ' ∨ (face.advance? c).isSome) ∧
      (rulerBy (face.advances texts) (size + 2.0) (textWidth α)).wrap? title.toList =
        some (titleLines face title size) ∧
      ∀ row ∈ tableTexts findings,
        wrapCells? (face.advances texts) size row = (wrapCells face size row).map some) := by
  intro texts
  refine ⟨fun uncovered σ canvas => ?_, fun covers => ⟨?_, ?_, ?_⟩⟩
  · refine drawReport_of_missing ?_
    rwa [Ne, face.missing_eq_nil_iff]
  · refine ⟨_, _, yields_wholeReport face title size findings, fun content x y drawn c member => ?_⟩
    exact (occurs_of_drawn face size covers drawn c member).imp_right And.right
  · exact covers.wrap?_advances List.mem_cons_self (size + 2.0) (textWidth α)
  · exact fun row member => wrapCells?_advances face size covers member

end FormatReview.Paper
