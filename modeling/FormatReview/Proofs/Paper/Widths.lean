import FormatReview.Proofs.Paper.Breaks
import FormatReview.Proofs.Paper.Coverage
import FormatReview.Proofs.Paper.Single

namespace FormatReview.Paper

/-! How wide lines are. A line of several characters is no wider than its room, and has no place for
what comes next. So the lines of a report stay between the margins, and between the paddings of their
columns. -/

namespace Gauge

section Held

variable {α : Type} [Measure α] (gauge : Gauge α)

/-- The line has a single character, or has passed a test against the room. -/
def Held (line : Line) : Prop :=
  2 ≤ line.length → gauge.width line ≤ gauge.room ∨ ¬gauge.room < gauge.width line

variable {gauge} {line : Line}

theorem held_of_length_le (short : line.length ≤ 1) : gauge.Held line := fun long => by omega

theorem held_nil (gauge : Gauge α) : gauge.Held [] := held_of_length_le (by simp)

theorem held_of_fits (fits : gauge.fits line = true) : gauge.Held line :=
  fun _ => .inl (of_decide_eq_true fits)

theorem held_of_not_exceeds (free : ¬gauge.exceeds line = true) : gauge.Held line :=
  fun _ => .inr fun wide => free (decide_eq_true wide)

theorem held_closed (held : gauge.Held line) : ∀ other ∈ closed line, gauge.Held other := by
  unfold closed
  split
  · exact List.forall_mem_nil _
  · exact List.forall_mem_singleton.2 held

theorem held_breakWord (held : gauge.Held line) (rest : Line) :
    (∀ full ∈ (gauge.breakWord line rest).1, gauge.Held full) ∧
      gauge.Held (gauge.breakWord line rest).2 := by
  induction rest generalizing line with
  | nil => exact ⟨List.forall_mem_nil _, held⟩
  | cons c rest ih =>
      rw [breakWord]
      split
      · obtain ⟨full, last⟩ := ih (held_of_length_le (Nat.le_refl [c].length))
        exact ⟨List.forall_mem_cons.2 ⟨held, full⟩, last⟩
      · next test =>
          refine ih ?_
          by_cases empty : line = []
          · exact held_of_length_le (by simp [empty])
          · exact held_of_not_exceeds fun wide => test ⟨empty, wide⟩

theorem held_place (held : gauge.Held line) (word : Line) :
    (∀ full ∈ (gauge.place line word).1, gauge.Held full) ∧
      gauge.Held (gauge.place line word).2 := by
  rw [place]
  split
  · next room => exact ⟨List.forall_mem_nil _, held_of_fits room⟩
  · split
    · next alone => exact ⟨held_closed held, held_of_fits alone⟩
    · obtain ⟨full, last⟩ := held_breakWord (held_nil gauge) word
      exact ⟨List.forall_mem_append.2 ⟨held_closed held, full⟩, last⟩

theorem held_fill (held : gauge.Held line) (words : List Line) :
    (∀ full ∈ (gauge.fill line words).1, gauge.Held full) ∧
      gauge.Held (gauge.fill line words).2 := by
  induction words generalizing line with
  | nil => exact ⟨List.forall_mem_nil _, held⟩
  | cons word rest ih =>
      obtain ⟨full, onward⟩ := held_place held word
      obtain ⟨more, last⟩ := ih onward
      exact ⟨List.forall_mem_append.2 ⟨full, more⟩, last⟩

variable (gauge)

theorem held_wrap (text : List Char) : ∀ line ∈ gauge.wrap text, gauge.Held line := by
  obtain ⟨full, last⟩ := held_fill (held_nil gauge) (Text.words text)
  simp only [wrap]
  split
  · exact List.forall_mem_singleton.2 last
  · exact List.forall_mem_append.2 ⟨full, held_closed last⟩

end Held

/-- The widths of the lines are numbers. That of a single character is never asked for. -/
def Measures (gauge : Gauge Float32) (text : List Char) : Prop :=
  ∀ line ∈ gauge.wrap text, 2 ≤ line.length → (gauge.width line).isNaN = false

instance instDecidableMeasures (gauge : Gauge Float32) (text : List Char) :
    Decidable (gauge.Measures text) :=
  inferInstanceAs (Decidable (∀ line ∈ gauge.wrap text, 2 ≤ line.length →
    (gauge.width line).isNaN = false))

theorem Measures.width_le {gauge : Gauge Float32} {text : List Char} (measures : gauge.Measures text)
    (room : gauge.room.isNaN = false) {line : Line} (broken : line ∈ gauge.wrap text)
    (long : 2 ≤ line.length) : gauge.width line ≤ gauge.room := by
  rcases gauge.held_wrap text line broken long with fits | free
  · exact fits
  · exact Single.le_of_not_lt (measures line broken long) room free

end Gauge

section Drawn

variable {α : Type} [Measure α]

def titleGauge (face : Typeface α) (size : α) : Gauge α := ⟨face, size + 2.0, textWidth α⟩

/-- The room of a column is between its paddings. -/
def columnGauge (face : Typeface α) (size : α) (span : Span α) : Gauge α :=
  ⟨face, size, span.width - 2.0 * padding α⟩

/-- The texts of a row, each with its column. -/
def columnTexts (α : Type) [Measure α] (texts : Columns String) : List (Span α × String) :=
  ((spans α).zipWith Prod.mk texts).toList

/-- All texts are as `Shows` says, each at its distance from the left. -/
def Shown (Shows : String → α → Prop) (marks : List (Mark α)) : Prop :=
  ∀ content x y, .text content x y ∈ marks → Shows content x

omit [Measure α] in
theorem Shown.append {Shows : String → α → Prop} {marks more : List (Mark α)}
    (shown : Shown Shows marks) (shownMore : Shown Shows more) : Shown Shows (marks ++ more) :=
  fun content x y drawn =>
    (List.mem_append.1 drawn).elim (shown content x y) (shownMore content x y)

/-- The text is a line of the title, at the margin. -/
def InTitle (lines : List Line) (content : String) (x : α) : Prop :=
  x = margin α ∧ content.toList ∈ lines

/-- The text is a line of one of the columns, behind its padding. -/
def InColumn (face : Typeface α) (size : α) (rows : List (Columns String)) (content : String)
    (x : α) : Prop :=
  ∃ texts ∈ rows, ∃ entry ∈ columnTexts α texts, x = entry.1.x + padding α ∧
    content.toList ∈ (columnGauge face size entry.1).wrap entry.2.toList

theorem shown_title {style : Style α} {lines : List Line} {cursor next : Cursor α}
    {marks : List (Mark α)} (chain : Chain (TitleLine style) lines cursor marks next) :
    Shown (InTitle lines) marks := by
  induction chain with
  | nil => exact fun _ _ _ => by simp
  | @cons line rest cursor middle next marks more step chain ih =>
      cases step with
      | intro =>
          intro content x y drawn
          rcases List.mem_append.1 drawn with here | later
          · obtain ⟨rfl, rfl, -⟩ := by simpa using here
            exact ⟨rfl, by simp⟩
          · obtain ⟨place, listed⟩ := ih content x y later
            exact ⟨place, List.mem_cons_of_mem line listed⟩

variable (face : Typeface α) (title : String) (size : α) (findings : List Finding)

theorem exists_column_of_mem_textsAt {texts : Columns String} {i : Nat} {entry : Span α × Line}
    (member : entry ∈ textsAt (wrapCells face size texts) i) :
    ∃ column ∈ columnTexts α texts, column.1 = entry.1 ∧
      entry.2 ∈ (columnGauge face size entry.1).wrap column.2.toList := by
  have taken {span : Span α} {text : String}
      (same : some entry = (((columnGauge face size span).wrap text.toList)[i]?.filter
        (· ≠ [])).map (span, ·)) :
      span = entry.1 ∧ entry.2 ∈ (columnGauge face size entry.1).wrap text.toList := by
    obtain ⟨line, kept, rfl⟩ := Option.map_eq_some_iff.1 same.symm
    exact ⟨rfl, List.mem_of_getElem? (Option.filter_eq_some_iff.1 kept).1⟩
  rw [textsAt, List.reduceOption_mem_iff] at member
  simp only [wrapCells, Columns.zipWith, Columns.toList, List.mem_cons, List.not_mem_nil,
    or_false] at member
  rcases member with same | same | same | same
  · exact ⟨((spans α).code, texts.code), by simp [columnTexts, Columns.zipWith, Columns.toList],
      taken same⟩
  · exact ⟨((spans α).message, texts.message),
      by simp [columnTexts, Columns.zipWith, Columns.toList], taken same⟩
  · exact ⟨((spans α).suggestion, texts.suggestion),
      by simp [columnTexts, Columns.zipWith, Columns.toList], taken same⟩
  · exact ⟨((spans α).context, texts.context),
      by simp [columnTexts, Columns.zipWith, Columns.toList], taken same⟩

theorem tabular_shown :
    Tabular (Style.ofTypeface face size) (rowCells face size findings)
      (Shown (InColumn face size (tableTexts findings))) where
  nil := fun _ _ _ => by simp
  append := .append
  turn := fun _ _ _ => by simp
  ruled := fun _ _ _ _ => by simp [across]
  line cells listed i cursor content x y drawn := by
    have row : cells ∈ tableCells face size findings := listed
    rw [tableCells_eq] at row
    obtain ⟨texts, inTable, rfl⟩ := List.mem_map.1 row
    obtain ⟨entry, member, same⟩ := List.mem_map.1 drawn
    obtain ⟨rfl, rfl, -⟩ := Mark.text.inj same
    obtain ⟨column, there, place, broken⟩ := exists_column_of_mem_textsAt face size member
    refine ⟨texts, inTable, column, there, by rw [place], ?_⟩
    rwa [place, String.toList_ofList]

/-- Completed or not, a report has no texts but lines of its title and of its columns. -/
theorem shown_wholeReport :
    Shown (fun content x => InTitle (titleLines face title size) content x ∨
      InColumn face size (tableTexts findings) content x)
      (wholeReport face title size findings).2 := by
  by_cases covered : face.missing (reportTexts title findings) = []
  · obtain ⟨above, cursor, body, ending, yields, titled, shown, -⟩ :=
      yields_drawReport face title size findings covered (tabular_shown face size findings)
    rw [wholeReport, yields.recorded]
    intro content x y drawn
    simp only [List.mem_cons, reduceCtorEq, false_or, List.mem_append] at drawn
    rcases drawn with inTitle | inTable
    · cases titled with
      | intro chain =>
          refine .inl (shown_title chain content x y ?_)
          simpa using inTitle
    · exact .inr (shown content x y inTable)
  · rw [wholeReport_of_missing face title size findings covered]
    exact fun _ _ _ => by simp

end Drawn

theorem isNaN_textWidth : (textWidth Float32).isNaN = false := rfl

theorem isNaN_columnRoom {span : Span Float32} (listed : span ∈ (spans Float32).toList) :
    (span.width - 2.0 * padding Float32).isNaN = false := by
  have numbers : (spans Float32).toList.all
      (fun span => !(span.width - 2.0 * padding Float32).isNaN) = true :=
    rfl
  simpa using List.all_eq_true.1 numbers span listed

theorem mem_spans_of_mem_columnTexts {α : Type} [Measure α] {texts : Columns String}
    {entry : Span α × String} (member : entry ∈ columnTexts α texts) :
    entry.1 ∈ (spans α).toList := by
  simp only [columnTexts, Columns.zipWith, Columns.toList, List.mem_cons, List.not_mem_nil,
    or_false] at member ⊢
  have first {span : Span α} {text : String} (same : entry = (span, text)) : entry.1 = span := by
    rw [same]
  exact member.imp first (.imp first (.imp first first))

/-- As long as widths are numbers, every line of several characters fits. A line ends before a word
only if the whole word does not fit behind it, and inside a word only if the next character does not.
So a report has no text of several characters that leaves the margins, as part of its title, or the
paddings of its column. -/
theorem lines_fill_room :
    (∀ (gauge : Gauge Float32) (text : List Char), gauge.room.isNaN = false →
      gauge.Measures text →
      ∀ line ∈ gauge.wrap text, 2 ≤ line.length → gauge.width line ≤ gauge.room) ∧
    (∀ (gauge : Gauge Float32) (text : List Char) (word : Line) (more : List Line),
      Text.words text = word :: more →
      Broken (fun line next => ¬gauge.width (line ++ ' ' :: next) ≤ gauge.room)
        (fun _ line next => ∃ c rest, next = c :: rest ∧ gauge.room < gauge.width (line ++ [c]))
        word word more (gauge.wrap text)) ∧
    ∀ (face : Typeface Float32) (title : String) (size : Float32) (findings : List Finding),
      (titleGauge face size).Measures title.toList →
      (∀ texts ∈ tableTexts findings, ∀ entry ∈ columnTexts Float32 texts,
        (columnGauge face size entry.1).Measures entry.2.toList) →
      ∀ content x y, .text content x y ∈ (wholeReport face title size findings).2 →
        2 ≤ content.length →
        x = margin Float32 ∧ content.toList ∈ titleLines face title size ∧
            face.width (size + 2.0) content.toList ≤ textWidth Float32 ∨
          ∃ span ∈ (spans Float32).toList, x = span.x + padding Float32 ∧
            face.width size content.toList ≤ span.width - 2.0 * padding Float32 := by
  refine ⟨?fits, ?full, ?drawn⟩
  case fits => exact fun gauge text room measures line => measures.width_le room
  case full =>
    intro gauge text word more words
    refine (gauge.broken_wrap words).mono ?_ ?_
    · intro line next full
      simpa [Gauge.Full, Gauge.fits] using full
    · rintro _ line next ⟨-, c, rest, begins, wide⟩
      exact ⟨c, rest, begins, of_decide_eq_true wide⟩
  case drawn =>
    intro face title size findings titled measured content x y drawn long
    rw [← String.length_toList] at long
    rcases shown_wholeReport face title size findings content x y drawn with
      ⟨place, broken⟩ | ⟨texts, row, entry, column, place, broken⟩
    · exact .inl ⟨place, broken, titled.width_le isNaN_textWidth broken long⟩
    · have listed := mem_spans_of_mem_columnTexts column
      exact .inr ⟨entry.1, listed, place,
        (measured texts row entry column).width_le (isNaN_columnRoom listed) broken long⟩

/-- A word that is cut, and a report with a title and a finding. -/
theorem lines_fill_room_of_plain_type :
    let face : Typeface Float32 := ⟨"plain", fun _ => some 0.5⟩
    let gauge : Gauge Float32 := ⟨face, 10, 8⟩
    let text := "a bcdefgh i".toList
    let findings : List Finding := [⟨"Font", "Not the serif one", "Change it", "Chapter 1"⟩]
    gauge.wrap text = [['a'], ['b', 'c', 'd', 'e'], ['f', 'g', 'h'], ['i']] ∧
    gauge.room.isNaN = false ∧ gauge.Measures text ∧
    (∀ line ∈ gauge.wrap text, 2 ≤ line.length → gauge.width line ≤ gauge.room) ∧
    Text.words text = [['a'], "bcdefgh".toList, ['i']] ∧
    Broken (fun line next => ¬gauge.width (line ++ ' ' :: next) ≤ gauge.room)
      (fun _ line next => ∃ c rest, next = c :: rest ∧ gauge.room < gauge.width (line ++ [c]))
      ['a'] ['a'] ["bcdefgh".toList, ['i']] (gauge.wrap text) ∧
    (titleGauge face 10).Measures "Report".toList ∧
    (∀ texts ∈ tableTexts findings, ∀ entry ∈ columnTexts Float32 texts,
      (columnGauge face 10 entry.1).Measures entry.2.toList) ∧
    ∀ content x y, .text content x y ∈ (wholeReport face "Report" 10 findings).2 →
      2 ≤ content.length →
      x = margin Float32 ∧ content.toList ∈ titleLines face "Report" 10 ∧
          face.width (10 + 2.0) content.toList ≤ textWidth Float32 ∨
        ∃ span ∈ (spans Float32).toList, x = span.x + padding Float32 ∧
          face.width 10 content.toList ≤ span.width - 2.0 * padding Float32 := by
  intro face gauge text findings
  obtain ⟨fits, full, drawn⟩ := lines_fill_room
  have room : gauge.room.isNaN = false := by decide +kernel
  have measures : gauge.Measures text := by decide +kernel
  have words : Text.words text = [['a'], "bcdefgh".toList, ['i']] := by decide +kernel
  have titled : (titleGauge face 10).Measures "Report".toList := by decide +kernel
  have measured : ∀ texts ∈ tableTexts findings, ∀ entry ∈ columnTexts Float32 texts,
      (columnGauge face 10 entry.1).Measures entry.2.toList := by decide +kernel
  exact ⟨by decide +kernel, room, measures, fits gauge text room measures, words,
    full gauge text _ _ words, titled, measured,
    drawn face "Report" 10 findings titled measured⟩

end FormatReview.Paper
