import FormatReview.Proofs.Paper.Order

namespace FormatReview.Paper

/-! The report sheet by sheet. Each sheet has one header row, complete and above all rows, and the
pages counted are the sheets. -/

variable {α : Type}

def Mark.isPage : Mark α → Bool
  | .page => true
  | _ => false

theorem length_pages (marks : List (Mark α)) :
    (pages marks).2.length = marks.countP Mark.isPage := by
  induction marks with
  | nil => rfl
  | cons mark rest ih =>
      rw [List.countP_cons, ← ih]
      cases mark <;> rfl

theorem OnePage.unbroken {marks : List (Mark α)} {texts : List (String × α)}
    (shown : OnePage marks texts) : marks.countP Mark.isPage = 0 := by
  rw [← length_pages, shown]
  rfl

/-- A page that shows a title, a header under it, and nothing but rows below the header. -/
structure Sheet (α : Type) (title header : List (String × α)) where
  above : List (Mark α)
  head : List (Mark α)
  body : List (Mark α)
  titled : OnePage above title
  headed : OnePage head header
  unbroken : (pages body).2 = []

namespace Sheet

variable {title header : List (String × α)}

def marks (name : String) (size : α) (sheet : Sheet α title header) : List (Mark α) :=
  .page :: .font name size :: (sheet.above ++ (sheet.head ++ sheet.body))

def texts (sheet : Sheet α title header) : List (String × α) := (pages sheet.body).1

theorem onePage_body (sheet : Sheet α title header) : OnePage sheet.body sheet.texts := by
  rw [OnePage, texts, ← sheet.unbroken]

theorem countP_marks (name : String) (size : α) (sheet : Sheet α title header) :
    (sheet.marks name size).countP Mark.isPage = 1 := by
  simp [marks, List.countP_cons, Mark.isPage, sheet.titled.unbroken, sheet.headed.unbroken,
    sheet.onePage_body.unbroken]

theorem countP_flatMap_marks (name : String) (size : α) (sheets : List (Sheet α title header)) :
    (sheets.flatMap (marks name size)).countP Mark.isPage = sheets.length := by
  induction sheets with
  | nil => rfl
  | cons sheet rest ih =>
      rw [List.flatMap_cons, List.countP_append, sheet.countP_marks, ih, List.length_cons]
      omega

end Sheet

/-- Marks that go on from within a page. Each page turned to begins with the header. -/
inductive Continued (name : String) (size : α) (header : List (String × α)) :
    List (Mark α) → List (String × α) → Prop where
  | here {marks : List (Mark α)} {texts : List (String × α)} (drawn : OnePage marks texts) :
      Continued name size header marks texts
  | turn {marks head more : List (Mark α)} {texts others : List (String × α)}
      (drawn : OnePage marks texts) (headed : OnePage head header)
      (rest : Continued name size header more others) :
      Continued name size header (marks ++ .page :: .font name size :: (head ++ more))
        (texts ++ others)

namespace Continued

variable {name : String} {size : α} {header texts others : List (String × α)}
  {marks more : List (Mark α)}

theorem append (first : Continued name size header marks texts)
    (second : Continued name size header more others) :
    Continued name size header (marks ++ more) (texts ++ others) := by
  induction first with
  | here drawn =>
      -- The second marks go on from the page that the first were on to its end.
      cases second with
      | here drawnMore => exact .here (reading_onePage.append drawn drawnMore)
      | turn drawnMore headed rest =>
          rw [← List.append_assoc, ← List.append_assoc]
          exact .turn (reading_onePage.append drawn drawnMore) headed rest
  | turn drawn headed rest ih => simpa using turn drawn headed ih

/-- The marks are the rest of the page that they go on from, and then whole sheets. -/
theorem sheets (shown : Continued name size header marks texts) :
    ∃ (here : List (Mark α)) (rest : List (Sheet α [] header)),
      marks = here ++ rest.flatMap (Sheet.marks name size) ∧ (pages here).2 = [] ∧
      (∀ sheet ∈ rest, sheet.above = []) ∧
      (pages here).1 ++ rest.flatMap Sheet.texts = texts := by
  induction shown with
  | @here marks texts drawn =>
      rw [OnePage] at drawn
      exact ⟨marks, [], by simp, by rw [drawn], by simp, by simp [drawn]⟩
  | @turn marks head more texts others drawn headed rest ih =>
      obtain ⟨below, later, rfl, unbroken, bare, rfl⟩ := ih
      let sheet : Sheet α [] header := ⟨[], head, below, rfl, headed, unbroken⟩
      rw [OnePage] at drawn
      refine ⟨marks, sheet :: later, ?_, by rw [drawn], ?_, ?_⟩
      · simp [sheet, Sheet.marks]
      · rintro other member
        rcases List.mem_cons.1 member with rfl | member
        · rfl
        · exact bare other member
      · simp [sheet, Sheet.texts, drawn]

end Continued

theorem turning_continued (name : String) (size : α) (header : List (String × α)) :
    Turning name size header (Continued name size header) where
  nil := .here reading_onePage.nil
  append := Continued.append
  text content x y := .here (reading_onePage.text content x y)
  font other points := .here (reading_onePage.font other points)
  rule x y toX toY := .here (reading_onePage.rule x y toX toY)
  turn {head} headed := by
    simpa using Continued.turn reading_onePage.nil headed (.here reading_onePage.nil)

/-! The count of pages. -/

def Counted (cursor : Cursor α) (marks : List (Mark α)) (next : Cursor α) : Prop :=
  next.pages = cursor.pages + marks.countP Mark.isPage

section Counted

variable {ι : Type} {cursor middle next : Cursor α} {marks more : List (Mark α)}

theorem OnePage.counted {texts : List (String × α)} (shown : OnePage marks texts)
    (same : next.pages = cursor.pages) : Counted cursor marks next := by
  rw [Counted, shown.unbroken, same, Nat.add_zero]

theorem Counted.append (first : Counted cursor marks middle) (second : Counted middle more next) :
    Counted cursor (marks ++ more) next := by
  rw [Counted] at first second ⊢
  rw [second, first, List.countP_append, Nat.add_assoc]

theorem Chain.counted {Step : ι → Stretch α} {items : List ι}
    (chain : Chain Step items cursor marks next)
    (each : ∀ item cursor marks next, Step item cursor marks next → Counted cursor marks next) :
    Counted cursor marks next := by
  induction chain with
  | nil => exact reading_onePage.nil.counted rfl
  | cons step chain ih => exact (each _ _ _ _ step).append ih

variable [Measure α] {style : Style α} {Full : Stretch α} {cells : Columns Cell}

theorem RowLine.counted {i : Nat} (line : RowLine style Full cells i cursor marks next)
    (full : ∀ cursor marks next, Full cursor marks next → Counted cursor marks next) :
    Counted cursor marks next := by
  cases line with
  | fits room => exact (reading_onePage.shows_lineMarks style cells i cursor).counted rfl
  | full short turned =>
      exact (full _ _ _ turned).append
        ((reading_onePage.shows_lineMarks style cells i _).counted rfl)

theorem Block.counted (block : Block style Full cells cursor marks next)
    (full : ∀ cursor marks next, Full cursor marks next → Counted cursor marks next) :
    Counted cursor marks next := by
  cases block with
  | @intro cursor middle drawing lines =>
      have inner := lines.counted fun i cursor marks next line => line.counted full
      have upper : Counted cursor [across cursor.y] (cursor.down (padding α)) :=
        (reading_onePage.shows_across cursor.y).counted rfl
      exact upper.append (inner.append ((reading_onePage.shows_across _).counted rfl))

theorem HeadedPage.counted (headed : HeadedPage style cursor marks next) :
    Counted cursor marks next := by
  cases headed with
  | @intro cursor next drawing header =>
      have below := header.counted fun _ _ _ => False.elim
      have begun : Counted cursor [.page, .font style.font style.size]
          ⟨top α, cursor.pages + 1⟩ := rfl
      exact begun.append below

theorem Continuation.counted (continued : Continuation style cursor marks next) :
    Counted cursor marks next := by
  cases continued with
  | intro headed =>
      exact headed.counted.append ((reading_onePage.shows_across _).counted rfl)

theorem Row.counted (row : Row style cells cursor marks next) : Counted cursor marks next := by
  cases row with
  | stays here block => exact block.counted fun _ _ _ => Continuation.counted
  | moves short small headed block =>
      exact headed.counted.append (block.counted fun _ _ _ => Continuation.counted)

theorem Title.counted {lines : List Line} (title : Title style lines cursor marks next) :
    Counted cursor marks next := by
  cases title with
  | @intro cursor middle drawing drawn =>
      have lines : Counted cursor drawing middle := by
        refine drawn.counted fun line cursor marks next one => ?_
        cases one with
        | intro => exact (reading_onePage.text ..).counted rfl
      have chosen : Counted cursor [.font style.font (titleSize style)] cursor :=
        (reading_onePage.font ..).counted rfl
      exact chosen.append (lines.append ((reading_onePage.font ..).counted rfl))

end Counted

variable [Measure α] (face : Typeface α) (title : String) (size : α) (findings : List Finding)

theorem Report.counted {marks : List (Mark α)} {extent : Extent}
    (report : Report face title size findings marks extent) :
    extent.pages = marks.countP Mark.isPage := by
  cases report with
  | @intro cursor middle next above head body titled header rows =>
      have begun : Counted (⟨top α, 0⟩ : Cursor α) [.page, .font face.name size] ⟨top α, 1⟩ := rfl
      have counted := begun.append (titled.counted.append
        ((header.counted fun _ _ _ => False.elim).append
          (rows.counted fun _ _ _ _ => Row.counted)))
      rw [Counted, Nat.zero_add] at counted
      exact counted

/-- A finished report is a first sheet under the title, and more sheets that begin with the header.
Every sheet has the header in full, once and above its rows, also where a row goes on from the sheet
before, and the sheets together show every row. -/
theorem sheets_headed {σ : Type} {canvas : Canvas α σ} {state next : σ} {extent : Extent}
    (finished : (drawReport canvas face title size findings).result state = (.ok extent, next)) :
    ∃ (first : Sheet α (titleTexts α (titleLines face title size)) (headerTexts face size))
      (rest : List (Sheet α [] (headerTexts face size))),
      let marks := first.marks face.name size ++ rest.flatMap (Sheet.marks face.name size)
      (drawReport canvas.traced face title size findings).result (state, []) =
        (.ok extent, (next, marks)) ∧
      marks.countP Mark.isPage = extent.pages ∧ rest.length + 1 = extent.pages ∧
      (∀ sheet ∈ rest, sheet.above = []) ∧
      first.texts ++ rest.flatMap Sheet.texts = findings.flatMap (findingTexts face size) := by
  obtain ⟨_, traced, report⟩ := (ensures_drawReport face title size findings).traced finished
  have counted := report.counted
  obtain ⟨above, head, body, rfl, titled, headed, shown⟩ :=
    report.shows face title size findings (turning_continued face.name size _)
  obtain ⟨below, rest, rfl, unbroken, bare, texts⟩ := shown.sheets
  let first : Sheet α (titleTexts α (titleLines face title size)) (headerTexts face size) :=
    ⟨above, head, below, titled, headed, unbroken⟩
  have split : .page :: .font face.name size ::
      (above ++ (head ++ (below ++ rest.flatMap (Sheet.marks face.name size)))) =
      first.marks face.name size ++ rest.flatMap (Sheet.marks face.name size) := by
    simp [first, Sheet.marks]
  rw [split] at traced counted
  have pages := counted
  rw [List.countP_append, first.countP_marks, Sheet.countP_flatMap_marks] at pages
  exact ⟨first, rest, traced, counted.symm, by omega, bare, texts⟩

/-- A single row of large type that goes on from the first page to a second. -/
theorem sheets_headed_within_row :
    let face : Typeface Rat := ⟨"plain", fun c => some (if c = 'x' then 100 else 0)⟩
    let canvas : Canvas Rat Unit := ⟨fun _ _ => .ok ()⟩
    let finding : Finding := ⟨"A", "b", "c", "xxxxx"⟩
    (drawReport canvas face "T" 100 [finding]).result () = (.ok ⟨2, 1⟩, ()) ∧
    ∃ (first : Sheet Rat (titleTexts Rat (titleLines face "T" 100)) (headerTexts face 100))
      (second : Sheet Rat [] (headerTexts face 100)),
      (drawReport canvas.traced face "T" 100 [finding]).result ((), []) =
        (.ok ⟨2, 1⟩, ((), first.marks "plain" 100 ++ second.marks "plain" 100)) ∧
      second.above = [] ∧ first.texts ++ second.texts = findingTexts face 100 finding := by
  intro face canvas finding
  have finished : (drawReport canvas face "T" 100 [finding]).result () = (.ok ⟨2, 1⟩, ()) := by
    cbv
  obtain ⟨first, rest, traced, -, count, bare, texts⟩ :=
    sheets_headed face "T" 100 [finding] finished
  obtain ⟨second, rfl⟩ := List.length_eq_one_iff.1 (Nat.add_right_cancel count)
  refine ⟨finished, first, second, ?_, bare second (List.mem_singleton_self second), ?_⟩
  · simpa using traced
  · simpa using texts

end FormatReview.Paper
