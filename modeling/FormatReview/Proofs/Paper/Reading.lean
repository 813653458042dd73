import FormatReview.Proofs.Paper.Drawn

namespace FormatReview.Paper

/-! What can be read off a drawing: its texts with the places where they start, in their order. -/

variable {α β : Type}

/-- A way to read texts off marks that follows the order of the marks. -/
structure Reading (Shows : List (Mark α) → List (String × α) → Prop) : Prop where
  nil : Shows [] []
  append : ∀ {marks more texts others}, Shows marks texts → Shows more others →
    Shows (marks ++ more) (texts ++ others)
  text : ∀ content x y, Shows [.text content x y] [(content, x)]
  font : ∀ name size, Shows [.font name size] []
  rule : ∀ x y toX toY, Shows [.rule x y toX toY] []

/-- If the picture is completed, its marks show `texts`. -/
def Picture.Reads (picture : Picture α β) (Shows : List (Mark α) → List (String × α) → Prop)
    (texts : List (String × α)) : Prop :=
  ∃ marks ending, picture.Yields marks ending ∧ ∀ b, ending = .ok b → Shows marks texts

/-! Pages. -/

/-- The texts before the first page break, and those of each page after. -/
def pages : List (Mark α) → List (String × α) × List (List (String × α))
  | [] => ([], [])
  | .page :: rest => ([], (pages rest).1 :: (pages rest).2)
  | .font _ _ :: rest => pages rest
  | .text content x _ :: rest => ((content, x) :: (pages rest).1, (pages rest).2)
  | .rule _ _ _ _ :: rest => pages rest

theorem pages_append_of_unbroken {marks : List (Mark α)} (unbroken : (pages marks).2 = [])
    (more : List (Mark α)) :
    pages (marks ++ more) = ((pages marks).1 ++ (pages more).1, (pages more).2) := by
  induction marks with
  | nil => rfl
  | cons mark rest ih =>
      cases mark with
      | page => simp [pages] at unbroken
      | font name size => exact ih unbroken
      | text content x y =>
          rw [List.cons_append, pages, ih unbroken]
          rfl
      | rule x y toX toY => exact ih unbroken

theorem pages_append_of_broken {marks : List (Mark α)} {earlier : List (List (String × α))}
    {last : List (String × α)} (broken : (pages marks).2 = earlier ++ [last])
    (more : List (Mark α)) :
    pages (marks ++ more) =
      ((pages marks).1, earlier ++ (last ++ (pages more).1) :: (pages more).2) := by
  induction marks generalizing earlier with
  | nil => simp [pages] at broken
  | cons mark rest ih =>
      cases mark with
      | page =>
          cases earlier with
          | nil =>
              obtain ⟨rfl, unbroken⟩ := List.cons.inj broken
              rw [List.cons_append, pages, pages_append_of_unbroken unbroken]
              rfl
          | cons page others =>
              obtain ⟨rfl, later⟩ := List.cons.inj broken
              rw [List.cons_append, pages, ih later]
              rfl
      | font name size => exact ih broken
      | text content x y =>
          rw [List.cons_append, pages, ih broken]
          rfl
      | rule x y toX toY => exact ih broken

def OnePage (marks : List (Mark α)) (texts : List (String × α)) : Prop := pages marks = (texts, [])

/-- Each page begun by the drawing starts with the texts of the header. Without these, the texts
are the given ones. -/
def Headed (header : List (String × α)) (marks : List (Mark α)) (texts : List (String × α)) :
    Prop :=
  ∃ rest : List (List (String × α)),
    (pages marks).2 = rest.map (header ++ ·) ∧ (pages marks).1 ++ rest.flatten = texts

theorem reading_onePage : Reading (OnePage (α := α)) where
  nil := rfl
  append := by
    intro marks more texts others shown shownMore
    rw [OnePage, pages_append_of_unbroken (congrArg Prod.snd shown), shown, shownMore]
  text _ _ _ := rfl
  font _ _ := rfl
  rule _ _ _ _ := rfl

theorem OnePage.headed {marks : List (Mark α)} {texts : List (String × α)}
    (shown : OnePage marks texts) (header : List (String × α)) : Headed header marks texts := by
  rw [OnePage] at shown
  exact ⟨[], by simp [shown], by simp [shown]⟩

theorem Headed.append {header : List (String × α)} {marks more : List (Mark α)}
    {texts others : List (String × α)} (shown : Headed header marks texts)
    (shownMore : Headed header more others) :
    Headed header (marks ++ more) (texts ++ others) := by
  obtain ⟨rest, headed, rfl⟩ := shown
  obtain ⟨restMore, headedMore, rfl⟩ := shownMore
  rcases List.eq_nil_or_concat rest with rfl | ⟨earlier, last, rfl⟩
  · refine ⟨restMore, ?_, ?_⟩ <;> rw [pages_append_of_unbroken headed]
    · exact headedMore
    · simp
  · rw [List.concat_eq_append, List.map_append] at headed
    refine ⟨earlier ++ (last ++ (pages more).1) :: restMore, ?_, ?_⟩ <;>
      rw [pages_append_of_broken headed]
    · simp [headedMore]
    · simp

theorem reading_headed (header : List (String × α)) : Reading (Headed header) where
  nil := reading_onePage.nil.headed header
  append := Headed.append
  text content x y := (reading_onePage.text content x y).headed header
  font name size := (reading_onePage.font name size).headed header
  rule x y toX toY := (reading_onePage.rule x y toX toY).headed header

theorem headed_page {header : List (String × α)} {marks : List (Mark α)}
    (drawn : OnePage marks header) : Headed header (.page :: marks) [] := by
  rw [OnePage] at drawn
  exact ⟨[[]], by simp [pages, drawn], by simp [pages]⟩

/-- A way to read texts from page to page, past the header with which a page begins. -/
structure Turning (name : String) (size : α) (header : List (String × α))
    (Shows : List (Mark α) → List (String × α) → Prop) : Prop extends Reading Shows where
  turn : ∀ {marks}, OnePage marks header → Shows (.page :: .font name size :: marks) []

theorem turning_headed (name : String) (size : α) (header : List (String × α)) :
    Turning name size header (Headed header) where
  toReading := reading_headed header
  turn drawn := headed_page (reading_onePage.append (reading_onePage.font name size) drawn)

/-- First `opening` is drawn on one page, and then the rest with a header on each page begun. -/
def Opened (opening header : List (String × α)) (marks : List (Mark α))
    (texts : List (String × α)) : Prop :=
  ∃ before after, marks = before ++ after ∧ OnePage before opening ∧ Headed header after texts

/-- The first page begins with `opening`, the others with the header. Without these, the texts are
the given ones. -/
def Paged (opening header : List (String × α)) (marks : List (Mark α))
    (texts : List (String × α)) : Prop :=
  ∃ (first : List (String × α)) (rest : List (List (String × α))),
    pages marks = ([], (opening ++ first) :: rest.map (header ++ ·)) ∧
      first ++ rest.flatten = texts

theorem Opened.intro {opening header texts : List (String × α)} {before after : List (Mark α)}
    (drawn : OnePage before opening) (headed : Headed header after texts) :
    Opened opening header (before ++ after) texts :=
  ⟨before, after, rfl, drawn, headed⟩

theorem Opened.prepend {opening header texts added : List (String × α)}
    {marks more : List (Mark α)} (drawn : OnePage marks added)
    (opened : Opened opening header more texts) :
    Opened (added ++ opening) header (marks ++ more) texts := by
  obtain ⟨before, after, rfl, one, headed⟩ := opened
  exact ⟨marks ++ before, after, by simp, reading_onePage.append drawn one, headed⟩

theorem Opened.paged {opening header texts : List (String × α)} {marks : List (Mark α)}
    (opened : Opened opening header marks texts) (name : String) (size : α) :
    Paged opening header (.page :: .font name size :: marks) texts := by
  obtain ⟨before, after, rfl, one, rest, broken, read⟩ := opened
  rw [OnePage] at one
  refine ⟨(pages after).1, rest, ?_, read⟩
  rw [pages, pages, pages_append_of_unbroken (by rw [one]), one, broken]

end FormatReview.Paper
