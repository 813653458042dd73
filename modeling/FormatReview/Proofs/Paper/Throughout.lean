import FormatReview.Proofs.Paper.Drawn

namespace FormatReview.Paper

/-! What holds of the marks of a report also when it is not completed: a header that does not fit on
a page ends a report wherever the header is drawn. -/

variable {α β γ ι : Type}

/-- Completed or not, the picture's marks are as `Seen` says, and it only fails for want of room for
the header. -/
def Picture.Always (picture : Picture α β) (Seen : List (Mark α) → Prop) : Prop :=
  ∃ marks ending, picture.Yields marks ending ∧ Seen marks ∧
    ∀ fault, ending = .error fault → fault = headerTooTall

section Rules

variable {Seen : List (Mark α) → Prop} {picture : Picture α β} {marks : List (Mark α)}

theorem Picture.Yields.always {b : β} (yields : picture.Yields marks (.ok b)) (seen : Seen marks) :
    picture.Always Seen :=
  ⟨marks, .ok b, yields, seen, by simp⟩

theorem always_headerTooTall (seen : Seen []) :
    Picture.Always (fun _ _ => throw headerTooTall : Picture α β) Seen :=
  ⟨[], .error headerTooTall, .throw headerTooTall, seen, by simp [eq_comm]⟩

variable (append : ∀ {marks more : List (Mark α)}, Seen marks → Seen more → Seen (marks ++ more))

include append

theorem Picture.Always.bind {next : β → Picture α γ} (first : picture.Always Seen)
    (second : ∀ b, (next b).Always Seen) :
    Picture.Always (fun σ canvas => picture σ canvas >>= fun b => next b σ canvas) Seen := by
  obtain ⟨marks, ending, yields, seen, fails⟩ := first
  cases ending with
  | error fault =>
      refine ⟨marks, .error fault, yields.bind_error next, seen, ?_⟩
      rintro _ ⟨⟩
      exact fails fault rfl
  | ok b =>
      obtain ⟨more, final, yieldsMore, seenMore, failsMore⟩ := second b
      exact ⟨marks ++ more, final, yields.bind yieldsMore, append seen seenMore, failsMore⟩

theorem always_foldlM {step : β → ι → Picture α β} {items : List ι} (seen : Seen [])
    (each : ∀ item ∈ items, ∀ b, (step b item).Always Seen) (b : β) :
    Picture.Always (fun σ canvas => items.foldlM (fun b item => step b item σ canvas) b) Seen := by
  induction items generalizing b with
  | nil => exact (Picture.Yields.pure b).always seen
  | cons item rest ih =>
      refine (each item List.mem_cons_self b).bind append fun next => ?_
      exact ih (fun other member => each other (List.mem_cons_of_mem _ member)) next

end Rules

variable [Measure α]

/-- What may be said of the marks of a table part by part, its rows being some of `rows`. -/
structure Tabular (style : Style α) (rows : List (Columns Cell)) (Seen : List (Mark α) → Prop) :
    Prop where
  nil : Seen []
  append : ∀ {marks more}, Seen marks → Seen more → Seen (marks ++ more)
  turn : Seen [.page, .font style.font style.size]
  ruled : ∀ y, Seen [across y]
  line : ∀ cells ∈ style.header :: rows, ∀ i cursor, Seen (lineMarks style cells i cursor)

namespace Tabular

variable {style : Style α} {rows : List (Columns Cell)} {Seen : List (Mark α) → Prop}
  (tabular : Tabular style rows Seen)

include tabular

theorem always_across (y : α) : Picture.Always (fun _ canvas => ruleAcross canvas y) Seen :=
  (Picture.Yields.put (across y)).always (tabular.ruled y)

theorem always_pure {β : Type} (b : β) : Picture.Always (fun _ _ => pure b) Seen :=
  (Picture.Yields.pure b).always tabular.nil

section Lines

variable {whenFull : (σ : Type) → Canvas α σ → Cursor α → Drawing σ (Cursor α)}
  (full : ∀ cursor, Picture.Always (fun σ canvas => whenFull σ canvas cursor) Seen)
  {cells : Columns Cell} (listed : cells ∈ style.header :: rows)

include full listed

theorem always_drawLine (cursor : Cursor α) (i : Nat) :
    Picture.Always (fun σ canvas => drawLine canvas style (whenFull σ canvas) cells cursor i)
      Seen := by
  have line (cursor : Cursor α) :=
    (yields_line style cells i cursor).always (tabular.line cells listed i cursor)
  by_cases short : cursor.y - style.lineHeight < margin α
  · simp only [drawLine, short, if_true]
    exact (full cursor).bind tabular.append line
  · simp only [drawLine, short, if_false, pure_bind]
    exact line cursor

theorem always_drawCells (cursor : Cursor α) :
    Picture.Always (fun σ canvas => drawCells canvas style (whenFull σ canvas) cells cursor)
      Seen := by
  refine (tabular.always_across cursor.y).bind tabular.append fun _ => ?_
  refine (always_foldlM tabular.append tabular.nil
    (fun i _ cursor => tabular.always_drawLine full listed cursor i) _).bind tabular.append
    fun middle => ?_
  exact (tabular.always_across _).bind tabular.append fun _ => tabular.always_pure _

end Lines

theorem always_drawHeader (cursor : Cursor α) :
    Picture.Always (fun _ canvas => drawHeader canvas style cursor) Seen :=
  tabular.always_drawCells (fun _ => always_headerTooTall tabular.nil) List.mem_cons_self cursor

theorem always_headedPage (cursor : Cursor α) :
    Picture.Always (fun _ canvas => headedPage canvas style cursor) Seen :=
  ((yields_newPage style cursor).always tabular.turn).bind tabular.append tabular.always_drawHeader

theorem always_continueRow (cursor : Cursor α) :
    Picture.Always (fun _ canvas => continueRow canvas style cursor) Seen := by
  refine (tabular.always_headedPage cursor).bind tabular.append fun middle => ?_
  exact (tabular.always_across _).bind tabular.append fun _ => tabular.always_pure _

theorem always_drawRow {cells : Columns Cell} (listed : cells ∈ rows) (cursor : Cursor α) :
    Picture.Always (fun _ canvas => drawRow canvas style cells cursor) Seen := by
  have block := tabular.always_drawCells tabular.always_continueRow
    (List.mem_cons_of_mem style.header listed)
  by_cases moved : cursor.y - style.rowHeight cells < margin α ∧
      style.rowHeight cells ≤ style.pageRoom
  · simp only [drawRow, moved, and_self, if_true]
    exact (tabular.always_headedPage cursor).bind tabular.append block
  · simp only [drawRow, moved, if_false, pure_bind]
    exact block cursor

end Tabular

variable (face : Typeface α) (title : String) (size : α) (findings : List Finding)

/-- The cells of the rows below the header. -/
def rowCells : List (Columns Cell) :=
  findings.map fun finding => wrapCells face size (Columns.ofFinding finding)

/-- A report whose characters all have a glyph begins with its title, completed or not. -/
theorem yields_drawReport {Seen : List (Mark α) → Prop}
    (covered : face.missing (reportTexts title findings) = [])
    (tabular : Tabular (Style.ofTypeface face size) (rowCells face size findings) Seen) :
    ∃ above cursor body ending,
      Picture.Yields (fun _ canvas => drawReport canvas face title size findings)
        (.page :: .font face.name size :: (above ++ body)) ending ∧
      Title (Style.ofTypeface face size) (titleLines face title size) ⟨top α, 1⟩ above cursor ∧
      Seen body ∧ ∀ fault, ending = .error fault → fault = headerTooTall := by
  simp only [drawReport_of_covered covered]
  let style := Style.ofTypeface face size
  obtain ⟨above, cursor, drawn, titled⟩ :=
    yields_drawTitle style (titleLines face title size) ⟨top α, 1⟩
  have rows (cursor : Cursor α) :
      Picture.Always (fun _ canvas => drawFindings canvas face size findings cursor) Seen := by
    refine (always_foldlM tabular.append tabular.nil (fun finding member cursor => ?_) cursor).bind
      tabular.append fun next => tabular.always_pure _
    exact tabular.always_drawRow (List.mem_map_of_mem member) cursor
  obtain ⟨body, ending, yields, seen, fails⟩ :=
    (tabular.always_drawHeader cursor).bind tabular.append rows
  exact ⟨above, cursor, body, ending, (yields_newPage style ⟨top α, 0⟩).bind (drawn.bind yields),
    titled, seen, fails⟩

end FormatReview.Paper
