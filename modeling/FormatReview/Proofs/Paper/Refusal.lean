import FormatReview.Proofs.Paper.Drawn

namespace FormatReview.Paper

/-! Surfaces that refuse a mark. The marks before it are those of the whole report, the refusal is
the answer, and nothing is asked for afterwards. -/

variable {α β σ : Type}

namespace Canvas

theorem result_putAll_recorder (marks done : List (Mark α)) :
    (recorder.putAll marks).result done = (.ok (), done ++ marks) := by
  induction marks generalizing done with
  | nil => simp
  | cons mark rest ih =>
      rw [result_putAll_cons]
      simpa [recorder] using ih (done ++ [mark])

theorem result_putAll_failingAt {k : Nat} (fault : Fault) (marks : List (Mark α))
    {done : List (Mark α)} (before : done.length ≤ k) :
    ((failingAt k fault).putAll marks).result done =
      if k < done.length + marks.length then
        (.error fault, done ++ marks.take (k - done.length))
      else (.ok (), done ++ marks) := by
  induction marks generalizing done with
  | nil => simp [Nat.not_lt.2 before]
  | cons mark rest ih =>
      rw [result_putAll_cons]
      by_cases now : done.length = k
      · have refused : (failingAt k fault).draw done mark = .error fault := if_pos now
        rw [refused, if_pos (by simp [now])]
        simp [now]
      · have taken : (failingAt k fault).draw done mark = .ok (done ++ [mark]) := if_neg now
        have later : (done ++ [mark]).length ≤ k := by
          rw [List.length_append, List.length_singleton]
          omega
        obtain ⟨ahead, next⟩ : ∃ ahead, k - done.length = ahead + 1 :=
          ⟨k - done.length - 1, by omega⟩
        have shift : k - (done.length + 1) = ahead := by omega
        have sum : done.length + 1 + rest.length = done.length + (rest.length + 1) := by omega
        rw [taken]
        simpa [next, shift, sum] using ih later

end Canvas

namespace Picture.Yields

variable {picture : Picture α β} {marks : List (Mark α)} {ending : Except Fault β}

theorem result (yields : picture.Yields marks ending) (canvas : Canvas α σ) (state : σ) :
    (picture σ canvas).result state =
      match (canvas.putAll marks).result state with
      | (.ok _, final) => (ending, final)
      | (.error refusal, final) => (.error refusal, final) := by
  rw [yields, Drawing.result_bind]
  cases (canvas.putAll marks).result state with
  | mk drawn final =>
      cases drawn with
      | error refusal => rfl
      | ok _ => cases ending <;> rfl

theorem recorded (yields : picture.Yields marks ending) :
    (picture _ Canvas.recorder).result [] = (ending, marks) := by
  rw [yields.result, Canvas.result_putAll_recorder]
  rfl

theorem failingAt (yields : picture.Yields marks ending) (k : Nat) (fault : Fault) :
    (picture _ (Canvas.failingAt k fault)).result [] =
      if k < marks.length then (.error fault, marks.take k) else (ending, marks) := by
  rw [yields.result, Canvas.result_putAll_failingAt fault marks (Nat.zero_le k)]
  by_cases short : k < marks.length
  · simp [short]
  · simp [short]

end Picture.Yields

variable [Measure α] (face : Typeface α) (title : String) (size : α) (findings : List Finding)

/-- How a report ends where nothing is refused, and all its marks. -/
def wholeReport : Except Fault Extent × List (Mark α) :=
  (drawReport Canvas.recorder face title size findings).result []

theorem yields_wholeReport :
    Picture.Yields (fun _ canvas => drawReport canvas face title size findings)
      (wholeReport face title size findings).2 (wholeReport face title size findings).1 := by
  obtain ⟨marks, ending, yields, -⟩ := ensures_drawReport face title size findings
  have whole : wholeReport face title size findings = (ending, marks) := yields.recorded
  rwa [whole]

/-- A surface that refuses its mark number `k` ends the report there: it has the first `k` marks of
the whole report, and its fault is the answer. If the report has no such mark, all is as if nothing
were refused. On any surface, the marks asked for are those of the whole report in their order, up
to the first that is refused. -/
theorem report_until_refusal (k : Nat) (fault : Fault) :
    let whole := wholeReport face title size findings
    (drawReport (Canvas.failingAt k fault) face title size findings).result [] =
        (if k < whole.2.length then (.error fault, whole.2.take k) else whole) ∧
      ∀ {σ : Type} (canvas : Canvas α σ) (state : σ),
        (drawReport canvas face title size findings).result state =
          match (canvas.putAll whole.2).result state with
          | (.ok _, final) => (whole.1, final)
          | (.error refusal, final) => (.error refusal, final) := by
  have yields := yields_wholeReport face title size findings
  exact ⟨yields.failingAt k fault, fun canvas state => yields.result canvas state⟩

example :
    (drawReport (Canvas.failingAt 3 (.internal "torn")) (⟨"plain", fun _ => some 0⟩ : Typeface Rat)
      "T" 10 []).result [] =
      (.error (.internal "torn"), [.page, .font "plain" 10, .font "plain" 12]) := by
  cbv

end FormatReview.Paper
