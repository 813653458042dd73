import FormatReview.Paper.Layout

namespace FormatReview.Paper

/-! Drawings as scripts. A drawing never asks the surface anything, so that its marks and its ending
are settled beforehand; a surface can only cut it short. -/

variable {α β γ ι : Type}

/-- How a drawing ends on a surface in the given state, and the state that it leaves. -/
def Drawing.result {σ : Type} (drawing : Drawing σ β) (state : σ) : Except Fault β × σ :=
  drawing.run.run state

namespace Drawing

variable {σ : Type}

@[simp] theorem result_pure (b : β) (state : σ) :
    result (pure b) state = (.ok b, state) := rfl

@[simp] theorem result_throw (fault : Fault) (state : σ) :
    result (throw fault : Drawing σ β) state = (.error fault, state) := rfl

theorem result_bind (drawing : Drawing σ β) (next : β → Drawing σ γ) (state : σ) :
    result (drawing >>= next) state =
      match drawing.result state with
      | (.ok b, middle) => (next b).result middle
      | (.error fault, middle) => (.error fault, middle) := by
  simp only [result, bind, ExceptT.bind, ExceptT.mk, ExceptT.run, StateT.bind, StateT.run,
    ExceptT.bindCont]
  cases (drawing state : Except Fault β × σ) with
  | mk ending middle => cases ending <;> rfl

theorem result_bind_ok {drawing : Drawing σ β} {next : β → Drawing σ γ} {state final : σ} {c : γ}
    (completed : result (drawing >>= next) state = (.ok c, final)) :
    ∃ b middle, drawing.result state = (.ok b, middle) ∧
      (next b).result middle = (.ok c, final) := by
  rw [result_bind] at completed
  cases first : drawing.result state with
  | mk ending middle =>
      rw [first] at completed
      cases ending with
      | error fault => simp at completed
      | ok b => exact ⟨b, middle, rfl, completed⟩

end Drawing

namespace Canvas

def putAll {σ : Type} (canvas : Canvas α σ) : List (Mark α) → Drawing σ Unit
  | [] => pure ()
  | mark :: rest => do
      canvas.put mark
      canvas.putAll rest

/-- The same surface with a list of the marks that it took. -/
def traced {σ : Type} (canvas : Canvas α σ) : Canvas α (σ × List (Mark α)) :=
  ⟨fun state mark => (canvas.draw state.1 mark).map fun next => (next, state.2 ++ [mark])⟩

variable {σ : Type} (canvas : Canvas α σ)

theorem result_put (mark : Mark α) (state : σ) :
    (canvas.put mark).result state =
      match canvas.draw state mark with
      | .ok next => (.ok (), next)
      | .error fault => (.error fault, state) := rfl

@[simp] theorem putAll_nil : canvas.putAll [] = pure () := rfl

@[simp] theorem putAll_cons (mark : Mark α) (rest : List (Mark α)) :
    canvas.putAll (mark :: rest) = (do canvas.put mark; canvas.putAll rest) := rfl

theorem putAll_append (marks more : List (Mark α)) :
    canvas.putAll (marks ++ more) = (do canvas.putAll marks; canvas.putAll more) := by
  induction marks with
  | nil => simp
  | cons mark rest ih => simp [ih]

theorem result_putAll_cons (mark : Mark α) (rest : List (Mark α)) (state : σ) :
    (canvas.putAll (mark :: rest)).result state =
      match canvas.draw state mark with
      | .ok next => (canvas.putAll rest).result next
      | .error fault => (.error fault, state) := by
  rw [putAll_cons, Drawing.result_bind, result_put]
  cases canvas.draw state mark <;> rfl

theorem result_putAll_traced {marks : List (Mark α)} {state next : σ}
    (drawn : (canvas.putAll marks).result state = (.ok (), next)) (done : List (Mark α)) :
    (canvas.traced.putAll marks).result (state, done) = (.ok (), (next, done ++ marks)) := by
  induction marks generalizing state done with
  | nil =>
      obtain rfl : state = next := congrArg Prod.snd drawn
      simp
  | cons mark rest ih =>
      rw [result_putAll_cons] at drawn ⊢
      cases accepted : canvas.draw state mark with
      | error fault => simp [accepted] at drawn
      | ok middle =>
          rw [accepted] at drawn
          have step : canvas.traced.draw (state, done) mark = .ok (middle, done ++ [mark]) := by
            simp [traced, accepted, Except.map]
          rw [step]
          simpa using ih drawn (done ++ [mark])

end Canvas

abbrev Picture (α β : Type) := (σ : Type) → Canvas α σ → Drawing σ β

/-- On every surface, the picture consists of `marks` and then ends as told. -/
def Picture.Yields (picture : Picture α β) (marks : List (Mark α)) (ending : Except Fault β) :
    Prop :=
  ∀ (σ : Type) (canvas : Canvas α σ),
    picture σ canvas = (do canvas.putAll marks; MonadExcept.ofExcept ending)

namespace Picture.Yields

variable {marks more : List (Mark α)} {ending : Except Fault γ}

theorem traced {picture : Picture α β} {ending : Except Fault β} (yields : picture.Yields marks ending)
    {σ : Type} {canvas : Canvas α σ} {state next : σ} {b : β}
    (completed : (picture σ canvas).result state = (.ok b, next)) :
    ending = .ok b ∧
      (picture (σ × List (Mark α)) canvas.traced).result (state, []) = (.ok b, (next, marks)) := by
  rw [yields] at completed
  obtain ⟨_, middle, drawn, ended⟩ := Drawing.result_bind_ok completed
  cases ending with
  | error fault => simp [MonadExcept.ofExcept] at ended
  | ok c =>
      obtain ⟨rfl, rfl⟩ : c = b ∧ middle = next := by
        simpa [MonadExcept.ofExcept] using ended
      refine ⟨rfl, ?_⟩
      rw [yields, Drawing.result_bind, canvas.result_putAll_traced drawn []]
      rfl

theorem pure (b : β) : Yields (fun _ _ => Pure.pure b : Picture α β) [] (.ok b) := by
  intro σ canvas
  simp [MonadExcept.ofExcept]

theorem throw (fault : Fault) :
    Yields (fun _ _ => MonadExcept.throw fault : Picture α β) [] (.error fault) := by
  intro σ canvas
  simp [MonadExcept.ofExcept]

theorem put (mark : Mark α) : Yields (fun _ canvas => canvas.put mark) [mark] (.ok ()) := by
  intro σ canvas
  simp [MonadExcept.ofExcept]

theorem bind {picture : Picture α β} {next : β → Picture α γ} {b : β}
    (first : picture.Yields marks (.ok b)) (second : (next b).Yields more ending) :
    Yields (fun σ canvas => picture σ canvas >>= fun b => next b σ canvas) (marks ++ more)
      ending := by
  intro σ canvas
  simp only [first σ canvas, MonadExcept.ofExcept, pure_bind, bind_assoc, second σ canvas,
    canvas.putAll_append]

theorem bind_error {picture : Picture α β} {fault : Fault}
    (first : picture.Yields marks (.error fault)) (next : β → Picture α γ) :
    Yields (fun σ canvas => picture σ canvas >>= fun b => next b σ canvas) marks
      (.error fault) := by
  intro σ canvas
  simp only [first σ canvas, bind_assoc]
  rfl

theorem forM (mark : ι → Mark α) (items : List ι) :
    Yields (fun _ canvas => items.forM fun item => canvas.put (mark item)) (items.map mark)
      (.ok ()) := by
  induction items with
  | nil => exact pure ()
  | cons item rest ih => exact (put (mark item)).bind ih

end Picture.Yields

/-- If the picture is completed, `Post` holds of its marks and of what it returns. -/
def Picture.Ensures (picture : Picture α β) (Post : List (Mark α) → β → Prop) : Prop :=
  ∃ marks ending, picture.Yields marks ending ∧ ∀ b, ending = .ok b → Post marks b

namespace Picture

variable {First Post Other : List (Mark α) → β → Prop} {picture : Picture α β}

theorem Yields.ensures {marks : List (Mark α)} {b : β} (yields : picture.Yields marks (.ok b))
    (holds : Post marks b) : picture.Ensures Post := by
  refine ⟨marks, .ok b, yields, ?_⟩
  rintro c completed
  obtain rfl := Except.ok.inj completed
  exact holds

theorem ensures_pure {b : β} (holds : Post [] b) : Ensures (fun _ _ => pure b) Post :=
  (Yields.pure b).ensures holds

theorem ensures_throw (fault : Fault) :
    Ensures (fun _ _ => throw fault : Picture α β) Post :=
  ⟨[], .error fault, .throw fault, by simp⟩

theorem Ensures.mono (ensures : picture.Ensures Post)
    (weaker : ∀ marks b, Post marks b → Other marks b) : picture.Ensures Other := by
  obtain ⟨marks, ending, yields, holds⟩ := ensures
  exact ⟨marks, ending, yields, fun b completed => weaker marks b (holds b completed)⟩

theorem Yields.ensures_bind {marks : List (Mark α)} {b : β} {next : β → Picture α γ}
    {Post : List (Mark α) → γ → Prop} (yields : picture.Yields marks (.ok b))
    (rest : (next b).Ensures fun more c => Post (marks ++ more) c) :
    Ensures (fun σ canvas => picture σ canvas >>= fun b => next b σ canvas) Post := by
  obtain ⟨more, ending, yieldsMore, holds⟩ := rest
  exact ⟨marks ++ more, ending, yields.bind yieldsMore, holds⟩

theorem Ensures.bind {Post : List (Mark α) → γ → Prop} {next : β → Picture α γ}
    (first : picture.Ensures First)
    (second : ∀ marks b, First marks b → (next b).Ensures fun more c => Post (marks ++ more) c) :
    Ensures (fun σ canvas => picture σ canvas >>= fun b => next b σ canvas) Post := by
  obtain ⟨marks, ending, yields, holds⟩ := first
  cases ending with
  | error fault => exact ⟨marks, .error fault, yields.bind_error next, by simp⟩
  | ok b => exact yields.ensures_bind (second marks b (holds b rfl))

theorem ensures_put_bind {mark : Mark α} {next : Picture α β}
    (rest : next.Ensures fun more b => Post (mark :: more) b) :
    Ensures (fun σ canvas => canvas.put mark >>= fun _ => next σ canvas) Post :=
  (Yields.put mark).ensures_bind rest

theorem Ensures.traced (ensures : picture.Ensures Post) {σ : Type} {canvas : Canvas α σ}
    {state next : σ} {b : β} (completed : (picture σ canvas).result state = (.ok b, next)) :
    ∃ marks, (picture (σ × List (Mark α)) canvas.traced).result (state, []) =
      (.ok b, (next, marks)) ∧ Post marks b := by
  obtain ⟨marks, ending, yields, holds⟩ := ensures
  obtain ⟨ended, traced⟩ := yields.traced completed
  exact ⟨marks, traced, holds b ended⟩

end Picture

end FormatReview.Paper
