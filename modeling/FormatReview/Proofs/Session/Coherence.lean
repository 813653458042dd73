import FormatReview.Proofs.Session.Fields

namespace FormatReview.Session

/-! The fields of a session agree with one another after every run. -/

namespace Fields

/-- What an action can make of the fields. A percentage is shown only while the upload is not
settled, and a selection replaces the one before, if there is one. -/
inductive Step (fields : Fields) : Fields → Prop
  | begun : Step fields fields.beginUpload
  | taken : Step fields fields.takeReview
  | discarded : Step fields fields.discard
  | selected (selection : Selection) (free : fields.candidate = none) :
      Step fields { fields with
        candidate := some selection.candidate
        kind := some selection.kind
        rejection := none }
  | replaced (selection : Selection) :
      Step fields { fields.discard with
        candidate := some selection.candidate
        kind := some selection.kind }
  | rejected (rejection : Rejection) : Step fields { fields with rejection := some rejection }
  | kept : Step fields fields
  | advanced (percent : UInt8) (bounded : percent ≤ 100) (unsettled : fields.settled = false) :
      Step fields { fields with progress := percent }
  | completed (review : Review) : Step fields (fields.complete review)
  | failed (failure : Upload.Failure) : Step fields (fields.fail failure)

theorem min_hundred_le (percent : UInt8) : min percent 100 ≤ 100 := by
  by_cases small : percent ≤ 100
  · rw [show min percent 100 = percent from if_pos small]
    exact small
  · rw [show min percent 100 = 100 from if_neg small]
    exact UInt8.le_refl 100

theorem step_select (fields : Fields) (selection : Selection) :
    fields.Step (fields.select selection) := by
  cases held : fields.candidate with
  | none =>
      have free : fields.select selection = { fields with
          candidate := some selection.candidate
          kind := some selection.kind
          rejection := none } := by
        simp [select, held]
      rw [free]
      exact .selected selection held
  | some other =>
      have replaced : fields.select selection = { fields.discard with
          candidate := some selection.candidate
          kind := some selection.kind } := by
        simp [select, held, discard]
      rw [replaced]
      exact .replaced selection

theorem step_report (fields : Fields) (unsettled : fields.settled = false)
    (report : Upload.Report) : fields.Step (fields.report report).2 := by
  cases report with
  | progress percent =>
      simp only [Fields.report]
      split
      · exact .kept
      · exact .advanced _ (min_hundred_le percent) unsettled
  | completed review => exact .completed review
  | failed failure => exact .failed failure

theorem step_act (fields : Fields) (action : Action) : fields.Step (fields.act action) := by
  cases action with
  | begin => exact .begun
  | take => exact .taken
  | apply event =>
      cases event with
      | select selection => exact fields.step_select selection
      | clear => exact .discarded
      | reject rejection => exact .rejected rejection
      | upload event =>
          simp only [act, apply]
          cases refused : fields.refusal? event.generation with
          | some applied => exact .kept
          | none =>
              have unsettled : fields.settled = false := by
                simp only [refusal?] at refused
                split at refused
                · cases refused
                · split at refused
                  · cases refused
                  · simp_all
              exact fields.step_report unsettled event.report

/-- A review is shown at the end of its upload, and so is a failure; there is never both. An upload
is loading from its start to its end. -/
structure Coherent (fields : Fields) : Prop where
  bounded : fields.progress ≤ 100
  selected : fields.candidate.isSome = fields.kind.isSome
  single : fields.review = none ∨ fields.failure = none
  reviewed : fields.review.isSome = true →
    fields.settled = true ∧ fields.loading = false ∧ fields.progress = 100
  failed : fields.failure.isSome = true →
    fields.settled = true ∧ fields.loading = false ∧ fields.progress = 0
  loading : fields.loading = true ↔ 0 < fields.generation ∧ fields.settled = false
  waiting : fields.loading = true → fields.review = none ∧ fields.failure = none

theorem coherent_fresh : fresh.Coherent where
  bounded := by decide
  selected := rfl
  single := .inl rfl
  reviewed := by simp [fresh]
  failed := by simp [fresh]
  loading := by simp [fresh]
  waiting _ := ⟨rfl, rfl⟩

namespace Coherent

variable {fields next : Fields}

theorem open_of_unsettled (coherent : fields.Coherent) (unsettled : fields.settled = false) :
    fields.review = none ∧ fields.failure = none := by
  constructor
  · cases shown : fields.review with
    | none => rfl
    | some review =>
        have settled := (coherent.reviewed (by rw [shown, Option.isSome_some])).1
        exact absurd (settled.symm.trans unsettled) (by decide)
  · cases shown : fields.failure with
    | none => rfl
    | some failure =>
        have settled := (coherent.failed (by rw [shown, Option.isSome_some])).1
        exact absurd (settled.symm.trans unsettled) (by decide)

theorem step (coherent : fields.Coherent) (step : fields.Step next) : next.Coherent := by
  cases step with
  | begun =>
      exact ⟨UInt8.zero_le, coherent.selected, .inl rfl, by simp [beginUpload],
        by simp [beginUpload], by simp [beginUpload], fun _ => ⟨rfl, rfl⟩⟩
  | taken =>
      exact ⟨coherent.bounded, coherent.selected, .inl rfl, by simp [takeReview], coherent.failed,
        coherent.loading, fun loads => ⟨rfl, (coherent.waiting loads).2⟩⟩
  | discarded =>
      exact ⟨UInt8.zero_le, rfl, .inl rfl, by simp [discard], by simp [discard],
        by simp [discard], by simp [discard]⟩
  | selected selection free =>
      exact ⟨coherent.bounded, rfl, coherent.single, coherent.reviewed, coherent.failed,
        coherent.loading, coherent.waiting⟩
  | replaced selection =>
      exact ⟨UInt8.zero_le, rfl, .inl rfl, by simp [discard], by simp [discard],
        by simp [discard], by simp [discard]⟩
  | rejected rejection =>
      exact ⟨coherent.bounded, coherent.selected, coherent.single, coherent.reviewed,
        coherent.failed, coherent.loading, coherent.waiting⟩
  | kept => exact coherent
  | advanced percent bounded unsettled =>
      obtain ⟨noReview, noFailure⟩ := coherent.open_of_unsettled unsettled
      exact ⟨bounded, coherent.selected, coherent.single, by simp [noReview], by simp [noFailure],
        coherent.loading, coherent.waiting⟩
  | completed review =>
      exact ⟨UInt8.le_refl 100, coherent.selected, .inr rfl, fun _ => ⟨rfl, rfl, rfl⟩,
        by simp [complete], by simp [complete], by simp [complete]⟩
  | failed failure =>
      exact ⟨UInt8.zero_le, coherent.selected, .inl rfl, by simp [fail],
        fun _ => ⟨rfl, rfl, rfl⟩, by simp [fail], by simp [fail]⟩

theorem run (coherent : fields.Coherent) (actions : List Action) :
    (fields.run actions).Coherent := by
  induction actions generalizing fields with
  | nil => exact coherent
  | cons action rest ih => exact ih (coherent.step (fields.step_act action))

end Coherent

end Fields

/-- Only an event that is accepted changes anything. -/
theorem apply_eq_of_not_accepted {session : Session} {event : Event}
    (refused : (session.apply event).1 ≠ .accepted) : (session.apply event).2 = session := by
  cases event with
  | select selection => exact absurd rfl refused
  | clear => exact absurd rfl refused
  | reject rejection => exact absurd rfl refused
  | upload event =>
      by_cases own : event.generation = session.generation
      · cases settled : session.settled with
        | true => rw [apply_upload_settled event own settled]
        | false =>
            rw [apply_upload_open event own settled] at refused ⊢
            cases report : event.report with
            | progress percent =>
                rw [report] at refused
                simp only [Session.report] at refused ⊢
                by_cases stays : min percent 100 ≤ session.progress ∧ session.progress ≠ 0
                · rw [if_pos stays]
                · rw [if_neg stays] at refused
                  exact absurd rfl refused
            | completed review => exact absurd (by rw [report]; rfl) refused
            | failed failure => exact absurd (by rw [report]; rfl) refused
      · rw [apply_upload_stale event own]

/-- The state of a session at any time of any run. Its fields are those that come of writing each
by itself, and they agree with one another. Generations only grow, a new upload gets one that was
not there before, and an event that is not accepted changes nothing. -/
theorem coherence_of_history (before since : List Action) :
    let early := fresh.run before
    let now := early.run since
    now.fields = Fields.fresh.run (before ++ since) ∧
    now.fields.Coherent ∧
    early.generation ≤ now.generation ∧
    early.generation < now.beginUpload.generation ∧
    ∀ event, (now.apply event).1 ≠ .accepted → (now.apply event).2 = now := by
  intro early now
  have written : now.fields = Fields.fresh.run (before ++ since) := by
    rw [← fields_fresh, ← fields_run, run_append]
  have grown : early.generation ≤ now.generation := early.generation_le_run since
  refine ⟨written, ?_, grown, Nat.lt_succ_of_le grown, fun _ => apply_eq_of_not_accepted⟩
  rw [written]
  exact Fields.coherent_fresh.run _

end FormatReview.Session
