import FormatReview.Proofs.Session.Run

namespace FormatReview.Session

/-! A session as its nine fields, each of which is written by itself. A front-end that keeps them
apart shows what a session shows. -/

/-- Nothing in the type ties one field to another. -/
structure Fields where
  candidate : Option Candidate
  kind : Option DocumentKind
  rejection : Option Rejection
  review : Option Review
  failure : Option Upload.Failure
  progress : UInt8
  loading : Bool
  generation : Nat
  settled : Bool

def fields (session : Session) : Fields where
  candidate := session.candidate?
  kind := session.kind?
  rejection := session.rejection
  review := session.review?
  failure := session.failure?
  progress := session.progress
  loading := session.loading
  generation := session.generation
  settled := session.settled

namespace Fields

def fresh : Fields := ⟨none, none, none, none, none, 0, false, 0, false⟩

def beginUpload (fields : Fields) : Fields :=
  { fields with
    generation := fields.generation + 1
    progress := 0
    loading := true
    settled := false
    review := none
    failure := none }

def takeReview (fields : Fields) : Fields := { fields with review := none }

def discard (fields : Fields) : Fields :=
  { fields with
    candidate := none
    kind := none
    review := none
    failure := none
    rejection := none
    progress := 0
    loading := false
    generation := fields.generation + 1
    settled := true }

def select (fields : Fields) (selection : Selection) : Fields :=
  let cleared := if fields.candidate.isSome then fields.discard else fields
  { cleared with
    candidate := some selection.candidate
    kind := some selection.kind
    rejection := none }

def complete (fields : Fields) (review : Review) : Fields :=
  { fields with
    review := some review
    failure := none
    progress := 100
    loading := false
    settled := true }

def fail (fields : Fields) (failure : Upload.Failure) : Fields :=
  { fields with
    review := none
    failure := some failure
    progress := 0
    loading := false
    settled := true }

def refusal? (fields : Fields) (generation : Nat) : Option Applied :=
  if generation ≠ fields.generation then some (.stale generation fields.generation)
  else if fields.settled then some .alreadySettled
  else none

def report (fields : Fields) : Upload.Report → Applied × Fields
  | .progress percent =>
      let shown := min percent 100
      if shown ≤ fields.progress ∧ fields.progress ≠ 0 then (.ignored, fields)
      else (.accepted, { fields with progress := shown })
  | .completed review => (.accepted, fields.complete review)
  | .failed failure => (.accepted, fields.fail failure)

def apply (fields : Fields) : Event → Applied × Fields
  | .select selection => (.accepted, fields.select selection)
  | .clear => (.accepted, fields.discard)
  | .reject rejection => (.accepted, { fields with rejection := some rejection })
  | .upload event =>
      match fields.refusal? event.generation with
      | some applied => (applied, fields)
      | none => fields.report event.report

def act (fields : Fields) : Action → Fields
  | .begin => fields.beginUpload
  | .take => fields.takeReview
  | .apply event => (fields.apply event).2

def run (fields : Fields) (actions : List Action) : Fields := actions.foldl act fields

@[simp] theorem run_nil (fields : Fields) : fields.run [] = fields := rfl

@[simp] theorem run_cons (fields : Fields) (action : Action) (rest : List Action) :
    fields.run (action :: rest) = (fields.act action).run rest := rfl

end Fields

@[simp] theorem fields_fresh : fresh.fields = .fresh := rfl

theorem fields_beginUpload (session : Session) :
    session.beginUpload.fields = session.fields.beginUpload := rfl

theorem fields_discard (session : Session) : session.discard.fields = session.fields.discard := rfl

theorem fields_takeReview (session : Session) :
    session.takeReview.fields = session.fields.takeReview := by
  cases held : session.outcome with
  | none => simp [fields, takeReview, review?, failure?, held, candidate?, kind?, Fields.takeReview]
  | some outcome =>
      cases outcome <;>
        simp [fields, takeReview, review?, failure?, held, candidate?, kind?, Fields.takeReview,
          Option.filter, Outcome.review?, Outcome.failure?]

theorem fields_select (session : Session) (selection : Selection) :
    (session.select selection).fields = session.fields.select selection := by
  cases held : session.selection with
  | none =>
      simp [select_of_none held, fields, Fields.select, candidate?, kind?, review?, failure?, held]
  | some other =>
      simp [select_of_some held, fields, Fields.select, candidate?, kind?, review?, failure?, held,
        discard, Fields.discard]

theorem fields_report (session : Session) (report : Upload.Report) :
    (session.report report).1 = (session.fields.report report).1 ∧
      (session.report report).2.fields = (session.fields.report report).2 := by
  cases report with
  | progress percent =>
      have shown : session.fields.progress = session.progress := rfl
      simp only [Session.report, Fields.report, shown]
      by_cases stays : min percent 100 ≤ session.progress ∧ session.progress ≠ 0
      · simp only [if_pos stays, and_self]
      · simp only [if_neg stays, true_and]
        rfl
  | completed review => exact ⟨rfl, rfl⟩
  | failed failure => exact ⟨rfl, rfl⟩

theorem fields_apply (session : Session) (event : Event) :
    (session.apply event).1 = (session.fields.apply event).1 ∧
      (session.apply event).2.fields = (session.fields.apply event).2 := by
  cases event with
  | select selection => exact ⟨rfl, session.fields_select selection⟩
  | clear => exact ⟨rfl, session.fields_discard⟩
  | reject rejection => exact ⟨rfl, rfl⟩
  | upload event =>
      simp only [apply, Fields.apply]
      have same : session.fields.refusal? event.generation =
          session.refusal? event.generation := rfl
      rw [same]
      cases session.refusal? event.generation with
      | some applied => exact ⟨rfl, rfl⟩
      | none => exact session.fields_report event.report

theorem fields_act (session : Session) (action : Action) :
    (session.act action).fields = session.fields.act action := by
  cases action with
  | begin => exact session.fields_beginUpload
  | take => exact session.fields_takeReview
  | apply event => exact (session.fields_apply event).2

theorem fields_run (session : Session) (actions : List Action) :
    (session.run actions).fields = session.fields.run actions := by
  induction actions generalizing session with
  | nil => rfl
  | cons action rest ih => rw [run_cons, ih, fields_act, Fields.run_cons]

end FormatReview.Session
