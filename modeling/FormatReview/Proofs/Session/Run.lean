import FormatReview.Session

namespace FormatReview

/-! Runs of a session: uploads are begun, reviews taken and events applied, in any order. -/

def Upload.Report.outcome? : Upload.Report → Option Outcome
  | .progress _ => none
  | .completed review => some (.review review)
  | .failed failure => some (.failure failure)

inductive Session.Action where
  | begin
  | take
  | apply (event : Event)
  deriving DecidableEq

namespace Session

def act (session : Session) : Action → Session
  | .begin => session.beginUpload
  | .take => session.takeReview
  | .apply event => (session.apply event).2

def run (session : Session) (actions : List Action) : Session := actions.foldl act session

@[simp] theorem run_nil (session : Session) : session.run [] = session := rfl

@[simp] theorem run_cons (session : Session) (action : Action) (rest : List Action) :
    session.run (action :: rest) = (session.act action).run rest := rfl

@[simp] theorem run_append (session : Session) (before after : List Action) :
    session.run (before ++ after) = (session.run before).run after :=
  List.foldl_append

/-- Whether an action ends the upload under way: it begins another one, or drops the selection that
was uploaded. A selection drops the one before, if there is one. -/
def supersedes (session : Session) : Action → Bool
  | .begin => true
  | .take => false
  | .apply (.select _) => session.selection.isSome
  | .apply .clear => true
  | .apply (.reject _) => false
  | .apply (.upload _) => false

/-- None of the actions, in their order, ends the upload under way. -/
def Undisturbed (session : Session) : List Action → Prop
  | [] => True
  | action :: rest => session.supersedes action = false ∧ (session.act action).Undisturbed rest

@[simp] theorem undisturbed_nil (session : Session) : session.Undisturbed [] := trivial

@[simp] theorem undisturbed_cons (session : Session) (action : Action) (rest : List Action) :
    session.Undisturbed (action :: rest) ↔
      session.supersedes action = false ∧ (session.act action).Undisturbed rest :=
  Iff.rfl

theorem undisturbed_append (session : Session) (before after : List Action) :
    session.Undisturbed (before ++ after) ↔
      session.Undisturbed before ∧ (session.run before).Undisturbed after := by
  induction before generalizing session with
  | nil => simp
  | cons action rest ih => simp [ih, and_assoc]

theorem select_of_none {session : Session} (free : session.selection = none)
    (selection : Selection) :
    session.select selection =
      { session with selection := some selection, rejection := none } := by
  simp [select, free]

theorem select_of_some {session : Session} {held : Selection}
    (taken : session.selection = some held) (selection : Selection) :
    session.select selection = { session.discard with selection := some selection } := by
  simp [select, taken, discard]

/-! What one event of an upload does. -/

theorem apply_upload_stale {session : Session} (event : Upload.Event)
    (foreign : event.generation ≠ session.generation) :
    session.apply (.upload event) = (.stale event.generation session.generation, session) := by
  simp [apply, refusal?, foreign]

theorem apply_upload_settled {session : Session} (event : Upload.Event)
    (own : event.generation = session.generation) (settled : session.settled = true) :
    session.apply (.upload event) = (.alreadySettled, session) := by
  simp [apply, refusal?, own, settled]

theorem apply_upload_open {session : Session} (event : Upload.Event)
    (own : event.generation = session.generation) (unsettled : session.settled = false) :
    session.apply (.upload event) = session.report event.report := by
  simp [apply, refusal?, own, unsettled]

theorem report_progress_snd (session : Session) (percent : UInt8) :
    ∃ progress, (session.report (.progress percent)).2 = { session with progress := progress } := by
  simp only [report]
  split
  · exact ⟨session.progress, rfl⟩
  · exact ⟨min percent 100, rfl⟩

theorem generation_report (session : Session) (report : Upload.Report) :
    (session.report report).2.generation = session.generation := by
  cases report with
  | progress percent =>
      obtain ⟨progress, shown⟩ := session.report_progress_snd percent
      rw [shown]
  | completed review => rfl
  | failed failure => rfl

theorem generation_apply_upload (session : Session) (event : Upload.Event) :
    (session.apply (.upload event)).2.generation = session.generation := by
  by_cases own : event.generation = session.generation
  · cases settled : session.settled with
    | true => rw [apply_upload_settled event own settled]
    | false => rw [apply_upload_open event own settled, generation_report]
  · rw [apply_upload_stale event own]

theorem selection_report (session : Session) (report : Upload.Report) :
    (session.report report).2.selection = session.selection := by
  cases report with
  | progress percent =>
      obtain ⟨progress, shown⟩ := session.report_progress_snd percent
      rw [shown]
  | completed review => rfl
  | failed failure => rfl

theorem selection_apply_upload (session : Session) (event : Upload.Event) :
    (session.apply (.upload event)).2.selection = session.selection := by
  by_cases own : event.generation = session.generation
  · cases settled : session.settled with
    | true => rw [apply_upload_settled event own settled]
    | false => rw [apply_upload_open event own settled, selection_report]
  · rw [apply_upload_stale event own]

/-- Only an event that ends the upload under way changes the outcome, to the one that it brings. -/
theorem outcome_apply_upload (session : Session) (event : Upload.Event) :
    (session.apply (.upload event)).2.outcome = session.outcome ∨
      event.generation = session.generation ∧ event.isTerminal = true ∧
        (session.apply (.upload event)).2.outcome = event.report.outcome? := by
  by_cases own : event.generation = session.generation
  · cases settled : session.settled with
    | true => exact .inl (by rw [apply_upload_settled event own settled])
    | false =>
        obtain ⟨tag, report⟩ := event
        rw [apply_upload_open _ own settled]
        cases report with
        | progress percent =>
            obtain ⟨progress, shown⟩ := session.report_progress_snd percent
            exact .inl (by rw [shown])
        | completed review => exact .inr ⟨own, rfl, rfl⟩
        | failed failure => exact .inr ⟨own, rfl, rfl⟩
  · exact .inl (by rw [apply_upload_stale event own])

/-! Generations are counted upwards. A run of `n` actions counts no further than `n`, so that a
counter of 64 bits does as well for all runs of less than `2 ^ 64` steps. -/

theorem generation_act (session : Session) (action : Action) :
    (session.act action).generation =
      if session.supersedes action then session.generation + 1 else session.generation := by
  cases action with
  | begin => rfl
  | take => rfl
  | apply event =>
      cases event with
      | select selection =>
          cases held : session.selection.isSome <;>
            simp [act, apply, select, supersedes, discard, held]
      | clear => rfl
      | reject rejection => rfl
      | upload event => simp [act, supersedes, generation_apply_upload]

theorem generation_le_act (session : Session) (action : Action) :
    session.generation ≤ (session.act action).generation := by
  rw [generation_act]
  split <;> omega

theorem generation_le_run (session : Session) (actions : List Action) :
    session.generation ≤ (session.run actions).generation := by
  induction actions generalizing session with
  | nil => exact Nat.le_refl _
  | cons action rest ih =>
      exact Nat.le_trans (session.generation_le_act action) (ih (session.act action))

theorem generation_run_of_undisturbed {session : Session} {actions : List Action}
    (undisturbed : session.Undisturbed actions) :
    (session.run actions).generation = session.generation := by
  induction actions generalizing session with
  | nil => rfl
  | cons action rest ih =>
      obtain ⟨kept, later⟩ := undisturbed
      have step := session.generation_act action
      rw [kept] at step
      exact (ih later).trans step

end Session

end FormatReview
