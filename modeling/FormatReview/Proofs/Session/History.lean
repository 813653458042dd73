import FormatReview.Proofs.Session.Run

namespace FormatReview

/-! What a session shows follows from its history. Of an upload that nothing has superseded, the
first event that ends it decides the outcome; the events of all other uploads count for nothing. -/

namespace Upload.Report

def review? : Report → Option Review
  | .progress _ => none
  | .completed review => some review
  | .failed _ => none

def failure? : Report → Option Failure
  | .progress _ => none
  | .completed _ => none
  | .failed failure => some failure

def rest : Report → UInt8
  | .progress percent => percent
  | .completed _ => 100
  | .failed _ => 0

end Upload.Report

namespace Session

def Action.ends (generation : Nat) : Action → Bool
  | .apply (.upload event) => event.generation == generation && event.isTerminal
  | _ => false

def Action.foreign (generation : Nat) : Action → Bool
  | .apply (.upload event) => event.generation != generation
  | _ => false

theorem Action.exists_of_ends {generation : Nat} {action : Action}
    (ends : action.ends generation = true) :
    ∃ report, action = .apply (.upload ⟨generation, report⟩) ∧ report.isTerminal = true := by
  cases action with
  | begin => simp [Action.ends] at ends
  | take => simp [Action.ends] at ends
  | apply event =>
      cases event with
      | select selection => simp [Action.ends] at ends
      | clear => simp [Action.ends] at ends
      | reject rejection => simp [Action.ends] at ends
      | upload event =>
          obtain ⟨tag, report⟩ := event
          simp only [Action.ends, Upload.Event.isTerminal, Bool.and_eq_true, beq_iff_eq] at ends
          exact ⟨report, by rw [ends.1], ends.2⟩

theorem Action.exists_of_foreign {generation : Nat} {action : Action}
    (foreign : action.foreign generation = true) :
    ∃ event, action = .apply (.upload event) ∧ event.generation ≠ generation := by
  cases action with
  | begin => simp [Action.foreign] at foreign
  | take => simp [Action.foreign] at foreign
  | apply event =>
      cases event with
      | select selection => simp [Action.foreign] at foreign
      | clear => simp [Action.foreign] at foreign
      | reject rejection => simp [Action.foreign] at foreign
      | upload event => exact ⟨event, rfl, by simpa [Action.foreign] using foreign⟩

structure Waiting (session : Session) : Prop where
  loading : session.loading = true
  unsettled : session.settled = false
  noReview : session.review? = none
  noFailure : session.failure? = none

/-- The upload was ended by `report`. A review that was taken is shown no more. -/
structure Ended (session : Session) (report : Upload.Report) (taken : Bool) : Prop where
  idle : session.loading = false
  settled : session.settled = true
  review : session.review? = if taken then none else report.review?
  failure : session.failure? = report.failure?
  progress : session.progress = report.rest

theorem waiting_beginUpload (session : Session) : session.beginUpload.Waiting :=
  ⟨rfl, rfl, rfl, rfl⟩

@[simp] theorem review?_takeReview (session : Session) : session.takeReview.review? = none := by
  cases held : session.outcome with
  | none => simp [takeReview, review?, held]
  | some outcome => cases outcome <;> simp [takeReview, review?, held, Outcome.review?]

@[simp] theorem failure?_takeReview (session : Session) :
    session.takeReview.failure? = session.failure? := by
  cases held : session.outcome with
  | none => simp [takeReview, failure?, held]
  | some outcome =>
      cases outcome <;>
        simp [takeReview, failure?, held, Option.filter, Outcome.review?, Outcome.failure?]

namespace Waiting

variable {session : Session}

theorem act (waiting : session.Waiting) {action : Action}
    (kept : session.supersedes action = false)
    (silent : action.ends session.generation = false) : (session.act action).Waiting := by
  obtain ⟨loading, unsettled, noReview, noFailure⟩ := waiting
  cases action with
  | begin => simp [supersedes] at kept
  | take => exact ⟨loading, unsettled, by simp [Session.act], by simpa [Session.act]⟩
  | apply event =>
      cases event with
      | select selection =>
          have free : session.selection = none := by simpa [supersedes] using kept
          simp only [Session.act, apply, select_of_none free]
          exact ⟨loading, unsettled, noReview, noFailure⟩
      | clear => simp [supersedes] at kept
      | reject rejection => exact ⟨loading, unsettled, noReview, noFailure⟩
      | upload event =>
          by_cases own : event.generation = session.generation
          · obtain ⟨tag, report⟩ := event
            simp only [Session.act, apply_upload_open _ own unsettled]
            cases report with
            | progress percent =>
                obtain ⟨progress, shown⟩ := session.report_progress_snd percent
                rw [shown]
                exact ⟨loading, unsettled, noReview, noFailure⟩
            | completed review =>
                simp only [Action.ends, Upload.Event.isTerminal, Upload.Report.isTerminal,
                  Bool.and_true, beq_eq_false_iff_ne] at silent
                exact absurd own silent
            | failed failure =>
                simp only [Action.ends, Upload.Event.isTerminal, Upload.Report.isTerminal,
                  Bool.and_true, beq_eq_false_iff_ne] at silent
                exact absurd own silent
          · simp only [Session.act, apply_upload_stale _ own]
            exact ⟨loading, unsettled, noReview, noFailure⟩

theorem run (waiting : session.Waiting) {actions : List Action}
    (undisturbed : session.Undisturbed actions)
    (silent : ∀ action ∈ actions, action.ends session.generation = false) :
    (session.run actions).Waiting := by
  induction actions generalizing session with
  | nil => exact waiting
  | cons action rest ih =>
      obtain ⟨kept, later⟩ := undisturbed
      obtain ⟨head, tail⟩ := List.forall_mem_cons.1 silent
      have same : (session.act action).generation = session.generation := by
        rw [generation_act, kept]
        rfl
      exact ih (waiting.act kept head) later (same ▸ tail)

theorem ended (waiting : session.Waiting) {report : Upload.Report}
    (terminal : report.isTerminal = true) :
    (session.act (.apply (.upload ⟨session.generation, report⟩))).Ended report false := by
  simp only [Session.act, apply_upload_open ⟨session.generation, report⟩ rfl
    waiting.unsettled]
  cases report with
  | progress percent => simp [Upload.Report.isTerminal] at terminal
  | completed review => exact ⟨rfl, rfl, rfl, rfl, rfl⟩
  | failed failure => exact ⟨rfl, rfl, rfl, rfl, rfl⟩

end Waiting

namespace Ended

variable {session : Session} {report : Upload.Report} {taken : Bool}

theorem act (ended : session.Ended report taken) {action : Action}
    (kept : session.supersedes action = false) :
    (session.act action).Ended report (taken || action == .take) := by
  obtain ⟨idle, settled, review, failure, progress⟩ := ended
  cases action with
  | begin => simp [supersedes] at kept
  | take => exact ⟨idle, settled, by simp [Session.act], by simpa [Session.act], progress⟩
  | apply event =>
      have same : (taken || Action.apply event == .take) = taken := by simp
      rw [same]
      cases event with
      | select selection =>
          have free : session.selection = none := by simpa [supersedes] using kept
          simp only [Session.act, apply, select_of_none free]
          exact ⟨idle, settled, review, failure, progress⟩
      | clear => simp [supersedes] at kept
      | reject rejection => exact ⟨idle, settled, review, failure, progress⟩
      | upload event =>
          have unchanged : (session.apply (.upload event)).2 = session := by
            by_cases own : event.generation = session.generation
            · rw [apply_upload_settled _ own settled]
            · rw [apply_upload_stale _ own]
          simp only [Session.act, unchanged]
          exact ⟨idle, settled, review, failure, progress⟩

theorem run (ended : session.Ended report taken) {actions : List Action}
    (undisturbed : session.Undisturbed actions) :
    (session.run actions).Ended report (taken || actions.contains .take) := by
  induction actions generalizing session taken with
  | nil => simpa using ended
  | cons action rest ih =>
      obtain ⟨kept, later⟩ := undisturbed
      have tail := ih (ended.act kept) later
      rw [List.contains_cons, Bool.beq_comm, ← Bool.or_assoc]
      exact tail

end Ended

/-- Events of other uploads can be left out of a run. -/
theorem run_filter_foreign {session : Session} {actions : List Action}
    (undisturbed : session.Undisturbed actions) :
    session.run (actions.filter fun action => !action.foreign session.generation) =
      session.run actions := by
  induction actions generalizing session with
  | nil => rfl
  | cons action rest ih =>
      obtain ⟨kept, later⟩ := undisturbed
      have same : (session.act action).generation = session.generation := by
        rw [generation_act, kept]
        rfl
      have tail := ih later
      rw [same] at tail
      cases foreign : action.foreign session.generation with
      | false => simpa [foreign] using tail
      | true =>
          obtain ⟨event, rfl, other⟩ := Action.exists_of_foreign foreign
          have unchanged : session.act (.apply (.upload event)) = session := by
            simp only [act, apply_upload_stale _ other]
          rw [unchanged] at tail
          simpa [foreign, unchanged] using tail

theorem Waiting.decided {session : Session} (waiting : session.Waiting) {actions : List Action}
    (undisturbed : session.Undisturbed actions) :
    (session.run actions).Waiting ∧
        (∀ action ∈ actions, action.ends session.generation = false) ∨
      ∃ early report late,
        actions = early ++ .apply (.upload ⟨session.generation, report⟩) :: late ∧
        (∀ action ∈ early, action.ends session.generation = false) ∧
        report.isTerminal = true ∧
        (session.run actions).Ended report (late.contains .take) := by
  cases first : actions.find? (·.ends session.generation) with
  | none =>
      have silent : ∀ action ∈ actions, action.ends session.generation = false := by
        simpa using List.find?_eq_none.1 first
      exact .inl ⟨waiting.run undisturbed silent, silent⟩
  | some action =>
      obtain ⟨ends, early, late, rfl, silent⟩ := List.find?_eq_some_iff_append.1 first
      obtain ⟨report, rfl, terminal⟩ := Action.exists_of_ends ends
      replace silent : ∀ action ∈ early, action.ends session.generation = false := by
        simpa using silent
      obtain ⟨before, kept, after⟩ := (undisturbed_append ..).1 undisturbed
      have arrived := (waiting.run before silent).ended terminal
      rw [generation_run_of_undisturbed before] at arrived
      refine .inr ⟨early, report, late, rfl, silent, terminal, ?_⟩
      simpa using arrived.run after

/-- A superseded upload is over for good: whatever happens later, its events change nothing. -/
theorem apply_superseded {session : Session} {action : Action}
    (superseded : session.supersedes action = true) (later : List Action)
    (report : Upload.Report) :
    ((session.act action).run later).apply (.upload ⟨session.generation, report⟩) =
      (.stale session.generation ((session.act action).run later).generation,
        (session.act action).run later) := by
  have step : (session.act action).generation = session.generation + 1 := by
    rw [generation_act, superseded]
    rfl
  have grown := (session.act action).generation_le_run later
  exact apply_upload_stale ⟨session.generation, report⟩ (by simp only; omega)

/-- The history of an upload that nothing has superseded so far. Until an event of its own ends it,
it is under way; the first such event decides the outcome, up to the taking of its review. Events of
other uploads have no part in this, at no time. After a superseding action the upload has none. -/
theorem outcome_of_history (before since : List Action)
    (undisturbed : (fresh.run before).beginUpload.Undisturbed since) :
    let begun := (fresh.run before).beginUpload
    let now := begun.run since
    (now.Waiting ∧ (∀ action ∈ since, action.ends begun.generation = false) ∨
      ∃ early report late,
        since = early ++ .apply (.upload ⟨begun.generation, report⟩) :: late ∧
        (∀ action ∈ early, action.ends begun.generation = false) ∧
        report.isTerminal = true ∧
        now.Ended report (late.contains .take)) ∧
    begun.run (since.filter fun action => !action.foreign begun.generation) = now ∧
    (∀ event : Upload.Event, event.generation ≠ begun.generation →
      now.apply (.upload event) = (.stale event.generation begun.generation, now)) ∧
    ∀ action, now.supersedes action = true → ∀ later report,
      let after := (now.act action).run later
      after.apply (.upload ⟨begun.generation, report⟩) =
        (.stale begun.generation after.generation, after) := by
  intro begun now
  have same : now.generation = begun.generation := generation_run_of_undisturbed undisturbed
  refine ⟨(waiting_beginUpload _).decided undisturbed, run_filter_foreign undisturbed, ?_, ?_⟩
  · intro event other
    rw [← same] at other ⊢
    exact apply_upload_stale _ other
  · intro action superseded later report
    have refused := apply_superseded superseded later report
    rw [same] at refused
    exact refused

/-- The failure of the first upload comes too late, and the second upload's review is taken. -/
theorem outcome_of_history_overtaken :
    let begun := (fresh.run [.begin]).beginUpload
    let since : List Action :=
      [.apply (.upload ⟨1, .failed (.malformed "late")⟩),
        .apply (.upload ⟨2, .completed (.ofFindings [])⟩), .take]
    begun.Undisturbed since ∧ (begun.run since).Ended (.completed (.ofFindings [])) true := by
  intro begun since
  have undisturbed : begun.Undisturbed since := ⟨rfl, rfl, rfl, trivial⟩
  refine ⟨undisturbed, ?_⟩
  rcases (outcome_of_history [.begin] since undisturbed).1 with
    ⟨-, silent⟩ | ⟨early, report, late, split, silent, terminal, ended⟩
  · exact absurd (silent (.apply (.upload ⟨2, .completed (.ofFindings [])⟩)) (by decide)) (by decide)
  · match early, split with
    | [], split => simp [since, beginUpload, act, fresh] at split
    | [_], split =>
        obtain ⟨same, rfl⟩ := List.cons.inj (List.cons.inj split).2
        simp only [Action.apply.injEq, Event.upload.injEq, Upload.Event.mk.injEq] at same
        rw [same.2]
        exact ended
    | [_, _], split => simp [since] at split
    | _ :: _ :: _ :: _, split => simp [since] at split

end Session

end FormatReview
