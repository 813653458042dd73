import FormatReview.Proofs.Client.Outcome
import FormatReview.Proofs.Client.Provenance
import FormatReview.Proofs.Client.Reads

namespace FormatReview

/-! Selecting a file, also while uploads are under way. What cannot be selected is told and changes
nothing else; what is selected starts afresh, and no upload from before counts any more. -/

namespace Session

def withRejection (session : Session) (rejection : Option Rejection) : Session :=
  { session with rejection := rejection }

@[simp] theorem withRejection_withRejection (session : Session)
    (rejection other : Option Rejection) :
    (session.withRejection rejection).withRejection other = session.withRejection other := rfl

theorem report_withRejection (session : Session) (rejection : Option Rejection)
    (report : Upload.Report) :
    (session.withRejection rejection).report report =
      ((session.report report).1, (session.report report).2.withRejection rejection) := by
  cases report with
  | progress percent =>
      have shown : (session.withRejection rejection).progress = session.progress := rfl
      simp only [Session.report, shown]
      by_cases stays : min percent 100 ≤ session.progress ∧ session.progress ≠ 0
      · rw [if_pos stays, if_pos stays]
      · rw [if_neg stays, if_neg stays]
        rfl
  | completed review => rfl
  | failed failure => rfl

theorem apply_upload_withRejection (session : Session) (rejection : Option Rejection)
    (event : Upload.Event) :
    (session.withRejection rejection).apply (.upload event) =
      ((session.apply (.upload event)).1,
        (session.apply (.upload event)).2.withRejection rejection) := by
  have same : (session.withRejection rejection).refusal? event.generation =
      session.refusal? event.generation := rfl
  simp only [apply, same]
  cases session.refusal? event.generation with
  | some applied => rfl
  | none => exact session.report_withRejection rejection event.report

/-- Whichever rejection was shown before, a selection shows none. -/
theorem select_withRejection (session : Session) (rejection : Option Rejection)
    (selection : Selection) :
    (session.withRejection rejection).select selection = session.select selection := by
  cases held : session.selection with
  | none =>
      have free : (session.withRejection rejection).selection = none := held
      rw [select_of_none held, select_of_none free]
      rfl
  | some other =>
      have taken : (session.withRejection rejection).selection = some other := held
      rw [select_of_some held, select_of_some taken]
      rfl

end Session

namespace Client

/-- The client after some actions, one after the other. -/
def after (client : Client) (actions : List Action) : Client :=
  actions.foldl (fun client action => (client.perform action).2) client

@[simp] theorem after_nil (client : Client) : client.after [] = client := rfl

@[simp] theorem after_cons (client : Client) (action : Action) (rest : List Action) :
    client.after (action :: rest) = (client.perform action).2.after rest := rfl

/-! The rejection is only shown: nothing that a client does depends on it. -/

def withRejection (client : Client) (rejection : Option Rejection) : Client :=
  { client with session := client.session.withRejection rejection }

theorem handle_withRejection (client : Client) (rejection : Option Rejection)
    (event : Upload.Event) :
    (client.withRejection rejection).handle event =
      ((client.handle event).1, (client.handle event).2.withRejection rejection) := by
  simp only [handle, withRejection, Session.apply_upload_withRejection]

theorem selectCandidate_withRejection (client : Client) (rejection : Option Rejection)
    (candidate : Candidate) :
    (client.withRejection rejection).selectCandidate candidate =
      client.selectCandidate candidate := by
  simp only [selectCandidate, withRejection]
  cases Intake.accept candidate client.settings.accept client.settings.limit with
  | ok kind => simp only [Session.apply, Session.select_withRejection]
  | error refused => rfl

theorem startUpload_withRejection (client : Client) (rejection : Option Rejection)
    (storage : Storage) (service : Upload.Service) :
    (client.withRejection rejection).startUpload storage service =
      ((client.startUpload storage service).1,
        (client.startUpload storage service).2.withRejection rejection) := by
  have same : (client.withRejection rejection).session.selection = client.session.selection := rfl
  simp only [startUpload, same]
  cases client.session.selection <;> rfl

/-- The same comes of an action, up to the rejection that is shown behind it. -/
theorem perform_withRejection (client : Client) (rejection : Option Rejection) (action : Action) :
    ∃ later, (client.withRejection rejection).perform action =
      ((client.perform action).1, (client.perform action).2.withRejection later) := by
  cases action with
  | select storage path =>
      cases found : inspect storage path with
      | error fault => exact ⟨rejection, by simp only [perform, select, found, ofSelection]⟩
      | ok candidate =>
          refine ⟨(client.perform (.select storage path)).2.session.rejection, ?_⟩
          simp only [perform, select, found, selectCandidate_withRejection]
          rfl
  | selectCandidate candidate =>
      refine ⟨(client.perform (.selectCandidate candidate)).2.session.rejection, ?_⟩
      simp only [perform, selectCandidate_withRejection]
      rfl
  | remove => exact ⟨none, rfl⟩
  | startUpload storage service =>
      refine ⟨rejection, ?_⟩
      simp only [perform, startUpload_withRejection]
      cases client.startUpload storage service with
      | mk answer next => cases answer <;> rfl
  | handle event => exact ⟨rejection, by simp only [perform, handle_withRejection]⟩

theorem after_withRejection (client : Client) (rejection : Option Rejection)
    (actions : List Action) :
    ∃ later, (client.withRejection rejection).after actions =
      (client.after actions).withRejection later := by
  induction actions generalizing client rejection with
  | nil => exact ⟨rejection, rfl⟩
  | cons action rest ih =>
      obtain ⟨between, performed⟩ := client.perform_withRejection rejection action
      rw [after_cons, after_cons, performed]
      exact ih _ between

/-! Generations only grow, so an event of an earlier one is stale for good. -/

theorem generation_le_perform (client : Client) (action : Action) :
    client.session.generation ≤ (client.perform action).2.session.generation := by
  have step := client.transition_perform action
  generalize (client.perform action).1 = happening at step
  generalize (client.perform action).2 = next at step ⊢
  cases step with
  | selected selection => exact client.session.generation_le_act (.apply (.select selection))
  | refused fault rejection => exact Nat.le_refl _
  | removed => exact client.session.generation_le_act (.apply .clear)
  | started storage service selection held => exact client.session.generation_le_act .begin
  | handled event => exact client.session.generation_le_act (.apply (.upload event))

theorem generation_le_after (client : Client) (actions : List Action) :
    client.session.generation ≤ (client.after actions).session.generation := by
  induction actions generalizing client with
  | nil => exact Nat.le_refl _
  | cons action rest ih =>
      exact Nat.le_trans (client.generation_le_perform action) (ih (client.perform action).2)

theorem handle_of_lt {client : Client} {event : Upload.Event}
    (early : event.generation < client.session.generation) :
    client.handle event = (.stale event.generation client.session.generation, client) := by
  rw [handle, Session.apply_upload_stale event (Nat.ne_of_lt early)]

variable {settings : Settings} {log : List Happening} {client next : Client}
  {candidate : Candidate} {kind : DocumentKind}

/-- An event of an upload from before counts for nothing, whatever is done next. -/
def Deaf (log : List Happening) (client : Client) : Prop :=
  ∀ run, .started run ∈ log → ∀ event ∈ run.events, ∀ actions,
    let late := client.after actions
    late.handle event = (.stale event.generation late.session.generation, late)

theorem deaf_of_lt (early : ∀ run, .started run ∈ log → ∀ event ∈ run.events,
    event.generation < client.session.generation) : Deaf log client := by
  intro run member event of actions late
  exact handle_of_lt (Nat.lt_of_lt_of_le (early run member event of)
    (client.generation_le_after actions))

/-! A client without a selection. -/

/-- Nothing is shown and nothing is under way. -/
structure Blank (session : Session) : Prop where
  outcome : session.outcome = none
  progress : session.progress = 0
  idle : session.loading = false

/-- While no selection is held, no upload is of the current generation. -/
theorem Reached.early_of_free (reached : Reached settings log client)
    (free : client.session.selection = none) {run : Upload.Run} (member : .started run ∈ log)
    {event : Upload.Event} (of : event ∈ run.events) :
    event.generation < client.session.generation := by
  have accounted := reached.accounted
  refine Nat.lt_of_le_of_ne (accounted.begun run member event of) fun current => ?_
  obtain ⟨selection, after, latest⟩ := accounted.current run member event of current
  exact absurd (latest.held.symm.trans free) (by simp)

theorem Reached.blank_of_free (reached : Reached settings log client)
    (free : client.session.selection = none) : Blank client.session := by
  induction reached with
  | start => exact ⟨rfl, rfl, rfl⟩
  | @perform log client earlier action own ih =>
      have step := client.transition_perform action
      generalize (client.perform action).1 = happening at step
      generalize (client.perform action).2 = next at step free ⊢
      cases step with
      | selected selection =>
          have impossible : some selection = none := free
          cases impossible
      | refused fault rejection => exact ⟨(ih free).outcome, (ih free).progress, (ih free).idle⟩
      | removed => exact ⟨rfl, rfl, rfl⟩
      | started storage service selection held => exact absurd (held.symm.trans free) (by simp)
      | handled event =>
          rw [Session.selection_apply_upload] at free
          obtain ⟨run, member, of⟩ := own event rfl
          have early := earlier.early_of_free free member of
          rw [Session.apply_upload_stale event (Nat.ne_of_lt early)]
          exact ih free

/-! What a selection comes to. -/

/-- Only the rejection is new. Whatever is done next comes to the same, up to the rejection that is
shown, and every event is answered as it would have been. -/
structure OnlyRejected (client : Client) (rejection : Rejection) (next : Client) : Prop where
  changed : next = client.withRejection (some rejection)
  alike : ∀ actions, ∃ later, next.after actions = (client.after actions).withRejection later
  answered : ∀ actions event,
    ((next.after actions).handle event).1 = ((client.after actions).handle event).1

/-- The new selection is held, and nothing is shown or under way that came before it. -/
structure Renewed (log : List Happening) (candidate : Candidate) (kind : DocumentKind)
    (next : Client) : Prop where
  candidate : next.session.candidate? = some candidate
  kind : next.session.kind? = some kind
  unrejected : next.session.rejection = none
  noReview : next.session.review? = none
  noFailure : next.session.failure? = none
  progress : next.session.progress = 0
  idle : next.session.loading = false
  deaf : Deaf log next

theorem onlyRejected_withRejection (client : Client) (rejection : Rejection) :
    OnlyRejected client rejection (client.withRejection (some rejection)) where
  changed := rfl
  alike := client.after_withRejection (some rejection)
  answered actions event := by
    obtain ⟨later, same⟩ := client.after_withRejection (some rejection) actions
    rw [same, handle_withRejection]

theorem selectCandidate_error {fault : Fault}
    (refused : client.selectCandidate candidate = (.error fault, next)) :
    ∃ rejection, fault = .intakeRejected rejection ∧ OnlyRejected client rejection next := by
  rw [selectCandidate] at refused
  cases verdict : Intake.accept candidate client.settings.accept client.settings.limit with
  | ok kind =>
      rw [verdict] at refused
      cases refused
  | error rejection =>
      rw [verdict] at refused
      obtain ⟨answer, rfl⟩ := Prod.mk.inj refused
      exact ⟨rejection, (Except.error.inj answer).symm, client.onlyRejected_withRejection rejection⟩

theorem selectCandidate_eq_ok (selected : client.selectCandidate candidate = (.ok kind, next)) :
    next = { client with session := client.session.select ⟨candidate, kind⟩ } := by
  rw [selectCandidate] at selected
  cases verdict : Intake.accept candidate client.settings.accept client.settings.limit with
  | error rejection =>
      rw [verdict] at selected
      cases selected
  | ok accepted =>
      rw [verdict] at selected
      obtain ⟨answer, rfl⟩ := Prod.mk.inj selected
      obtain rfl := Except.ok.inj answer
      rfl

theorem Reached.renewed (reached : Reached settings log client) (candidate : Candidate)
    (kind : DocumentKind) :
    Renewed log candidate kind
      { client with session := client.session.select ⟨candidate, kind⟩ } := by
  cases held : client.session.selection with
  | some old =>
      -- The selection before is dropped, and with it the generation of its uploads.
      rw [Session.select_of_some held]
      refine ⟨rfl, rfl, rfl, rfl, rfl, rfl, rfl, deaf_of_lt fun run member event of => ?_⟩
      exact Nat.lt_succ_of_le (reached.accounted.begun run member event of)
  | none =>
      have blank := reached.blank_of_free held
      have noReview : client.session.review? = none := by
        rw [Session.review?, blank.outcome]
        rfl
      have noFailure : client.session.failure? = none := by
        rw [Session.failure?, blank.outcome]
        rfl
      rw [Session.select_of_none held]
      exact ⟨rfl, rfl, rfl, noReview, noFailure, blank.progress, blank.idle,
        deaf_of_lt fun run member event of => reached.early_of_free held member of⟩

/-- What comes of selecting a file or a candidate, at any time of any run. A file that is not there,
or may not be seen, changes nothing; one that the gate rejects only leaves its rejection; one that
is taken is shown alone. An upload is only refused where nothing is selected, and that changes
nothing. -/
theorem selection_without_side_effects (reached : Reached settings log client) :
    (∀ storage path fault next, client.select storage path = (.error fault, next) →
      (fault = .fileNotFound path ∨ fault = .permissionDenied path) ∧ next = client ∨
        ∃ rejection, fault = .intakeRejected rejection ∧ OnlyRejected client rejection next) ∧
    (∀ candidate fault next, client.selectCandidate candidate = (.error fault, next) →
      ∃ rejection, fault = .intakeRejected rejection ∧ OnlyRejected client rejection next) ∧
    (∀ storage path kind next, client.select storage path = (.ok kind, next) →
      ∃ candidate, inspect storage path = .ok candidate ∧ Renewed log candidate kind next) ∧
    (∀ candidate kind next, client.selectCandidate candidate = (.ok kind, next) →
      Renewed log candidate kind next) ∧
    ∀ storage service,
      ((∃ wish, (client.startUpload storage service).1 = .error (.notReady wish)) ↔
        client.session.candidate? = none) ∧
      (client.session.candidate? = none →
        client.startUpload storage service = (.error (.notReady .upload), client)) := by
  refine ⟨?unselected, fun _ _ _ => selectCandidate_error, ?selected, ?taken, ?unready⟩
  case unselected =>
    intro storage path fault next refused
    cases found : inspect storage path with
    | error unseen =>
        rw [select, found] at refused
        obtain ⟨answer, rfl⟩ := Prod.mk.inj refused
        obtain rfl := Except.error.inj answer
        exact .inl ⟨inspect_error found, rfl⟩
    | ok candidate =>
        rw [select, found] at refused
        exact .inr (selectCandidate_error refused)
  case selected =>
    intro storage path kind next selected
    obtain ⟨candidate, found, -, rfl⟩ := select_eq_ok selected
    exact ⟨candidate, found, reached.renewed candidate kind⟩
  case taken =>
    intro candidate kind next selected
    obtain rfl := selectCandidate_eq_ok selected
    exact reached.renewed candidate kind
  case unready =>
    intro storage service
    cases held : client.session.selection with
    | none => simp [startUpload, held, Session.candidate?]
    | some selection => simp [startUpload, held, Session.candidate?]

/-- While a file is being uploaded, one is tried in a closed folder, then one that is too large, and
then the same file is selected again. -/
theorem selection_amid_upload :
    let candidate : Candidate := ⟨"a.tex", "text/x-tex", 2, "tex", "/a.tex"⟩
    let large : Candidate := { candidate with size := Settings.standardLimit }
    let closed : Storage := { home := [], entries := [(["k"], .closed)] }
    ∃ log client, Reached .standard log client ∧ client.session.loading = true ∧
      client.select closed "/k/a.tex" = (.error (.permissionDenied "/k/a.tex"), client) ∧
      OnlyRejected client (.tooLarge "a.tex" Settings.standardLimit Settings.standardLimit)
        (client.selectCandidate large).2 ∧
      Renewed log candidate .latex (client.selectCandidate candidate).2 := by
  intro candidate large closed
  let run : Upload.Run :=
    Upload.run .standard candidate .latex 1 closed fun _ => ⟨0, .unanswered, []⟩
  let selected : Session := Session.fresh.select ⟨candidate, .latex⟩
  let client : Client := ⟨.standard, selected.beginUpload⟩
  have told : candidate.kind? = some .latex := by cbv
  have toldLarge : large.kind? = some .latex := told
  have accepted : Intake.accept candidate .both Settings.standardLimit = .ok .latex := by
    rw [Intake.accept, told]
    rfl
  have rejected : Intake.accept large .both Settings.standardLimit =
      .error (.tooLarge "a.tex" Settings.standardLimit Settings.standardLimit) := by
    rw [Intake.accept, toldLarge]
    rfl
  have denied : closed.look (Path.ofText "/k/a.tex") = .error .denied := by cbv
  have holding :
      Reached .standard [.selected (some ⟨candidate, .latex⟩)] ⟨.standard, selected⟩ := by
    refine Reached.start.next (.selectCandidate candidate) _ ?_ (by simp)
    simp only [perform, selectCandidate, start, Settings.standard, accepted, ofSelection,
      Session.apply]
    rfl
  have reached : Reached .standard
      ([.selected (some ⟨candidate, .latex⟩)] ++ [.started run]) client :=
    holding.next (.startUpload closed fun _ => ⟨0, .unanswered, []⟩) (.started run) rfl (by simp)
  obtain ⟨unselected, refused, -, taken, -⟩ := selection_without_side_effects reached
  have unseen : client.select closed "/k/a.tex" =
      (.error (.permissionDenied "/k/a.tex"), (client.select closed "/k/a.tex").2) := by
    simp only [select, inspect, denied]
  have tooLarge : client.selectCandidate large =
      (.error (.intakeRejected (.tooLarge "a.tex" Settings.standardLimit Settings.standardLimit)),
        (client.selectCandidate large).2) := by
    simp only [selectCandidate, client, Settings.standard, rejected]
  have again : client.selectCandidate candidate =
      (.ok .latex, (client.selectCandidate candidate).2) := by
    simp only [selectCandidate, client, Settings.standard, accepted]
  refine ⟨_, client, reached, rfl, ?_, ?_, taken _ _ _ again⟩
  · rcases unselected _ _ _ _ unseen with ⟨-, same⟩ | ⟨rejection, impossible, -⟩
    · rw [same] at unseen
      exact unseen
    · cases impossible
  · obtain ⟨rejection, same, only⟩ := refused _ _ _ tooLarge
    obtain rfl := Fault.intakeRejected.inj same
    exact only

end Client

end FormatReview
