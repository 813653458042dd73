import Mathlib
import FormatReview.Client
import FormatReview.Proofs.Session.History
import FormatReview.Proofs.Upload.Protocol

namespace FormatReview

/-! What a whole upload brings. Its events settle the session with its last report, and that report
is what the client answers. -/

/-- What a client answers to a shown report. -/
def Upload.Report.answer : Upload.Report → Except Fault Review
  | .progress _ => .error (.notReady .showing)
  | .completed review => .ok review
  | .failed failure => .error failure.toFault

namespace Upload.Report

variable {report : Report}

theorem answer_ok_iff {review : Review} :
    report.answer = .ok review ↔ report = .completed review := by
  cases report with
  | progress percent => simp [answer]
  | completed found => simp [answer]
  | failed failure => simp [answer]

theorem answer_malformed_iff {detail : String} :
    report.answer = .error (.malformedResponse detail) ↔ report = .failed (.malformed detail) := by
  cases report with
  | progress percent => simp [answer]
  | completed found => simp [answer]
  | failed failure => cases failure <;> simp [answer, Failure.toFault]

theorem answer_rejected_iff {rejection : Rejection} :
    report.answer = .error (.intakeRejected rejection) ↔ report = .failed (.refused rejection) := by
  cases report with
  | progress percent => simp [answer]
  | completed found => simp [answer]
  | failed failure => cases failure <;> simp [answer, Failure.toFault]

end Upload.Report

namespace Session

variable {session : Session}

theorem applyAll_snd (session : Session) (events : List Event) :
    (session.applyAll events).2 = session.run (events.map .apply) := by
  induction events generalizing session with
  | nil => rfl
  | cons event rest ih => simp [ih, act]

theorem undisturbed_uploads (session : Session) (events : List Upload.Event) :
    session.Undisturbed (events.map fun event => .apply (.upload event)) := by
  induction events generalizing session with
  | nil => trivial
  | cons event rest ih => exact ⟨rfl, ih _⟩

/-- Percentages leave an upload under way, and the report behind them ends it. -/
theorem Waiting.applyAll_ended (waiting : session.Waiting) {events : List Upload.Event}
    {percents : List UInt8} {report : Upload.Report} (terminal : report.isTerminal = true)
    (listed : events = percents.map (fun percent => ⟨session.generation, .progress percent⟩) ++
      [⟨session.generation, report⟩]) :
    (session.applyAll (events.map .upload)).2.Ended report false := by
  let told : List Upload.Event :=
    percents.map fun percent => ⟨session.generation, .progress percent⟩
  have undisturbed := session.undisturbed_uploads told
  have silent : ∀ action ∈ told.map fun event => Action.apply (.upload event),
      action.ends session.generation = false := by
    intro action member
    obtain ⟨event, told, rfl⟩ := List.mem_map.1 member
    obtain ⟨percent, -, rfl⟩ := List.mem_map.1 told
    simp [Action.ends, Upload.Event.isTerminal, Upload.Report.isTerminal]
  have arrived := (waiting.run undisturbed silent).ended terminal
  rw [generation_run_of_undisturbed undisturbed] at arrived
  rw [applyAll_snd, listed, List.map_map, List.map_append, run_append]
  exact arrived

end Session

namespace Client

theorem outcome_eq (client : Client) :
    client.outcome =
      match client.session.failure?, client.session.review? with
      | some failure, _ => .error failure.toFault
      | none, some review => .ok review
      | none, none => .error (.notReady .showing) := by
  simp only [outcome, Session.failure?, Session.review?]
  cases client.session.outcome with
  | none => rfl
  | some outcome =>
      cases outcome with
      | review found => rfl
      | failure reason => rfl

theorem outcome_of_ended {client : Client} {report : Upload.Report}
    (ended : client.session.Ended report false) : client.outcome = report.answer := by
  rw [outcome_eq, ended.failure, ended.review]
  cases report with
  | progress percent => rfl
  | completed review => rfl
  | failed failure => rfl

variable {client : Client} {selection : Selection}

/-- An upload settles the session with the report that ends it, whatever was shown before. -/
theorem upload_ended (held : client.session.selection = some selection) (storage : Storage)
    (service : Upload.Service) :
    let report := Upload.ending client.settings selection.candidate selection.kind storage service
    let finished := client.upload storage service
    finished.client.session.Ended report false ∧ finished.outcome = report.answer := by
  intro report finished
  have ended : finished.client.session.Ended report false := by
    have waiting := client.session.waiting_beginUpload
    simp only [finished, upload, startUpload, held, handleAll]
    exact waiting.applyAll_ended (Upload.isTerminal_lastReport _ _) Upload.events_run
  have answered : finished.outcome = finished.client.outcome := by
    simp only [finished, upload, startUpload, held]
  exact ⟨ended, answered.trans (outcome_of_ended ended)⟩

theorem upload_run (held : client.session.selection = some selection) (storage : Storage)
    (service : Upload.Service) :
    (client.upload storage service).run.bind (·.request) =
      (Upload.exchange client.settings selection.candidate selection.kind storage
        service).request := by
  simp only [upload, startUpload, held]
  rfl

theorem inspect_error {storage : Storage} {path : String} {fault : Fault}
    (failed : inspect storage path = .error fault) :
    fault = .fileNotFound path ∨ fault = .permissionDenied path := by
  rw [inspect] at failed
  split at failed
  · cases failed
  · exact .inr (Except.error.inj failed).symm
  · exact .inl (Except.error.inj failed).symm

theorem select_error {storage : Storage} {path : String} {fault : Fault} {next : Client}
    (failed : client.select storage path = (.error fault, next)) :
    (fault = .fileNotFound path ∨ fault = .permissionDenied path) ∨
      ∃ rejection, fault = .intakeRejected rejection := by
  cases found : inspect storage path with
  | error other =>
      simp only [select, found] at failed
      obtain ⟨same, -⟩ := Prod.mk.inj failed
      obtain rfl := Except.error.inj same
      exact .inl (inspect_error found)
  | ok candidate =>
      simp only [select, found, selectCandidate] at failed
      split at failed
      · cases failed
      · obtain ⟨same, -⟩ := Prod.mk.inj failed
        exact .inr ⟨_, (Except.error.inj same).symm⟩

theorem select_ok {storage : Storage} {path : String} {kind : DocumentKind} {next : Client}
    (selected : client.select storage path = (.ok kind, next)) :
    ∃ selection, next.session.selection = some selection := by
  cases found : inspect storage path with
  | error other => simp [select, found] at selected
  | ok candidate =>
      simp only [select, found, selectCandidate] at selected
      split at selected
      · obtain ⟨-, rfl⟩ := Prod.mk.inj selected
        exact ⟨_, rfl⟩
      · cases selected

theorem upload_settled (held : client.session.selection = some selection) (storage : Storage)
    (service : Upload.Service) :
    let finished := client.upload storage service
    let after := finished.client.session
    after.settled = true ∧ after.loading = false ∧
    ((∃ review, finished.outcome = .ok review ∧ after.review? = some review ∧
        after.failure? = none ∧ after.progress = 100) ∨
      ∃ failure, finished.outcome = .error failure.toFault ∧ after.review? = none ∧
        after.failure? = some failure ∧ after.progress = 0) := by
  intro finished after
  obtain ⟨ended, answered⟩ := upload_ended held storage service
  have terminal : (Upload.ending client.settings selection.candidate selection.kind storage
      service).isTerminal = true := Upload.isTerminal_lastReport _ _
  refine ⟨ended.settled, ended.idle, ?_⟩
  generalize Upload.ending client.settings selection.candidate selection.kind storage service =
    report at ended answered terminal
  cases report with
  | progress percent => cases terminal
  | completed review =>
      exact .inl ⟨review, answered, ended.review, ended.failure, ended.progress⟩
  | failed failure =>
      exact .inr ⟨failure, answered, ended.review, ended.failure, ended.progress⟩

/-- The faults that an upload can end with. -/
theorem upload_error (held : client.session.selection = some selection) {storage : Storage}
    {service : Upload.Service} {fault : Fault}
    (failed : (client.upload storage service).outcome = .error fault) :
    (∃ detail, fault = .malformedResponse detail) ∨
    (∃ name size limit, fault = .intakeRejected (.tooLarge name size limit)) ∨
    ∃ status reason,
      fault = .uploadFailed (client.settings.endpoints.urlFor selection.kind) status reason ∧
      ∀ sent body, (client.upload storage service).run.bind (·.request) = some sent →
        ¬(service sent).reply.Brings body := by
  obtain ⟨-, answered⟩ := upload_ended held storage service
  have terminal : (Upload.ending client.settings selection.candidate selection.kind storage
      service).isTerminal = true := Upload.isTerminal_lastReport _ _
  rw [upload_run held]
  cases ending : Upload.ending client.settings selection.candidate selection.kind storage
      service with
  | progress percent =>
      rw [ending] at terminal
      cases terminal
  | completed review =>
      rw [ending] at answered
      cases failed.symm.trans answered
  | failed failure =>
      rw [ending] at answered
      obtain rfl : fault = failure.toFault := Except.error.inj (failed.symm.trans answered)
      cases failure with
      | malformed detail => exact .inl ⟨detail, rfl⟩
      | refused rejection =>
          obtain ⟨rfl, -⟩ := Upload.ending_refused_iff.1 ending
          exact .inr (.inl ⟨_, _, _, rfl⟩)
      | transport url status reason =>
          obtain ⟨rfl, unread⟩ := Upload.ending_transport ending
          exact .inr (.inr ⟨status, reason, rfl, unread⟩)

/-- A file that was selected and uploaded has a review to take, unless the upload failed. -/
theorem reviewFile_ne_internal (settings : Settings) (storage : Storage) (path : String)
    (service : Upload.Service) (detail : String) :
    (reviewFile settings storage path service).outcome ≠ .error (.internal detail) := by
  intro internal
  simp only [reviewFile] at internal
  split at internal
  · rename_i fault next failed
    obtain rfl := Except.error.inj internal
    rcases select_error failed with (impossible | impossible) | ⟨rejection, impossible⟩ <;>
      cases impossible
  · rename_i kind next selected
    obtain ⟨selection, held⟩ := select_ok selected
    split at internal
    · rcases upload_error held internal with
        ⟨_, impossible⟩ | ⟨_, _, _, impossible⟩ | ⟨_, _, impossible, -⟩ <;> cases impossible
    · rename_i review completed
      obtain ⟨-, -, ⟨found, -, shown, -⟩ | ⟨failure, failed, -⟩⟩ :=
        upload_settled held storage service
      · rw [shown] at internal
        cases internal
      · cases completed.symm.trans failed

/-- How an upload of the selected file ends, whatever the session showed before. -/
theorem outcome_of_upload (held : client.session.selection = some selection) (storage : Storage)
    (service : Upload.Service) :
    let settings := client.settings
    let url := settings.endpoints.urlFor selection.kind
    let file := storage.read (Path.ofText selection.candidate.path)
    let finished := client.upload storage service
    let request := finished.run.bind (·.request)
    let after := finished.client.session
    (∀ review, finished.outcome = .ok review ↔
      (∃ content, file = .ok content ∧ content.size < settings.limit.toNat) ∧
      ∃ sent body v, request = some sent ∧ (service sent).reply.Brings body ∧
        Json.parse body = .ok v ∧ Review.ofResponse v = .ok review) ∧
    ((∃ detail, finished.outcome = .error (.malformedResponse detail)) ↔
      ∃ sent body, request = some sent ∧ (service sent).reply.Brings body ∧
        ((∃ e, Json.parse body = .error e) ∨
          ∃ v fault, Json.parse body = .ok v ∧ Review.ofResponse v = .error fault)) ∧
    (∀ sent status, request = some sent → (service sent).reply.headStatus? = some status →
      Web.isSuccess status = false →
      finished.outcome =
        .error (.uploadFailed url (some status) ("HTTP " ++ Web.statusText status))) ∧
    ((∃ name size limit,
        finished.outcome = .error (.intakeRejected (.tooLarge name size limit))) ↔
      ∃ content, file = .ok content ∧ settings.limit.toNat ≤ content.size) ∧
    (∀ fault, finished.outcome = .error fault →
      (∃ detail, fault = .malformedResponse detail) ∨
      (∃ name size limit, fault = .intakeRejected (.tooLarge name size limit)) ∨
      ∃ status reason, fault = .uploadFailed url status reason ∧
        ∀ sent body, request = some sent → ¬(service sent).reply.Brings body) ∧
    after.settled = true ∧ after.loading = false ∧
    ((∃ review, finished.outcome = .ok review ∧ after.review? = some review ∧
        after.failure? = none ∧ after.progress = 100) ∨
      ∃ failure, finished.outcome = .error failure.toFault ∧ after.review? = none ∧
        after.failure? = some failure ∧ after.progress = 0) ∧
    (∀ wish, finished.outcome ≠ .error (.notReady wish)) ∧
    ∀ settings path detail,
      (reviewFile settings storage path service).outcome ≠ .error (.internal detail) := by
  intro settings url file finished request after
  have answered : finished.outcome = _ := (upload_ended held storage service).2
  have made : request = _ := upload_run held storage service
  obtain ⟨settled, idle, shown⟩ := upload_settled held storage service
  refine ⟨?_, ?_, ?_, ?_, fun fault => upload_error held, settled, idle, shown, ?_,
    fun settings path detail => reviewFile_ne_internal settings storage path service detail⟩
  · intro review
    rw [answered, Upload.Report.answer_ok_iff, Upload.ending_completed_iff, made]
    constructor
    · rintro ⟨sent, body, v, sends, brings, parsed, found⟩
      exact ⟨sends.small, sent, body, v, sends.sent, brings, parsed, found⟩
    · rintro ⟨-, sent, body, v, sent', brings, parsed, found⟩
      exact ⟨sent, body, v, Upload.sends_of_sent sent', brings, parsed, found⟩
  · simp only [answered, Upload.Report.answer_malformed_iff, Upload.ending_malformed_iff, made]
    constructor
    · rintro ⟨sent, body, sends, brings, unread⟩
      exact ⟨sent, body, sends.sent, brings, unread⟩
    · rintro ⟨sent, body, sent', brings, unread⟩
      exact ⟨sent, body, Upload.sends_of_sent sent', brings, unread⟩
  · intro sent status asked replied failure
    rw [answered, (Upload.sends_of_sent (made ▸ asked)).ending_of_failure replied failure]
    rfl
  · simp only [answered, Upload.Report.answer_rejected_iff, Upload.ending_refused_iff]
    constructor
    · rintro ⟨_, _, _, -, large⟩
      exact large
    · intro large
      exact ⟨_, _, _, rfl, large⟩
  · intro wish unready
    rcases upload_error held unready with
      ⟨_, impossible⟩ | ⟨_, _, _, impossible⟩ | ⟨_, _, impossible, -⟩ <;> cases impossible

/-- A service that has failed answers with a review all the same, which does not count. -/
theorem outcome_of_upload_refused :
    let selection : Selection := ⟨⟨"a.tex", "text/x-tex", 2, "tex", "/a.tex"⟩, .latex⟩
    let settings : Settings := { Settings.standard with endpoints := .single "http://[::1]/" }
    let client : Client := ⟨settings, Session.fresh.select selection⟩
    let storage : Storage := { home := [], entries := [(["a.tex"], .file ⟨#[120, 121]⟩)] }
    let service : Upload.Service := fun _ => ⟨1, .complete 500 "[]".toUTF8, []⟩
    client.session.selection = some selection ∧
    (client.upload storage service).outcome =
      .error (.uploadFailed "http://[::1]/" (some 500) "HTTP 500 Internal Server Error") := by
  intro selection settings client storage service
  have held : client.session.selection = some selection := rfl
  have read : storage.read (Path.ofText "/a.tex") = .ok ⟨#[120, 121]⟩ := by cbv
  have typed : Web.isMediaType "text/x-tex" = true := by cbv
  have sendable : (Web.Address.ofText? "http://[::1]/").any Web.Address.isUsable = true := by cbv
  obtain ⟨address, found, usable⟩ := (Option.any_eq_true _ _).1 sendable
  have prepared := Upload.prepare_of_sendable settings .latex selection.candidate read (by decide)
    typed found usable
  have asked := (upload_run held storage service).trans
    (congrArg Upload.Exchange.request (Upload.exchange_of_prepare_ok prepared))
  obtain ⟨-, -, refused, -⟩ := outcome_of_upload held storage service
  exact ⟨held, refused _ 500 asked rfl rfl⟩

end Client

end FormatReview
