import Mathlib
import FormatReview.Proofs.Client.Run

namespace FormatReview.Client

/-! Where an outcome comes from. Whatever a client shows was brought by its latest upload, which was
started with the very selection that the client still holds. -/

variable {settings : Settings} {log : List Happening} {client : Client} {selection : Selection}
  {run : Upload.Run} {after : List Happening}

/-- The selection was made in the log, and neither replaced nor removed since. -/
def HeldSince (log : List Happening) (selection : Selection) : Prop :=
  ∃ before between, log = before ++ .selected (some selection) :: between ∧
    ∀ happening ∈ between, happening.keepsSelection = true

/-- The latest upload is `run`, of the selection that the client held before it and still holds.
Since its start there was only what `after` lists: no selection, no removal, no other start. -/
structure Latest (settings : Settings) (log : List Happening) (client : Client)
    (selection : Selection) (run : Upload.Run) (after : List Happening) : Prop where
  held : client.session.selection = some selection
  logged : ∃ before, log = before ++ .started run :: after ∧ HeldSince before selection
  quiet : ∀ happening ∈ after, happening.isQuiet = true
  uploaded : ∃ storage service, run = Upload.run settings selection.candidate selection.kind
    client.session.generation storage service

/-- The event that ended the latest upload was handled, and it carried `report`. -/
structure Brought (settings : Settings) (log : List Happening) (client : Client)
    (selection : Selection) (run : Upload.Run) (after : List Happening) (report : Upload.Report) :
    Prop extends Latest settings log client selection run after where
  last : run.events.getLast? = some ⟨client.session.generation, report⟩
  terminal : report.isTerminal = true
  handled : .handled ⟨client.session.generation, report⟩ ∈ after

theorem heldSince_append_selected (log : List Happening) (selection : Selection) :
    HeldSince (log ++ [.selected (some selection)]) selection :=
  ⟨log, [], rfl, by simp⟩

theorem HeldSince.append (held : HeldSince log selection) {happening : Happening}
    (kept : happening.keepsSelection = true) : HeldSince (log ++ [happening]) selection := by
  obtain ⟨before, between, rfl, keeps⟩ := held
  refine ⟨before, between ++ [happening], by simp, ?_⟩
  intro other member
  rcases List.mem_append.1 member with member | member
  · exact keeps other member
  · exact List.mem_singleton.1 member ▸ kept

theorem Latest.append (latest : Latest settings log client selection run after)
    {happening : Happening} (quiet : happening.isQuiet = true) {next : Client}
    (sameSelection : next.session.selection = client.session.selection)
    (sameGeneration : next.session.generation = client.session.generation) :
    Latest settings (log ++ [happening]) next selection run (after ++ [happening]) := by
  obtain ⟨held, ⟨before, rfl, since⟩, calm, uploaded⟩ := latest
  refine ⟨sameSelection.trans held, ⟨before, by simp, since⟩, ?_, sameGeneration ▸ uploaded⟩
  intro other member
  rcases List.mem_append.1 member with member | member
  · exact calm other member
  · exact List.mem_singleton.1 member ▸ quiet

theorem Brought.append {report : Upload.Report}
    (brought : Brought settings log client selection run after report)
    {happening : Happening} (quiet : happening.isQuiet = true) {next : Client}
    (sameSelection : next.session.selection = client.session.selection)
    (sameGeneration : next.session.generation = client.session.generation) :
    Brought settings (log ++ [happening]) next selection run (after ++ [happening]) report where
  toLatest := brought.toLatest.append quiet sameSelection sameGeneration
  last := sameGeneration ▸ brought.last
  terminal := brought.terminal
  handled := sameGeneration ▸ List.mem_append_left _ brought.handled

/-- What holds of every client and its log. An upload of the current generation can only be the
latest: its selection is still held, since the loss of a selection begins a new generation. -/
structure Accounted (settings : Settings) (log : List Happening) (client : Client) : Prop where
  configured : client.settings = settings
  held : ∀ selection, client.session.selection = some selection → HeldSince log selection
  begun : ∀ run, .started run ∈ log → ∀ event ∈ run.events,
    event.generation ≤ client.session.generation
  current : ∀ run, .started run ∈ log → ∀ event ∈ run.events,
    event.generation = client.session.generation →
      ∃ selection after, Latest settings log client selection run after
  shown : ∀ outcome, client.session.outcome = some outcome →
    ∃ selection run after report, Brought settings log client selection run after report ∧
      report.outcome? = some outcome

theorem accounted_start (settings : Settings) : Accounted settings [] (start settings) where
  configured := rfl
  held := by simp [start, Session.fresh]
  begun := by simp
  current := by simp
  shown := by simp [start, Session.fresh]

theorem started_mem_append {happening : Happening} (other : ∀ run, happening ≠ .started run)
    (member : .started run ∈ log ++ [happening]) : .started run ∈ log := by
  rcases List.mem_append.1 member with member | member
  · exact member
  · exact absurd (List.mem_singleton.1 member).symm (other run)

namespace Accounted

theorem renewed (accounted : Accounted settings log client) {happening : Happening}
    (other : ∀ run, happening ≠ .started run) {next : Session}
    (counted : next.generation = client.session.generation + 1) (blank : next.outcome = none)
    (held : ∀ selection, next.selection = some selection →
      HeldSince (log ++ [happening]) selection) :
    Accounted settings (log ++ [happening]) { client with session := next } where
  configured := accounted.configured
  held := held
  begun run member event of := by
    have bound := accounted.begun run (started_mem_append other member) event of
    simp only
    omega
  current run member event of same := by
    have bound := accounted.begun run (started_mem_append other member) event of
    simp only at same
    omega
  shown outcome found := by simp [blank] at found

theorem kept (accounted : Accounted settings log client) {happening : Happening}
    (quiet : happening.isQuiet = true) {next : Session}
    (sameSelection : next.selection = client.session.selection)
    (sameGeneration : next.generation = client.session.generation)
    (shown : ∀ outcome, next.outcome = some outcome → client.session.outcome = some outcome ∨
      ∃ selection run after report,
        Brought settings (log ++ [happening]) { client with session := next } selection run after
          report ∧ report.outcome? = some outcome) :
    Accounted settings (log ++ [happening]) { client with session := next } where
  configured := accounted.configured
  held selection found := by
    have keeps : happening.keepsSelection = true := by
      cases happening <;> simp_all [Happening.isQuiet, Happening.keepsSelection]
    exact (accounted.held selection (sameSelection ▸ found)).append keeps
  begun run member event of := by
    have other : ∀ run, happening ≠ .started run := by
      intro run same
      simp [same, Happening.isQuiet] at quiet
    exact sameGeneration ▸ accounted.begun run (started_mem_append other member) event of
  current run member event of same := by
    have other : ∀ run, happening ≠ .started run := by
      intro run same
      simp [same, Happening.isQuiet] at quiet
    obtain ⟨selection, after, latest⟩ := accounted.current run
      (started_mem_append other member) event of (same.trans sameGeneration)
    exact ⟨selection, after ++ [happening], latest.append quiet sameSelection sameGeneration⟩
  shown outcome found := by
    rcases shown outcome found with before | now
    · obtain ⟨selection, run, after, report, brought, carried⟩ := accounted.shown outcome before
      exact ⟨selection, run, after ++ [happening], report,
        brought.append quiet sameSelection sameGeneration, carried⟩
    · exact now

theorem selected (accounted : Accounted settings log client) (selection : Selection) :
    Accounted settings (log ++ [.selected (some selection)])
      { client with session := client.session.select selection } := by
  have other : ∀ run, Happening.selected (some selection) ≠ .started run := by
    intro run
    simp
  cases held : client.session.selection with
  | some old =>
      rw [Session.select_of_some held]
      refine accounted.renewed other rfl rfl ?_
      intro new found
      obtain rfl : selection = new := Option.some.inj found
      exact heldSince_append_selected log selection
  | none =>
      rw [Session.select_of_none held]
      refine ⟨accounted.configured, ?_, ?_, ?_, ?_⟩
      · intro new found
        obtain rfl : selection = new := Option.some.inj found
        exact heldSince_append_selected log selection
      · intro run member event of
        exact accounted.begun run (started_mem_append other member) event of
      · intro run member event of same
        obtain ⟨old, after, latest⟩ :=
          accounted.current run (started_mem_append other member) event of same
        exact absurd (latest.held.symm.trans held) (by simp)
      · intro outcome found
        obtain ⟨old, run, after, report, brought, -⟩ := accounted.shown outcome found
        exact absurd (brought.held.symm.trans held) (by simp)

theorem refused (accounted : Accounted settings log client) (fault : Fault)
    (rejection : Option Rejection) :
    Accounted settings (log ++ [.refused fault])
      { client with session := { client.session with rejection := rejection } } :=
  accounted.kept rfl rfl rfl fun _ found => .inl found

theorem removed (accounted : Accounted settings log client) :
    Accounted settings (log ++ [.removed]) { client with session := client.session.discard } :=
  accounted.renewed (by simp) rfl rfl (by simp [Session.discard])

theorem started (accounted : Accounted settings log client) (storage : Storage)
    (service : Upload.Service) (selection : Selection)
    (held : client.session.selection = some selection) :
    Accounted settings
      (log ++ [.started (Upload.run client.settings selection.candidate selection.kind
        client.session.beginUpload.generation storage service)])
      { client with session := client.session.beginUpload } := by
  have since := accounted.held selection held
  refine ⟨accounted.configured, ?_, ?_, ?_, ?_⟩
  · intro other found
    obtain rfl : selection = other := Option.some.inj (held.symm.trans found)
    exact since.append rfl
  · intro run member event of
    rcases List.mem_append.1 member with member | member
    · exact Nat.le_succ_of_le (accounted.begun run member event of)
    · obtain rfl := Happening.started.inj (List.mem_singleton.1 member)
      exact Nat.le_of_eq (Upload.generation_of_mem_events of)
  · intro run member event of same
    rcases List.mem_append.1 member with member | member
    · have bound := accounted.begun run member event of
      simp only [Session.beginUpload] at same
      omega
    · obtain rfl := Happening.started.inj (List.mem_singleton.1 member)
      exact ⟨selection, [], held, ⟨log, rfl, since⟩, by simp, storage, service,
        by rw [accounted.configured]⟩
  · intro outcome found
    simp [Session.beginUpload] at found

theorem handled (accounted : Accounted settings log client) (event : Upload.Event)
    (own : ∃ run, .started run ∈ log ∧ event ∈ run.events) :
    Accounted settings (log ++ [.handled event])
      { client with session := (client.session.apply (.upload event)).2 } := by
  have sameSelection := client.session.selection_apply_upload event
  have sameGeneration := client.session.generation_apply_upload event
  refine accounted.kept rfl sameSelection sameGeneration ?_
  intro outcome found
  rcases client.session.outcome_apply_upload event with same | ⟨current, terminal, brought⟩
  · exact .inl (same ▸ found)
  · obtain ⟨run, member, of⟩ := own
    obtain ⟨selection, after, latest⟩ := accounted.current run member event of current
    obtain ⟨storage, service, uploaded⟩ := latest.uploaded
    have last : run.events.getLast? = some event := by
      rw [uploaded] at of ⊢
      exact Upload.getLast?_events_of_isTerminal of terminal
    have tagged : event = ⟨client.session.generation, event.report⟩ := by
      rw [← current]
    refine .inr ⟨selection, run, after ++ [.handled event], event.report, ?_,
      brought.symm.trans found⟩
    exact
      { toLatest := latest.append rfl sameSelection sameGeneration
        last := by rw [sameGeneration, ← tagged]; exact last
        terminal := terminal
        handled := by rw [sameGeneration, ← tagged]; simp }

theorem perform (accounted : Accounted settings log client) (action : Action)
    (own : ∀ event, action = .handle event → ∃ run, .started run ∈ log ∧ event ∈ run.events) :
    Accounted settings (log ++ [(client.perform action).1]) (client.perform action).2 := by
  have step := client.transition_perform action
  generalize (client.perform action).1 = happening at step ⊢
  generalize (client.perform action).2 = next at step ⊢
  cases step with
  | selected selection => exact accounted.selected selection
  | refused fault rejection => exact accounted.refused fault rejection
  | removed => exact accounted.removed
  | started storage service selection held =>
      exact accounted.started storage service selection held
  | handled event => exact accounted.handled event (own event rfl)

end Accounted

theorem Reached.accounted (reached : Reached settings log client) :
    Accounted settings log client := by
  induction reached with
  | start => exact accounted_start settings
  | perform _ action own ih => exact ih.perform action own

/-- A review or failure that is shown was brought by the latest upload, of the file that is still
held, and nothing was selected, removed or started since. -/
theorem outcome_of_latest_upload (reached : Reached settings log client) :
    (∀ review, client.session.review? = some review →
      ∃ selection run after,
        Brought settings log client selection run after (.completed review)) ∧
    ∀ failure, client.session.failure? = some failure →
      ∃ selection run after,
        Brought settings log client selection run after (.failed failure) := by
  have accounted := reached.accounted
  constructor
  · intro review shown
    obtain ⟨outcome, found, same⟩ := Option.bind_eq_some_iff.1 shown
    obtain ⟨selection, run, after, report, brought, carried⟩ := accounted.shown outcome found
    obtain rfl : report = .completed review := by
      cases report <;> cases outcome <;>
        simp_all [Outcome.review?, Upload.Report.outcome?]
    exact ⟨selection, run, after, brought⟩
  · intro failure shown
    obtain ⟨outcome, found, same⟩ := Option.bind_eq_some_iff.1 shown
    obtain ⟨selection, run, after, report, brought, carried⟩ := accounted.shown outcome found
    obtain rfl : report = .failed failure := by
      cases report <;> cases outcome <;>
        simp_all [Outcome.failure?, Upload.Report.outcome?]
    exact ⟨selection, run, after, brought⟩

/-- A file that is gone is uploaded twice, and the end of the first upload comes after the start of
the second. -/
theorem outcome_of_latest_upload_overlapping :
    let failure : Upload.Failure :=
      .transport Endpoints.standardLatex none (Fault.fileNotFound "/a.tex").text
    ∃ log client, Reached .standard log client ∧ client.session.failure? = some failure ∧
      ∃ selection run after,
        Brought .standard log client selection run after (.failed failure) := by
  intro failure
  let candidate : Candidate := ⟨"a.tex", "text/x-tex", 2, "tex", "/a.tex"⟩
  let storage : Storage := { home := [], entries := [] }
  let service : Upload.Service := fun _ => ⟨0, .unanswered, []⟩
  let run (generation : Nat) : Upload.Run :=
    Upload.run .standard candidate .latex generation storage service
  have accepted : Intake.accept candidate .both Settings.standardLimit = .ok .latex := by cbv
  have missing : storage.read (Path.ofText "/a.tex") = .error .missing := by cbv
  have unready : Upload.prepare .standard candidate .latex storage =
      .error (.fileNotFound "/a.tex") := by
    simp [Upload.prepare, Upload.readFile, candidate, missing, Except.mapError, Upload.unreadable,
      bind, Except.bind]
  have ended (generation : Nat) : ⟨generation, .failed failure⟩ ∈ (run generation).events := by
    rw [Upload.mem_events_run, Upload.exchange_of_prepare_error unready]
    exact .inr rfl
  have selected : Reached .standard [.selected (some ⟨candidate, .latex⟩)]
      ⟨.standard, Session.fresh.select ⟨candidate, .latex⟩⟩ := by
    refine Reached.start.next (.selectCandidate candidate) _ ?_ (by simp)
    simp only [perform, selectCandidate, start, Settings.standard, accepted, ofSelection,
      Session.apply]
    rfl
  have once := selected.next (.startUpload storage service) (.started (run 1)) rfl (by simp)
  have twice := once.next (.startUpload storage service) (.started (run 2)) rfl (by simp)
  have late := twice.next (.handle ⟨1, .failed failure⟩) _ rfl (by
    intro event same
    obtain rfl := Action.handle.inj same
    exact ⟨run 1, by simp, ended 1⟩)
  have reached := late.next (.handle ⟨2, .failed failure⟩) _ rfl (by
    intro event same
    obtain rfl := Action.handle.inj same
    exact ⟨run 2, by simp, ended 2⟩)
  exact ⟨_, _, reached, rfl, (outcome_of_latest_upload reached).2 failure rfl⟩

end FormatReview.Client
