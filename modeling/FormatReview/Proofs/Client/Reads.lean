import FormatReview.Client
import FormatReview.Proofs.Upload.Parcel

namespace FormatReview

/-! What a client depends on: of a storage only the file at hand, and of its settings not the looks
of a report. -/

theorem Storage.read_congr {storage late : Storage} {path : Path}
    (same : late.look path = storage.look path) : late.read path = storage.read path := by
  rw [read, read, same]

def Settings.withReport (settings : Settings) (report : ReportSettings) : Settings :=
  { settings with report := report }

variable {storage late : Storage} {path : String}

namespace Upload

variable {candidate : Candidate}

theorem prepare_congr
    (same : late.look (.ofText candidate.path) = storage.look (.ofText candidate.path))
    (settings : Settings) (kind : DocumentKind) :
    prepare settings candidate kind late = prepare settings candidate kind storage := by
  simp only [prepare, readFile, Storage.read_congr same]

theorem run_congr
    (same : late.look (.ofText candidate.path) = storage.look (.ofText candidate.path))
    (settings : Settings) (kind : DocumentKind) (generation : Nat) (service : Service) :
    run settings candidate kind generation late service =
      run settings candidate kind generation storage service := by
  simp only [run, exchange, prepare_congr same]

section WithReport

variable (settings : Settings) (report : ReportSettings) (candidate : Candidate)
  (kind : DocumentKind) (storage : Storage) (service : Service)

theorem exchange_withReport :
    exchange (settings.withReport report) candidate kind storage service =
      exchange settings candidate kind storage service := by
  rw [Settings.withReport]
  simp only [exchange, prepare]

theorem run_withReport (generation : Nat) :
    run (settings.withReport report) candidate kind generation storage service =
      run settings candidate kind generation storage service := by
  rw [run, run, exchange_withReport]
  rfl

end WithReport

end Upload

namespace Client

variable {client next : Client} {selection : Selection}

theorem select_eq_ok {kind : DocumentKind}
    (selected : client.select storage path = (.ok kind, next)) :
    ∃ candidate, inspect storage path = .ok candidate ∧
      Intake.accept candidate client.settings.accept client.settings.limit = .ok kind ∧
      next = { client with session := client.session.select ⟨candidate, kind⟩ } := by
  cases found : inspect storage path with
  | error fault => simp [select, found] at selected
  | ok candidate =>
      simp only [select, found, selectCandidate] at selected
      cases verdict : Intake.accept candidate client.settings.accept client.settings.limit with
      | error rejection => simp [verdict] at selected
      | ok accepted =>
          simp only [verdict, Prod.mk.injEq, Except.ok.injEq] at selected
          obtain ⟨rfl, rfl⟩ := selected
          exact ⟨candidate, rfl, verdict, rfl⟩

theorem select_congr (same : late.look (.ofText path) = storage.look (.ofText path))
    (client : Client) : client.select late path = client.select storage path := by
  simp only [select, inspect, same]

theorem upload_congr (held : client.session.selection = some selection)
    (same : late.look (.ofText selection.candidate.path) =
      storage.look (.ofText selection.candidate.path)) (service : Upload.Service) :
    client.upload late service = client.upload storage service := by
  simp only [upload, startUpload, held, Upload.run_congr same]

/-- After a file was selected, an upload reads that file and no other. -/
theorem upload_congr_of_select {earlier : Storage} {kind : DocumentKind}
    (selected : client.select earlier path = (.ok kind, next))
    (same : late.look (.ofText path) = storage.look (.ofText path)) (service : Upload.Service) :
    next.upload late service = next.upload storage service := by
  obtain ⟨candidate, found, -, reached⟩ := select_eq_ok selected
  obtain ⟨_, -, named, -⟩ := Upload.file_of_inspect found
  have held : next.session.selection = some ⟨candidate, kind⟩ := by
    rw [reached]
    rfl
  rw [← named] at same
  exact upload_congr held same service

/-! The looks of a report. -/

def withReport (client : Client) (report : ReportSettings) : Client :=
  { client with settings := client.settings.withReport report }

theorem select_withReport (client : Client) (report : ReportSettings) (storage : Storage)
    (path : String) :
    (client.withReport report).select storage path =
      ((client.select storage path).1, (client.select storage path).2.withReport report) := by
  cases found : inspect storage path with
  | error fault => simp only [select, found]
  | ok candidate =>
      simp only [select, found, selectCandidate, withReport, Settings.withReport]
      cases Intake.accept candidate client.settings.accept client.settings.limit <;> rfl

theorem outcome_upload_withReport (client : Client) (report : ReportSettings) (storage : Storage)
    (service : Upload.Service) :
    ((client.withReport report).upload storage service).outcome =
      (client.upload storage service).outcome := by
  cases held : client.session.selection with
  | none => simp only [upload, startUpload, withReport, held]
  | some selection =>
      simp only [upload, startUpload, withReport, held, handleAll, outcome, Upload.run_withReport]

end Client

end FormatReview
