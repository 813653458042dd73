import FormatReview.CommandLine.Program
import FormatReview.Proofs.Client.Outcome
import FormatReview.Proofs.Client.Reads
import FormatReview.Proofs.Storage.Report

namespace FormatReview.CommandLine

/-! The ways a run of the program can go: it stops at the settings, at the selection or at the
upload, or it has a review to show and then, perhaps, a report to write. -/

namespace Options

def reportSettings (options : Options) : ReportSettings :=
  { ReportSettings.standard with
    title := options.title.getD ReportSettings.standard.title
    filename := options.report
    font := options.font
    pageSize := options.pageSize }

def settings (options : Options) : Settings where
  endpoints := options.endpoints
  accept := options.accept
  limit := options.limit
  fieldName := Settings.standard.fieldName
  timeout := max options.timeout 1
  observer := if options.showsProgress then some terminal else none
  report := options.reportSettings

theorem setAll_changes (options : Options) :
    Settings.standard.setAll options.changes = options.settings := by
  simp only [changes, settings, reportSettings]
  cases options.font <;> cases options.title <;> cases options.showsProgress <;> rfl

theorem build_changes (options : Options) :
    Settings.build options.changes = options.settings.checked := by
  rw [Settings.build, setAll_changes]

theorem settings_of_build {options : Options} {settings : Settings}
    (built : Settings.build options.changes = .ok settings) : settings = options.settings := by
  rw [build_changes, Settings.checked] at built
  split at built
  · cases built
  · exact (Except.ok.inj built).symm

end Options

/-- The client that a run has when it has selected its file. -/
def Selects (world : World) (options : Options) (client : Client) : Prop :=
  ∃ settings kind, Settings.build options.changes = .ok settings ∧
    (Client.start settings).select world.storage options.file = (.ok kind, client)

/-- The gate rejects the file at its selection. -/
def Rejects (world : World) (options : Options) (rejection : Rejection) : Prop :=
  ∃ settings client, Settings.build options.changes = .ok settings ∧
    (Client.start settings).select world.storage options.file =
      (.error (.intakeRejected rejection), client)

/-- The file is selected, and its upload brings a review. -/
def Reviews (world : World) (options : Options) (review : Review) : Prop :=
  ∃ client, Selects world options client ∧
    (client.upload world.storage world.service).outcome = .ok review

namespace World

def write (world : World) (options : Options) (review : Review) : Export.Written :=
  Export.write world.storage review options.reportSettings options.report

theorem write_filename (world : World) (options : Options) (review : Review) :
    Export.write world.storage review options.reportSettings options.reportSettings.filename =
      world.write options review := rfl

/-- The requests of an upload. -/
def asked (world : World) (client : Client) : List Upload.Request :=
  ((client.upload world.storage world.service).run.bind (·.request)).toList

def text (world : World) (options : Options) (review : Review) : String :=
  resultText options options.reportSettings review world.colour

end World

/-- Where a run can end, with what it has done by then. -/
inductive Course (world : World) (options : Options) : Transcript → Prop
  | misconfigured (flaw : Settings.Flaw) (messages : String)
      (flawed : Settings.build options.changes = .error flaw) :
      Course world options ⟨1, "", messages, [], []⟩
  | missing (settings : Settings) (client : Client) (fault : Fault) (messages : String)
      (built : Settings.build options.changes = .ok settings)
      (failed : (Client.start settings).select world.storage options.file = (.error fault, client))
      (unseen : fault = .fileNotFound options.file ∨ fault = .permissionDenied options.file) :
      Course world options ⟨1, "", messages, [], []⟩
  | rejected (rejection : Rejection) (messages : String)
      (rejects : Rejects world options rejection) :
      Course world options ⟨2, "", messages, [], []⟩
  | unreviewed (client : Client) (fault : Fault) (messages : String)
      (selects : Selects world options client)
      (failed : (client.upload world.storage world.service).outcome = .error fault) :
      Course world options ⟨1, "", messages, world.asked client, []⟩
  | shown (client : Client) (review : Review) (messages : String)
      (selects : Selects world options client) (reviews : Reviews world options review)
      (unwanted : options.noPdf = true) :
      Course world options ⟨0, world.text options review, messages, world.asked client, []⟩
  | written (client : Client) (review : Review) (extent : Paper.Extent) (messages : String)
      (selects : Selects world options client) (reviews : Reviews world options review)
      (wrote : (world.write options review).outcome = .ok extent) :
      Course world options ⟨0, world.text options review, messages, world.asked client,
        (world.write options review).changes⟩
  | unwritten (client : Client) (review : Review) (fault : Fault) (messages : String)
      (selects : Selects world options client) (reviews : Reviews world options review)
      (wanted : options.noPdf = false)
      (failed : (world.write options review).outcome = .error fault) :
      Course world options ⟨1, world.text options review, messages, world.asked client,
        (world.write options review).changes⟩

variable {world : World} {options : Options} {client : Client} {review : Review}

theorem selects_iff :
    Selects world options client ↔
      ∃ settings candidate kind, Settings.build options.changes = .ok settings ∧
        Client.inspect world.storage options.file = .ok candidate ∧
        Intake.accept candidate settings.accept settings.limit = .ok kind ∧
        client = ⟨settings, Session.fresh.select ⟨candidate, kind⟩⟩ := by
  constructor
  · rintro ⟨settings, kind, built, selected⟩
    obtain ⟨candidate, found, accepted, rfl⟩ := Client.select_eq_ok selected
    exact ⟨settings, candidate, kind, built, found, accepted, rfl⟩
  · rintro ⟨settings, candidate, kind, built, found, accepted, rfl⟩
    refine ⟨settings, kind, built, ?_⟩
    simp only [Client.select, found, Client.selectCandidate, Client.start, accepted, Session.apply]

section Selected

variable (world : World) (settings : Settings) (candidate : Candidate) (kind : DocumentKind)

theorem asked_select :
    world.asked ⟨settings, Session.fresh.select ⟨candidate, kind⟩⟩ =
      (Upload.exchange settings candidate kind world.storage world.service).request.toList := by
  let client : Client := ⟨settings, Session.fresh.select ⟨candidate, kind⟩⟩
  have held : client.session.selection = some ⟨candidate, kind⟩ := rfl
  exact congrArg Option.toList (Client.upload_run held world.storage world.service)

theorem outcome_select :
    (Client.upload ⟨settings, Session.fresh.select ⟨candidate, kind⟩⟩ world.storage
      world.service).outcome =
      (Upload.ending settings candidate kind world.storage world.service).answer := by
  let client : Client := ⟨settings, Session.fresh.select ⟨candidate, kind⟩⟩
  have held : client.session.selection = some ⟨candidate, kind⟩ := rfl
  exact (Client.upload_ended held world.storage world.service).2

end Selected

theorem report_of_selects (selects : Selects world options client) :
    client.settings.report = options.reportSettings := by
  obtain ⟨settings, candidate, kind, built, -, -, rfl⟩ := selects_iff.1 selects
  rw [Options.settings_of_build built]
  rfl

theorem course_exportStep (selects : Selects world options client)
    (reviews : Reviews world options review) (messages : String) :
    Course world options (exportStep world options options.reportSettings review
      (world.text options review) messages (world.asked client)) := by
  cases wanted : options.noPdf with
  | true =>
      simp only [exportStep, wanted, if_true]
      exact .shown client review messages selects reviews wanted
  | false =>
      simp only [exportStep, wanted, Bool.false_eq_true, if_false, World.write_filename]
      cases outcome : (world.write options review).outcome with
      | error fault => exact .unwritten client review fault _ selects reviews wanted outcome
      | ok extent => exact .written client review extent _ selects reviews outcome

theorem course_uploadStep (selects : Selects world options client) (messages : String) :
    Course world options (uploadStep world options client messages) := by
  rw [uploadStep]
  cases outcome : (client.upload world.storage world.service).outcome with
  | error fault => exact .unreviewed client fault _ selects outcome
  | ok review =>
      simp only [report_of_selects selects]
      exact course_exportStep selects ⟨client, selects, outcome⟩ _

theorem course_selectStep {settings : Settings}
    (built : Settings.build options.changes = .ok settings) :
    Course world options (selectStep world options settings) := by
  rw [selectStep]
  cases selected : (Client.start settings).select world.storage options.file with
  | mk answer client =>
      cases answer with
      | ok kind => exact course_uploadStep ⟨settings, kind, built, selected⟩ _
      | error fault =>
          -- A selection fails where no file can be seen, or else at the gate.
          rcases Client.select_error selected with (rfl | rfl) | ⟨rejection, rfl⟩
          · exact .missing settings client _ _ built selected (.inl rfl)
          · exact .missing settings client _ _ built selected (.inr rfl)
          · exact .rejected rejection _ ⟨settings, client, built, selected⟩

theorem course_runOptions (world : World) (options : Options) :
    Course world options (runOptions world options) := by
  rw [runOptions]
  cases built : Settings.build options.changes with
  | error flaw => exact .misconfigured flaw _ built
  | ok settings => exact course_selectStep built

/-! What a run does, by where it stops. -/

theorem runOptions_of_built (world : World) {settings : Settings}
    (built : Settings.build options.changes = .ok settings) :
    runOptions world options = selectStep world options settings := by
  rw [runOptions, built]

theorem requests_of_misconfigured {flaw : Settings.Flaw}
    (flawed : Settings.build options.changes = .error flaw) :
    (runOptions world options).requests = [] := by
  rw [runOptions, flawed]
  rfl

theorem runOptions_of_rejects {rejection : Rejection}
    (rejects : Rejects world options rejection) :
    ∃ messages, runOptions world options = ⟨2, "", messages, [], []⟩ := by
  obtain ⟨settings, client, built, refused⟩ := rejects
  have went := runOptions_of_built world built
  simp only [selectStep, refused] at went
  exact ⟨_, went⟩

theorem runOptions_of_selects (selects : Selects world options client) :
    ∃ messages, runOptions world options = uploadStep world options client messages := by
  obtain ⟨settings, kind, built, selected⟩ := selects
  have went := runOptions_of_built world built
  simp only [selectStep, selected] at went
  exact ⟨_, went⟩

theorem runOptions_of_reviews (reviews : Reviews world options review) :
    ∃ client messages, runOptions world options =
      exportStep world options options.reportSettings review (world.text options review) messages
        (world.asked client) := by
  obtain ⟨client, selects, brought⟩ := reviews
  obtain ⟨messages, went⟩ := runOptions_of_selects selects
  simp only [uploadStep, brought, report_of_selects selects] at went
  exact ⟨client, _, went⟩

section Export

variable {report : ReportSettings} {output messages : String} {requests : List Upload.Request}

@[simp] theorem output_exportStep :
    (exportStep world options report review output messages requests).output = output := by
  rw [exportStep]
  split
  · rfl
  · dsimp only
    split <;> rfl

@[simp] theorem requests_exportStep :
    (exportStep world options report review output messages requests).requests = requests := by
  rw [exportStep]
  split
  · rfl
  · dsimp only
    split <;> rfl

end Export

theorem code_of_reviews (reviews : Reviews world options review)
    (done : options.noPdf = true ∨ ∃ extent, (world.write options review).outcome = .ok extent) :
    (runOptions world options).code = 0 := by
  obtain ⟨client, messages, went⟩ := runOptions_of_reviews reviews
  rw [went, exportStep]
  split
  · rfl
  · next wanted =>
      obtain ⟨extent, wrote⟩ := done.resolve_left wanted
      simp only [World.write_filename, wrote]

theorem code_of_unwritten (reviews : Reviews world options review)
    (wanted : options.noPdf = false) {fault : Fault}
    (failed : (world.write options review).outcome = .error fault) :
    (runOptions world options).code = 1 := by
  obtain ⟨client, messages, went⟩ := runOptions_of_reviews reviews
  rw [went, exportStep, if_neg (by simp [wanted])]
  simp only [World.write_filename, failed]
  rfl

theorem output_of_reviews (reviews : Reviews world options review) :
    (runOptions world options).output = world.text options review := by
  obtain ⟨client, messages, went⟩ := runOptions_of_reviews reviews
  rw [went, output_exportStep]

theorem requests_of_selects (selects : Selects world options client) :
    (runOptions world options).requests = world.asked client := by
  obtain ⟨messages, went⟩ := runOptions_of_selects selects
  rw [went, uploadStep]
  dsimp only
  split
  · rfl
  · exact requests_exportStep

namespace Course

variable {transcript : Transcript} (course : Course world options transcript)

include course

theorem output_of_no_review (without : ∀ review, ¬Reviews world options review) :
    transcript.output = "" := by
  cases course with
  | shown client review messages selects reviews => exact absurd reviews (without review)
  | written client review extent messages selects reviews => exact absurd reviews (without review)
  | unwritten client review fault messages selects reviews =>
      exact absurd reviews (without review)
  | _ => rfl

theorem code_cases : transcript.code = 0 ∨ transcript.code = 1 ∨ transcript.code = 2 := by
  cases course <;> simp

theorem rejects_of_code (two : transcript.code = 2) :
    ∃ rejection, Rejects world options rejection := by
  cases course with
  | rejected rejection messages rejects => exact ⟨rejection, rejects⟩
  | _ => simp at two

theorem reviews_of_code (zero : transcript.code = 0) :
    ∃ review, Reviews world options review ∧
      (options.noPdf = true ∨ ∃ extent, (world.write options review).outcome = .ok extent) := by
  cases course with
  | shown client review messages selects reviews unwanted =>
      exact ⟨review, reviews, .inl unwanted⟩
  | written client review extent messages selects reviews wrote =>
      exact ⟨review, reviews, .inr ⟨extent, wrote⟩⟩
  | _ => simp at zero

theorem exists_asked {request : Upload.Request} (made : request ∈ transcript.requests) :
    ∃ client, Selects world options client ∧ request ∈ world.asked client := by
  cases course with
  | misconfigured => cases made
  | missing => cases made
  | rejected => cases made
  | unreviewed client _ _ selects => exact ⟨client, selects, made⟩
  | shown client _ _ selects => exact ⟨client, selects, made⟩
  | written client _ _ _ selects => exact ⟨client, selects, made⟩
  | unwritten client _ _ _ selects => exact ⟨client, selects, made⟩

/-- There is one upload at most, and of that one request at most. -/
theorem length_requests : transcript.requests.length ≤ 1 := by
  have asked (client : Client) : (world.asked client).length ≤ 1 := Option.length_toList_le
  cases course with
  | unreviewed client => exact asked client
  | shown client => exact asked client
  | written client => exact asked client
  | unwritten client => exact asked client
  | _ => exact Nat.zero_le 1

/-- A run that does not succeed leaves the file at the place of the report as it was. -/
theorem file?_of_code (tree : world.storage.IsTree) (stopped : transcript.code ≠ 0)
    {late : Storage} (moment : world.storage.Moment transcript.changes late) :
    late.file? (world.storage.place (.ofText options.report)) =
      world.storage.file? (world.storage.place (.ofText options.report)) := by
  cases course with
  | shown => exact absurd rfl stopped
  | written => exact absurd rfl stopped
  | unwritten _ _ _ _ _ _ _ failed => exact Export.file?_of_write_failed tree failed moment
  | _ => rw [moment.of_nil]

end Course

theorem mem_requests_iff {request : Upload.Request} :
    request ∈ (runOptions world options).requests ↔
      ∃ settings candidate kind, Settings.build options.changes = .ok settings ∧
        Client.inspect world.storage options.file = .ok candidate ∧
        Intake.accept candidate settings.accept settings.limit = .ok kind ∧
        Upload.prepare settings candidate kind world.storage = .ok request := by
  constructor
  · intro made
    obtain ⟨client, selects, asked⟩ := (course_runOptions world options).exists_asked made
    obtain ⟨settings, candidate, kind, built, found, accepted, rfl⟩ := selects_iff.1 selects
    rw [asked_select] at asked
    exact ⟨settings, candidate, kind, built, found, accepted,
      Upload.prepare_of_sent (Option.mem_toList.1 asked)⟩
  · rintro ⟨settings, candidate, kind, built, found, accepted, prepared⟩
    have selects := selects_iff.2 ⟨settings, candidate, kind, built, found, accepted, rfl⟩
    rw [requests_of_selects selects, asked_select, Upload.exchange_of_prepare_ok prepared]
    exact List.mem_singleton_self request

/-- A review comes of an answer that is one, to the request for the file that was selected. -/
theorem reviews_iff :
    Reviews world options review ↔
      ∃ settings candidate kind request body v,
        Settings.build options.changes = .ok settings ∧
        Client.inspect world.storage options.file = .ok candidate ∧
        Intake.accept candidate settings.accept settings.limit = .ok kind ∧
        Upload.prepare settings candidate kind world.storage = .ok request ∧
        (world.service request).reply.Brings body ∧ Json.parse body = .ok v ∧
        Review.ofResponse v = .ok review := by
  constructor
  · rintro ⟨client, selects, brought⟩
    obtain ⟨settings, candidate, kind, built, found, accepted, rfl⟩ := selects_iff.1 selects
    rw [outcome_select, Upload.Report.answer_ok_iff, Upload.ending_completed_iff] at brought
    obtain ⟨request, body, v, sends, answer⟩ := brought
    exact ⟨settings, candidate, kind, request, body, v, built, found, accepted,
      Upload.prepare_of_sent sends.sent, answer⟩
  · rintro ⟨settings, candidate, kind, request, body, v, built, found, accepted, prepared, answer⟩
    have selects := selects_iff.2 ⟨settings, candidate, kind, built, found, accepted, rfl⟩
    refine ⟨_, selects, ?_⟩
    rw [outcome_select, Upload.Report.answer_ok_iff, Upload.ending_completed_iff]
    refine ⟨request, body, v, Upload.sends_of_sent ?_, answer⟩
    rw [Upload.exchange_of_prepare_ok prepared]

end FormatReview.CommandLine
