import FormatReview.Proofs.CommandLine.Course

namespace FormatReview

/-! What a run prints hangs on the review and on the options for showing it. The report that is
written afterwards has no part in it. -/

namespace Settings

theorem checked_withReport (settings : Settings) (report : ReportSettings)
    (rows : report.pageSize = settings.report.pageSize)
    (points : report.fontSize = settings.report.fontSize) :
    (settings.withReport report).checked = settings.checked.map (·.withReport report) := by
  have flaws : (settings.withReport report).flaw? = settings.flaw? := by
    rw [withReport]
    simp only [flaw?, limitFlaw?, fieldFlaw?, endpointFlaw?, pageFlaw?, fontFlaw?, rows, points]
  rw [checked, checked, flaws]
  cases settings.flaw? <;> rfl

end Settings

namespace CommandLine

section Alike

variable {world other : World} {options : Options} {review : Review}

structure Options.SameViews (options others : Options) : Prop where
  all : others.all = options.all
  page : others.page = options.page
  pageSize : others.pageSize = options.pageSize
  noChart : others.noChart = options.noChart
  quiet : others.quiet = options.quiet
  json : others.json = options.json

theorem Options.SameViews.text {others : Options} (same : options.SameViews others)
    (colour : other.colour = world.colour) (review : Review) :
    other.text others review = world.text options review := by
  simp only [World.text, resultText, views, tableView, chartView, totalsView,
    Options.reportSettings, same.all, same.page, same.pageSize, same.noChart, same.quiet, same.json,
    colour]

theorem Options.SameViews.output {others : Options} (same : options.SameViews others)
    (colour : other.colour = world.colour)
    (alike : ∀ review, Reviews other others review ↔ Reviews world options review) :
    (runOptions other others).output = (runOptions world options).output := by
  by_cases brought : ∃ review, Reviews world options review
  · obtain ⟨review, reviews⟩ := brought
    rw [output_of_reviews reviews, output_of_reviews ((alike review).2 reviews),
      same.text colour]
  · have without (review : Review) : ¬Reviews world options review := fun reviews =>
      brought ⟨review, reviews⟩
    rw [(course_runOptions world options).output_of_no_review without,
      (course_runOptions other others).output_of_no_review fun review reviews =>
        without review ((alike review).1 reviews)]

namespace Options

/-- The options of a run that may differ where they concern the written report. -/
def exporting (options : Options) (noPdf : Bool) (report : String) (font title : Option String) :
    Options :=
  { options with noPdf := noPdf, report := report, font := font, title := title }

variable {noPdf : Bool} {report : String} {font title : Option String}

theorem settings_exporting :
    (options.exporting noPdf report font title).settings =
      options.settings.withReport (options.exporting noPdf report font title).reportSettings := rfl

theorem sameViews_exporting : options.SameViews (options.exporting noPdf report font title) :=
  ⟨rfl, rfl, rfl, rfl, rfl, rfl⟩

end Options

section Exporting

variable (noPdf : Bool) (report : String) (font title : Option String)

theorem build_exporting {settings : Settings}
    (built : Settings.build options.changes = .ok settings) :
    let others := options.exporting noPdf report font title
    Settings.build others.changes = .ok (settings.withReport others.reportSettings) := by
  intro others
  rw [Options.build_changes] at built ⊢
  rw [Options.settings_exporting,
    options.settings.checked_withReport others.reportSettings rfl rfl, built]
  rfl

theorem reviews_exporting (service : other.service = world.service)
    (look : other.storage.look (.ofText options.file) = world.storage.look (.ofText options.file))
    (reviews : Reviews world options review) :
    Reviews other (options.exporting noPdf report font title) review := by
  obtain ⟨client, ⟨settings, kind, built, selected⟩, brought⟩ := reviews
  let others := options.exporting noPdf report font title
  refine ⟨client.withReport others.reportSettings, ⟨_, kind, build_exporting _ _ _ _ built, ?_⟩, ?_⟩
  · calc
      ((Client.start settings).withReport others.reportSettings).select other.storage options.file
      _ = ((Client.start settings).withReport others.reportSettings).select world.storage
            options.file := Client.select_congr look _
      _ = (.ok kind, client.withReport others.reportSettings) := by
          rw [Client.select_withReport, selected]
  · rw [Client.outcome_upload_withReport, service, Client.upload_congr_of_select selected look,
      brought]

theorem reviews_exporting_iff (service : other.service = world.service)
    (look : other.storage.look (.ofText options.file) = world.storage.look (.ofText options.file)) :
    Reviews other (options.exporting noPdf report font title) review ↔
      Reviews world options review :=
  -- With their own values put back, the changed options are the first ones again.
  ⟨reviews_exporting options.noPdf options.report options.font options.title service.symm look.symm,
    reviews_exporting noPdf report font title service look⟩

end Exporting

end Alike

/-- A run on options that were understood. What it prints hangs on the review that its upload brings
and on the options for showing it, and on nothing that has to do with the report that is written
afterwards. It makes one request at most, the one prepared for the file that the gate accepted. Its
code tells whether that gate rejected the file, and whether all that was asked for was done; where
it was not, the file at the place of the report is the same at every moment. -/
theorem output_free_of_report {arguments : List String} {world : World} {options : Options}
    (parsed : Options.parse arguments world.environment = .ok options) :
    let transcript := run arguments world
    (∀ (more : List String) (other : World) (others : Options),
      Options.parse more other.environment = .ok others → options.SameViews others →
      other.colour = world.colour →
      (∀ review, Reviews other others review ↔ Reviews world options review) →
      (run more other).output = transcript.output) ∧
    (∀ (more : List String) (other : World) (noPdf : Bool) (report : String)
      (font title : Option String),
      Options.parse more other.environment = .ok (options.exporting noPdf report font title) →
      other.colour = world.colour → other.service = world.service →
      other.storage.look (.ofText options.file) = world.storage.look (.ofText options.file) →
      (run more other).output = transcript.output) ∧
    transcript.requests.length ≤ 1 ∧
    (∀ request, request ∈ transcript.requests ↔
      ∃ settings candidate kind, Settings.build options.changes = .ok settings ∧
        Client.inspect world.storage options.file = .ok candidate ∧
        Intake.accept candidate settings.accept settings.limit = .ok kind ∧
        Upload.prepare settings candidate kind world.storage = .ok request) ∧
    (∀ flaw, Settings.build options.changes = .error flaw → transcript.requests = []) ∧
    (∀ rejection, Rejects world options rejection → transcript.requests = []) ∧
    ((∀ review, ¬Reviews world options review) → transcript.output = "") ∧
    (options.json = true → ∀ review, Reviews world options review →
      transcript.output = line review.toJson.pretty) ∧
    (transcript.code = 2 ↔ ∃ rejection, Rejects world options rejection) ∧
    (transcript.code = 0 ↔ ∃ review, Reviews world options review ∧
      (options.noPdf = true ∨ ∃ extent, (world.write options review).outcome = .ok extent)) ∧
    (transcript.code = 0 ∨ transcript.code = 1 ∨ transcript.code = 2) ∧
    (world.storage.IsTree → transcript.code ≠ 0 →
      ∀ early late, world.storage.Moment transcript.changes early →
        world.storage.Moment transcript.changes late →
      ∀ location, early.follow (.ofText options.report) = .ok location →
        late.file? location = world.storage.file? location) := by
  intro transcript
  have went : transcript = runOptions world options := by
    simp only [transcript, run, parsed]
  have course : Course world options transcript := went ▸ course_runOptions world options
  refine ⟨?_, ?_, course.length_requests, ?_, ?_, ?_, course.output_of_no_review, ?_, ?_, ?_,
    course.code_cases, ?_⟩
  · intro more other others again same colour alike
    rw [went, run, again]
    exact same.output colour alike
  · intro more other noPdf report font title again colour service look
    rw [went, run, again]
    exact Options.sameViews_exporting.output colour fun review =>
      reviews_exporting_iff noPdf report font title service look
  · intro request
    rw [went, mem_requests_iff]
  · intro flaw flawed
    rw [went, requests_of_misconfigured flawed]
  · intro rejection rejects
    obtain ⟨messages, rejected⟩ := runOptions_of_rejects rejects
    rw [went, rejected]
  · intro json review reviews
    rw [went, output_of_reviews reviews, World.text, resultText, if_pos json]
  · refine ⟨course.rejects_of_code, fun ⟨rejection, rejects⟩ => ?_⟩
    obtain ⟨messages, rejected⟩ := runOptions_of_rejects rejects
    rw [went, rejected]
  · refine ⟨course.reviews_of_code, fun ⟨review, reviews, done⟩ => ?_⟩
    rw [went, code_of_reviews reviews done]
  · -- No change moves `home`, so a path leads to one place at all times.
    intro tree stopped early late begun ended location followed
    rw [Storage.place_of_follow followed, Storage.place_of_home begun.home]
    exact course.file?_of_code tree stopped ended

/-! With an empty environment only the arguments count. -/

theorem foldlM_ok {α β ε : Type} {step : β → α → Except ε β} {b : β}
    (still : ∀ a, step b a = .ok b) (list : List α) : list.foldlM step b = .ok b := by
  induction list with
  | nil => rfl
  | cons first rest ih =>
      rw [List.foldlM_cons, still]
      exact ih

theorem Given.complete_nil (given : Given) : given.complete [] = .ok given := by
  have values (key : Key) : completeValue [] given key = .ok given := by
    rw [completeValue]
    split <;> rfl
  have switches (switch : Switch) : completeSwitch [] given switch = .ok given := by
    rw [completeSwitch]
    split <;> rfl
  rw [complete, foldlM_ok values]
  exact foldlM_ok switches _

theorem Options.parse_nil {arguments : List String} {given : Given} {file : String}
    (added : Given.empty.add arguments = .ok given) (named : given.file = some file)
    (single : given.conflicting = false) :
    parse arguments [] = .ok (ofGiven given file) := by
  have something : given.isEmpty = false := by simp [Given.isEmpty, named]
  simp [parse, added, given.complete_nil, something, single, named, bind, Except.bind, pure,
    Except.pure]

namespace Fontless

/-! A run on a file without errors, for a report in a font that is not there. -/

def storage : Storage :=
  { home := [], entries := [(["old.pdf"], .file ⟨#[37]⟩), (["a.tex"], .file ⟨#[120, 121]⟩)] }

def world : World := ⟨[], storage, fun _ => ⟨1, .complete 200 "[]".toUTF8, []⟩, false⟩

def arguments : List String :=
  ["/a.tex", "--endpoint=http://[::1]/", "--font=/none", "--report=/old.pdf"]

def given : Given :=
  ⟨some "/a.tex", [(.report, "/old.pdf"), (.font, "/none"), (.endpoint, "http://[::1]/")], []⟩

def options : Options := .ofGiven given "/a.tex"

theorem parsed : Options.parse arguments world.environment = .ok options := by
  have added : Given.empty.add arguments = .ok given := by cbv
  exact Options.parse_nil added rfl rfl

theorem reviews : Reviews world options (.ofFindings []) := by
  let candidate : Candidate := ⟨"a.tex", "application/x-tex", 2, "tex", "/a.tex"⟩
  have sound : options.settings.flaw? = none := by rfl
  have built : Settings.build options.changes = .ok options.settings := by
    rw [Options.build_changes, Settings.checked, sound]
  have found : storage.look (.ofText "/a.tex") = .ok (.file ⟨#[120, 121]⟩) := by cbv
  have guessed : Candidate.guessMediaType "/a.tex" = "application/x-tex" := by cbv
  have described : Client.inspect storage "/a.tex" = .ok candidate := by
    rw [Client.inspect, found, guessed]
    cbv
  have kind : candidate.kind? = some .latex := by decide
  have accepted : Intake.accept candidate options.settings.accept options.settings.limit =
      .ok .latex := by
    rw [Intake.accept, kind]
    rfl
  have typed : Web.isMediaType candidate.mediaType = true := by cbv
  have sendable : (Web.Address.ofText? "http://[::1]/").any Web.Address.isUsable = true := by cbv
  obtain ⟨address, addressed, usable⟩ := (Option.any_eq_true _ _).1 sendable
  have prepared := Upload.prepare_of_sendable options.settings .latex candidate
    (Upload.read_of_look found) (by decide) typed addressed usable
  have answered : Json.parse "[]".toUTF8 = .ok (.array []) := by cbv
  exact reviews_iff.2 ⟨options.settings, candidate, .latex, _, _, _, built, described, accepted,
    prepared, ⟨200, rfl, rfl⟩, answered, rfl⟩

theorem write_eq :
    world.write options (.ofFindings []) =
      ⟨[], .error (.fontLoadFailed "/none" Storage.Problem.missing.text)⟩ := by
  have fontless : Font.choose storage (some "/none") =
      .error (.fontLoadFailed "/none" Storage.Problem.missing.text) := by cbv
  exact Export.write_of_fontless fontless _ _

end Fontless

open Fontless in
/-- Without the font that it names a run fails, but only after it has printed what a run without a
report prints. An older report stays. -/
theorem output_free_of_report_of_missing_font :
    let transcript := run arguments world
    transcript.output = line (green "No formatting errors.") ∧ transcript.code = 1 ∧
    (run ["/a.tex", "--endpoint=http://[::1]/", "--no-pdf"] world).output = transcript.output ∧
    ∀ late, storage.Moment transcript.changes late → late.file? ["old.pdf"] = some ⟨#[37]⟩ := by
  intro transcript
  have went : transcript = runOptions world options := by
    simp only [transcript, run, parsed]
  have code : transcript.code = 1 := by
    rw [went, code_of_unwritten reviews rfl (congrArg Export.Written.outcome write_eq)]
  have shown : transcript.output = line (green "No formatting errors.") := by
    rw [went, output_of_reviews reviews]
    rfl
  have bare : Given.empty.add ["/a.tex", "--endpoint=http://[::1]/", "--no-pdf"] =
      .ok ⟨some "/a.tex", [(.endpoint, "http://[::1]/")], [(.noPdf, true)]⟩ := by cbv
  have parsedBare : Options.parse ["/a.tex", "--endpoint=http://[::1]/", "--no-pdf"]
      world.environment = .ok (options.exporting true "validation_report.pdf" none none) :=
    Options.parse_nil bare rfl rfl
  have tree : storage.IsTree := .of_flat rfl (by simp [storage])
  have place : storage.follow (.ofText "/old.pdf") = .ok ["old.pdf"] := by cbv
  obtain ⟨-, alike, -, -, -, -, -, -, -, -, -, kept⟩ := output_free_of_report parsed
  refine ⟨shown, code, alike _ world _ _ _ _ parsedBare rfl rfl rfl, fun late ended => ?_⟩
  exact kept tree (by rw [code]; decide) storage late .now ended _ place

end CommandLine

end FormatReview
