import FormatReview.Client
import FormatReview.CommandLine.Views
import FormatReview.Export

namespace FormatReview.CommandLine

/-! The whole program: arguments and files in, text, an exit code and changed files out. -/

/-- What a run of the program does, with all requests in the order in which they are made. -/
structure Transcript where
  code : UInt8
  output : String
  messages : String
  requests : List Upload.Request
  changes : List Storage.Change

/-- What a run of the program meets. -/
structure World where
  environment : Environment
  storage : Storage
  service : Upload.Service
  colour : Bool

def versionText : String := "thesis-check 0.3.0"

def helpText : String :=
  "Upload a thesis template (.docx or .tex) for formatting validation and show the report\n\n" ++
    "Usage: thesis-check [OPTIONS] <FILE>\n\nOptions:\n" ++
    String.join (Key.options.map fun key => "      --" ++ key.name ++ " <VALUE>\n") ++
    String.join (Switch.options.map fun switch => "      --" ++ switch.name ++ "\n") ++
    "  -h, --help\n  -V, --version\n"

/-! Errors are told with what was being done, and their causes below. -/

def indented (indent text : String) : String := text.replace "\n" ("\n" ++ indent)

def causesText (fault : Fault) : String :=
  match fault.cause? with
  | none => "    " ++ indented "    " fault.text
  | some cause =>
      "    0: " ++ indented "       " fault.text ++ "\n    1: " ++ indented "       " cause

def errorText (attempt : String) (fault : Fault) : String :=
  line ("Error: " ++ attempt ++ "\n\nCaused by:\n" ++ causesText fault)

def failed (attempt : String) (fault : Fault) (output messages : String)
    (requests : List Upload.Request) (changes : List Storage.Change) : Transcript :=
  ⟨1, output, messages ++ errorText attempt fault, requests, changes⟩

def Options.paths (options : Options) : List Path :=
  let report := Path.ofText options.report
  [Path.ofText options.file, report, report.withExtension Export.temporaryExtension] ++
    (options.font.elim Font.usualPaths fun font => [font]).map Path.ofText

/-! The steps of a run. -/

def selectedText (options : Options) (kind : DocumentKind) : String :=
  if options.quiet || options.json then ""
  else line (cyan "◆" ++ " " ++ bold options.file ++ " " ++ dim ("(" ++ kind.label ++ ")"))

/-- What an observer of the upload writes in the end. -/
def finishedText (calls : List Upload.Call) : String :=
  String.join (calls.map fun
    | .complete _ 0 => line (green "✔" ++ " no formatting errors found")
    | .complete _ findings =>
        line (cyan "◆" ++ " " ++ bold (toString findings) ++ " formatting error(s) found")
    | _ => "")

def writtenText (options : Options) (extent : Paper.Extent) : String :=
  if options.quiet then ""
  else
    line (green "✔" ++ " " ++ bold options.report ++ " " ++
      dim ("(" ++ toString extent.rows ++ " rows, " ++ toString extent.pages ++ " page(s))"))

def exportStep (world : World) (options : Options) (report : ReportSettings) (review : Review)
    (output messages : String) (requests : List Upload.Request) : Transcript :=
  if options.noPdf then ⟨0, output, messages, requests, []⟩
  else
    let written := Export.write world.storage review report report.filename
    match written.outcome with
    | .error fault => failed "PDF export failed" fault output messages requests written.changes
    | .ok extent => ⟨0, output, messages ++ writtenText options extent, requests, written.changes⟩

def uploadStep (world : World) (options : Options) (client : Client) (messages : String) :
    Transcript :=
  let finished := client.upload world.storage world.service
  let requests := (finished.run.bind (·.request)).toList
  let messages := messages ++ finishedText ((finished.run.map (·.calls)).getD [])
  match finished.outcome with
  | .error fault => failed "Validation failed" fault "" messages requests []
  | .ok review =>
      let report := client.settings.report
      exportStep world options report review (resultText options report review world.colour)
        messages requests

def selectStep (world : World) (options : Options) (settings : Settings) : Transcript :=
  match (Client.start settings).select world.storage options.file with
  | (.ok kind, client) => uploadStep world options client (selectedText options kind)
  | (.error (.intakeRejected rejection), _) =>
      ⟨2, "", line (red "✘" ++ " " ++ rejection.text), [], []⟩
  | (.error fault, _) => failed "Failed to read the selected file" fault "" "" [] []

def runOptions (world : World) (options : Options) : Transcript :=
  match Settings.build options.changes with
  | .error flaw => failed "Invalid configuration" (.invalidSettings flaw.text) "" "" [] []
  | .ok settings => selectStep world options settings

def halted : Halt → Transcript
  | .version => ⟨0, line versionText, "", [], []⟩
  | .help => ⟨0, helpText, "", [], []⟩
  | .nothingGiven => ⟨2, "", helpText, [], []⟩
  | .misuse misuse => ⟨2, "", line ("error: " ++ misuse.text), [], []⟩

def run (arguments : List String) (world : World) : Transcript :=
  match Options.parse arguments world.environment with
  | .error halt => halted halt
  | .ok options => runOptions world options

end FormatReview.CommandLine
