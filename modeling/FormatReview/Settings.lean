import FormatReview.Decimal.Form
import FormatReview.Document
import FormatReview.Text.Blank

namespace FormatReview

/-! Settings of a review: where documents go, which are accepted, and how the report looks. They
start from defaults, are changed one by one, and are checked in the end. -/

inductive Endpoints where
  | single (url : String)
  | routed (word latex : String)
  deriving DecidableEq, Repr

namespace Endpoints

def urlFor : Endpoints → DocumentKind → String
  | .single url, _ => url
  | .routed word _, .word => word
  | .routed _ latex, .latex => latex

def urls : Endpoints → List String
  | .single url => [url]
  | .routed word latex => [word, latex]

def standardWord : String := "http://localhost:8080/api/validate/docx"

def standardLatex : String := "http://localhost:5000/api/validate/latex"

def standard : Endpoints := .routed standardWord standardLatex

@[simp] theorem urlFor_single (url : String) (kind : DocumentKind) :
    (single url).urlFor kind = url := by
  cases kind <;> rfl

@[simp] theorem urlFor_word (word latex : String) : (routed word latex).urlFor .word = word := rfl

@[simp] theorem urlFor_latex (word latex : String) :
    (routed word latex).urlFor .latex = latex := rfl

end Endpoints

/-- The looks of the table and the paper report. The size of the body text is in points. -/
structure ReportSettings where
  title : String
  filename : String
  font : Option String
  fontSize : Float32
  contextWidth : Nat
  pageSize : Nat

namespace ReportSettings

def pageSizes : List Nat := [5, 10, 20, 50]

def smallestPage : Nat := 5

def standard : ReportSettings :=
  ⟨"Отчет о проверке шаблона ВКР", "validation_report.pdf", none, 10.0, 40, smallestPage⟩

end ReportSettings

/-- Somebody who is told how an upload goes, known by name. -/
structure Observer where
  name : String
  deriving DecidableEq, Repr

/-- A file of `limit` bytes is already too large. Progress is reported if somebody observes. -/
structure Settings where
  endpoints : Endpoints
  accept : AcceptPolicy
  limit : UInt64
  fieldName : String
  timeout : UInt64
  observer : Option Observer
  report : ReportSettings

inductive Setting where
  | endpoints (endpoints : Endpoints)
  | accept (policy : AcceptPolicy)
  | limit (bytes : UInt64)
  | fieldName (name : String)
  | timeout (seconds : UInt64)
  | observer (observer : Observer)
  | report (report : ReportSettings)
  | title (text : String)
  | font (path : String)
  | filename (path : String)
  | pageSize (rows : Nat)

namespace Settings

def standardLimit : UInt64 := 5 * 1024 * 1024

def standardTimeout : UInt64 := 120

def standard : Settings :=
  ⟨.standard, .both, standardLimit, "file", standardTimeout, none, .standard⟩

def observed (settings : Settings) : Bool := settings.observer.isSome

def set (settings : Settings) : Setting → Settings
  | .endpoints endpoints => { settings with endpoints := endpoints }
  | .accept policy => { settings with accept := policy }
  | .limit bytes => { settings with limit := bytes }
  | .fieldName name => { settings with fieldName := name }
  | .timeout seconds => { settings with timeout := max seconds 1 }
  | .observer observer => { settings with observer := some observer }
  | .report report => { settings with report := report }
  | .title text => { settings with report := { settings.report with title := text } }
  | .font path => { settings with report := { settings.report with font := some path } }
  | .filename path => { settings with report := { settings.report with filename := path } }
  | .pageSize rows => { settings with report := { settings.report with pageSize := rows } }

def setAll (settings : Settings) (changes : List Setting) : Settings := changes.foldl set settings

@[simp] theorem setAll_nil (settings : Settings) : settings.setAll [] = settings := rfl

@[simp] theorem setAll_cons (settings : Settings) (change : Setting) (changes : List Setting) :
    settings.setAll (change :: changes) = (settings.set change).setAll changes := rfl

inductive Flaw where
  | noRoom
  | noFieldName
  | endpoint (url : String)
  | pageSize (rows : Nat)
  | fontSize (points : Float32)

/-- Plain digits without an exponent, and no point after a whole number. -/
def Flaw.sizeForm : Decimal.Form := ⟨none, none, false, false, .up⟩

def Flaw.text : Flaw → String
  | .noRoom => "max upload size must be > 0 bytes"
  | .noFieldName => "multipart field name must not be empty"
  | .endpoint url => "endpoint must be an HTTP/HTTPS URL, got '" ++ url ++ "'"
  | .pageSize rows =>
      "page size must be one of [" ++
        String.intercalate ", " (ReportSettings.pageSizes.map toString) ++ "], got " ++
        toString rows
  | .fontSize points =>
      "report font size must be positive, got " ++ Flaw.sizeForm.write (Decimal.ofSingle points)

def isWebAddress (url : String) : Bool :=
  ["http://", "https://"].any fun scheme => scheme.toList.isPrefixOf url.toList

def limitFlaw? (settings : Settings) : Option Flaw :=
  if settings.limit = 0 then some .noRoom else none

def fieldFlaw? (settings : Settings) : Option Flaw :=
  if Text.hasWord settings.fieldName then none else some .noFieldName

def endpointFlaw? (settings : Settings) : Option Flaw :=
  (settings.endpoints.urls.find? fun url => !isWebAddress url).map .endpoint

def pageFlaw? (settings : Settings) : Option Flaw :=
  if settings.report.pageSize ∈ ReportSettings.pageSizes then none
  else some (.pageSize settings.report.pageSize)

def fontFlaw? (settings : Settings) : Option Flaw :=
  if settings.report.fontSize ≤ 0 then some (.fontSize settings.report.fontSize) else none

def flaw? (settings : Settings) : Option Flaw :=
  settings.limitFlaw? <|> settings.fieldFlaw? <|> settings.endpointFlaw? <|>
    settings.pageFlaw? <|> settings.fontFlaw?

def checked (settings : Settings) : Except Flaw Settings :=
  match settings.flaw? with
  | some flaw => .error flaw
  | none => .ok settings

def build (changes : List Setting) : Except Flaw Settings := (standard.setAll changes).checked

end Settings

end FormatReview
