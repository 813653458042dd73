import FormatReview.Settings

namespace FormatReview

/-! Settings as JSON records and as one line of text. -/

namespace Endpoints

def toJson : Endpoints → Json
  | .single url => .object [("Single", .string url)]
  | .routed word latex =>
      .object [("Routed", .object [("word", .string word), ("latex", .string latex)])]

def wordField : Json.Field String := .required "word" .string

def latexField : Json.Field String := .required "latex" .string

def routedContent : Option Json → Except Json.Mismatch Endpoints :=
  Json.recordContent [wordField.slot, latexField.slot] fun source => do
    let word ← wordField.read 0 source
    let latex ← latexField.read 1 source
    return .routed word latex

def ofJson : Json.Decoder Endpoints := fun v => do
  let (name, content) ← Json.variant v
  match name with
  | "Single" => (Json.wrappedContent .string content).map .single
  | "Routed" => routedContent content
  | _ => .error (.unknownVariant name ["Single", "Routed"])

def text : Endpoints → String
  | .single url => "Single(" ++ Text.quoted url ++ ")"
  | .routed word latex =>
      "Routed \x7b word: " ++ Text.quoted word ++ ", latex: " ++ Text.quoted latex ++ " \x7d"

end Endpoints

namespace ReportSettings

def titleField : Json.Field String := .required "title" .string

def filenameField : Json.Field String := .required "filename" .path

def fontField : Json.Field (Option String) := .nullable "font_path" .path

def fontSizeField : Json.Field Float32 := .required "font_size" .single

def contextWidthField : Json.Field Nat := .required "context_display_width" .size

def pageSizeField : Json.Field Nat := .required "page_size" .size

def ofJson : Json.Decoder ReportSettings :=
  Json.record "ReportConfig"
    [titleField.slot, filenameField.slot, fontField.slot, fontSizeField.slot,
      contextWidthField.slot, pageSizeField.slot]
    fun source => do
      let title ← titleField.read 0 source
      let filename ← filenameField.read 1 source
      let font ← fontField.read 2 source
      let fontSize ← fontSizeField.read 3 source
      let contextWidth ← contextWidthField.read 4 source
      let pageSize ← pageSizeField.read 5 source
      return ⟨title, filename, font, fontSize, contextWidth, pageSize⟩

/-- The fewest digits, with a point, positional from four places after it to sixteen before. -/
def sizeForm : Decimal.Form := ⟨some (-4), some 15, true, false, .up⟩

def optionText (write : α → String) : Option α → String
  | none => "None"
  | some a => "Some(" ++ write a ++ ")"

def text (report : ReportSettings) : String :=
  "ReportConfig \x7b title: " ++ Text.quoted report.title ++
    ", filename: " ++ Text.quoted report.filename ++
    ", font_path: " ++ optionText Text.quoted report.font ++
    ", font_size: " ++ sizeForm.write (Decimal.ofSingle report.fontSize) ++
    ", context_display_width: " ++ toString report.contextWidth ++
    ", page_size: " ++ toString report.pageSize ++ " \x7d"

end ReportSettings

namespace Settings

def observerText (settings : Settings) : String :=
  if settings.observed then "Some(" ++ Text.quoted "<dyn UploadProgressCallback>" ++ ")" else "None"

def text (settings : Settings) : String :=
  "ValidatorConfig \x7b endpoints: " ++ settings.endpoints.text ++
    ", accept: " ++ settings.accept.tag ++
    ", max_upload_bytes: " ++ toString settings.limit ++
    ", field_name: " ++ Text.quoted settings.fieldName ++
    ", upload_timeout_secs: " ++ toString settings.timeout ++
    ", progress_callback: " ++ settings.observerText ++
    ", report: " ++ settings.report.text ++ " \x7d"

end Settings

end FormatReview
