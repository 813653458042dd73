import FormatReview.Fault
import FormatReview.Font.TrueType
import FormatReview.Paper.Typeface
import FormatReview.Storage

namespace FormatReview

/-! Fonts for the paper report. -/

structure Font where
  name : String
  content : ByteArray
  face : Font.TrueType

namespace Font

def flawText (flaw : FileFlaw) : String := "not a usable TrueType font: " ++ flaw.text

def ofBytes (name : String) (content : ByteArray) : Except FileFlaw Font := do
  return ⟨name, content, ← TrueType.parse content⟩

/-- The font in a file goes by the name of the file without its extension. -/
def load (storage : Storage) (path : String) : Except Fault Font := do
  let content ← (storage.read (Path.ofText path)).mapError fun problem =>
    .fontLoadFailed path problem.text
  let name := (Path.ofText path).stem?.getD "report-font"
  (ofBytes name content).mapError fun flaw => .fontLoadFailed path (flawText flaw)

/-- Where fonts with Cyrillic letters are usually found. -/
def usualPaths : List String :=
  ["/usr/share/fonts/truetype/dejavu/DejaVuSans.ttf",
    "/usr/share/fonts/dejavu/DejaVuSans.ttf",
    "/usr/share/fonts/TTF/DejaVuSans.ttf",
    "/usr/share/fonts/truetype/liberation/LiberationSans-Regular.ttf",
    "/usr/share/fonts/liberation-sans/LiberationSans-Regular.ttf",
    "/usr/share/fonts/noto/NotoSans-Regular.ttf",
    "/System/Library/Fonts/Supplemental/Arial.ttf",
    "C:\\Windows\\Fonts\\arial.ttf"]

def discover (storage : Storage) : Option String :=
  usualPaths.find? fun path => storage.isFile (Path.ofText path)

def choose (storage : Storage) (asked : Option String) : Except Fault Font :=
  match asked <|> discover storage with
  | some path => load storage path
  | none =>
      .error (.renderFailed "no TrueType font with Cyrillic coverage found; pass --font")

def typeface [Paper.Measure α] (font : Font) : Paper.Typeface α :=
  ⟨font.name, fun c =>
    (font.face.advanceUnits? c).map fun units =>
      Paper.Measure.ofNat units / Paper.Measure.ofNat font.face.unitsPerEm⟩

def text (font : Font) : String :=
  "ReportFont \x7b name: " ++ Text.quoted font.name ++ ", bytes: " ++
    toString font.content.size ++ " \x7d"

end Font

end FormatReview
