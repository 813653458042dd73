import FormatReview.Paper.Layout
import FormatReview.Paper.Pdf
import FormatReview.Settings

namespace FormatReview

/-! Writing the report file. The file is first written beside its place and then moved there, so
that there is never a part of a report. -/

namespace Export

structure Printed where
  extent : Paper.Extent
  file : ByteArray

def print (storage : Storage) (review : Review) (report : ReportSettings) :
    Except Fault Printed := do
  let font ← Font.choose storage report.font
  let (result, document) := (Paper.drawReport Paper.Document.canvas font.typeface report.title
    report.fontSize review.findings).run.run (.empty report.title font)
  return ⟨← result, document.bytes⟩

def temporaryExtension : String := "pdf.tmp"

/-- The changes that bring a file to its place, as far as they succeed. -/
def replacing (storage : Storage) (path : Path) (content : ByteArray) :
    List Storage.Change × Option Storage.Problem :=
  let (folders, problem) := storage.makingFolders path.folders
  match problem with
  | some problem => (folders, some problem)
  | none =>
      let temporary := path.withExtension temporaryExtension
      let (writes, problem) := (storage.makeAll folders).writing temporary content
      match problem with
      | some problem => (folders ++ writes, some problem)
      | none =>
          match (storage.makeAll (folders ++ writes)).moving temporary path with
          | .error problem => (folders ++ writes, some problem)
          | .ok moves => (folders ++ writes ++ moves, none)

structure Written where
  changes : List Storage.Change
  outcome : Except Fault Paper.Extent

def write (storage : Storage) (review : Review) (report : ReportSettings) (path : String) :
    Written :=
  match print storage review report with
  | .error fault => ⟨[], .error fault⟩
  | .ok printed =>
      match replacing storage (Path.ofText path) printed.file with
      | (changes, none) => ⟨changes, .ok printed.extent⟩
      | (changes, some problem) => ⟨changes, .error (.reportWriteFailed path problem.text)⟩

end Export

end FormatReview
