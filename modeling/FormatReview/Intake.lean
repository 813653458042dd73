import FormatReview.Document
import FormatReview.Path
import FormatReview.Text.Case

namespace FormatReview

/-! The gate before an upload: a file is described, and accepted by its type and its size. -/

structure Candidate where
  name : String
  mediaType : String
  size : UInt64
  extension : String
  path : String
  deriving DecidableEq, Repr

inductive Rejection where
  | unsupportedType (name expected : String)
  | tooLarge (name : String) (size limit : UInt64)
  deriving DecidableEq, Repr

def Rejection.text : Rejection → String
  | .unsupportedType name expected =>
      "unsupported file type: '" ++ name ++ "' (expected " ++ expected ++ ")"
  | .tooLarge name size limit =>
      "file too large: '" ++ name ++ "' is " ++ toString size ++ " bytes, limit is " ++
        toString limit ++ " bytes"

namespace Candidate

def wordType : String := "application/vnd.openxmlformats-officedocument.wordprocessingml.document"

def lowerExtension (name : String) : String :=
  match Path.extensionOf? name with
  | none => ""
  | some extension => Text.lower extension

/-- Describes a file by its path, without looking at it. -/
def describe (path mediaType : String) (size : UInt64) : Candidate :=
  let name := (Path.ofText path).name?.getD ""
  ⟨name, mediaType, size, lowerExtension name, path⟩

def lowerAscii (text : String) : List Char := text.toList.map Char.toLower

/-- Word is told by its media type, whatever the case of its letters; LaTeX by the extension. -/
def kind? (candidate : Candidate) : Option DocumentKind :=
  if lowerAscii candidate.mediaType = lowerAscii wordType then some .word
  else if candidate.extension = "tex" then some .latex
  else none

def mediaTypes : List (String × String) :=
  [("docx", wordType), ("tex", "application/x-tex"), ("latex", "application/x-latex"),
    ("pdf", "application/pdf"), ("doc", "application/msword"), ("txt", "text/plain"),
    ("odt", "application/vnd.oasis.opendocument.text"), ("rtf", "application/rtf"),
    ("zip", "application/zip"), ("html", "text/html"), ("md", "text/markdown"),
    ("docm", "application/vnd.ms-word.document.macroEnabled.12"),
    ("dotx", "application/vnd.openxmlformats-officedocument.wordprocessingml.template")]

def guessMediaType (path : String) : String :=
  match (Path.ofText path).extension? with
  | none => "application/octet-stream"
  | some extension =>
      (mediaTypes.lookup (String.ofList (lowerAscii extension))).getD "application/octet-stream"

def toJson (candidate : Candidate) : Json :=
  .object [("name", .string candidate.name), ("mime_type", .string candidate.mediaType),
    ("size_bytes", .word candidate.size), ("extension", .string candidate.extension),
    ("path", .string candidate.path)]

def nameField : Json.Field String := .required "name" .string

def mediaTypeField : Json.Field String := .required "mime_type" .string

def sizeField : Json.Field UInt64 := .required "size_bytes" .word

def extensionField : Json.Field String := .required "extension" .string

def pathField : Json.Field String := .required "path" .path

def ofJson : Json.Decoder Candidate :=
  Json.record "UploadCandidate"
    [nameField.slot, mediaTypeField.slot, sizeField.slot, extensionField.slot, pathField.slot]
    fun source => do
      let name ← nameField.read 0 source
      let mediaType ← mediaTypeField.read 1 source
      let size ← sizeField.read 2 source
      let extension ← extensionField.read 3 source
      let path ← pathField.read 4 source
      return ⟨name, mediaType, size, extension, path⟩

end Candidate

namespace Intake

/-- The type counts before the size: a file of the wrong type is refused as such at any size. -/
def accept (candidate : Candidate) (policy : AcceptPolicy) (limit : UInt64) :
    Except Rejection DocumentKind :=
  match candidate.kind?.filter policy.allows with
  | none => .error (.unsupportedType candidate.name policy.describe)
  | some kind =>
      if limit ≤ candidate.size then .error (.tooLarge candidate.name candidate.size limit)
      else .ok kind

end Intake

namespace Rejection

def toJson : Rejection → Json
  | .unsupportedType name expected =>
      .object [("UnsupportedFileType",
        .object [("name", .string name), ("expected", .string expected)])]
  | .tooLarge name size limit =>
      .object [("FileTooLarge",
        .object [("name", .string name), ("size", .word size), ("limit", .word limit)])]

def nameField : Json.Field String := .required "name" .string

def expectedField : Json.Field String := .required "expected" .string

def sizeField : Json.Field UInt64 := .required "size" .word

def limitField : Json.Field UInt64 := .required "limit" .word

def unsupportedContent : Option Json → Except Json.Mismatch Rejection :=
  Json.recordContent [nameField.slot, expectedField.slot] fun source => do
    let name ← nameField.read 0 source
    let expected ← expectedField.read 1 source
    return .unsupportedType name expected

def tooLargeContent : Option Json → Except Json.Mismatch Rejection :=
  Json.recordContent [nameField.slot, sizeField.slot, limitField.slot] fun source => do
    let name ← nameField.read 0 source
    let size ← sizeField.read 1 source
    let limit ← limitField.read 2 source
    return .tooLarge name size limit

def ofJson : Json.Decoder Rejection := fun v => do
  let (name, content) ← Json.variant v
  match name with
  | "UnsupportedFileType" => unsupportedContent content
  | "FileTooLarge" => tooLargeContent content
  | _ => .error (.unknownVariant name ["UnsupportedFileType", "FileTooLarge"])

end Rejection

end FormatReview
