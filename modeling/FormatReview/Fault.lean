import FormatReview.Intake
import FormatReview.Text.Quoted

namespace FormatReview

/-! Everything that can go wrong, and how it is told. -/

/-- What was asked for while there was nothing to do it with, and what was missing. -/
structure Wish where
  action : String
  obstacle : String
  deriving DecidableEq, Repr

namespace Wish

def upload : Wish := ⟨"upload", "no file selected"⟩

def showing : Wish := ⟨"show", "no validation result yet"⟩

def exporting : Wish := ⟨"export", "no validation result yet"⟩

end Wish

inductive Fault where
  | intakeRejected (rejection : Rejection)
  | fileNotFound (path : String)
  | permissionDenied (path : String)
  | notReady (wish : Wish)
  | uploadFailed (url : String) (status : Option UInt16) (reason : String)
  | malformedResponse (detail : String)
  | renderFailed (detail : String)
  | fontLoadFailed (path detail : String)
  | reportWriteFailed (path cause : String)
  | invalidSettings (detail : String)
  | internal (detail : String)
  deriving DecidableEq, Repr

namespace Fault

def text : Fault → String
  | .intakeRejected rejection => rejection.text
  | .fileNotFound path =>
      "File not found: '" ++ path ++ "'\nCheck the path exists and is readable."
  | .permissionDenied path =>
      "Permission denied reading '" ++ path ++ "'\nTry: chmod +r " ++ Text.quoted path
  | .notReady wish => "Nothing to " ++ wish.action ++ ": " ++ wish.obstacle
  | .uploadFailed url _ reason =>
      "Upload to '" ++ url ++ "' failed: " ++ reason ++
        "\nCheck the validation service is running, then try again."
  | .malformedResponse detail =>
      "Validation service returned an unrecognised response: " ++ detail
  | .renderFailed detail => "PDF report generation failed: " ++ detail
  | .fontLoadFailed path detail =>
      "Failed to load report font '" ++ path ++ "': " ++ detail ++
        "\nPass --font with a TrueType font that covers Cyrillic text."
  | .reportWriteFailed path cause => "Failed to write report '" ++ path ++ "': " ++ cause
  | .invalidSettings detail => "Invalid configuration: " ++ detail
  | .internal detail => "Internal error: " ++ detail

/-- The fault is overcome by uploading again. -/
def isUploadFailure : Fault → Bool
  | .uploadFailed .. => true
  | _ => false

/-- The fault beneath this one, where it is told apart from it. -/
def cause? : Fault → Option String
  | .reportWriteFailed _ cause => some cause
  | _ => none

end Fault

end FormatReview
