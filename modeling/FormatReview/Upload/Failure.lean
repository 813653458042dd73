import FormatReview.Fault

namespace FormatReview.Upload

/-! Why an upload brought no review, in the few words that travel with its events. -/

inductive Failure where
  | transport (url : String) (status : Option UInt16) (reason : String)
  | malformed (detail : String)
  | refused (rejection : Rejection)
  deriving DecidableEq, Repr

namespace Failure

def ofFault (url : String) : Fault → Failure
  | .uploadFailed sentTo status reason => .transport sentTo status reason
  | .malformedResponse detail => .malformed detail
  | .intakeRejected rejection => .refused rejection
  | fault => .transport url none fault.text

def toFault : Failure → Fault
  | .transport url status reason => .uploadFailed url status reason
  | .malformed detail => .malformedResponse detail
  | .refused rejection => .intakeRejected rejection

def isMalformed : Failure → Bool
  | .malformed _ => true
  | _ => false

def text : Failure → String
  | .transport _ _ reason => "upload failed: " ++ reason
  | .malformed detail => "unrecognised response: " ++ detail
  | .refused rejection => "not sent: " ++ rejection.text

@[simp] theorem ofFault_toFault (url : String) (failure : Failure) :
    ofFault url failure.toFault = failure := by
  cases failure <;> rfl

def toJson : Failure → Json
  | .transport url status reason =>
      .object [("Transport",
        .object [("url", .string url), ("status", .optional (fun s => .nat s.toNat) status),
          ("reason", .string reason)])]
  | .malformed detail => .object [("Malformed", .object [("detail", .string detail)])]
  | .refused rejection => .object [("Refused", rejection.toJson)]

def urlField : Json.Field String := .required "url" .string

def statusField : Json.Field (Option UInt16) := .nullable "status" .halfWord

def reasonField : Json.Field String := .required "reason" .string

def detailField : Json.Field String := .required "detail" .string

def transportContent : Option Json → Except Json.Mismatch Failure :=
  Json.recordContent [urlField.slot, statusField.slot, reasonField.slot] fun source => do
    let url ← urlField.read 0 source
    let status ← statusField.read 1 source
    let reason ← reasonField.read 2 source
    return .transport url status reason

def malformedContent : Option Json → Except Json.Mismatch Failure :=
  Json.recordContent [detailField.slot] fun source => do
    let detail ← detailField.read 0 source
    return .malformed detail

def ofJson : Json.Decoder Failure := fun v => do
  let (name, content) ← Json.variant v
  match name with
  | "Transport" => transportContent content
  | "Malformed" => malformedContent content
  | "Refused" => (Json.wrappedContent Rejection.ofJson content).map .refused
  | _ => .error (.unknownVariant name ["Transport", "Malformed", "Refused"])

end Failure

end FormatReview.Upload
