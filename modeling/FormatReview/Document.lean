import FormatReview.Json.Decode

namespace FormatReview

/-! The kinds of document that can be reviewed, and which of them are accepted. -/

inductive DocumentKind where
  | word
  | latex
  deriving DecidableEq, Repr

namespace DocumentKind

def label : DocumentKind → String
  | .word => "Word"
  | .latex => "LaTeX"

def tag : DocumentKind → String
  | .word => "Word"
  | .latex => "Latex"

def toJson (kind : DocumentKind) : Json := .string kind.tag

def ofJson : Json.Decoder DocumentKind := fun v => do
  let (name, content) ← Json.variant v
  match name with
  | "Word" => (Json.bareContent content).map fun _ => .word
  | "Latex" => (Json.bareContent content).map fun _ => .latex
  | _ => .error (.unknownVariant name ["Word", "Latex"])

end DocumentKind

inductive AcceptPolicy where
  | wordOnly
  | latexOnly
  | both
  deriving DecidableEq, Repr, Inhabited

namespace AcceptPolicy

def allows : AcceptPolicy → DocumentKind → Bool
  | .wordOnly, kind => kind == .word
  | .latexOnly, kind => kind == .latex
  | .both, _ => true

/-- The accepted files, as a rejection names them. -/
def describe : AcceptPolicy → String
  | .wordOnly => ".docx"
  | .latexOnly => ".tex"
  | .both => ".docx or .tex"

def tag : AcceptPolicy → String
  | .wordOnly => "WordOnly"
  | .latexOnly => "LatexOnly"
  | .both => "Both"

def toJson (policy : AcceptPolicy) : Json := .string policy.tag

def ofJson : Json.Decoder AcceptPolicy := fun v => do
  let (name, content) ← Json.variant v
  match name with
  | "WordOnly" => (Json.bareContent content).map fun _ => .wordOnly
  | "LatexOnly" => (Json.bareContent content).map fun _ => .latexOnly
  | "Both" => (Json.bareContent content).map fun _ => .both
  | _ => .error (.unknownVariant name ["WordOnly", "LatexOnly", "Both"])

@[simp] theorem allows_both (kind : DocumentKind) : both.allows kind = true := rfl

end AcceptPolicy

end FormatReview
