import FormatReview.Review

namespace FormatReview

/-! Reviews as JSON records. -/

namespace Finding

/-- Absent text may also be written as null. -/
def textOrNull : Json.Decoder String := fun v => (Json.Decoder.optional .string v).map (·.getD "")

def codeField : Json.Field String := .required "code" .string

def messageField : Json.Field String := .defaulting "message" textOrNull ""

def suggestionField : Json.Field String := .defaulting "suggestion" textOrNull ""

def contextField : Json.Field String := .defaulting "context" textOrNull ""

def contentField : Json.Field String := .defaulting "content" textOrNull ""

/-- Services name the excerpt `context` or `content`; of two, a non-empty context counts. -/
def excerpt (context content : String) : String := if context.isEmpty then content else context

def ofJson : Json.Decoder Finding :=
  Json.record "RawValidationError"
    [codeField.slot, messageField.slot, suggestionField.slot, contextField.slot, contentField.slot]
    fun source => do
      let code ← codeField.read 0 source
      let message ← messageField.read 1 source
      let suggestion ← suggestionField.read 2 source
      let context ← contextField.read 3 source
      let content ← contentField.read 4 source
      return ⟨code, message, suggestion, excerpt context content⟩

def toJson (finding : Finding) : Json :=
  .object [("code", .string finding.code), ("message", .string finding.message),
    ("suggestion", .string finding.suggestion), ("context", .string finding.context)]

end Finding

namespace CodeCounts

def ofJson : Json.Decoder CodeCounts := Json.Decoder.map .word

def toJson (counts : CodeCounts) : Json :=
  .object (counts.entries.map fun entry => (entry.1, .word entry.2))

end CodeCounts

namespace Summary

def paragraphsField : Json.Field (Option UInt64) := .nullable "total_paragraphs" .word

def errorsField : Json.Field UInt64 := .required "total_errors" .word

def ofJson : Json.Decoder Summary :=
  Json.record "ValidationSummary" [paragraphsField.slot, errorsField.slot] fun source => do
    let totalParagraphs ← paragraphsField.read 0 source
    let totalErrors ← errorsField.read 1 source
    return ⟨totalParagraphs, totalErrors⟩

def toJson (summary : Summary) : Json :=
  .object [("total_paragraphs", .optional .word summary.totalParagraphs),
    ("total_errors", .word summary.totalErrors)]

end Summary

namespace Review

def findingsField : Json.Field (List Finding) := .required "errors" (.list Finding.ofJson)

def countsField : Json.Field CodeCounts := .required "error_type_counts" CodeCounts.ofJson

def summaryField : Json.Field Summary := .required "summary" Summary.ofJson

def ofJson : Json.Decoder Review :=
  Json.record "ValidationResult" [findingsField.slot, countsField.slot, summaryField.slot]
    fun source => do
      let findings ← findingsField.read 0 source
      let counts ← countsField.read 1 source
      let summary ← summaryField.read 2 source
      return ⟨findings, counts, summary⟩

def toJson (review : Review) : Json :=
  .object [("errors", .array (review.findings.map Finding.toJson)),
    ("error_type_counts", review.counts.toJson), ("summary", review.summary.toJson)]

end Review

end FormatReview
