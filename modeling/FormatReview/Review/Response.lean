import FormatReview.Fault
import FormatReview.Review.Record

namespace FormatReview

/-! The body of a service's answer. Some services send the list of findings itself, others an
object with the list and statistics beside it. -/

structure Statistics where
  counts : Option CodeCounts
  totalParagraphs : Option UInt64
  totalErrors : Option UInt64
  deriving DecidableEq

structure Bundle where
  findings : List Finding
  statistics : Option Statistics
  counts : Option CodeCounts
  deriving DecidableEq

inductive Response where
  | list (findings : List Finding)
  | bundle (found : Bundle)
  deriving DecidableEq

namespace Statistics

def empty : Statistics := ⟨none, none, none⟩

def countsField : Json.Field (Option CodeCounts) :=
  (Json.Field.loose "errorTypeCount" CodeCounts.ofJson).withAliases ["errorTypeCounts"]

def paragraphsField : Json.Field (Option UInt64) := .loose "totalParagraphs" .word

def errorsField : Json.Field (Option UInt64) := .loose "totalErrors" .word

def ofJson : Json.Decoder Statistics :=
  Json.record "RawStats" [countsField.slot, paragraphsField.slot, errorsField.slot]
    fun source => do
      let counts ← countsField.read 0 source
      let totalParagraphs ← paragraphsField.read 1 source
      let totalErrors ← errorsField.read 2 source
      return ⟨counts, totalParagraphs, totalErrors⟩

end Statistics

namespace Bundle

def findingsField : Json.Field (List Finding) :=
  (Json.Field.required "messages" (.list Finding.ofJson)).withAliases ["errors"]

def statisticsField : Json.Field (Option Statistics) := .loose "stats" Statistics.ofJson

def countsField : Json.Field (Option CodeCounts) :=
  (Json.Field.loose "errorTypeCounts" CodeCounts.ofJson).withAliases ["errorTypeCount"]

def ofJson : Json.Decoder Bundle :=
  Json.record "RawBundle" [findingsField.slot, statisticsField.slot, countsField.slot]
    fun source => do
      let findings ← findingsField.read 0 source
      let statistics ← statisticsField.read 1 source
      let counts ← countsField.read 2 source
      return ⟨findings, statistics, counts⟩

/-- Counts that came with the list only stand if they agree with it code for code. -/
def toReview (bundle : Bundle) : Review :=
  let statistics := bundle.statistics.getD .empty
  let supplied := statistics.counts <|> bundle.counts
  let derived := CodeCounts.ofFindings bundle.findings
  let counts := match supplied with
    | some counts => if counts = derived then counts else derived
    | none => derived
  ⟨bundle.findings, counts, ⟨statistics.totalParagraphs,
    statistics.totalErrors.getD (UInt64.ofNat bundle.findings.length)⟩⟩

end Bundle

namespace Response

inductive Problem where
  | badEntry (mismatch : Json.Mismatch)
  | badBundle (mismatch : Json.Mismatch)
  | refused (message : String)
  | noList (keys : List String)
  | scalar (kind : String)

def Problem.text : Problem → String
  | .badEntry mismatch => "error list has an invalid entry: " ++ mismatch.text
  | .badBundle mismatch => "response object is invalid: " ++ mismatch.text
  | .refused message => "no error list in response; service said: " ++ message
  | .noList keys =>
      "no 'messages' or 'errors' list in response (keys: [" ++
        String.intercalate ", " (keys.map Text.quoted) ++ "])"
  | .scalar kind => "expected a list or an object, got " ++ kind

def listKeys : List String := ["messages", "errors"]

/-- The shape decides first, and only then is the content read. -/
def ofJson : Json → Except Problem Response
  | .null => .error (.scalar "null")
  | .bool _ => .error (.scalar "a boolean")
  | .number _ => .error (.scalar "a number")
  | .string _ => .error (.scalar "a string")
  | .array items => ((Json.Decoder.list Finding.ofJson (.array items)).mapError .badEntry).map .list
  | .object fields =>
      let members := Json.members fields
      if listKeys.any members.contains then
        ((Bundle.ofJson (.object fields)).mapError .badBundle).map .bundle
      else
        match (members.get? "error").bind Json.text? with
        | some message => .error (.refused message)
        | none => .error (.noList members.keys)

def toReview : Response → Review
  | .list findings => .ofFindings findings
  | .bundle found => found.toReview

end Response

namespace Review

def ofResponse (body : Json) : Except Fault Review :=
  match Response.ofJson body with
  | .ok response => .ok response.toReview
  | .error problem => .error (.malformedResponse problem.text)

end Review

end FormatReview
