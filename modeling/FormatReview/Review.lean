import FormatReview.Json.Decode

namespace FormatReview

/-! What a validation service found in a document. -/

/-- One formatting problem, told by the service and only passed on. -/
structure Finding where
  code : String
  message : String
  suggestion : String
  context : String
  deriving DecidableEq, Repr

abbrev CodeCounts := SortedMap UInt64

structure Summary where
  totalParagraphs : Option UInt64
  totalErrors : UInt64
  deriving DecidableEq, Repr

structure Review where
  findings : List Finding
  counts : CodeCounts
  summary : Summary
  deriving DecidableEq

namespace CodeCounts

def increment (counts : CodeCounts) (code : String) : CodeCounts :=
  counts.insert code ((counts.get? code).getD 0 + 1)

def ofFindings (findings : List Finding) : CodeCounts :=
  findings.foldl (fun counts finding => increment counts finding.code) .empty

@[simp] theorem ofFindings_nil : ofFindings [] = .empty := rfl

theorem ofFindings_append (findings more : List Finding) :
    ofFindings (findings ++ more) =
      more.foldl (fun counts finding => increment counts finding.code) (ofFindings findings) :=
  List.foldl_append

end CodeCounts

namespace Review

def ofFindings (findings : List Finding) : Review :=
  ⟨findings, .ofFindings findings, ⟨none, UInt64.ofNat findings.length⟩⟩

def isEmpty (review : Review) : Bool := review.findings.isEmpty

def size (review : Review) : Nat := review.findings.length

@[simp] theorem findings_ofFindings (findings : List Finding) :
    (ofFindings findings).findings = findings := rfl

@[simp] theorem counts_ofFindings (findings : List Finding) :
    (ofFindings findings).counts = .ofFindings findings := rfl

end Review

end FormatReview
