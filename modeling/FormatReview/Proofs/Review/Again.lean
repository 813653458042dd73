import Mathlib
import FormatReview.CommandLine.Views
import FormatReview.Proofs.Json.Printed
import FormatReview.Proofs.Records
import FormatReview.Proofs.Review.Counts

namespace FormatReview

/-! A review that was printed may come back as the body of an answer. Of its three fields only the
findings have a name that bodies have, so they alone are taken. -/

open Json (Nested)

/-! The text. -/

theorem Finding.nested_toJson (levels : Nat) (finding : Finding) :
    Nested (levels + 1) finding.toJson := by
  rw [Finding.toJson]
  refine .object ?_
  simp only [List.forall_mem_cons]
  exact ⟨.string _, .string _, .string _, .string _, List.forall_mem_nil _⟩

theorem CodeCounts.nested_toJson (levels : Nat) (counts : CodeCounts) :
    Nested (levels + 1) counts.toJson := by
  rw [CodeCounts.toJson]
  refine .object fun entry member => ?_
  obtain ⟨counted, -, rfl⟩ := List.mem_map.1 member
  exact .nat counted.2.toNat_lt_size

theorem Summary.nested_toJson (levels : Nat) (summary : Summary) :
    Nested (levels + 1) summary.toJson := by
  rw [Summary.toJson]
  refine .object ?_
  simp only [List.forall_mem_cons]
  refine ⟨?_, .nat summary.totalErrors.toNat_lt_size, List.forall_mem_nil _⟩
  cases summary.totalParagraphs with
  | none => exact .null
  | some n => exact .nat n.toNat_lt_size

namespace Review

theorem nested_toJson (levels : Nat) (review : Review) : Nested (levels + 3) review.toJson := by
  rw [Review.toJson]
  refine .object ?_
  simp only [List.forall_mem_cons]
  refine ⟨.array fun entry member => ?_, review.counts.nested_toJson (levels + 1),
    review.summary.nested_toJson (levels + 1), List.forall_mem_nil _⟩
  obtain ⟨finding, -, rfl⟩ := List.mem_map.1 member
  exact finding.nested_toJson levels

theorem parse_line (review : Review) :
    Json.parse (CommandLine.line review.toJson.pretty).toUTF8 = .ok review.toJson := by
  have blank : Json.Blank (Json.bytesOf "\n") := by
    have bytes : Json.bytesOf "\n" = [Json.Reader.byte '\n'] := rfl
    simp [bytes, Json.Blank, Json.IsSpace]
  exact Json.parse_pretty (review.nested_toJson 124) blank

/-! The value. -/

theorem findingRecords_toJson (findings : List Finding) :
    List.Forall₂ Response.FindingRecord (findings.map Finding.toJson) findings := by
  rw [List.forall₂_map_left_iff]
  exact List.forall₂_same.2 fun finding _ =>
    (Finding.decodes_ofJson _ _).1 (Finding.undoes_ofJson finding)

theorem bundle_ofJson_toJson (review : Review) :
    Bundle.ofJson review.toJson = .ok ⟨review.findings, none, none⟩ := by
  rw [toJson, Bundle.ofJson_object_ok_iff]
  exact ⟨⟨_, Json.part_of_lookup (by simp) rfl, findingRecords_toJson review.findings⟩,
    ⟨none, Json.part_of_lookup (by simp) rfl, .absent⟩,
    ⟨none, Json.part_of_lookup (by simp) rfl, .absent⟩⟩

theorem ofResponse_toJson (review : Review) :
    ofResponse review.toJson = .ok (ofFindings review.findings) := by
  refine ofResponse_ok_iff_ofJson.2 ⟨.bundle ⟨review.findings, none, none⟩, ?_, ?_⟩
  · exact Response.ofJson_object_ok_iff.2 ⟨_, bundle_ofJson_toJson review, rfl⟩
  · exact Bundle.toReview_eq _

/-- The text that is printed of a review is read as its JSON value. As the body of an answer this is
taken for the findings of the review, and they are counted anew, whatever counts and summary stand
beside them. A review that came of a body so keeps its findings and its counts, and what was taken
from a printed review is taken for itself from then on. -/
theorem printed_review_taken (review : Review) :
    Json.parse (CommandLine.line review.toJson.pretty).toUTF8 = .ok review.toJson ∧
    ofResponse review.toJson = .ok ⟨review.findings, .ofFindings review.findings,
      ⟨none, UInt64.ofNat review.findings.length⟩⟩ ∧
    (∀ body, ofResponse body = .ok review →
      ∃ again, ofResponse review.toJson = .ok again ∧ again.findings = review.findings ∧
        again.counts = review.counts) ∧
    ∀ again, ofResponse review.toJson = .ok again → ofResponse again.toJson = .ok again := by
  refine ⟨parse_line review, ofResponse_toJson review, ?kept, ?settled⟩
  case kept =>
    intro body taken
    exact ⟨_, ofResponse_toJson review, rfl, (counts_ofResponse taken).symm⟩
  case settled =>
    intro again taken
    rw [ofResponse_toJson] at taken
    obtain rfl := Except.ok.inj taken
    exact ofResponse_toJson _

/-- Counts and a summary that do not fit the findings. -/
example :
    ofResponse (toJson ⟨[⟨"Font", "", "", "Page 1"⟩], ⟨[("Bold", 7)], by decide⟩, ⟨some 3, 9⟩⟩) =
      .ok (ofFindings [⟨"Font", "", "", "Page 1"⟩]) :=
  rfl

end Review

end FormatReview
