import FormatReview.Settings.Record
import FormatReview.Upload.Failure
import FormatReview.Review.Record
import FormatReview.Proofs.Json.Written

namespace FormatReview

/-! Records and variants that are written as JSON and read again. -/

open Json (builds_field builds_nil record_ok_iff recordContent_object_ok_iff)
open Json.Decoder
open Json.Field (holds_written holds_unwritten)

namespace Finding

theorem undoes_textOrNull : textOrNull.Undoes .string := fun _ => rfl

/-- One excerpt more is read than is written: without it an empty context stays empty. -/
theorem excerpt_alone (context : String) : excerpt context "" = context := by
  rw [excerpt]
  split
  · next blank => exact (String.isEmpty_iff.1 blank).symm
  · rfl

theorem undoes_ofJson : ofJson.Undoes toJson := by
  intro finding
  rw [ofJson, toJson, record_ok_iff (by decide)]
  simp (disch := decide) only [builds_field, builds_nil]
  exact ⟨trivial, _, holds_written undoes_string rfl (by simp) rfl,
    _, holds_written undoes_textOrNull rfl (by simp) rfl,
    _, holds_written undoes_textOrNull rfl (by simp) rfl,
    _, holds_written undoes_textOrNull rfl (by simp) rfl,
    _, holds_unwritten rfl rfl (by simp) rfl, trivial, by rw [excerpt_alone]⟩

end Finding

theorem CodeCounts.undoes_ofJson : ofJson.Undoes toJson := undoes_map undoes_word

theorem Summary.undoes_ofJson : ofJson.Undoes toJson := by
  intro summary
  have nonnull : ∀ n, Json.word n ≠ .null := by simp [Json.word, Json.nat]
  rw [ofJson, toJson, record_ok_iff (by decide)]
  simp (disch := decide) only [builds_field, builds_nil]
  exact ⟨trivial, _, holds_written (undoes_optional undoes_word nonnull) rfl (by simp) rfl,
    _, holds_written undoes_word rfl (by simp) rfl, trivial, rfl⟩

theorem Review.undoes_ofJson : ofJson.Undoes toJson := by
  intro review
  rw [ofJson, toJson, record_ok_iff (by decide)]
  simp (disch := decide) only [builds_field, builds_nil]
  exact ⟨trivial, _, holds_written (undoes_list Finding.undoes_ofJson) rfl (by simp) rfl,
    _, holds_written CodeCounts.undoes_ofJson rfl (by simp) rfl,
    _, holds_written Summary.undoes_ofJson rfl (by simp) rfl, trivial, rfl⟩

theorem Candidate.undoes_ofJson : ofJson.Undoes toJson := by
  intro candidate
  rw [ofJson, toJson, record_ok_iff (by decide)]
  simp (disch := decide) only [builds_field, builds_nil]
  exact ⟨trivial, _, holds_written undoes_string rfl (by simp) rfl,
    _, holds_written undoes_string rfl (by simp) rfl,
    _, holds_written undoes_word rfl (by simp) rfl,
    _, holds_written undoes_string rfl (by simp) rfl,
    _, holds_written undoes_path rfl (by simp) rfl, trivial, rfl⟩

/-! A variant is written as an object with its name as the only key, and the name picks the reader
of what stands beneath it. -/

namespace Rejection

theorem unsupportedContent_written (name expected : String) :
    unsupportedContent (some (.object [("name", .string name),
      ("expected", .string expected)])) = .ok (.unsupportedType name expected) := by
  rw [unsupportedContent, recordContent_object_ok_iff (by decide) ""]
  simp (disch := decide) only [builds_field, builds_nil]
  exact ⟨_, holds_written undoes_string rfl (by simp) rfl,
    _, holds_written undoes_string rfl (by simp) rfl, trivial, rfl⟩

theorem tooLargeContent_written (name : String) (size limit : UInt64) :
    tooLargeContent (some (.object [("name", .string name), ("size", .word size),
      ("limit", .word limit)])) = .ok (.tooLarge name size limit) := by
  rw [tooLargeContent, recordContent_object_ok_iff (by decide) ""]
  simp (disch := decide) only [builds_field, builds_nil]
  exact ⟨_, holds_written undoes_string rfl (by simp) rfl,
    _, holds_written undoes_word rfl (by simp) rfl,
    _, holds_written undoes_word rfl (by simp) rfl, trivial, rfl⟩

theorem undoes_ofJson : ofJson.Undoes toJson := by
  intro rejection
  cases rejection with
  | unsupportedType name expected =>
      have picked : ∀ v, ofJson (.object [("UnsupportedFileType", v)]) =
        unsupportedContent (some v) := fun _ => rfl
      exact (picked _).trans (unsupportedContent_written name expected)
  | tooLarge name size limit =>
      have picked : ∀ v, ofJson (.object [("FileTooLarge", v)]) = tooLargeContent (some v) :=
        fun _ => rfl
      exact (picked _).trans (tooLargeContent_written name size limit)

end Rejection

namespace Upload.Failure

theorem transportContent_written (url : String) (status : Option UInt16) (reason : String) :
    transportContent (some (.object [("url", .string url),
      ("status", .optional (fun s => .nat s.toNat) status), ("reason", .string reason)])) =
      .ok (.transport url status reason) := by
  have nonnull : ∀ s : UInt16, Json.nat s.toNat ≠ .null := by simp [Json.nat]
  rw [transportContent, recordContent_object_ok_iff (by decide) ""]
  simp (disch := decide) only [builds_field, builds_nil]
  exact ⟨_, holds_written undoes_string rfl (by simp) rfl,
    _, holds_written (undoes_optional undoes_halfWord nonnull) rfl (by simp) rfl,
    _, holds_written undoes_string rfl (by simp) rfl, trivial, rfl⟩

theorem malformedContent_written (detail : String) :
    malformedContent (some (.object [("detail", .string detail)])) = .ok (.malformed detail) := by
  rw [malformedContent, recordContent_object_ok_iff (by decide) ""]
  simp (disch := decide) only [builds_field, builds_nil]
  exact ⟨_, holds_written undoes_string rfl (by simp) rfl, trivial, rfl⟩

theorem undoes_ofJson : ofJson.Undoes toJson := by
  intro failure
  cases failure with
  | transport url status reason =>
      have picked : ∀ v, ofJson (.object [("Transport", v)]) = transportContent (some v) :=
        fun _ => rfl
      exact (picked _).trans (transportContent_written url status reason)
  | malformed detail =>
      have picked : ∀ v, ofJson (.object [("Malformed", v)]) = malformedContent (some v) :=
        fun _ => rfl
      exact (picked _).trans (malformedContent_written detail)
  | refused rejection =>
      have picked : ∀ v, ofJson (.object [("Refused", v)]) = (Rejection.ofJson v).map refused :=
        fun _ => rfl
      exact (picked _).trans (Json.map_ok_iff.2 ⟨_, rejection.undoes_ofJson, rfl⟩)

end Upload.Failure

namespace Endpoints

theorem routedContent_written (word latex : String) :
    routedContent (some (.object [("word", .string word), ("latex", .string latex)])) =
      .ok (.routed word latex) := by
  rw [routedContent, recordContent_object_ok_iff (by decide) ""]
  simp (disch := decide) only [builds_field, builds_nil]
  exact ⟨_, holds_written undoes_string rfl (by simp) rfl,
    _, holds_written undoes_string rfl (by simp) rfl, trivial, rfl⟩

theorem undoes_ofJson : ofJson.Undoes toJson := by
  intro endpoints
  cases endpoints with
  | single url => rfl
  | routed word latex =>
      have picked : ∀ v, ofJson (.object [("Routed", v)]) = routedContent (some v) := fun _ => rfl
      exact (picked _).trans (routedContent_written word latex)

end Endpoints

/-- Each review, failure, candidate and choice of endpoints is read back from what is written of
it, for itself. -/
theorem records_read_back :
    (∀ review, Review.ofJson (Review.toJson review) = .ok review) ∧
    (∀ failure, Upload.Failure.ofJson (Upload.Failure.toJson failure) = .ok failure) ∧
    (∀ candidate, Candidate.ofJson (Candidate.toJson candidate) = .ok candidate) ∧
    ∀ endpoints, Endpoints.ofJson (Endpoints.toJson endpoints) = .ok endpoints :=
  ⟨Review.undoes_ofJson, Upload.Failure.undoes_ofJson, Candidate.undoes_ofJson,
    Endpoints.undoes_ofJson⟩

end FormatReview
