import FormatReview.Review.Response
import FormatReview.Proofs.Json.Record

namespace FormatReview

/-! The bodies that a service may answer with, and the reviews that they mean. -/

open Json (Decoder Part LoosePart Spans Loose IsText IsWord IsList IsMap)

namespace Response

/-- An entry of the list: a record of which only the code must be there. Of its two excerpts a
non-empty context counts. -/
inductive FindingRecord : Json → Finding → Prop
  | record {v code message suggestion context content} :
      Spans 5 v →
      Part ["code"] 0 v (some (.string code)) →
      LoosePart ["message"] 1 IsText v message →
      LoosePart ["suggestion"] 2 IsText v suggestion →
      LoosePart ["context"] 3 IsText v context →
      LoosePart ["content"] 4 IsText v content →
      FindingRecord v ⟨code, message.getD "", suggestion.getD "",
        if context.getD "" = "" then content.getD "" else context.getD ""⟩

inductive StatisticsRecord : Json → Statistics → Prop
  | record {v counts totalParagraphs totalErrors} :
      Spans 3 v →
      LoosePart ["errorTypeCount", "errorTypeCounts"] 0 (IsMap IsWord) v counts →
      LoosePart ["totalParagraphs"] 1 IsWord v totalParagraphs →
      LoosePart ["totalErrors"] 2 IsWord v totalErrors →
      StatisticsRecord v ⟨counts, totalParagraphs, totalErrors⟩

/-- A body is the list itself, or an object with the list under one of two names. Whatever counts
it brings, the codes of the entries are counted. -/
inductive Body : Json → Review → Prop
  | list {items findings} :
      List.Forall₂ FindingRecord items findings →
      Body (.array items) ⟨findings, .ofFindings findings,
        ⟨none, UInt64.ofNat findings.length⟩⟩
  | bundle {fields items findings statistics counts} :
      Part ["messages", "errors"] 0 (.object fields) (some (.array items)) →
      List.Forall₂ FindingRecord items findings →
      LoosePart ["stats"] 1 StatisticsRecord (.object fields) statistics →
      LoosePart ["errorTypeCounts", "errorTypeCount"] 2 (IsMap IsWord) (.object fields) counts →
      Body (.object fields) ⟨findings, .ofFindings findings,
        ⟨statistics.bind (·.totalParagraphs),
          (statistics.bind (·.totalErrors)).getD (UInt64.ofNat findings.length)⟩⟩

end Response

open Response

namespace Finding

theorem holds_textOrNull {name : String} {place : Nat} {v : Json} {s : String} :
    (Json.Field.defaulting name textOrNull "").Holds place v s ↔
      ∃ text, LoosePart [name] place IsText v text ∧ text.getD "" = s := by
  have nonnull : ∀ s, ¬ IsText .null s := by simp [IsText]
  have gives : ∀ found, (Json.Field.defaulting name textOrNull "").Gives (some "") found s ↔
      ∃ text, Loose IsText found text ∧ text.getD "" = s := by
    intro found
    cases found with
    | none =>
        constructor
        · intro missing
          exact ⟨none, .absent, Option.some.inj missing⟩
        · intro read
          obtain ⟨text, loose, rfl⟩ := read
          cases loose
          rfl
    | some v =>
        refine (Json.map_ok_iff).trans (exists_congr fun text => ?_)
        rw [Decoder.optional_ok_iff Decoder.decodes_string nonnull]
  rw [Json.Field.Holds, Json.Field.fallback_eq rfl rfl]
  constructor
  · intro holds
    obtain ⟨found, part, given⟩ := holds
    obtain ⟨text, loose, rfl⟩ := (gives found).1 given
    exact ⟨text, ⟨found, part, loose⟩, rfl⟩
  · intro read
    obtain ⟨text, ⟨found, part, loose⟩, same⟩ := read
    exact ⟨found, part, (gives found).2 ⟨text, loose, same⟩⟩

theorem holds_code {place : Nat} {v : Json} {code : String} :
    codeField.Holds place v code ↔ Part ["code"] place v (some (.string code)) := by
  rw [Json.Field.holds_required Decoder.decodes_string rfl rfl]
  constructor
  · intro holds
    obtain ⟨_, part, rfl⟩ := holds
    exact part
  · intro part
    exact ⟨_, part, rfl⟩

theorem decodes_ofJson : ofJson.Decodes FindingRecord := by
  intro v finding
  rw [ofJson, Json.record_ok_iff (by decide)]
  simp (disch := decide) only [Json.builds_field, Json.builds_nil, holds_code, messageField,
    suggestionField, contextField, contentField, holds_textOrNull, excerpt, String.isEmpty_iff]
  constructor
  · intro recorded
    obtain ⟨spans, code, coded, _, ⟨message, told, rfl⟩, _, ⟨suggestion, advised, rfl⟩,
      _, ⟨context, quoted, rfl⟩, _, ⟨content, copied, rfl⟩, _, rfl⟩ := recorded
    exact .record spans coded told advised quoted copied
  · intro means
    obtain ⟨spans, coded, told, advised, quoted, copied⟩ := means
    exact ⟨spans, _, coded, _, ⟨_, told, rfl⟩, _, ⟨_, advised, rfl⟩, _, ⟨_, quoted, rfl⟩,
      _, ⟨_, copied, rfl⟩, spans.compound, rfl⟩

end Finding

namespace Statistics

theorem holds_counts (field : Json.Field (Option CodeCounts))
    (reads : field.decode = CodeCounts.ofJson.optional) (absent : field.absent = some none)
    (beyond : field.beyond = some none) {place : Nat} {v : Json} {counts : Option CodeCounts} :
    field.Holds place v counts ↔ LoosePart field.names place (IsMap IsWord) v counts := by
  have nonnull : ∀ counts, ¬ IsMap IsWord .null counts := by
    intro counts impossible
    cases impossible
  exact Json.Field.holds_loose (Decoder.decodes_map Decoder.decodes_word) nonnull reads absent beyond

theorem holds_total {name : String} {place : Nat} {v : Json} {total : Option UInt64} :
    (Json.Field.loose name .word).Holds place v total ↔ LoosePart [name] place IsWord v total :=
  Json.Field.holds_loose Decoder.decodes_word (by simp [IsWord, Json.word, Json.nat]) rfl rfl rfl

theorem decodes_ofJson : ofJson.Decodes StatisticsRecord := by
  intro v statistics
  rw [ofJson, Json.record_ok_iff (by decide)]
  simp (disch := decide) only [Json.builds_field, Json.builds_nil, paragraphsField, errorsField,
    holds_total, holds_counts countsField rfl rfl rfl]
  constructor
  · intro recorded
    obtain ⟨spans, counts, counted, paragraphs, measured, errors, summed, _, rfl⟩ := recorded
    exact .record spans counted measured summed
  · intro means
    obtain ⟨spans, counted, measured, summed⟩ := means
    exact ⟨spans, _, counted, _, measured, _, summed, spans.compound, rfl⟩

end Statistics

namespace Bundle

theorem holds_findings {v : Json} {findings : List Finding} :
    findingsField.Holds 0 v findings ↔
      ∃ items, Part ["messages", "errors"] 0 v (some (.array items)) ∧
        List.Forall₂ FindingRecord items findings := by
  rw [Json.Field.holds_required (Decoder.decodes_list Finding.decodes_ofJson) rfl rfl]
  constructor
  · intro holds
    obtain ⟨_, part, ⟨entries⟩⟩ := holds
    exact ⟨_, part, entries⟩
  · intro listed
    obtain ⟨items, part, entries⟩ := listed
    exact ⟨_, part, ⟨entries⟩⟩

theorem holds_statistics {v : Json} {statistics : Option Statistics} :
    statisticsField.Holds 1 v statistics ↔
      LoosePart ["stats"] 1 StatisticsRecord v statistics := by
  have nonnull : ∀ statistics, ¬ StatisticsRecord .null statistics := by
    intro statistics impossible
    cases impossible with
    | record spans => exact spans
  exact Json.Field.holds_loose Statistics.decodes_ofJson nonnull rfl rfl rfl

theorem ofJson_object_ok_iff {fields : List (String × Json)} {bundle : Bundle} :
    ofJson (.object fields) = .ok bundle ↔
      (∃ items, Part ["messages", "errors"] 0 (.object fields) (some (.array items)) ∧
        List.Forall₂ FindingRecord items bundle.findings) ∧
      LoosePart ["stats"] 1 StatisticsRecord (.object fields) bundle.statistics ∧
      LoosePart ["errorTypeCounts", "errorTypeCount"] 2 (IsMap IsWord) (.object fields)
        bundle.counts := by
  rw [ofJson, Json.record_ok_iff (by decide)]
  simp (disch := decide) only [Json.builds_field, Json.builds_nil, holds_findings,
    holds_statistics, Statistics.holds_counts countsField rfl rfl rfl]
  constructor
  · intro recorded
    obtain ⟨_, findings, listed, statistics, stated, counts, counted, _, rfl⟩ := recorded
    exact ⟨listed, stated, counted⟩
  · intro means
    obtain ⟨listed, stated, counted⟩ := means
    exact ⟨trivial, _, listed, _, stated, _, counted, trivial, rfl⟩

/-- Counts that came with the list never change those of the review. -/
theorem counts_toReview (bundle : Bundle) :
    bundle.toReview.counts = .ofFindings bundle.findings := by
  simp only [toReview]
  split
  · split
    · assumption
    · rfl
  · rfl

theorem summary_toReview (bundle : Bundle) :
    bundle.toReview.summary = ⟨bundle.statistics.bind (·.totalParagraphs),
      (bundle.statistics.bind (·.totalErrors)).getD
        (UInt64.ofNat bundle.findings.length)⟩ := by
  obtain ⟨findings, statistics, counts⟩ := bundle
  cases statistics with
  | none => rfl
  | some statistics => rfl

theorem toReview_eq (bundle : Bundle) :
    bundle.toReview = ⟨bundle.findings, .ofFindings bundle.findings,
      ⟨bundle.statistics.bind (·.totalParagraphs),
        (bundle.statistics.bind (·.totalErrors)).getD
          (UInt64.ofNat bundle.findings.length)⟩⟩ := by
  rw [← counts_toReview, ← summary_toReview]
  rfl

end Bundle

namespace Response

theorem contains_of_part {names : List String} {place : Nat} {fields : List (String × Json)}
    {v : Json} (part : Part names place (.object fields) (some v)) :
    names.any (Json.members fields).contains := by
  have only : names.filterMap (Json.members fields).get? = [v] := part
  have listed : v ∈ names.filterMap (Json.members fields).get? := by
    rw [only]
    exact List.mem_cons_self
  obtain ⟨name, member, found⟩ := List.mem_filterMap.1 listed
  exact List.any_eq_true.2 ⟨name, member, by simp [SortedMap.contains, found]⟩

theorem ofJson_array_ok_iff {items : List Json} {response : Response} :
    ofJson (.array items) = .ok response ↔
      ∃ findings, List.Forall₂ FindingRecord items findings ∧ .list findings = response := by
  rw [ofJson, Json.map_ok_iff]
  refine exists_congr fun findings => and_congr_left fun _ => ?_
  rw [Json.mapError_ok_iff, Decoder.list, Decoder.mapM_ok_iff Finding.decodes_ofJson]

theorem ofJson_object_ok_iff {fields : List (String × Json)} {response : Response} :
    ofJson (.object fields) = .ok response ↔
      ∃ found, Bundle.ofJson (.object fields) = .ok found ∧ .bundle found = response := by
  rw [ofJson]
  by_cases listed : listKeys.any (Json.members fields).contains
  · rw [if_pos listed, Json.map_ok_iff]
    simp only [Json.mapError_ok_iff]
  · rw [if_neg listed]
    constructor
    · intro impossible
      split at impossible
      · cases impossible
      · cases impossible
    · intro bundled
      obtain ⟨found, read, _⟩ := bundled
      obtain ⟨⟨items, part, _⟩, _⟩ := Bundle.ofJson_object_ok_iff.1 read
      exact absurd (contains_of_part part) listed

end Response

namespace Review

theorem ofResponse_ok_iff_ofJson {body : Json} {review : Review} :
    ofResponse body = .ok review ↔
      ∃ response, Response.ofJson body = .ok response ∧ response.toReview = review := by
  rw [ofResponse]
  cases Response.ofJson body with
  | error problem => simp
  | ok response => simp

/-- A body is taken exactly if it is one of the grammar, and the review is what it means. -/
theorem ofResponse_ok_iff (body : Json) (review : Review) :
    ofResponse body = .ok review ↔ Body body review := by
  rw [ofResponse_ok_iff_ofJson]
  cases body with
  | array items =>
      simp only [Response.ofJson_array_ok_iff]
      constructor
      · intro taken
        obtain ⟨_, ⟨findings, entries, rfl⟩, rfl⟩ := taken
        exact .list entries
      · intro means
        cases means with
        | list entries => exact ⟨_, ⟨_, entries, rfl⟩, rfl⟩
  | object fields =>
      simp only [Response.ofJson_object_ok_iff, Bundle.ofJson_object_ok_iff]
      constructor
      · intro taken
        obtain ⟨_, ⟨found, ⟨⟨items, listed, entries⟩, stated, counted⟩, rfl⟩, rfl⟩ := taken
        rw [Response.toReview, Bundle.toReview_eq]
        exact .bundle listed entries stated counted
      · intro means
        cases means with
        | @bundle _ items findings statistics counts listed entries stated counted =>
            exact ⟨_, ⟨⟨findings, statistics, counts⟩, ⟨⟨items, listed, entries⟩, stated, counted⟩,
              rfl⟩, Bundle.toReview_eq _⟩
  | null | bool | number | string =>
      constructor
      · intro taken
        obtain ⟨response, impossible, _⟩ := taken
        cases impossible
      · intro impossible
        cases impossible

example :
    ofResponse (.object [
      ("errors", .array [.array [.string "Bold", .null, .string "Unbold"],
        .object [("code", .string "Font"), ("context", .string ""), ("content", .string "serif")]]),
      ("stats", .array [.object [("Bold", .nat 9)], .nat 40])]) =
      .ok ⟨[⟨"Bold", "", "Unbold", ""⟩, ⟨"Font", "", "", "serif"⟩],
        .ofFindings [⟨"Bold", "", "Unbold", ""⟩, ⟨"Font", "", "", "serif"⟩], ⟨some 40, 2⟩⟩ :=
  rfl

end Review

end FormatReview
