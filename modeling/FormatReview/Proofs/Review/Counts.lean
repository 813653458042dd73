import Mathlib
import FormatReview.Proofs.Review.Grammar

namespace FormatReview

/-! The counts of a review are those of its own list. Whatever counts come with the list, and in
whichever shape, each code is counted as often as it occurs. -/

namespace CodeCounts

def codes (findings : List Finding) : List String := findings.map Finding.code

theorem get?_increment (counts : CodeCounts) (code other : String) :
    (counts.increment code).get? other =
      if other = code then some ((counts.get? code).getD 0 + 1) else counts.get? other := by
  unfold increment
  by_cases same : other = code
  · rw [same, SortedMap.get?_insert_self, if_pos rfl]
  · rw [SortedMap.get?_insert_of_ne counts same, if_neg same]

/-- Each code that occurs is there with the number of its occurrences, and no other. -/
theorem get?_ofFindings (findings : List Finding) (code : String) :
    (ofFindings findings).get? code =
      if code ∈ codes findings then some (UInt64.ofNat ((codes findings).count code))
      else none := by
  induction findings using List.reverseRecOn with
  | nil => rfl
  | append_singleton earlier finding ih =>
      have counted : ofFindings (earlier ++ [finding]) =
          (ofFindings earlier).increment finding.code := ofFindings_append earlier [finding]
      have listed : codes (earlier ++ [finding]) = codes earlier ++ [finding.code] :=
        List.map_append
      rw [counted, get?_increment, listed]
      by_cases same : code = finding.code
      · subst same
        rw [ih]
        by_cases known : finding.code ∈ codes earlier
        · simp [known, UInt64.ofNat_add]
        · simp [known, List.count_eq_zero.2 known]
      · simp [same, Ne.symm same, ih]

theorem ofFindings_perm {findings more : List Finding} (permuted : findings.Perm more) :
    ofFindings findings = ofFindings more := by
  refine SortedMap.eq_of_get? fun code => ?_
  have same : (codes findings).Perm (codes more) := permuted.map _
  simp only [get?_ofFindings, same.count_eq, same.mem_iff]

theorem get?_ofFindings_append (findings more : List Finding) (code : String) :
    (ofFindings (findings ++ more)).get? code =
      Option.merge (· + ·) ((ofFindings findings).get? code) ((ofFindings more).get? code) := by
  have listed : codes (findings ++ more) = codes findings ++ codes more := List.map_append
  rw [get?_ofFindings, get?_ofFindings, get?_ofFindings, listed, List.count_append]
  by_cases here : code ∈ codes findings
  · by_cases there : code ∈ codes more
    · simp [here, there, UInt64.ofNat_add]
    · simp [here, there, List.count_eq_zero.2 there]
  · by_cases there : code ∈ codes more
    · simp [here, there, List.count_eq_zero.2 here]
    · simp [here, there]

/-- The map has the codes that occur in the list and no others, each with the number of its
occurrences, and the numbers add up to the length of the list. -/
structure Tallies (counts : CodeCounts) (findings : List Finding) : Prop where
  keys : ∀ code, code ∈ counts.keys ↔ ∃ finding ∈ findings, finding.code = code
  number : ∀ code n, counts.get? code = some n → n.toNat = (codes findings).count code ∧ n ≠ 0
  total : (counts.values.map UInt64.toNat).sum = findings.length

theorem mem_keys_ofFindings (findings : List Finding) (code : String) :
    code ∈ (ofFindings findings).keys ↔ code ∈ codes findings := by
  rw [SortedMap.mem_keys, get?_ofFindings]
  by_cases known : code ∈ codes findings
  · simp [known]
  · simp [known]

theorem number_ofFindings {findings : List Finding} (short : findings.length < UInt64.size)
    {code : String} {n : UInt64} (counted : (ofFindings findings).get? code = some n) :
    n.toNat = (codes findings).count code ∧ n ≠ 0 := by
  have few : (codes findings).count code < UInt64.size :=
    calc (codes findings).count code
        ≤ (codes findings).length := List.count_le_length
      _ = findings.length := List.length_map _
      _ < UInt64.size := short
  rw [get?_ofFindings] at counted
  by_cases known : code ∈ codes findings
  · obtain rfl := Option.some.inj ((if_pos known).symm.trans counted)
    have exactly := UInt64.toNat_ofNat_of_lt' few
    refine ⟨exactly, fun zero => ?_⟩
    rw [zero] at exactly
    exact (List.count_pos_iff.2 known).ne exactly
  · rw [if_neg known] at counted
    cases counted

theorem tallies_ofFindings {findings : List Finding} (short : findings.length < UInt64.size) :
    (ofFindings findings).Tallies findings where
  keys code := by simp [mem_keys_ofFindings, codes]
  number code n counted := number_ofFindings short counted
  total := by
    have numbers : (ofFindings findings).values.map UInt64.toNat =
        (ofFindings findings).keys.map fun code => (codes findings).count code := by
      rw [SortedMap.values, SortedMap.keys, List.map_map, List.map_map]
      refine List.map_congr_left fun entry member => ?_
      exact (number_ofFindings short ((SortedMap.mem_entries _ entry.1 entry.2).1 member)).1
    have keys : (ofFindings findings).keys.Perm (codes findings).dedup := by
      rw [List.perm_ext_iff_of_nodup (SortedMap.keys_nodup _) (List.nodup_dedup _)]
      intro code
      rw [mem_keys_ofFindings, List.mem_dedup]
    calc ((ofFindings findings).values.map UInt64.toNat).sum
        = ((ofFindings findings).keys.map fun code => (codes findings).count code).sum := by
          rw [numbers]
      _ = ((codes findings).dedup.map fun code => (codes findings).count code).sum :=
          (keys.map _).sum_eq
      _ = (codes findings).length := List.sum_map_count_dedup_eq_length _
      _ = findings.length := List.length_map _

end CodeCounts

namespace Response

/-- The list that a body brings is the body itself, or what it has under a name for lists. -/
inductive Lists : Json → List Json → Prop
  | plain {items} : Lists (.array items) items
  | under {fields name items} (known : name ∈ listKeys)
      (found : (Json.members fields).get? name = some (.array items)) :
      Lists (.object fields) items

end Response

namespace Review

theorem counts_ofResponse {body : Json} {review : Review} (taken : ofResponse body = .ok review) :
    review.counts = .ofFindings review.findings := by
  obtain ⟨response, -, rfl⟩ := ofResponse_ok_iff_ofJson.1 taken
  cases response with
  | list findings => rfl
  | bundle found => exact found.counts_toReview

/-- An entry is read the same in all bodies that list it. -/
theorem findings_ofResponse {body : Json} {items : List Json} {review : Review}
    (lists : Response.Lists body items) (taken : ofResponse body = .ok review) :
    List.Forall₂ Response.FindingRecord items review.findings := by
  obtain ⟨response, read, rfl⟩ := ofResponse_ok_iff_ofJson.1 taken
  cases lists with
  | plain =>
      obtain ⟨findings, entries, rfl⟩ := Response.ofJson_array_ok_iff.1 read
      exact entries
  | @under fields name items known found =>
      obtain ⟨bundle, bundled, rfl⟩ := Response.ofJson_object_ok_iff.1 read
      obtain ⟨⟨others, part, entries⟩, -⟩ := Bundle.ofJson_object_ok_iff.1 bundled
      have only : ["messages", "errors"].filterMap (Json.members fields).get? = [.array others] :=
        part
      have listed : Json.array items ∈ ["messages", "errors"].filterMap (Json.members fields).get? :=
        List.mem_filterMap.2 ⟨name, known, found⟩
      rw [only, List.mem_singleton] at listed
      obtain rfl := Json.array.inj listed
      exact entries

theorem findings_unique {items : List Json} {findings others : List Finding}
    (entries : List.Forall₂ Response.FindingRecord items findings)
    (again : List.Forall₂ Response.FindingRecord items others) : findings = others := by
  have read := (Json.Decoder.mapM_ok_iff Finding.decodes_ofJson).2 entries
  have reread := (Json.Decoder.mapM_ok_iff Finding.decodes_ofJson).2 again
  exact Except.ok.inj (read.symm.trans reread)

theorem ofResponse_array {items : List Json} {findings : List Finding}
    (entries : List.Forall₂ Response.FindingRecord items findings) :
    ofResponse (.array items) = .ok (ofFindings findings) :=
  ofResponse_ok_iff_ofJson.2
    ⟨.list findings, Response.ofJson_array_ok_iff.2 ⟨findings, entries, rfl⟩, rfl⟩

/-- If an object with a list is taken, so is the list alone, for the same findings and counts. The
counts of any review are those of its findings, so that bodies with one list agree in both, whatever
statistics they bring. Counting ignores the order of the findings and adds up along lists. -/
theorem counts_of_list :
    (∀ (body : Json) (items : List Json) (review : Review), Response.Lists body items →
      ofResponse body = .ok review →
      ∃ plain, ofResponse (.array items) = .ok plain ∧ plain.findings = review.findings ∧
        plain.counts = review.counts) ∧
    (∀ (body : Json) (review : Review), ofResponse body = .ok review →
      (∀ code, review.counts.get? code =
        if code ∈ CodeCounts.codes review.findings then
          some (UInt64.ofNat ((CodeCounts.codes review.findings).count code))
        else none) ∧
      (review.findings.length < UInt64.size → review.counts.Tallies review.findings)) ∧
    (∀ (body other : Json) (items : List Json) (review another : Review),
      Response.Lists body items → Response.Lists other items →
      ofResponse body = .ok review → ofResponse other = .ok another →
      review.findings = another.findings ∧ review.counts = another.counts) ∧
    (∀ findings more : List Finding, findings.Perm more →
      CodeCounts.ofFindings findings = CodeCounts.ofFindings more) ∧
    ∀ (findings more : List Finding) (code : String),
      (CodeCounts.ofFindings (findings ++ more)).get? code =
        Option.merge (· + ·) ((CodeCounts.ofFindings findings).get? code)
          ((CodeCounts.ofFindings more).get? code) := by
  refine ⟨?alone, ?own, ?agree, fun _ _ => CodeCounts.ofFindings_perm,
    CodeCounts.get?_ofFindings_append⟩
  case alone =>
    intro body items review lists taken
    have entries := findings_ofResponse lists taken
    exact ⟨_, ofResponse_array entries, rfl, (counts_ofResponse taken).symm⟩
  case own =>
    intro body review taken
    rw [counts_ofResponse taken]
    exact ⟨CodeCounts.get?_ofFindings _, CodeCounts.tallies_ofFindings⟩
  case agree =>
    intro body other items review another lists listsOther taken takenOther
    have same : review.findings = another.findings :=
      findings_unique (findings_ofResponse lists taken) (findings_ofResponse listsOther takenOther)
    exact ⟨same, by rw [counts_ofResponse taken, counts_ofResponse takenOther, same]⟩

/-- The supplied counts add up to the length of the list, but not code for code. -/
example :
    (ofResponse (.object [
      ("messages", .array [.object [("code", .string "Bold")], .object [("code", .string "Font")]]),
      ("stats", .object [("errorTypeCount", .object [("Bold", .nat 2), ("Size", .nat 0)])])])).map
        Review.counts =
      (ofResponse (.array [.object [("code", .string "Bold")],
        .object [("code", .string "Font")]])).map Review.counts :=
  rfl

end Review

end FormatReview
