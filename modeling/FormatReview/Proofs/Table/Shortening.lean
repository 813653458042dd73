import FormatReview.Proofs.Table.Pages

namespace FormatReview

/-! The contexts in a table. A width is a number of characters, of which the ellipsis takes one; a
width of no characters leaves it no room. -/

section Chars

variable {text : List Char} {width : Nat}

theorem shortenChars_of_le (fits : text.length ≤ width) : shortenChars text width = text :=
  if_pos fits

theorem shortenChars_of_lt (long : width < text.length) :
    shortenChars text width = text.take (width - 1) ++ [ellipsis] :=
  if_neg (Nat.not_le.2 long)

theorem length_shortenChars_of_lt (long : width < text.length) :
    (shortenChars text width).length = max 1 width := by
  rw [shortenChars_of_lt long, List.length_append, List.length_take, List.length_singleton]
  omega

/-- Without a width, what is left is the ellipsis. -/
theorem shortenChars_zero (some : text ≠ []) : shortenChars text 0 = [ellipsis] := by
  rw [shortenChars_of_lt (List.length_pos_iff.2 some)]
  rfl

theorem shortenChars_shortenChars (text : List Char) (width : Nat) :
    shortenChars (shortenChars text width) width = shortenChars text width := by
  by_cases fits : text.length ≤ width
  · rw [shortenChars_of_le fits, shortenChars_of_le fits]
  · have long : width < text.length := Nat.lt_of_not_le fits
    cases width with
    | zero =>
        rw [shortenChars_zero (List.length_pos_iff.1 long),
          shortenChars_zero (List.cons_ne_nil _ _)]
    | succ width =>
        apply shortenChars_of_le
        rw [length_shortenChars_of_lt long]
        omega

end Chars

/-- What is shown of a text: all of it if it has the width, and otherwise a proper beginning of it
with an ellipsis, as long as the width, or of the ellipsis alone. -/
inductive Shortened (width : Nat) (text : String) : String → Prop
  | whole (fits : text.length ≤ width) : Shortened width text text
  | cut {kept dropped : String} (long : width < text.length) (split : kept ++ dropped = text)
      (proper : dropped ≠ "") (full : (kept ++ "…").length = max 1 width) :
      Shortened width text (kept ++ "…")

theorem shortened_shorten (text : String) (width : Nat) :
    Shortened width text (shorten text width) := by
  by_cases fits : text.length ≤ width
  · have same : shorten text width = text := by
      rw [shorten, shortenChars_of_le (String.length_toList.le.trans fits), String.ofList_toList]
    rw [same]
    exact .whole fits
  · have long : width < text.toList.length := by
      rw [String.length_toList]
      exact Nat.lt_of_not_le fits
    let kept := String.ofList (text.toList.take (width - 1))
    let dropped := String.ofList (text.toList.drop (width - 1))
    have cut : shorten text width = kept ++ "…" := by
      rw [shorten, shortenChars_of_lt long, String.ofList_append]
      rfl
    have split : kept ++ dropped = text := by
      rw [← String.ofList_append, List.take_append_drop, String.ofList_toList]
    have proper : dropped ≠ "" := by
      intro none
      have nothing := congrArg List.length (String.ofList_eq_empty_iff.1 none)
      rw [List.length_drop, List.length_nil] at nothing
      omega
    have full : (kept ++ "…").length = max 1 width := by
      rw [← cut, shorten, String.length_ofList, length_shortenChars_of_lt long]
    rw [cut]
    exact .cut (Nat.lt_of_not_le fits) split proper full

theorem shorten_shorten (text : String) (width : Nat) :
    shorten (shorten text width) width = shorten text width := by
  rw [shorten, shorten, String.toList_ofList, shortenChars_shortenChars]

/-- The width is kept unless there is none, for then the ellipsis is shown all the same. -/
theorem Shortened.length_le_iff {width : Nat} {text shown : String}
    (shortened : Shortened width text shown) : shown.length ≤ width ↔ 0 < width ∨ text = "" := by
  cases shortened with
  | whole fits =>
      refine ⟨fun _ => ?_, fun _ => fits⟩
      rw [← String.length_eq_zero_iff]
      omega
  | cut long split proper full =>
      rw [full, ← String.length_eq_zero_iff]
      omega

namespace Table

/-- Every page shows of each finding its context, shortened to the width, and everything else as it
is. A context is wider than the width exactly where the width is zero and there is a context. -/
theorem contexts_shortened (review : Review) (requested width : Nat) :
    let table := ofReview review requested width
    (∀ number, (table.page number).rows ⊆ table.rows) ∧
    (∀ (i : Nat) (row : Row), table.rows[i]? = some row →
      ∃ finding : Finding, review.findings[i]? = some finding ∧
      (row.code = finding.code ∧ row.message = finding.message ∧
        row.suggestion = finding.suggestion) ∧
      Shortened width finding.context row.context ∧
      (row.context.length ≤ width ↔ 0 < width ∨ finding.context = "")) ∧
    ∀ text, shorten (shorten text width) width = shorten text width := by
  intro table
  refine ⟨?paged, ?rows, fun text => shorten_shorten text width⟩
  case paged =>
    intro number row member
    exact List.mem_of_mem_drop (List.mem_of_mem_take member)
  case rows =>
    intro i row shown
    rw [table.getElem?_rows] at shown
    obtain ⟨finding, found, rfl⟩ := Option.map_eq_some_iff.1 shown
    have shortened := shortened_shorten finding.context width
    exact ⟨finding, found, ⟨rfl, rfl, rfl⟩, shortened, shortened.length_le_iff⟩

/-- Settings that leave no room for a context. -/
def widthless : ReportSettings := { ReportSettings.standard with contextWidth := 0 }

/-- A width of no characters is taken, and an ellipsis is shown in it. -/
theorem ellipsis_without_width :
    let review : Review := .ofFindings [⟨"A", "m", "s", "abc"⟩]
    (∃ settings, Settings.build [.report widthless] = .ok settings ∧ settings.report = widthless) ∧
    ∃ row ∈ (ofReview review widthless.pageSize widthless.contextWidth).rows,
      row.context = "…" ∧ ¬row.context.length ≤ widthless.contextWidth := by
  intro review
  have sound : (Settings.standard.set (.report widthless)).flaw? = none := rfl
  have built : Settings.build [.report widthless] =
      .ok (Settings.standard.set (.report widthless)) := by
    rw [Settings.build, Settings.setAll_cons, Settings.setAll_nil, Settings.checked, sound]
  exact ⟨⟨_, built, rfl⟩, ⟨1, "A", "m", "s", "…", none⟩, List.mem_singleton_self _, rfl, by decide⟩

end Table

end FormatReview
