import FormatReview.Proofs.Json.Sentences

namespace FormatReview.Json

/-! The text that is written of a value is read back as this value. -/

open Reader

/-! What is written, indented by level. -/

theorem blank_indent (level : Nat) : Blank (bytesOf (indent level)) := by
  have ascii : ∀ c ∈ '\n' :: List.replicate (2 * level) ' ', c.toNat < 0x80 := by
    simp +contextual [List.mem_replicate]
  rw [indent, bytesOf_ofList, flatMap_ascii ascii, List.map_cons, List.map_replicate]
  intro b member
  rcases List.mem_cons.1 member with rfl | space
  · exact .inr (.inl rfl)
  · exact .inl (List.eq_of_mem_replicate space)

/-- A field, written at a level. -/
def fieldBytes (level : Nat) (entry : String × Json) : Bytes :=
  bytesOf (stringText entry.1) ++ byte ':' :: ([byte ' '] ++ bytesOf (entry.2.prettyAt level))

theorem bytesOf_prettyItems (level : Nat) (v : Json) (values : List Json) :
    bytesOf (prettyItems level (v :: values)) =
      bytesOf (indent level) ++ (bytesOf (v.prettyAt level) ++
        following (bytesOf (indent level)) (values.map fun v => bytesOf (v.prettyAt level))) := by
  induction values generalizing v with
  | nil => simp [prettyItems, following]
  | cons next rest ih =>
      have comma : bytesOf "," = [byte ','] := rfl
      rw [prettyItems, bytesOf_append, bytesOf_append, bytesOf_append, ih, comma]
      simp [following]

theorem bytesOf_prettyFields (level : Nat) (entry : String × Json)
    (entries : List (String × Json)) :
    bytesOf (prettyFields level (entry :: entries)) =
      bytesOf (indent level) ++ (fieldBytes level entry ++
        following (bytesOf (indent level)) (entries.map (fieldBytes level))) := by
  have colon : bytesOf ": " = [byte ':', byte ' '] := rfl
  induction entries generalizing entry with
  | nil => simp [prettyFields, following, fieldBytes, colon]
  | cons next rest ih =>
      have comma : bytesOf "," = [byte ','] := rfl
      rw [prettyFields, bytesOf_append, ih, bytesOf_append, comma]
      simp [following, fieldBytes, colon]

/-- The value opens at most so many levels, and its numbers are words. -/
inductive Nested : Nat → Json → Prop
  | null {levels} : Nested levels .null
  | bool {levels} (b : Bool) : Nested levels (.bool b)
  | nat {levels n} (small : n < UInt64.size) : Nested levels (.nat n)
  | string {levels} (text : String) : Nested levels (.string text)
  | array {levels} {values : List Json} (each : ∀ v ∈ values, Nested levels v) :
      Nested (levels + 1) (.array values)
  | object {levels} {entries : List (String × Json)}
      (each : ∀ entry ∈ entries, Nested levels entry.2) :
      Nested (levels + 1) (.object entries)

theorem sentence_prettyAt {levels : Nat} {v : Json} (nested : Nested levels v) (level : Nat) :
    Sentence levels v (bytesOf (v.prettyAt level)) := by
  induction nested generalizing level with
  | null => rw [prettyAt]; exact .null
  | bool b => rw [prettyAt]; exact .bool b
  | @nat levels n small => rw [nat, prettyAt]; exact .nat small
  | string text => rw [prettyAt]; exact .string text
  | @array levels values each ih =>
      cases values with
      | nil => rw [prettyAt]; exact .noItems
      | cons v rest =>
          -- The items are written one level deeper, and the bracket that closes them is not.
          have texts : List.Forall₂ (Sentence levels) rest
              (rest.map fun v => bytesOf (v.prettyAt (level + 1))) := by
            rw [List.forall₂_map_right_iff]
            exact List.forall₂_same.2 fun other member => ih other (List.mem_cons_of_mem _ member) _
          have written := (ih v List.mem_cons_self (level + 1)).array texts
            (blank_indent (level + 1)) (blank_indent level)
          have opening : bytesOf "[" = [byte '['] := rfl
          have closing : bytesOf "]" = [byte ']'] := rfl
          rw [prettyAt]
          simpa [bytesOf_prettyItems, opening, closing] using written
  | @object levels entries each ih =>
      have member (entry : String × Json) (listed : entry ∈ entries) :
          Member levels entry (fieldBytes (level + 1) entry) :=
        .named (by simp [Blank, IsSpace]) (ih entry listed _)
      cases entries with
      | nil => rw [prettyAt]; exact .noFields
      | cons entry rest =>
          have texts : List.Forall₂ (Member levels) rest (rest.map (fieldBytes (level + 1))) := by
            rw [List.forall₂_map_right_iff]
            exact List.forall₂_same.2 fun other listed =>
              member other (List.mem_cons_of_mem _ listed)
          have written := Sentence.object (member entry List.mem_cons_self) texts
            (blank_indent (level + 1)) (blank_indent level)
          have opening : bytesOf "\x7b" = [byte '\x7b'] := rfl
          have closing : bytesOf "\x7d" = [byte '\x7d'] := rfl
          rw [prettyAt]
          simpa [bytesOf_prettyFields, opening, closing] using written

theorem wholeText_sentence {v : Json} {text blank : Bytes} (sentence : Sentence 127 v text)
    (blanks : Blank blank) : wholeText (text ++ blank) = .ok v := by
  have ends := ends_blank blanks (show Ends [] from trivial)
  have done := skipSpace_blank blanks []
  rw [List.append_nil] at ends done
  have read := sentence.reads (3 * (text ++ blank).length + 2) blank
    (by rw [List.length_append]; omega) ends
  rw [wholeText, read]
  simp only [bind, Except.bind, done, skipSpace]
  rfl

/-- What is written of a value is read as this value, also with blanks behind it. -/
theorem parse_pretty {v : Json} (nested : Nested 127 v) {blank : String}
    (blanks : Blank (bytesOf blank)) : parse (v.pretty ++ blank).toUTF8 = .ok v := by
  have read := wholeText_sentence (sentence_prettyAt nested 0) blanks
  rw [← pretty, ← bytesOf_append] at read
  rw [parse]
  exact congrArg (Except.mapError _) read

end FormatReview.Json
