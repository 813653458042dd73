import FormatReview.Paper.Layout

namespace FormatReview.Paper

/-! Lines and the text that they spell. A line ends in the place of a space or, in a word that is too
wide, between two characters; the next line goes on right there. -/

/-- The lines are the text cut into pieces, of which at most the last one is empty. -/
inductive Rejoins : List Line → List Char → Prop
  | last (line : Line) : Rejoins [line] line
  | apart {line : Line} {rest : List Line} {text : List Char} (solid : line ≠ [])
      (rejoins : Rejoins rest text) : Rejoins (line :: rest) (line ++ ' ' :: text)
  | within {line : Line} {rest : List Line} {text : List Char} (solid : line ≠ [])
      (rejoins : Rejoins rest text) : Rejoins (line :: rest) (line ++ text)

/-- The words of a text with one space between them. -/
def spaced (text : List Char) : List Char := [' '].intercalate (Text.words text)

namespace Rejoins

variable {lines more : List Line} {text rest : List Char}

theorem ne_nil (rejoins : Rejoins lines text) : lines ≠ [] := by
  cases rejoins with
  | last => exact List.cons_ne_nil _ _
  | apart solid rejoins => exact List.cons_ne_nil _ _
  | within solid rejoins => exact List.cons_ne_nil _ _

theorem length_le (rejoins : Rejoins lines text) : lines.length ≤ text.length + 1 := by
  induction rejoins with
  | last line => simp
  | apart solid rejoins ih =>
      have long := List.length_pos_iff.2 solid
      simp only [List.length_cons, List.length_append]
      omega
  | within solid rejoins ih =>
      have long := List.length_pos_iff.2 solid
      simp only [List.length_cons, List.length_append]
      omega

theorem of_singleton {line : Line} (rejoins : Rejoins [line] text) : text = line := by
  cases rejoins with
  | last => rfl
  | apart solid rejoins => exact absurd rfl rejoins.ne_nil
  | within solid rejoins => exact absurd rfl rejoins.ne_nil

/-- The last line may be cut further, together with what comes behind it. -/
theorem goOn {line : Line} (rejoins : Rejoins (lines ++ [line]) text)
    (behind : Rejoins more (line ++ rest)) : Rejoins (lines ++ more) (text ++ rest) := by
  induction lines generalizing text with
  | nil =>
      rw [rejoins.of_singleton]
      exact behind
  | cons first others ih =>
      generalize joined : others ++ [line] = tail at ih
      rw [List.cons_append, joined] at rejoins
      cases rejoins with
      | last => simp at joined
      | apart solid rejoins =>
          rw [List.append_assoc]
          exact .apart solid (ih rejoins)
      | within solid rejoins =>
          rw [List.append_assoc]
          exact .within solid (ih rejoins)

end Rejoins

namespace Gauge

theorem extend_ne_nil {line word : Line} (solid : word ≠ []) : extend line word ≠ [] := by
  unfold extend
  split
  · exact solid
  · simp

theorem foldl_extend {line : Line} (solid : line ≠ []) (words : List Line) :
    words.foldl extend line = line ++ words.flatMap (' ' :: ·) := by
  induction words generalizing line with
  | nil => simp
  | cons word rest ih =>
      have longer : extend line word = line ++ ' ' :: word := if_neg solid
      rw [List.foldl_cons, longer, ih (by simp), List.flatMap_cons, List.append_assoc,
        List.cons_append]

theorem intercalate_space (word : Line) (rest : List Line) :
    [' '].intercalate (word :: rest) = word ++ rest.flatMap (' ' :: ·) := by
  induction rest generalizing word with
  | nil => simp
  | cons next rest ih => simp [List.intercalate_cons_cons, ih next]

theorem foldl_extend_nil {words : List Line} (solid : ∀ word ∈ words, word ≠ []) :
    words.foldl extend [] = [' '].intercalate words := by
  cases words with
  | nil => rfl
  | cons word rest =>
      have first : extend [] word = word := if_pos rfl
      rw [List.foldl_cons, first, foldl_extend (solid word List.mem_cons_self),
        intercalate_space]

variable {α : Type} [Measure α] (gauge : Gauge α)

omit [Measure α] in
theorem rejoins_closed {lines : List Line} {word : Line} (line : Line)
    (rejoins : Rejoins lines word) : Rejoins (closed line ++ lines) (extend line word) := by
  unfold closed extend
  split
  · exact rejoins
  · next solid => exact .apart solid rejoins

theorem rejoins_breakWord (line word : Line) :
    Rejoins ((gauge.breakWord line word).1 ++ [(gauge.breakWord line word).2]) (line ++ word) := by
  induction word generalizing line with
  | nil =>
      rw [List.append_nil]
      exact .last line
  | cons c rest ih =>
      simp only [breakWord]
      split
      · next wide => exact .within wide.1 (ih [c])
      · simpa using ih (line ++ [c])

theorem rejoins_place (line word : Line) :
    Rejoins ((gauge.place line word).1 ++ [(gauge.place line word).2]) (extend line word) := by
  simp only [place]
  split
  · exact .last _
  · split
    · exact rejoins_closed line (.last word)
    · rw [List.append_assoc]
      exact rejoins_closed line (gauge.rejoins_breakWord [] word)

theorem breakWord_ne_nil {line word : Line} (solid : line ++ word ≠ []) :
    (gauge.breakWord line word).2 ≠ [] := by
  induction word generalizing line with
  | nil => simpa [breakWord] using solid
  | cons c rest ih =>
      simp only [breakWord]
      split
      · exact ih (by simp)
      · exact ih (by simp)

theorem place_ne_nil (line : Line) {word : Line} (solid : word ≠ []) :
    (gauge.place line word).2 ≠ [] := by
  simp only [place]
  split
  · exact extend_ne_nil solid
  · split
    · exact solid
    · exact gauge.breakWord_ne_nil (by simpa using solid)

theorem rejoins_fill (line : Line) {words : List Line} (solid : ∀ word ∈ words, word ≠ []) :
    Rejoins ((gauge.fill line words).1 ++ [(gauge.fill line words).2])
      (words.foldl extend line) := by
  -- The open line goes into the induction, as it takes the first words that fit.
  induction words generalizing line with
  | nil => exact .last line
  | cons word rest ih =>
      obtain ⟨here, later⟩ := List.forall_mem_cons.1 solid
      have behind := ih (gauge.place line word).2 later
      rw [foldl_extend (gauge.place_ne_nil line here)] at behind
      rw [fill, List.foldl_cons, foldl_extend (extend_ne_nil here), List.append_assoc]
      exact (gauge.rejoins_place line word).goOn behind

theorem fill_ne_nil {line : Line} {words : List Line} (solid : ∀ word ∈ words, word ≠ [])
    (occupied : line ≠ [] ∨ words ≠ []) : (gauge.fill line words).2 ≠ [] := by
  induction words generalizing line with
  | nil => simpa [fill] using occupied
  | cons word rest ih =>
      obtain ⟨here, later⟩ := List.forall_mem_cons.1 solid
      exact ih later (.inl (gauge.place_ne_nil line here))

/-- The lines of a text spell its words, with a space between one word and the next. -/
theorem rejoins_wrap (text : List Char) : Rejoins (gauge.wrap text) (spaced text) := by
  have solid : ∀ word ∈ Text.words text, word ≠ [] := fun _ => Text.ne_nil_of_mem_words
  have filled := gauge.rejoins_fill [] solid
  rw [foldl_extend_nil solid] at filled
  simp only [wrap]
  split
  · next none => simpa [none, spaced] using filled
  · next full =>
      have words : Text.words text ≠ [] := fun none => full (by rw [none]; rfl)
      have last : (gauge.fill [] (Text.words text)).2 ≠ [] := gauge.fill_ne_nil solid (.inr words)
      simpa [closed, last, spaced] using filled

end Gauge

structure Spells (cells : Columns Cell) (texts : Columns String) : Prop where
  code : Rejoins cells.code (spaced texts.code.toList)
  message : Rejoins cells.message (spaced texts.message.toList)
  suggestion : Rejoins cells.suggestion (spaced texts.suggestion.toList)
  context : Rejoins cells.context (spaced texts.context.toList)

variable {α : Type} [Measure α] (face : Typeface α) (size : α) (texts : Columns String)

theorem spells_wrapCells : Spells (wrapCells face size texts) texts where
  code := Gauge.rejoins_wrap _ _
  message := Gauge.rejoins_wrap _ _
  suggestion := Gauge.rejoins_wrap _ _
  context := Gauge.rejoins_wrap _ _

theorem lineCount_wrapCells_pos : 0 < lineCount (wrapCells face size texts) := by
  have first := List.length_pos_iff.2 (spells_wrapCells face size texts).code.ne_nil
  simp only [lineCount, Columns.toList, List.map_cons, List.map_nil, List.foldl_cons,
    List.foldl_nil]
  omega

end FormatReview.Paper
