import Mathlib.Data.List.Chain
import FormatReview.Proofs.Paper.Spelling

namespace FormatReview.Paper

/-! Where lines end. Lines give the words of a text back, in order and with nothing between them but
the places of single spaces, and of a word that is broken nothing is lost or said twice. -/

/-- Words with one space between them. -/
def joined (words : List Line) : Line := [' '].intercalate words

/-- The lines into which words are broken. Of the first word, `word`, only `rest` is left for them.
The last line has all words that are left, with a space between them. A line before it ends in the
place of the space behind a word, if `Apart` admits the next word, or between two characters of a
word, if `Within` admits that word and the next line. -/
inductive Broken (Apart : Line → Line → Prop) (Within : Line → Line → Line → Prop) :
    Line → Line → List Line → List Line → Prop
  | last {word rest : Line} {more : List Line} :
      Broken Apart Within word rest more [joined (rest :: more)]
  | apart {word rest next : Line} {above more lines : List Line}
      (admitted : Apart (joined (rest :: above)) next)
      (below : Broken Apart Within next next more lines) :
      Broken Apart Within word rest (above ++ next :: more) (joined (rest :: above) :: lines)
  | within {word line rest next : Line} {more lines : List Line}
      (begun : line ≠ []) (unfinished : rest ≠ []) (admitted : Within word line next)
      (below : Broken Apart Within word rest more (next :: lines)) :
      Broken Apart Within word (line ++ rest) more (line :: next :: lines)

/-- Lines in one, with a gap behind each but the last. -/
def glued : List Line → List Line → Line
  | line :: lines, gap :: gaps => line ++ gap ++ glued lines gaps
  | lines, _ => lines.flatten

/-- A piece of a word. -/
def Solid (piece : Line) : Prop := piece ≠ [] ∧ ∀ c ∈ piece, Text.isBlank c = false

/-- A line that is not empty, neither begins nor ends with a space, and has no blanks but spaces, of
which no two are side by side. -/
structure Tidy (line : Line) : Prop where
  occupied : line ≠ []
  begins : line.head? ≠ some ' '
  ends : line.getLast? ≠ some ' '
  blanks : ∀ c ∈ line, Text.isBlank c = true → c = ' '
  spaces : line.IsChain fun c next => c = ' ' → next ≠ ' '

section Joined

variable {word rest : Line} {words : List Line}

theorem joined_cons (word : Line) (rest : List Line) :
    joined (word :: rest) = word ++ rest.flatMap (' ' :: ·) :=
  Gauge.intercalate_space word rest

@[simp] theorem joined_singleton (word : Line) : joined [word] = word := by
  simp [joined_cons]

theorem joined_cons_cons (word next : Line) (rest : List Line) :
    joined (word :: next :: rest) = word ++ ' ' :: joined (next :: rest) := by
  simp [joined_cons]

theorem joined_concat (word : Line) (above : List Line) (next : Line) :
    joined (word :: (above ++ [next])) = joined (word :: above) ++ ' ' :: next := by
  simp [joined_cons]

theorem joined_append (word : Line) (above : List Line) (next : Line) (more : List Line) :
    joined (word :: (above ++ next :: more)) =
      joined (word :: above) ++ ' ' :: joined (next :: more) := by
  simp [joined_cons]

theorem joined_ne_nil (solid : word ≠ []) : joined (word :: words) ≠ [] := by
  simp [joined_cons, solid]

end Joined

theorem Solid.ne_space {piece : Line} (solid : Solid piece) {c : Char} (occurs : c ∈ piece) :
    c ≠ ' ' := by
  rintro rfl
  have visible := solid.2 ' ' occurs
  simp at visible

theorem Solid.tidy {piece : Line} (solid : Solid piece) : Tidy piece where
  occupied := solid.1
  begins first := solid.ne_space (List.mem_of_head? first) rfl
  ends last := solid.ne_space (List.mem_of_getLast? last) rfl
  blanks c occurs blank := by simp [solid.2 c occurs] at blank
  spaces := by
    refine List.Pairwise.isChain (List.pairwise_of_forall_mem_list ?_)
    intro c _ next occurs _
    exact solid.ne_space occurs

theorem tidy_joined {word : Line} {rest : List Line} (solid : ∀ piece ∈ word :: rest, Solid piece) :
    Tidy (joined (word :: rest)) := by
  induction rest generalizing word with
  | nil => simpa using (solid word List.mem_cons_self).tidy
  | cons next rest ih =>
      obtain ⟨here, later⟩ := List.forall_mem_cons.1 solid
      have first := here.tidy
      have others := ih later
      obtain ⟨c, tail, rfl⟩ := List.exists_cons_of_ne_nil here.1
      rw [joined_cons_cons]
      refine ⟨by simp, by simpa using first.begins, ?_, ?_, ?_⟩
      · have last := List.getLast?_eq_getLast_of_ne_nil others.occupied
        simpa [List.getLast?_append, List.getLast?_cons, last] using others.ends
      · intro d occurs blank
        rcases List.mem_append.1 occurs with occurs | occurs
        · exact first.blanks d occurs blank
        · rcases List.mem_cons.1 occurs with rfl | occurs
          · rfl
          · exact others.blanks d occurs blank
      · refine List.isChain_append.2 ⟨first.spaces, ?_, ?_⟩
        · refine List.isChain_cons.2 ⟨?_, others.spaces⟩
          rintro d begins - rfl
          exact others.begins begins
        · rintro d last _ - space
          exact absurd space (here.ne_space (List.mem_of_getLast? last))

namespace Broken

variable {Apart : Line → Line → Prop} {Within : Line → Line → Line → Prop} {word rest : Line}
  {more lines : List Line}

theorem exists_cons {c : Char} {tail : Line}
    (broken : Broken Apart Within word (c :: tail) more lines) :
    ∃ first others, lines = (c :: first) :: others := by
  generalize begun : c :: tail = rest at broken
  cases broken with
  | last => exact ⟨_, _, by rw [← begun, joined_cons, List.cons_append]⟩
  | apart admitted below => exact ⟨_, _, by rw [← begun, joined_cons, List.cons_append]⟩
  | @within _ line rest next _ others solid unfinished admitted below =>
      obtain ⟨d, first, rfl⟩ := List.exists_cons_of_ne_nil solid
      obtain ⟨rfl, -⟩ := List.cons.inj begun
      exact ⟨_, _, rfl⟩

theorem mono {Apart' : Line → Line → Prop} {Within' : Line → Line → Line → Prop}
    (broken : Broken Apart Within word rest more lines)
    (apart : ∀ line next, Apart line next → Apart' line next)
    (within : ∀ word line next, Within word line next → Within' word line next) :
    Broken Apart' Within' word rest more lines := by
  induction broken with
  | last => exact .last
  | apart admitted below ih => exact .apart (apart _ _ admitted) ih
  | within begun unfinished admitted below ih =>
      exact .within begun unfinished (within _ _ _ admitted) ih

/-- One space or nothing between each line and the next gives the words again. -/
theorem exists_glued (broken : Broken Apart Within word rest more lines) :
    ∃ gaps, gaps.length + 1 = lines.length ∧ (∀ gap ∈ gaps, gap = [' '] ∨ gap = []) ∧
      glued lines gaps = joined (rest :: more) := by
  induction broken with
  | last => exact ⟨[], rfl, List.forall_mem_nil _, by simp [glued]⟩
  | apart admitted below ih =>
      obtain ⟨gaps, size, each, same⟩ := ih
      refine ⟨[' '] :: gaps, by simp [size], List.forall_mem_cons.2 ⟨.inl rfl, each⟩, ?_⟩
      rw [glued, same, joined_append, List.append_assoc, List.singleton_append]
  | within begun unfinished admitted below ih =>
      obtain ⟨gaps, size, each, same⟩ := ih
      refine ⟨[] :: gaps, by simp [size], List.forall_mem_cons.2 ⟨.inr rfl, each⟩, ?_⟩
      rw [glued, same, List.append_nil, joined_cons, joined_cons, List.append_assoc]

theorem tidy (broken : Broken Apart Within word rest more lines)
    (solid : ∀ piece ∈ rest :: more, Solid piece) : ∀ line ∈ lines, Tidy line := by
  induction broken with
  | last => exact List.forall_mem_singleton.2 (tidy_joined solid)
  | @apart word rest next above more lines admitted below ih =>
      rw [← List.cons_append, List.forall_mem_append] at solid
      exact List.forall_mem_cons.2 ⟨tidy_joined solid.1, ih solid.2⟩
  | @within word line rest next more lines begun unfinished admitted below ih =>
      obtain ⟨⟨-, visible⟩, later⟩ := List.forall_mem_cons.1 solid
      rw [List.forall_mem_append] at visible
      refine List.forall_mem_cons.2 ⟨Solid.tidy ⟨begun, visible.1⟩, ih ?_⟩
      exact List.forall_mem_cons.2 ⟨⟨unfinished, visible.2⟩, later⟩

end Broken

namespace Gauge

variable {α : Type} [Measure α] (gauge : Gauge α)

/-- The next word does not fit behind the line. -/
def Full (line next : Line) : Prop := gauge.fits (line ++ ' ' :: next) = false

/-- The word fits on no line, and its next character not on this one. -/
def Cut (word line next : Line) : Prop :=
  gauge.fits word = false ∧ ∃ c rest, next = c :: rest ∧ gauge.exceeds (line ++ [c]) = true

/-- The lines that a word fills from the beginning of a line, and the one that it leaves open. -/
def start (word : Line) : List Line × Line :=
  if gauge.fits word then ([], word) else gauge.breakWord [] word

theorem place_nil (word : Line) : gauge.place [] word = gauge.start word := by
  have alone : extend [] word = word := if_pos rfl
  simp only [place, start, alone]
  split
  · rfl
  · simp [closed]

theorem place_of_full {line : Line} (begun : line ≠ []) {word : Line} (full : gauge.Full line word) :
    gauge.place line word = (line :: (gauge.start word).1, (gauge.start word).2) := by
  have longer : extend line word = line ++ ' ' :: word := if_neg begun
  have full : gauge.fits (line ++ ' ' :: word) = false := full
  simp only [place, start, longer, full, closed, begun, Bool.false_eq_true, if_false]
  split <;> rfl

variable {gauge}

theorem broken_breakWord {word : Line} {more lines : List Line} (wide : gauge.fits word = false)
    {line : Line} (begun : line ≠ []) (rest : Line)
    (below : Broken gauge.Full gauge.Cut word (gauge.breakWord line rest).2 more lines) :
    Broken gauge.Full gauge.Cut word (line ++ rest) more
      ((gauge.breakWord line rest).1 ++ lines) := by
  induction rest generalizing line with
  | nil => simpa [breakWord] using below
  | cons c rest ih =>
      rw [breakWord] at below ⊢
      split at below
      · next full =>
          have later := ih (List.cons_ne_nil c []) below
          obtain ⟨first, others, split⟩ := later.exists_cons
          rw [if_pos full, List.cons_append]
          rw [split] at later ⊢
          exact .within begun (List.cons_ne_nil c rest) ⟨wide, c, first, rfl, full.2⟩ later
      · next free =>
          rw [if_neg free]
          simpa using ih (by simp) below

/-- The lines from a word on, if the lines behind what it leaves open are as they should be. -/
theorem broken_start {word : Line} {words : List Line} (solid : word ≠ [])
    (onward : ∀ rest, rest ≠ [] → Broken gauge.Full gauge.Cut word rest words
      ((gauge.fill rest words).1 ++ [(gauge.fill rest words).2])) :
    Broken gauge.Full gauge.Cut word word words
      ((gauge.start word).1 ++ ((gauge.fill (gauge.start word).2 words).1 ++
        [(gauge.fill (gauge.start word).2 words).2])) := by
  by_cases alone : gauge.fits word
  · simpa [start, alone] using onward word solid
  · have wide : gauge.fits word = false := by simpa using alone
    obtain ⟨c, rest, rfl⟩ := List.exists_cons_of_ne_nil solid
    have first : gauge.breakWord [] (c :: rest) = gauge.breakWord [c] rest := by simp [breakWord]
    rw [start, if_neg alone, first]
    exact broken_breakWord wide (List.cons_ne_nil c []) rest
      (onward _ (gauge.breakWord_ne_nil (by simp)))

theorem broken_fill (word : Line) (above : List Line) {rest : Line} {words : List Line}
    (begun : rest ≠ []) (solid : ∀ word ∈ words, word ≠ []) :
    Broken gauge.Full gauge.Cut word rest (above ++ words)
      ((gauge.fill (joined (rest :: above)) words).1 ++
        [(gauge.fill (joined (rest :: above)) words).2]) := by
  -- The open line holds what is left of the first word, and the words above those to come.
  induction words generalizing word rest above with
  | nil => simpa [fill] using Broken.last
  | cons next words ih =>
      obtain ⟨here, later⟩ := List.forall_mem_cons.1 solid
      have occupied : joined (rest :: above) ≠ [] := joined_ne_nil begun
      by_cases room : gauge.fits (joined (rest :: above) ++ ' ' :: next)
      · have placed : gauge.place (joined (rest :: above)) next =
            ([], joined (rest :: (above ++ [next]))) := by
          simp [place, extend, occupied, joined_concat, room]
        rw [fill, placed]
        simpa using ih word (above ++ [next]) begun later
      · have full : gauge.Full (joined (rest :: above)) next := by simpa [Full] using room
        rw [fill, place_of_full gauge occupied full, List.append_assoc]
        refine .apart full (broken_start here fun rest unfinished => ?_)
        simpa using ih next [] unfinished later

theorem wrap_eq_fill {text : List Char} (words : Text.words text ≠ []) :
    gauge.wrap text =
      (gauge.fill [] (Text.words text)).1 ++ [(gauge.fill [] (Text.words text)).2] := by
  have last : (gauge.fill [] (Text.words text)).2 ≠ [] :=
    gauge.fill_ne_nil (fun _ => Text.ne_nil_of_mem_words) (.inr words)
  simp only [wrap]
  split
  · next none => simp [none]
  · simp [closed, last]

theorem broken_wrap (gauge : Gauge α) {text : List Char} {word : Line} {more : List Line}
    (words : Text.words text = word :: more) :
    Broken gauge.Full gauge.Cut word word more (gauge.wrap text) := by
  have solid : ∀ next ∈ word :: more, next ≠ [] := by
    rw [← words]
    exact fun _ => Text.ne_nil_of_mem_words
  obtain ⟨here, later⟩ := List.forall_mem_cons.1 solid
  rw [wrap_eq_fill (by simp [words]), words, fill, place_nil, List.append_assoc]
  refine broken_start here fun rest unfinished => ?_
  simpa using broken_fill word [] unfinished later

variable (gauge)

/-- The lines of a text give its words back with a space between one and the next, if some of them
are followed by a space and the others by nothing. A line ends in the place of such a space, or
inside a word that is wider than the room, and is tidy. Without a word there is one line, which is
empty. All this holds whatever the widths are. -/
theorem wrap_keeps_words (text : List Char) :
    match Text.words text with
    | [] => gauge.wrap text = [[]]
    | word :: more =>
        Broken (fun _ _ => True) (fun word _ _ => ¬gauge.width word ≤ gauge.room) word word more
            (gauge.wrap text) ∧
          (∃ gaps, gaps.length + 1 = (gauge.wrap text).length ∧
            (∀ gap ∈ gaps, gap = [' '] ∨ gap = []) ∧
            glued (gauge.wrap text) gaps = joined (word :: more)) ∧
          ∀ line ∈ gauge.wrap text, Tidy line := by
  cases words : Text.words text with
  | nil => simp [wrap, words, fill]
  | cons word more =>
      have broken := gauge.broken_wrap words
      have solid : ∀ piece ∈ word :: more, Solid piece := by
        rw [← words]
        exact fun piece member => ⟨Text.ne_nil_of_mem_words member,
          fun c occurs => (Text.mem_and_not_isBlank_of_mem_words member occurs).2⟩
      refine ⟨broken.mono (fun _ _ _ => trivial) ?_, broken.exists_glued, broken.tidy solid⟩
      rintro word line next ⟨wide, -⟩
      simpa [fits] using wide

/-- The end of a broken word shares its line with the next word. -/
example :
    wrap (⟨⟨"plain", fun _ => some 1⟩, 1, 4 * point Rat⟩ : Gauge Rat) "a bcdef  g".toList =
      [['a'], ['b', 'c', 'd', 'e'], ['f', ' ', 'g']] := by
  cbv

end Gauge

end FormatReview.Paper
