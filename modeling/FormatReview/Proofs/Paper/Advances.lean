import FormatReview.Paper.Layout

namespace FormatReview.Paper

/-! Lines broken by known widths alone. The advances of the characters that occur are resolved once,
and a width is only known if each of its characters is among them. Breaking asks for no other widths
as long as the words have none but such characters. -/

variable {α : Type} [Measure α]

/-- Tells the widths of some lines. -/
structure Ruler (α : Type) where
  width? : Line → Option α
  room : α

namespace Ruler

def fits? (ruler : Ruler α) (text : Line) : Option Bool :=
  (ruler.width? text).map fun width => decide (width ≤ ruler.room)

def exceeds? (ruler : Ruler α) (text : Line) : Option Bool :=
  (ruler.width? text).map fun width => decide (ruler.room < width)

/-! Breaking lines as with a gauge, up to the first width that is not known. -/

def breakWord? (ruler : Ruler α) (line : Line) : List Char → Option (List Line × Line)
  | [] => some ([], line)
  | c :: rest => do
      let full ← if line = [] then some false else ruler.exceeds? (line ++ [c])
      if full then
        let (more, last) ← ruler.breakWord? [c] rest
        return (line :: more, last)
      else ruler.breakWord? (line ++ [c]) rest

def place? (ruler : Ruler α) (line word : Line) : Option (List Line × Line) := do
  let joined ← ruler.fits? (Gauge.extend line word)
  if joined then return ([], Gauge.extend line word)
  let alone ← ruler.fits? word
  if alone then return (Gauge.closed line, word)
  let (full, last) ← ruler.breakWord? [] word
  return (Gauge.closed line ++ full, last)

def fill? (ruler : Ruler α) (line : Line) : List Line → Option (List Line × Line)
  | [] => some ([], line)
  | word :: rest => do
      let (full, next) ← ruler.place? line word
      let (more, last) ← ruler.fill? next rest
      return (full ++ more, last)

def wrap? (ruler : Ruler α) (text : List Char) : Option (List Line) := do
  let (full, last) ← ruler.fill? [] (Text.words text)
  return if full = [] then [last] else full ++ Gauge.closed last

/-- The ruler measures as the gauge does wherever all characters are as `Known` says. -/
structure Agrees (ruler : Ruler α) (gauge : Gauge α) (Known : Char → Prop) : Prop where
  room : ruler.room = gauge.room
  space : Known ' '
  width : ∀ line, (∀ c ∈ line, Known c) → ruler.width? line = some (gauge.width line)

end Ruler

namespace Gauge

variable (gauge : Gauge α) {Known : Char → Prop}

omit [Measure α] in
theorem known_extend (space : Known ' ') {line word : Line} (left : ∀ c ∈ line, Known c)
    (right : ∀ c ∈ word, Known c) : ∀ c ∈ extend line word, Known c := by
  unfold extend
  split
  · exact right
  · intro c member
    rcases List.mem_append.1 member with member | member
    · exact left c member
    · rcases List.mem_cons.1 member with rfl | member
      · exact space
      · exact right c member

omit [Measure α] in
theorem known_closed {line : Line} (known : ∀ c ∈ line, Known c) :
    ∀ other ∈ closed line, ∀ c ∈ other, Known c := by
  unfold closed
  split
  · simp
  · simpa using known

omit [Measure α] in
theorem known_nil : ∀ c ∈ ([] : Line), Known c := by
  simp

/-- All lines that a piece of text fills, and the one that it leaves open. -/
def Spelled (Known : Char → Prop) (broken : List Line × Line) : Prop :=
  (∀ line ∈ broken.1, ∀ c ∈ line, Known c) ∧ ∀ c ∈ broken.2, Known c

theorem spelled_breakWord {line word : Line} (left : ∀ c ∈ line, Known c)
    (right : ∀ c ∈ word, Known c) : Spelled Known (gauge.breakWord line word) := by
  induction word generalizing line with
  | nil => exact ⟨by simp [breakWord], left⟩
  | cons c rest ih =>
      obtain ⟨here, later⟩ := List.forall_mem_cons.1 right
      simp only [breakWord]
      split
      · obtain ⟨full, last⟩ := ih (List.forall_mem_singleton.2 here) later
        exact ⟨List.forall_mem_cons.2 ⟨left, full⟩, last⟩
      · exact ih (List.forall_mem_append.2 ⟨left, List.forall_mem_singleton.2 here⟩) later

theorem spelled_place (space : Known ' ') {line word : Line} (left : ∀ c ∈ line, Known c)
    (right : ∀ c ∈ word, Known c) : Spelled Known (gauge.place line word) := by
  simp only [place]
  split
  · exact ⟨by simp, known_extend space left right⟩
  · split
    · exact ⟨known_closed left, right⟩
    · obtain ⟨full, last⟩ := gauge.spelled_breakWord known_nil right
      exact ⟨List.forall_mem_append.2 ⟨known_closed left, full⟩, last⟩

theorem spelled_fill (space : Known ' ') {line : Line} {words : List Line}
    (left : ∀ c ∈ line, Known c) (right : ∀ word ∈ words, ∀ c ∈ word, Known c) :
    Spelled Known (gauge.fill line words) := by
  induction words generalizing line with
  | nil => exact ⟨by simp [fill], left⟩
  | cons word rest ih =>
      obtain ⟨here, later⟩ := List.forall_mem_cons.1 right
      obtain ⟨full, onward⟩ := gauge.spelled_place space left here
      obtain ⟨more, last⟩ := ih onward later
      exact ⟨List.forall_mem_append.2 ⟨full, more⟩, last⟩

theorem known_wrap (space : Known ' ') {text : List Char}
    (words : ∀ word ∈ Text.words text, ∀ c ∈ word, Known c) :
    ∀ line ∈ gauge.wrap text, ∀ c ∈ line, Known c := by
  obtain ⟨full, last⟩ := gauge.spelled_fill space known_nil words
  simp only [wrap]
  split
  · simpa using last
  · exact List.forall_mem_append.2 ⟨full, known_closed last⟩

end Gauge

namespace Ruler.Agrees

variable {ruler : Ruler α} {gauge : Gauge α} {Known : Char → Prop}
  (agrees : ruler.Agrees gauge Known)

include agrees

theorem fits? {line : Line} (known : ∀ c ∈ line, Known c) :
    ruler.fits? line = some (gauge.fits line) := by
  rw [Ruler.fits?, agrees.width line known, agrees.room]
  rfl

theorem exceeds? {line : Line} (known : ∀ c ∈ line, Known c) :
    ruler.exceeds? line = some (gauge.exceeds line) := by
  rw [Ruler.exceeds?, agrees.width line known, agrees.room]
  rfl

theorem breakWord? {line word : Line} (left : ∀ c ∈ line, Known c)
    (right : ∀ c ∈ word, Known c) :
    ruler.breakWord? line word = some (gauge.breakWord line word) := by
  induction word generalizing line with
  | nil => rfl
  | cons c rest ih =>
      obtain ⟨here, later⟩ := List.forall_mem_cons.1 right
      have single : ∀ d ∈ [c], Known d := List.forall_mem_singleton.2 here
      have longer : ∀ d ∈ line ++ [c], Known d := List.forall_mem_append.2 ⟨left, single⟩
      rw [Ruler.breakWord?, Gauge.breakWord, agrees.exceeds? longer]
      by_cases empty : line = []
      · simp [empty, ih single later]
      · by_cases wide : gauge.exceeds (line ++ [c])
        · simp [empty, wide, ih single later]
        · simp [empty, wide, ih longer later]

theorem place? {line word : Line} (left : ∀ c ∈ line, Known c) (right : ∀ c ∈ word, Known c) :
    ruler.place? line word = some (gauge.place line word) := by
  rw [Ruler.place?, Gauge.place, agrees.fits? (Gauge.known_extend agrees.space left right),
    agrees.fits? right, agrees.breakWord? Gauge.known_nil right]
  by_cases joined : gauge.fits (Gauge.extend line word)
  · simp [joined]
  · by_cases alone : gauge.fits word
    · simp [joined, alone]
    · simp [joined, alone]

theorem fill? {line : Line} {words : List Line} (left : ∀ c ∈ line, Known c)
    (right : ∀ word ∈ words, ∀ c ∈ word, Known c) :
    ruler.fill? line words = some (gauge.fill line words) := by
  induction words generalizing line with
  | nil => rfl
  | cons word rest ih =>
      obtain ⟨here, later⟩ := List.forall_mem_cons.1 right
      have next := (gauge.spelled_place agrees.space left here).2
      rw [Ruler.fill?, Gauge.fill, agrees.place? left here]
      simp [ih next later]

theorem wrap? {text : List Char} (words : ∀ word ∈ Text.words text, ∀ c ∈ word, Known c) :
    ruler.wrap? text = some (gauge.wrap text) := by
  rw [Ruler.wrap?, Gauge.wrap, agrees.fill? Gauge.known_nil words]
  rfl

end Ruler.Agrees

/-! The advances of the characters that occur. -/

section Distinct

omit [Measure α]

theorem mem_insertChar {c d : Char} {chars : List Char} :
    c ∈ insertChar d chars ↔ c = d ∨ c ∈ chars := by
  induction chars with
  | nil => simp [insertChar]
  | cons e rest ih =>
      simp only [insertChar]
      split
      · simp
      · split
        · next same => simp [same]
        · simp only [List.mem_cons, ih]
          exact or_left_comm

theorem mem_distinct {c : Char} {text : List Char} : c ∈ distinct text ↔ c ∈ text := by
  have folded (text seen : List Char) :
      c ∈ text.foldl (fun seen d => insertChar d seen) seen ↔ c ∈ seen ∨ c ∈ text := by
    induction text generalizing seen with
    | nil => simp
    | cons d rest ih =>
        rw [List.foldl_cons, ih, mem_insertChar, List.mem_cons, or_assoc, or_left_comm]
  simpa [distinct] using folded text []

theorem lookup_filterMap (find : Char → Option α) (chars : List Char) (c : Char) :
    (chars.filterMap fun d => (find d).map (d, ·)).lookup c =
      if c ∈ chars then find c else none := by
  induction chars with
  | nil => rfl
  | cons d rest ih =>
      by_cases same : c = d
      · subst same
        cases found : find c with
        | none => simp [found, ih]
        | some a => simp [found]
      · cases found : find d with
        | none => simp [found, ih, same]
        | some a => simp [found, ih, same, List.lookup_cons, beq_eq_false_iff_ne.2 same]

end Distinct

namespace Typeface

variable (face : Typeface α) (texts : List String)

/-- The advances of the characters that occur in some texts, as far as they have a glyph, and that
of the space. -/
def advances : List (Char × α) :=
  (distinct (texts.flatMap String.toList)).filterMap (fun c => (face.advance? c).map (c, ·)) ++
    [(' ', (face.advance? ' ').getD 0.25)]

theorem lookup_advances_space :
    (face.advances texts).lookup ' ' = some ((face.advance? ' ').getD 0.25) := by
  rw [advances, List.lookup_append, lookup_filterMap]
  cases found : face.advance? ' ' with
  | none => simp
  | some a => split <;> simp

theorem lookup_advances {c : Char} (occurs : c ∈ texts.flatMap String.toList)
    (covered : (face.advance? c).isSome) : (face.advances texts).lookup c = face.advance? c := by
  obtain ⟨a, found⟩ := Option.isSome_iff_exists.1 covered
  rw [advances, List.lookup_append, lookup_filterMap, if_pos (mem_distinct.2 occurs), found]
  rfl

end Typeface

/-- The width of a line of characters that all have an advance in the table. -/
def widthBy? (advances : List (Char × α)) (size : α) (line : Line) : Option α :=
  (line.foldlM (fun sum c => (advances.lookup c).map (sum + ·)) 0.0).map
    fun ems => ems * size * point α

def rulerBy (advances : List (Char × α)) (size room : α) : Ruler α :=
  ⟨widthBy? advances size, room⟩

namespace Typeface

variable (face : Typeface α) (texts : List String)

/-- A space, or a character of the texts that has a glyph. -/
def Occurs (c : Char) : Prop :=
  c = ' ' ∨ c ∈ texts.flatMap String.toList ∧ (face.advance? c).isSome

theorem lookup_of_occurs {c : Char} (occurs : face.Occurs texts c) :
    (face.advances texts).lookup c = some (face.em c) := by
  rcases occurs with rfl | ⟨occurs, covered⟩
  · exact face.lookup_advances_space texts
  · by_cases space : c = ' '
    · subst space
      exact face.lookup_advances_space texts
    · obtain ⟨a, found⟩ := Option.isSome_iff_exists.1 covered
      rw [face.lookup_advances texts occurs covered, em, if_neg space, found]
      rfl

theorem widthBy?_of_occurs (size : α) {line : Line} (occurs : ∀ c ∈ line, face.Occurs texts c) :
    widthBy? (face.advances texts) size line = some (face.width size line) := by
  have summed (start : α) :
      line.foldlM (fun sum c => ((face.advances texts).lookup c).map (sum + ·)) start =
        some (line.foldl (fun sum c => sum + face.em c) start) := by
    induction line generalizing start with
    | nil => rfl
    | cons c rest ih =>
        obtain ⟨here, later⟩ := List.forall_mem_cons.1 occurs
        rw [List.foldlM_cons, face.lookup_of_occurs texts here]
        exact ih later (start + face.em c)
  rw [widthBy?, summed]
  rfl

theorem agrees (size room : α) :
    (rulerBy (face.advances texts) size room).Agrees ⟨face, size, room⟩ (face.Occurs texts) where
  room := rfl
  space := .inl rfl
  width _ occurs := face.widthBy?_of_occurs texts size occurs

/-- A width with a character that does not occur in the texts is not known. -/
example :
    (rulerBy (advances (⟨"plain", fun _ => some 0⟩ : Typeface Rat) ["a"]) 1 100).wrap?
      ['a', ' ', 'b'] = none := by
  cbv

end Typeface

end FormatReview.Paper
