import FormatReview.Proofs.Table.Pages

namespace FormatReview

/-! Colours only decorate the text of a table: without them it is the same, line by line. -/

/-! A terminal selects a colour at an escape with a bracket, parameters and the letter m. -/

namespace Terminal

def escape : Char := '\x1b'

def isParameter (c : Char) : Bool := c.isDigit || c == ';'

/-- What follows the selection of a colour that a text begins with. -/
def afterSelection? (text : List Char) : Option (List Char) := do
  let rest ← text.dropPrefix? [escape, '[']
  (rest.dropWhile isParameter).dropPrefix? ['m']

variable {text plain parameters rest : List Char}

theorem afterSelection?_eq_some_iff :
    afterSelection? text = some rest ↔ ∃ parameters, (∀ c ∈ parameters, isParameter c = true) ∧
      text = escape :: '[' :: (parameters ++ 'm' :: rest) := by
  simp only [afterSelection?, Option.bind_eq_bind, Option.bind_eq_some_iff,
    List.dropPrefix?_eq_some_iff, beq_iff_eq]
  constructor
  · rintro ⟨more, ⟨_, rfl, rfl⟩, _, last, rfl⟩
    refine ⟨more.takeWhile isParameter, fun c => List.mem_takeWhile_imp, ?_⟩
    rw [List.singleton_append] at last
    rw [← last, List.takeWhile_append_dropWhile]
    rfl
  · rintro ⟨parameters, numeric, rfl⟩
    refine ⟨parameters ++ 'm' :: rest, ⟨_, rfl, rfl⟩, _, ?_, rfl⟩
    rw [List.dropWhile_append_of_pos numeric]
    rfl

/-- Drops each selection of a colour. -/
def eraseSelections : List Char → List Char
  | [] => []
  | c :: rest =>
      match _found : afterSelection? (c :: rest) with
      | some more => eraseSelections more
      | none => c :: eraseSelections rest
termination_by text => text.length
decreasing_by
  · obtain ⟨parameters, -, split⟩ := afterSelection?_eq_some_iff.1 _found
    simp only [split, List.length_cons, List.length_append]
    omega
  · exact Nat.lt_succ_self _

def withoutColours (text : String) : String := String.ofList (eraseSelections text.toList)

@[simp] theorem eraseSelections_nil : eraseSelections [] = [] := by
  rw [eraseSelections]

theorem eraseSelections_append (clean : escape ∉ plain) (rest : List Char) :
    eraseSelections (plain ++ rest) = plain ++ eraseSelections rest := by
  induction plain with
  | nil => rfl
  | cons c plain ih =>
      rw [List.cons_append, eraseSelections]
      split
      · next more found =>
          obtain ⟨_, -, split⟩ := afterSelection?_eq_some_iff.1 found
          exact absurd (List.mem_cons.2 (.inl (List.cons.inj split).1.symm)) clean
      · rw [ih fun member => clean (List.mem_cons_of_mem c member), List.cons_append]

theorem eraseSelections_selection (numeric : ∀ c ∈ parameters, isParameter c = true)
    (rest : List Char) :
    eraseSelections (escape :: '[' :: (parameters ++ 'm' :: rest)) = eraseSelections rest := by
  have found : afterSelection? (escape :: '[' :: (parameters ++ 'm' :: rest)) = some rest :=
    afterSelection?_eq_some_iff.2 ⟨parameters, numeric, rfl⟩
  rw [eraseSelections]
  split
  · next more other =>
      rw [found] at other
      rw [Option.some.inj other]
  · next none =>
      rw [found] at none
      cases none

example : withoutColours "\x1b[1;31mred\x1b[0m!" = "red!" := by decide +kernel

end Terminal

namespace Highlight

theorem nameOf?_code : ∀ highlight ∈ all, nameOf? highlight.code = some highlight.name := by
  decide

/-- Each name has one colour. -/
theorem colourOf_name : ∀ highlight ∈ all, colourOf highlight.name = highlight.colour := by
  decide

theorem nameOf?_eq_none {code : String} (other : ∀ highlight ∈ all, highlight.code ≠ code) :
    nameOf? code = none := by
  have none : all.find? (·.code = code) = none := by
    simpa [List.find?_eq_none] using other
  rw [nameOf?, none, Option.map_none]

/-- No colour of a highlight resets. -/
theorem colour_all : ∀ highlight ∈ all, highlight.colour ≠ "" ∧ highlight.colour ≠ "0" ∧
    highlight.colour.toList.all Char.isDigit = true := by
  decide

theorem isParameter_of_mem_colourOf (name : String) :
    ∀ c ∈ (colourOf name).toList, Terminal.isParameter c = true := by
  intro c member
  have digit : c.isDigit = true := by
    rw [colourOf] at member
    cases found : all.find? (·.name = name) with
    | none =>
        rw [found] at member
        obtain rfl : c = '0' := by simpa using member
        rfl
    | some highlight =>
        rw [found] at member
        have numeric := (colour_all highlight (List.mem_of_find?_eq_some found)).2.2
        exact List.all_eq_true.1 numeric c member
  rw [Terminal.isParameter, digit, Bool.true_or]

end Highlight

namespace Row

def lines (row : Row) : List String :=
  [padLeft 3 (toString row.index) ++ ". [" ++ row.code ++ "] " ++ row.message,
    "     -> " ++ row.suggestion, "     \"" ++ row.context ++ "\""]

def cells (row : Row) : List String := [row.code, row.message, row.suggestion, row.context]

/-- No text of the row can be read as the selection of a colour. -/
def IsClean (row : Row) : Prop := ∀ cell ∈ row.cells, Terminal.escape ∉ cell.toList

/-- The row stands in a table, or on one of its pages. -/
def IsShown (row : Row) : Prop :=
  ∃ table : Table, row ∈ table.rows ∨ ∃ number, row ∈ (table.page number).rows

/-- The text of a row in colours: its block is enclosed in a colour and a reset, before the last
line end, if its code is one that is highlighted, and as it is otherwise. -/
inductive Coloured (row : Row) : String → Prop
  | enclosed {highlight : Highlight} (listed : highlight ∈ Highlight.all)
      (same : highlight.code = row.code) :
      Coloured row ("\x1b[" ++ highlight.colour ++ "m" ++ row.block ++ "\x1b[0m" ++ "\n")
  | plain (other : ∀ highlight ∈ Highlight.all, highlight.code ≠ row.code) :
      Coloured row (row.block ++ "\n")

variable {row : Row} {rows : List Row}

theorem block_eq (row : Row) : row.block = "\n".intercalate row.lines := by
  apply String.toList_injective
  simp [block, lines]

theorem text_false (row : Row) : row.text false = row.block ++ "\n" := by
  cases marked : row.highlight with
  | none => simp only [text, marked]
  | some name => simp only [text, marked]

theorem listText_cons (row : Row) (rows : List Row) (colour : Bool) :
    listText (row :: rows) colour = row.text colour ++ listText rows colour := by
  rw [listText, List.map_cons, String.join_cons, listText]

theorem listText_false (rows : List Row) :
    listText rows false = String.join (rows.map (·.block ++ "\n")) := by
  simp only [listText, text_false]

theorem IsShown.highlight_eq (shown : row.IsShown) :
    row.highlight = Highlight.nameOf? row.code := by
  obtain ⟨table, inTable⟩ := shown
  have member : row ∈ table.rows := by
    rcases inTable with member | ⟨number, member⟩
    · exact member
    · exact List.mem_of_mem_drop (List.mem_of_mem_take member)
  obtain ⟨entry, -, rfl⟩ := List.mem_map.1 member
  rfl

theorem coloured_of_isShown (shown : row.IsShown) : Coloured row (row.text true) := by
  have marked := shown.highlight_eq
  by_cases known : ∃ highlight ∈ Highlight.all, highlight.code = row.code
  · obtain ⟨highlight, listed, same⟩ := known
    rw [← same, Highlight.nameOf?_code highlight listed] at marked
    have enclosed : row.text true =
        "\x1b[" ++ highlight.colour ++ "m" ++ row.block ++ "\x1b[0m" ++ "\n" := by
      simp only [text, marked, coloured, Highlight.colourOf_name highlight listed]
    exact enclosed ▸ .enclosed listed same
  · have other : ∀ highlight ∈ Highlight.all, highlight.code ≠ row.code :=
      fun highlight listed same => known ⟨highlight, listed, same⟩
    rw [Highlight.nameOf?_eq_none other] at marked
    have plain : row.text true = row.block ++ "\n" := by
      simp only [text, marked]
    exact plain ▸ .plain other

/-! Nothing but the cells of a row brings an escape into its block. -/

theorem escape_not_mem_padLeft (width n : Nat) :
    Terminal.escape ∉ (padLeft width (toString n)).toList := by
  have numeric : ∀ c ∈ Nat.toDigits 10 n, c.isDigit := fun c =>
    Nat.isDigit_of_mem_toDigits (by decide) (by decide)
  have text : (toString n).toList = Nat.toDigits 10 n := String.toList_ofList
  rw [padLeft, String.toList_append, String.toList_ofList, text, List.mem_append]
  rintro (blank | digit)
  · exact absurd (List.eq_of_mem_replicate blank) (by decide)
  · exact absurd (numeric _ digit) (by decide)

theorem escape_mem_block_iff :
    Terminal.escape ∈ row.block.toList ↔ ∃ cell ∈ row.cells, Terminal.escape ∈ cell.toList := by
  have index := escape_not_mem_padLeft 3 row.index
  rw [Terminal.escape] at index
  simp [block, cells, Terminal.escape, -Nat.toString_eq_repr, index]

theorem IsClean.escape_not_mem (clean : row.IsClean) : Terminal.escape ∉ row.block.toList := by
  rw [escape_mem_block_iff]
  rintro ⟨cell, listed, member⟩
  exact clean cell listed member

theorem escape_mem_text_iff :
    Terminal.escape ∈ (row.text false).toList ↔
      ∃ cell ∈ row.cells, Terminal.escape ∈ cell.toList := by
  have lineEnd : Terminal.escape ∉ "\n".toList := by decide
  rw [text_false, String.toList_append, List.mem_append, or_iff_left lineEnd, escape_mem_block_iff]

theorem eraseSelections_text (clean : row.IsClean) (colour : Bool) (rest : List Char) :
    Terminal.eraseSelections ((row.text colour).toList ++ rest) =
      (row.text false).toList ++ Terminal.eraseSelections rest := by
  have plain : Terminal.escape ∉ (row.text false).toList := by
    rw [escape_mem_text_iff, ← escape_mem_block_iff]
    exact clean.escape_not_mem
  cases marked : row.highlight with
  | none =>
      have same : row.text colour = row.text false := by simp only [text, marked]
      rw [same, Terminal.eraseSelections_append plain]
  | some name =>
      cases colour with
      | false => exact Terminal.eraseSelections_append plain rest
      | true =>
          have enclosed : (row.text true).toList ++ rest = Terminal.escape :: '[' ::
              ((Highlight.colourOf name).toList ++ 'm' :: (row.block.toList ++
                (Terminal.escape :: '[' :: (['0'] ++ 'm' :: (['\n'] ++ rest))))) := by
            simp [text, marked, coloured, Terminal.escape]
          rw [enclosed, Terminal.eraseSelections_selection
            (Highlight.isParameter_of_mem_colourOf name),
            Terminal.eraseSelections_append clean.escape_not_mem,
            Terminal.eraseSelections_selection (by simp [Terminal.isParameter]),
            Terminal.eraseSelections_append (by decide), text_false, String.toList_append,
            List.append_assoc]
          rfl

theorem eraseSelections_listText (clean : ∀ row ∈ rows, row.IsClean) (colour : Bool) :
    Terminal.eraseSelections (listText rows colour).toList = (listText rows false).toList := by
  induction rows with
  | nil => exact Terminal.eraseSelections_nil
  | cons row rows ih =>
      obtain ⟨cleanHead, cleanRest⟩ := List.forall_mem_cons.1 clean
      rw [listText_cons, listText_cons, String.toList_append, String.toList_append,
        eraseSelections_text cleanHead, ih cleanRest]

theorem escape_mem_listText_iff :
    Terminal.escape ∈ (listText rows false).toList ↔
      ∃ row ∈ rows, ∃ cell ∈ row.cells, Terminal.escape ∈ cell.toList := by
  induction rows with
  | nil => simp [listText]
  | cons row rows ih =>
      rw [listText_cons, String.toList_append, List.mem_append, escape_mem_text_iff, ih]
      simp only [List.mem_cons, exists_eq_or_imp]

/-- Colours only decorate: they enclose whole rows, those of a highlighted code and no others, and
without the selections of colours the text is the plain one. -/
theorem listText_decorated (rows : List Row) :
    listText rows false = String.join (rows.map (·.block ++ "\n")) ∧
      (∀ row ∈ rows, row.block = "\n".intercalate row.lines) ∧
      ((∀ row ∈ rows, row.IsShown) →
        ∃ texts, listText rows true = String.join texts ∧ List.Forall₂ Coloured rows texts) ∧
      (∀ highlight ∈ Highlight.all, highlight.colour ≠ "" ∧ highlight.colour ≠ "0" ∧
        highlight.colour.toList.all Char.isDigit = true) ∧
      ((∀ row ∈ rows, row.IsClean) → ∀ colour,
        Terminal.withoutColours (listText rows colour) = listText rows false) ∧
      (Terminal.escape ∈ (listText rows false).toList ↔
        ∃ row ∈ rows, ∃ cell ∈ row.cells, Terminal.escape ∈ cell.toList) ∧
      ∀ more colour,
        listText (rows ++ more) colour = listText rows colour ++ listText more colour := by
  refine ⟨listText_false rows, fun row _ => block_eq row, fun shown => ?coloured,
    Highlight.colour_all, fun clean colour => ?erased, escape_mem_listText_iff,
    listText_append rows⟩
  case coloured =>
    refine ⟨rows.map (·.text true), rfl, ?_⟩
    rw [List.forall₂_map_right_iff, List.forall₂_same]
    exact fun row member => coloured_of_isShown (shown row member)
  case erased =>
    rw [Terminal.withoutColours, eraseSelections_listText clean, String.ofList_toList]

end Row

end FormatReview
