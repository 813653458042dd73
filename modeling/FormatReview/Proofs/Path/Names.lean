import FormatReview.Proofs.Path

namespace FormatReview.Path

/-! The name at the end of a path, as it stands in the path's text: folders with slashes behind them
come before it, and past it only slashes and dots of their own. -/

/-- What may follow the last name. -/
inductive Trailing : List Char → Prop
  | nil : Trailing []
  | slash {rest : List Char} (trailing : Trailing rest) : Trailing ('/' :: rest)
  | dot {rest : List Char} (trailing : Trailing rest) : Trailing ('/' :: '.' :: rest)

structure LeadsTo (text name : String) : Prop where
  stands : ∃ front rest, text.toList = front ++ name.toList ++ rest ∧
    (front = [] ∨ ['/'] <:+ front) ∧ Trailing rest
  slashless : '/' ∉ name.toList
  ne_empty : name ≠ ""
  ne_dot : name ≠ "."
  ne_up : name ≠ ".."

section Split

variable {text name rest : List Char}

theorem splitSlash_eq_splitOn (text : List Char) : splitSlash text = text.splitOn '/' := by
  induction text with
  | nil => rfl
  | cons c rest ih =>
      rw [splitSlash, List.splitOn_cons_eq_if_modifyHead, ih]
      by_cases slash : c = '/'
      · rw [if_pos slash, if_pos (beq_iff_eq.2 slash)]
      · rw [if_neg slash, if_neg (mt beq_iff_eq.1 slash)]
        cases split : rest.splitOn '/' with
        | nil => exact absurd split (List.splitOn_ne_nil _ _)
        | cons first more => rfl

theorem splitSlash_append_slash (front rest : List Char) :
    splitSlash (front ++ '/' :: rest) = splitSlash front ++ splitSlash rest := by
  simp only [splitSlash_eq_splitOn, List.splitOn_append_cons_self]

theorem splitSlash_of_not_mem (slashless : '/' ∉ name) : splitSlash name = [name] := by
  rw [splitSlash_eq_splitOn, List.splitOn_eq_singleton slashless]

theorem not_mem_of_mem_splitSlash {piece : List Char} (member : piece ∈ splitSlash text) :
    '/' ∉ piece := by
  induction text generalizing piece with
  | nil =>
      rw [List.mem_singleton.1 member]
      exact List.not_mem_nil
  | cons c text ih =>
      rw [splitSlash] at member
      split at member
      · rcases List.mem_cons.1 member with rfl | member
        · exact List.not_mem_nil
        · exact ih member
      · next other =>
          cases pieces : splitSlash text with
          | nil => exact absurd pieces (splitSlash_ne_nil text)
          | cons first more =>
              rw [pieces] at member ih
              rcases List.mem_cons.1 member with rfl | member
              · intro slash
                rcases List.mem_cons.1 slash with same | slash
                · exact other same.symm
                · exact ih List.mem_cons_self slash
              · exact ih (List.mem_cons_of_mem _ member)

/-- Past a name, what trails is split into pieces that are no steps. -/
theorem Trailing.splitSlash_append (trailing : Trailing rest) (slashless : '/' ∉ name) :
    ∃ tail, splitSlash (name ++ rest) = name :: tail ∧
      ∀ piece ∈ tail, piece = [] ∨ piece = ['.'] := by
  induction trailing generalizing name with
  | nil => exact ⟨[], by rw [List.append_nil, splitSlash_of_not_mem slashless], by simp⟩
  | slash trailing ih =>
      obtain ⟨tail, split, idle⟩ := @ih [] List.not_mem_nil
      refine ⟨[] :: tail, ?_, by simpa using idle⟩
      rw [splitSlash_append_slash, splitSlash_of_not_mem slashless, List.singleton_append]
      exact congrArg _ split
  | dot trailing ih =>
      obtain ⟨tail, split, idle⟩ := @ih ['.'] (by decide)
      refine ⟨['.'] :: tail, ?_, by simpa using idle⟩
      rw [splitSlash_append_slash, splitSlash_of_not_mem slashless, List.singleton_append]
      exact congrArg _ split

theorem trailing_flatMap {tail : List (List Char)}
    (idle : ∀ piece ∈ tail, piece = [] ∨ piece = ['.']) : Trailing (tail.flatMap ('/' :: ·)) := by
  induction tail with
  | nil => exact .nil
  | cons piece tail ih =>
      have trailing := ih fun other member => idle other (List.mem_cons_of_mem _ member)
      rw [List.flatMap_cons]
      rcases idle piece List.mem_cons_self with rfl | rfl
      · exact .slash trailing
      · exact .dot trailing

theorem intercalate_cons (name : List Char) (tail : List (List Char)) :
    ['/'].intercalate (name :: tail) = name ++ tail.flatMap ('/' :: ·) := by
  induction tail generalizing name with
  | nil => simp
  | cons piece tail ih => rw [List.intercalate_cons_cons, ih]; simp

theorem intercalate_append_cons (above tail : List (List Char)) (name : List Char) :
    ['/'].intercalate (above ++ name :: tail) =
      above.flatMap (· ++ ['/']) ++ name ++ tail.flatMap ('/' :: ·) := by
  induction above with
  | nil => rw [List.nil_append, intercalate_cons, List.flatMap_nil, List.nil_append]
  | cons piece above ih =>
      rw [List.cons_append, List.intercalate_cons_of_ne_nil (by simp), ih, List.flatMap_cons]
      simp

theorem flatMap_ends (above : List (List Char)) :
    above.flatMap (· ++ ['/']) = [] ∨ ['/'] <:+ above.flatMap (· ++ ['/']) := by
  cases above using List.reverseRecOn with
  | nil => exact .inl rfl
  | append_singleton above piece =>
      refine .inr ?_
      rw [List.flatMap_append, List.flatMap_singleton, ← List.append_assoc]
      exact List.suffix_append _ _

end Split

variable {text name : String}

theorem map_toList_pieces (text : String) :
    (ofText text).pieces.map String.toList = splitSlash text.toList := by
  simp [ofText, Function.comp_def]

theorem isStep_iff {piece : String} : isStep piece = true ↔ piece ≠ "" ∧ piece ≠ "." := by
  simp [isStep]

theorem idle_iff {piece : String} :
    isStep piece = false ↔ piece.toList = [] ∨ piece.toList = ['.'] := by
  have dot : piece = "." ↔ piece.toList = ['.'] := String.toList_inj.symm
  rw [← Bool.not_eq_true, isStep_iff, not_and_or, not_not, not_not, String.toList_eq_nil_iff, dot]

theorem leadsTo_of_name? (named : (ofText text).name? = some name) : LeadsTo text name := by
  obtain ⟨step, rest, joined, idle⟩ := pieces_of_split (split_of_name? named)
  have pieces := map_toList_pieces text
  rw [joined, List.map_append, List.map_cons] at pieces
  have member : name.toList ∈ splitSlash text.toList := by simp [← pieces]
  have trailing : Trailing ((rest.map String.toList).flatMap ('/' :: ·)) := by
    apply trailing_flatMap
    intro piece member
    obtain ⟨text, listed, rfl⟩ := List.mem_map.1 member
    exact idle_iff.1 (idle text listed)
  have stands := intercalate_splitSlash text.toList
  rw [← pieces, intercalate_append_cons] at stands
  obtain ⟨ne_empty, ne_dot⟩ := isStep_iff.1 step
  exact ⟨⟨_, _, stands.symm, flatMap_ends _, trailing⟩, not_mem_of_mem_splitSlash member, ne_empty,
    ne_dot, ne_up_of_name? named⟩

theorem LeadsTo.name?_eq (leads : LeadsTo text name) : (ofText text).name? = some name := by
  obtain ⟨⟨front, rest, stands, starts, trailing⟩, slashless, ne_empty, ne_dot, ne_up⟩ := leads
  obtain ⟨tail, split, idle⟩ := trailing.splitSlash_append slashless
  have pieces : ∃ above, splitSlash text.toList = above ++ name.toList :: tail := by
    rcases starts with rfl | ⟨before, rfl⟩
    · exact ⟨[], by rw [stands, List.nil_append, split, List.nil_append]⟩
    · refine ⟨splitSlash before, ?_⟩
      rw [stands, List.append_assoc, List.append_assoc, List.singleton_append,
        splitSlash_append_slash, split]
  obtain ⟨above, pieces⟩ := pieces
  have step : isStep name = true := isStep_iff.2 ⟨ne_empty, ne_dot⟩
  have none : (tail.map String.ofList).filter isStep = [] := by
    rw [List.filter_eq_nil_iff]
    intro piece member
    obtain ⟨chars, listed, rfl⟩ := List.mem_map.1 member
    rw [Bool.not_eq_true, idle_iff, String.toList_ofList]
    exact idle chars listed
  have last : (ofText text).steps.getLast? = some name := by
    rw [steps, ofText, pieces, List.map_append, List.map_cons, String.ofList_toList,
      List.filter_append, List.filter_cons_of_pos step, none, List.getLast?_concat]
  rw [name?, last]
  simpa [up] using ne_up

/-- A path names what its text leads to, and nothing where the text ends in a step up or is without
a name. -/
theorem name?_eq_some_iff : (ofText text).name? = some name ↔ LeadsTo text name :=
  ⟨leadsTo_of_name?, LeadsTo.name?_eq⟩

/-! The parts of a name, at its last dot. -/

section Extension

variable {chars stem tail : List Char}

theorem extensionChars?_eq (chars : List Char) :
    extensionChars? chars =
      if chars.length ≤ (chars.rtakeWhile (· != '.')).length + 1 then none
      else some (chars.rtakeWhile (· != '.')) :=
  rfl

theorem rtakeWhile_dot (plain : '.' ∉ tail) :
    (stem ++ '.' :: tail).rtakeWhile (· != '.') = tail := by
  have whole : ∀ c ∈ tail.reverse, (c != '.') = true := by
    intro c member
    rw [bne_iff_ne]
    rintro rfl
    exact plain (List.mem_reverse.1 member)
  rw [List.rtakeWhile, List.reverse_append, List.reverse_cons, List.append_assoc,
    List.takeWhile_append_of_pos whole]
  simp

/-- A text with more than its part without a dot has a dot before that part. -/
theorem exists_eq_append_dot (dotted : chars.rdropWhile (· != '.') ≠ []) :
    ∃ stem, chars = stem ++ '.' :: chars.rtakeWhile (· != '.') := by
  have dot : (chars.rdropWhile (· != '.')).getLast dotted = '.' := by
    simpa using List.rdropWhile_last_not (· != '.') chars dotted
  have front := List.dropLast_append_getLast dotted
  rw [dot] at front
  refine ⟨(chars.rdropWhile (· != '.')).dropLast, ?_⟩
  rw [← List.singleton_append, ← List.append_assoc, front, List.rdropWhile_append_rtakeWhile]

theorem extensionChars?_eq_some_iff :
    extensionChars? chars = some tail ↔
      ∃ stem, stem ≠ [] ∧ chars = stem ++ '.' :: tail ∧ '.' ∉ tail := by
  constructor
  · intro found
    obtain ⟨-, plain, long⟩ := extensionChars?_eq_some found
    rw [extensionChars?_eq] at found
    obtain rfl := Option.some.inj (Option.ite_none_left_eq_some.1 found).2
    have dotted : chars.rdropWhile (· != '.') ≠ [] := by
      intro none
      have joined : chars.rdropWhile (· != '.') ++ chars.rtakeWhile (· != '.') = chars :=
        List.rdropWhile_append_rtakeWhile
      rw [none, List.nil_append] at joined
      rw [joined] at long
      omega
    obtain ⟨stem, split⟩ := exists_eq_append_dot dotted
    refine ⟨stem, ?_, split, plain⟩
    rintro rfl
    have size := congrArg List.length split
    rw [List.nil_append, List.length_cons] at size
    omega
  · rintro ⟨stem, some, rfl, plain⟩
    have long : ¬(stem ++ '.' :: tail).length ≤ tail.length + 1 := by
      have := List.length_pos_iff.2 some
      simp only [List.length_append, List.length_cons]
      omega
    rw [extensionChars?_eq, rtakeWhile_dot plain, if_neg long]

end Extension

theorem extensionOf?_eq_some_iff {extension : String} :
    extensionOf? name = some extension ↔
      ∃ stem : String, stem ≠ "" ∧ name = stem ++ "." ++ extension ∧ '.' ∉ extension.toList := by
  rw [extensionOf?, Option.map_eq_some_iff]
  constructor
  · rintro ⟨tail, found, rfl⟩
    obtain ⟨stem, some, split, plain⟩ := extensionChars?_eq_some_iff.1 found
    refine ⟨String.ofList stem, mt String.ofList_eq_empty_iff.1 some, ?_, by simpa using plain⟩
    apply String.toList_injective
    simpa using split
  · rintro ⟨stem, some, rfl, plain⟩
    refine ⟨extension.toList, extensionChars?_eq_some_iff.2 ⟨stem.toList, ?_, by simp, plain⟩,
      String.ofList_toList⟩
    exact mt String.toList_eq_nil_iff.1 some

end FormatReview.Path
