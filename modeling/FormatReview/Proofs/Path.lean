import Mathlib
import FormatReview.Path

namespace FormatReview.Path

/-! A path with another extension. It goes through the same folders to another name, or else ends in
a step up, as only the path of a folder does. -/

variable {path : Path} {above : List String} {name : String}

theorem pieces_of_split (parted : path.split = (above, some name)) :
    isStep name = true ∧ ∃ rest, path.pieces = above ++ name :: rest ∧
      ∀ piece ∈ rest, isStep piece = false := by
  let skips (piece : String) : Bool := !isStep piece
  let rest := path.pieces.reverse.takeWhile skips
  have first := List.head?_dropWhile_not skips path.pieces.reverse
  have joined : path.pieces = (rest ++ path.pieces.reverse.dropWhile skips).reverse := by
    rw [List.takeWhile_append_dropWhile, List.reverse_reverse]
  rw [split] at parted
  split at parted
  · cases parted
  · rename_i last before kept
    obtain ⟨rfl, same⟩ := Prod.mk.inj parted
    obtain rfl := Option.some.inj same
    rw [kept] at first joined
    refine ⟨by simpa [skips] using first, rest.reverse, by simpa using joined, ?_⟩
    intro piece member
    have skipped := List.all_eq_true.1 List.all_takeWhile piece (List.mem_reverse.1 member)
    simpa [skips] using skipped

theorem steps_of_split (parted : path.split = (above, some name)) :
    path.steps = above.filter isStep ++ [name] := by
  obtain ⟨step, rest, joined, skipped⟩ := pieces_of_split parted
  have none : rest.filter isStep = [] := by
    simpa [List.filter_eq_nil_iff] using skipped
  rw [steps, joined, List.filter_append, List.filter_cons_of_pos step, none]

theorem split_of_name? (named : path.name? = some name) :
    path.split = (path.split.1, some name) := by
  obtain ⟨last, -⟩ := Option.filter_eq_some_iff.1 named
  cases parted : path.split with
  | mk above found =>
      cases found with
      | none =>
          have skipped : path.pieces.reverse.dropWhile (fun piece => !isStep piece) = [] := by
            rw [split] at parted
            split at parted
            · assumption
            · cases parted
          have none : path.steps = [] := by
            rw [steps, List.filter_eq_nil_iff]
            simpa using List.dropWhile_eq_nil_iff.1 skipped
          simp [none] at last
      | some other =>
          rw [steps_of_split parted, List.getLast?_concat] at last
          rw [Option.some.inj last]

theorem ne_up_of_name? (named : path.name? = some name) : name ≠ up := by
  obtain ⟨-, other⟩ := Option.filter_eq_some_iff.1 named
  simpa using other

/-! The end of a name. -/

theorem extensionChars?_eq_some {chars tail : List Char}
    (found : extensionChars? chars = some tail) :
    tail <:+ chars ∧ '.' ∉ tail ∧ tail.length + 1 < chars.length := by
  simp only [extensionChars?] at found
  split at found
  · cases found
  · rename_i long
    obtain rfl := Option.some.inj found
    refine ⟨?_, ?_, by omega⟩
    · rw [← List.reverse_prefix, List.reverse_reverse]
      exact List.takeWhile_prefix _
    · intro member
      have plain := List.all_eq_true.1 List.all_takeWhile _ (List.mem_reverse.1 member)
      simp at plain

/-- A name whose extension is replaced by one with a dot is another name: its own extension has no
dot. -/
theorem stemOf_append_ne (name : String) {extension : String}
    (dotted : '.' ∈ extension.toList) : stemOf name ++ "." ++ extension ≠ name := by
  intro same
  replace same : stemChars name.toList ++ '.' :: extension.toList = name.toList := by
    have chars := congrArg String.toList same
    simpa [stemOf] using chars
  have size := congrArg List.length same
  rw [List.length_append, List.length_cons] at size
  cases found : extensionChars? name.toList with
  | none =>
      simp only [stemChars, found] at size
      omega
  | some tail =>
      obtain ⟨ends, plain, short⟩ := extensionChars?_eq_some found
      simp only [stemChars, found, List.length_take] at size
      have long : tail.length = extension.toList.length := by omega
      have other : extension.toList <:+ name.toList := by
        rw [← same]
        exact (List.suffix_cons _ _).trans (List.suffix_append _ _)
      have nested := List.suffix_of_suffix_length_le other ends (Nat.le_of_eq long.symm)
      exact plain (nested.eq_of_length long.symm ▸ dotted)

theorem length_stemChars_pos {chars : List Char} (some : chars ≠ []) :
    0 < (stemChars chars).length := by
  cases found : extensionChars? chars with
  | none => simpa [stemChars, found, List.length_pos_iff] using some
  | some tail =>
      obtain ⟨-, -, short⟩ := extensionChars?_eq_some found
      simp only [stemChars, found, List.length_take]
      omega

/-- A name with an extension is longer than what means no step, or one that leads up. -/
theorem isStep_stemOf_append {name extension : String} (step : isStep name = true)
    (dotted : '.' ∈ extension.toList) :
    isStep (stemOf name ++ "." ++ extension) = true ∧ stemOf name ++ "." ++ extension ≠ up := by
  have some : name.toList ≠ [] := by
    intro none
    rw [String.toList_eq_nil_iff] at none
    simp [isStep, none] at step
  have long : 3 ≤ (stemOf name ++ "." ++ extension).length := by
    have stem := length_stemChars_pos some
    have dot := List.length_pos_of_mem dotted
    simp only [String.length_append, stemOf, String.length_ofList]
    rw [String.length_toList] at dot
    have one : ".".length = 1 := rfl
    omega
  have differs (other : String) (short : other.length ≤ 2) :
      stemOf name ++ "." ++ extension ≠ other := by
    intro same
    rw [same] at long
    omega
  exact ⟨by simp [isStep, differs "" (by decide), differs "." (by decide)],
    differs up (by decide)⟩

/-- Two paths that lead through the same folders to different names. -/
structure Beside (path other : Path) (above : List String) (name next : String) : Prop where
  rooted : path.rooted = other.rooted
  steps : path.steps = above ++ [name]
  otherSteps : other.steps = above ++ [next]
  name_ne_up : name ≠ up
  next_ne_up : next ≠ up
  next_ne_name : next ≠ name

theorem ne_empty_of_isStep (step : isStep name = true) : name ≠ "" := by
  simp only [isStep, Bool.and_eq_true, bne_iff_ne] at step
  exact step.1

theorem rooted_append (above rest : List String) (next : String) (some : name ≠ "") :
    rooted ⟨above ++ name :: rest⟩ = rooted ⟨above ++ [next]⟩ := by
  cases above with
  | nil => simp [rooted, some]
  | cons first more => simp [rooted]

theorem withExtension_cases (path : Path) {extension : String}
    (dotted : '.' ∈ extension.toList) :
    (path.withExtension extension).name? = none ∨
      ∃ above name next, path.Beside (path.withExtension extension) above name next := by
  cases named : path.name? with
  | none =>
      have same : path.withExtension extension = path := by
        simp [withExtension, stem?, named]
      exact .inl (by rw [same, named])
  | some name =>
      have parted := split_of_name? named
      obtain ⟨step, rest, joined, -⟩ := pieces_of_split parted
      by_cases bare : stemOf name = "." ∧ path.ending = .plain
      · have leads : path.withExtension extension = ⟨path.split.1 ++ [up]⟩ := by
          simp [withExtension, stem?, named, bare]
        refine .inl ?_
        rw [leads]
        simp [name?, steps, isStep, up]
      · have leads : path.withExtension extension =
            ⟨path.split.1 ++ [stemOf name ++ "." ++ extension]⟩ := by
          simp only [withExtension, stem?, named, Option.map_some, if_neg bare]
        obtain ⟨walked, other⟩ := isStep_stemOf_append step dotted
        refine .inr ⟨path.split.1.filter isStep, name, stemOf name ++ "." ++ extension, ?_,
          steps_of_split parted, ?_, ne_up_of_name? named, other, stemOf_append_ne name dotted⟩
        · rw [leads, ← rooted_append _ rest _ (ne_empty_of_isStep step), ← joined]
        · rw [leads, steps, List.filter_append, List.filter_cons_of_pos walked, List.filter_nil]

end FormatReview.Path
