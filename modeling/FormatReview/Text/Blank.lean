import FormatReview.Text.CodePoints

namespace FormatReview.Text

/-! Blank characters, and the words that they separate. -/

/-- The characters with the Unicode property White_Space. -/
def blanks : CodePoints :=
  [(0x9, 0xd), (0x20, 0x20), (0x85, 0x85), (0xa0, 0xa0), (0x1680, 0x1680), (0x2000, 0x200a),
    (0x2028, 0x2029), (0x202f, 0x202f), (0x205f, 0x205f), (0x3000, 0x3000)]

def isBlank (c : Char) : Bool := blanks.contains c

@[simp] theorem isBlank_space : isBlank ' ' = true := rfl

/-- The stretches between blanks, empty ones included. -/
def pieces : List Char → List (List Char)
  | [] => [[]]
  | c :: rest =>
      if isBlank c then [] :: pieces rest
      else
        match pieces rest with
        | [] => [[c]]
        | first :: more => (c :: first) :: more

def words (text : List Char) : List (List Char) :=
  (pieces text).filter fun piece => !piece.isEmpty

def hasWord (text : String) : Bool := text.toList.any fun c => !isBlank c

theorem mem_and_not_isBlank_of_mem_pieces {text piece : List Char} {c : Char}
    (member : piece ∈ pieces text) (occurs : c ∈ piece) : c ∈ text ∧ isBlank c = false := by
  induction text generalizing piece with
  | nil =>
      simp only [pieces, List.mem_singleton] at member
      simp [member] at occurs
  | cons d rest ih =>
      have later {other : List Char} (listed : other ∈ pieces rest) (inside : c ∈ other) :
          c ∈ d :: rest ∧ isBlank c = false :=
        (ih listed inside).imp (List.mem_cons_of_mem d) id
      simp only [pieces] at member
      split at member
      · rcases List.mem_cons.1 member with rfl | member
        · simp at occurs
        · exact later member occurs
      · next notBlank =>
          have solid : isBlank d = false := by simpa using notBlank
          split at member
          · simp only [List.mem_singleton] at member
            subst member
            obtain rfl := List.mem_singleton.1 occurs
            exact ⟨List.mem_cons_self, solid⟩
          · next first more equal =>
              rcases List.mem_cons.1 member with rfl | member
              · rcases List.mem_cons.1 occurs with rfl | occurs
                · exact ⟨List.mem_cons_self, solid⟩
                · exact later (equal ▸ List.mem_cons_self) occurs
              · exact later (equal ▸ List.mem_cons_of_mem _ member) occurs

theorem ne_nil_of_mem_words {text word : List Char} (member : word ∈ words text) : word ≠ [] := by
  have := (List.mem_filter.1 member).2
  simpa using this

theorem mem_and_not_isBlank_of_mem_words {text word : List Char} {c : Char}
    (member : word ∈ words text) (occurs : c ∈ word) : c ∈ text ∧ isBlank c = false :=
  mem_and_not_isBlank_of_mem_pieces (List.mem_filter.1 member).1 occurs

end FormatReview.Text
