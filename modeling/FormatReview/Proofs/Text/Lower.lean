import Mathlib
import FormatReview.Text.Case

namespace FormatReview.Text

/-! Texts that are lower-cased to a word of plain letters: those that are the word but for the case
of ASCII letters. -/

/-- No character of the row is moved to `point`, nor `point` itself to another. -/
def Misses (point : Nat) (row : Nat × Nat × Nat × Int) : Prop :=
  (point < row.1 ∨ row.2.1 < point) ∧
    ((point : Int) < row.1 + row.2.2.2 ∨ (row.2.1 : Int) + row.2.2.2 < point)

instance (point : Nat) (row : Nat × Nat × Nat × Int) : Decidable (Misses point row) :=
  inferInstanceAs (Decidable (_ ∧ _))

theorem lowerPoint_eq_iff {rows : List (Nat × Nat × Nat × Int)} {point : Nat} (pos : 0 < point)
    (misses : ∀ row ∈ rows, Misses point row) (other : Nat) :
    lowerPoint rows other = point ↔ other = point := by
  induction rows with
  | nil => rfl
  | cons row rows ih =>
      obtain ⟨low, high, step, shift⟩ := row
      obtain ⟨outside, missed⟩ := misses _ List.mem_cons_self
      rw [lowerPoint]
      split
      · next inside =>
          simp only at outside missed
          omega
      · exact ih fun row member => misses row (List.mem_cons_of_mem _ member)

/-- The ASCII letters that nothing but they and their capitals is lower-cased to. The Kelvin sign
becomes a k, and an i comes of the capital with a dot. -/
def plainLetters : List Char :=
  ['a', 'b', 'c', 'd', 'e', 'f', 'g', 'h', 'j', 'l', 'm', 'n', 'o', 'p', 'q', 'r', 's', 't', 'u',
    'v', 'w', 'x', 'y', 'z']

theorem misses_plainLetters :
    ∀ c ∈ plainLetters, 0 < c.toNat ∧ ∀ row ∈ lowerShifts.tail, Misses c.toNat row := by
  -- Over the letters themselves: to decide the statement as it stands may try every character.
  have checked : plainLetters.all (fun c =>
      decide (0 < c.toNat ∧ ∀ row ∈ lowerShifts.tail, Misses c.toNat row)) = true := by
    decide +kernel
  exact fun c member => of_decide_eq_true (List.all_eq_true.1 checked c member)

theorem toNat_toLower (c : Char) :
    c.toLower.toNat = if 0x41 ≤ c.toNat ∧ c.toNat ≤ 0x5a then c.toNat + 32 else c.toNat := by
  have capital : c.val ≥ 'A'.val ∧ c.val ≤ 'Z'.val ↔ 0x41 ≤ c.toNat ∧ c.toNat ≤ 0x5a := Iff.rfl
  rw [Char.toLower]
  split
  · next within =>
      obtain ⟨low, high⟩ := capital.1 within
      have sum : c.val.toNat + 32 < UInt32.size := by
        rw [Char.toNat_val]
        simp only [UInt32.size]
        omega
      rw [if_pos ⟨low, high⟩, Char.toNat_mk, UInt32.toNat_add, Char.toNat_val]
      exact Nat.mod_eq_of_lt sum
  · next outside => rw [if_neg (mt capital.2 outside)]

theorem ofNat_eq_iff {c : Char} (pos : 0 < c.toNat) (point : Nat) :
    Char.ofNat point = c ↔ point = c.toNat := by
  constructor
  · rintro rfl
    by_cases valid : point.isValidChar
    · rw [Char.ofNat, dif_pos valid]
      rfl
    · rw [Char.ofNat, dif_neg valid] at pos
      exact absurd pos (by decide)
  · rintro rfl
    exact Char.ofNat_toNat c

variable {c d : Char}

theorem lowerPoint_eq_toNat_iff (plain : d ∈ plainLetters) (c : Char) :
    lowerPoint lowerShifts c.toNat = d.toNat ↔ c.toLower = d := by
  obtain ⟨pos, misses⟩ := misses_plainLetters d plain
  have row : lowerShifts = (0x41, 0x5a, 1, 32) :: lowerShifts.tail := rfl
  rw [← Char.toNat_inj, toNat_toLower, row, lowerPoint]
  by_cases capital : 0x41 ≤ c.toNat ∧ c.toNat ≤ 0x5a
  · rw [if_pos ⟨capital.1, capital.2, Nat.mod_one _⟩, if_pos capital]
    rfl
  · rw [if_neg fun within => capital ⟨within.1, within.2.1⟩, if_neg capital]
    exact lowerPoint_eq_iff pos misses c.toNat

theorem lowerChar_append_eq_iff (plain : d ∈ plainLetters) (c : Char) (rest more : List Char) :
    lowerChar c ++ rest = d :: more ↔ c.toLower = d ∧ rest = more := by
  rw [lowerChar]
  split
  · next dotted =>
      have head : 'i' ≠ d := by
        rintro rfl
        exact absurd plain (by decide)
      have kept : 'İ' ≠ d := by
        rintro rfl
        exact absurd plain (by decide)
      have same : 'İ'.toLower = 'İ' := by decide
      simp [dotted, same, head, kept]
  · rw [List.singleton_append, List.cons.injEq, ofNat_eq_iff (misses_plainLetters d plain).1,
      lowerPoint_eq_toNat_iff plain]

/-- Neither form of a small sigma is a plain letter, and the capital is left as it is by ASCII. -/
theorem sigma_append_eq_iff (plain : d ∈ plainLetters) (final : Bool) (rest more : List Char) :
    (if final then ['ς'] else ['σ']) ++ rest = d :: more ↔ 'Σ'.toLower = d ∧ rest = more := by
  have others : 'ς' ≠ d ∧ 'σ' ≠ d ∧ 'Σ' ≠ d := by
    refine ⟨?_, ?_, ?_⟩ <;> rintro rfl <;> exact absurd plain (by decide)
  cases final <;> simp [others]

theorem lowerAfter_cons_ne_nil (before : List Char) (c : Char) (rest : List Char) :
    lowerAfter before (c :: rest) ≠ [] := by
  rw [lowerAfter, lowerChar]
  split
  · split <;> exact List.cons_ne_nil _ _
  · split <;> exact List.cons_ne_nil _ _

theorem lowerAfter_eq_iff {before text word : List Char} (plain : ∀ d ∈ word, d ∈ plainLetters) :
    lowerAfter before text = word ↔ text.map Char.toLower = word := by
  induction text generalizing before word with
  | nil => rfl
  | cons c rest ih =>
      cases word with
      | nil => simp [lowerAfter_cons_ne_nil]
      | cons d more =>
          obtain ⟨plainHead, plainRest⟩ := List.forall_mem_cons.1 plain
          rw [List.map_cons, List.cons.injEq, ← @ih (c :: before) more plainRest, lowerAfter]
          split
          · next sigma =>
              rw [sigma]
              exact sigma_append_eq_iff plainHead _ _ _
          · exact lowerChar_append_eq_iff plainHead c _ _

end FormatReview.Text
