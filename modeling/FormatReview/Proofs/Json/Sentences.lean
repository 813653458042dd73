import FormatReview.Proofs.Json.Tokens

namespace FormatReview.Json

/-! Texts that are read as a value: what a list or an object is read as follows from what its parts
are read as, with blanks wherever they may stand. -/

open Reader

def IsSpace (b : UInt8) : Prop := b = byte ' ' ∨ b = byte '\n' ∨ b = byte '\t' ∨ b = byte '\r'

instance (b : UInt8) : Decidable (IsSpace b) := inferInstanceAs (Decidable (_ ∨ _))

theorem ne_byte_of_isDigit {b : UInt8} (digit : isDigit b) {c : Char}
    (letter : isDigit (byte c) = false) : b ≠ byte c := by
  intro same
  rw [same, letter] at digit
  cases digit

theorem not_isSpace_of_isDigit {b : UInt8} (digit : isDigit b) : ¬ IsSpace b := by
  simp only [IsSpace, not_or]
  exact ⟨ne_byte_of_isDigit digit rfl, ne_byte_of_isDigit digit rfl, ne_byte_of_isDigit digit rfl,
    ne_byte_of_isDigit digit rfl⟩

/-- Blanks may stand before any token. -/
def Blank (text : Bytes) : Prop := ∀ b ∈ text, IsSpace b

theorem skipSpace_of_not {b : UInt8} (other : ¬ IsSpace b) (rest : Bytes) :
    skipSpace (b :: rest) = b :: rest := by
  rw [skipSpace, if_neg]
  simpa [IsSpace, or_assoc] using other

theorem skipSpace_blank {blank : Bytes} (blanks : Blank blank) (text : Bytes) :
    skipSpace (blank ++ text) = skipSpace text := by
  induction blank with
  | nil => rfl
  | cons b rest ih =>
      have space := blanks b List.mem_cons_self
      rw [List.cons_append, skipSpace, if_pos]
      · exact ih fun c member => blanks c (List.mem_cons_of_mem _ member)
      · simpa [IsSpace, or_assoc] using space

theorem ends_blank {blank : Bytes} (blanks : Blank blank) {more : Bytes} (ends : Ends more) :
    Ends (blank ++ more) := by
  cases blank with
  | nil => exact ends
  | cons b rest =>
      rcases blanks b List.mem_cons_self with rfl | rfl | rfl | rfl <;>
        exact ⟨rfl, by decide, by decide, by decide⟩

theorem ends_cons {c : Char} (closing : c ∈ [',', ']', '\x7d']) (more : Bytes) :
    Ends (byte c :: more) := by
  simp only [List.mem_cons, List.not_mem_nil, or_false] at closing
  rcases closing with rfl | rfl | rfl <;> exact ⟨rfl, by decide, by decide, by decide⟩

/-- The text is read as the value, if so many levels may still be opened. Three steps for each byte
are enough: no token takes more, be it an item or a field. -/
structure Sentence (levels : Nat) (v : Json) (text : Bytes) : Prop where
  starts : ∃ b rest, text = b :: rest ∧ ¬ IsSpace b ∧ b ≠ byte ']'
  reads : ∀ fuel more, 3 * text.length ≤ fuel + 1 → Ends more →
    value (fuel + 1) (levels + 1) (text ++ more) = .ok (v, more)

/-! How a value goes on after its first byte. -/

section First

variable (fuel levels : Nat) (rest : Bytes)

theorem value_blank {blank : Bytes} (blanks : Blank blank) :
    value (fuel + 1) levels (blank ++ rest) = value (fuel + 1) levels rest := by
  rw [value, value, skipSpace_blank blanks]

theorem value_word {c : Char} {v : Json} {letters : List Char}
    (word : (c, v, letters) ∈ [('n', Json.null, ['u', 'l', 'l']),
      ('t', .bool true, ['r', 'u', 'e']), ('f', .bool false, ['a', 'l', 's', 'e'])]) :
    value (fuel + 1) (levels + 1) (byte c :: (letters.map byte ++ rest)) = .ok (v, rest) := by
  simp only [List.mem_cons, Prod.mk.injEq, List.not_mem_nil, or_false] at word
  rcases word with ⟨rfl, rfl, rfl⟩ | ⟨rfl, rfl, rfl⟩ | ⟨rfl, rfl, rfl⟩ <;>
  · rw [value]
    rfl

theorem value_quote : value (fuel + 1) (levels + 1) (byte '"' :: rest) = do
    let (s, rest) ← stringTail fuel [] rest
    return (.string s, rest) := by
  rw [value]
  rfl

theorem value_bracket : value (fuel + 1) (levels + 2) (byte '[' :: rest) = do
    let (items, rest) ← items fuel (levels + 1) true rest
    return (.array items, rest) := by
  rw [value]
  rfl

theorem value_brace : value (fuel + 1) (levels + 2) (byte '\x7b' :: rest) = do
    let (fields, rest) ← fields fuel (levels + 1) true rest
    return (.object fields, rest) := by
  rw [value]
  rfl

theorem value_digit {b : UInt8} (digit : isDigit b) :
    value (fuel + 1) (levels + 1) (b :: rest) = do
      let (n, rest) ← Reader.number false (b :: rest)
      return (.number n, rest) := by
  have other (c : Char) (letter : isDigit (byte c) = false) : b ≠ byte c :=
    ne_byte_of_isDigit digit letter
  rw [value, skipSpace_of_not (not_isSpace_of_isDigit digit)]
  simp only [if_neg (other 'n' rfl), if_neg (other 't' rfl), if_neg (other 'f' rfl),
    if_neg (other '-' rfl), if_pos digit]

end First

namespace Sentence

variable {levels : Nat}

theorem null : Sentence levels .null (bytesOf "null") where
  starts := ⟨_, _, rfl, by decide, by decide⟩
  reads := fun fuel more _ _ => value_word fuel levels more (.head _)

theorem string (text : String) : Sentence levels (.string text) (bytesOf (stringText text)) where
  starts := by
    rw [bytesOf_stringText]
    exact ⟨_, _, rfl, by decide, by decide⟩
  reads := by
    intro fuel more enough _
    rw [bytesOf_stringText, List.length_cons, List.length_append, List.length_singleton] at enough
    rw [bytesOf_stringText, List.cons_append, List.append_assoc, List.singleton_append, value_quote,
      stringTail_between text more (by omega)]
    rfl

theorem bool (b : Bool) : Sentence levels (.bool b) (bytesOf (if b then "true" else "false")) where
  starts := by cases b <;> exact ⟨_, _, rfl, by decide, by decide⟩
  reads := by
    intro fuel more _ _
    cases b with
    | false => exact value_word fuel levels more (.tail _ (.tail _ (.head _)))
    | true => exact value_word fuel levels more (.tail _ (.head _))

theorem nat {n : Nat} (small : n < UInt64.size) :
    Sentence levels (.nat n) (bytesOf (toString n)) := by
  obtain ⟨c, rest, digits⟩ := List.exists_cons_of_ne_nil (Nat.toDigits_ne_nil (n := n) (b := 10))
  have digit : isDigit (byte c) := isDigit_byte <|
    Nat.isDigit_of_mem_toDigits (by decide) (by decide) (digits ▸ List.mem_cons_self)
  have text : bytesOf (toString n) = byte c :: rest.map byte := by
    rw [bytesOf_toString, digits, List.map_cons]
  refine ⟨⟨_, _, text, not_isSpace_of_isDigit digit, ne_byte_of_isDigit digit rfl⟩, ?_⟩
  intro fuel more _ ends
  have read := number_digits small ends
  rw [text, List.cons_append] at read ⊢
  rw [value_digit fuel levels _ digit, read]
  rfl

end Sentence

/-! Lists. -/

section Items

variable (fuel depth : Nat) (first : Bool) (rest : Bytes)

theorem items_blank {blank : Bytes} (blanks : Blank blank) :
    items (fuel + 1) depth first (blank ++ rest) = items (fuel + 1) depth first rest := by
  rw [items, items, skipSpace_blank blanks]

theorem items_close : items (fuel + 1) depth first (byte ']' :: rest) = .ok ([], rest) := by
  rw [items]
  rfl

variable {b : UInt8} (token : ¬ IsSpace b) (other : b ≠ byte ']')

include token other

theorem items_first : items (fuel + 1) depth true (b :: rest) = do
    let (item, rest) ← value fuel depth (b :: rest)
    let (more, rest) ← items fuel depth false rest
    return (item :: more, rest) := by
  rw [items, skipSpace_of_not token]
  simp only [if_neg other, if_true]

theorem items_next {blank : Bytes} (blanks : Blank blank) :
    items (fuel + 1) depth false (byte ',' :: (blank ++ b :: rest)) = do
      let (item, rest) ← value fuel depth (b :: rest)
      let (more, rest) ← items fuel depth false rest
      return (item :: more, rest) := by
  have comma : ¬ IsSpace (byte ',') := by decide
  have different : byte ',' ≠ byte ']' := by decide
  rw [items, skipSpace_of_not comma]
  simp only [if_neg different, if_true, skipSpace_blank blanks, skipSpace_of_not token,
    if_neg other, Bool.false_eq_true, if_false]

end Items

/-- Items behind the first one, each after a comma. -/
def following (blank : Bytes) (texts : List Bytes) : Bytes :=
  texts.flatMap fun text => byte ',' :: (blank ++ text)

@[simp] theorem following_cons (blank text : Bytes) (texts : List Bytes) :
    following blank (text :: texts) = byte ',' :: (blank ++ (text ++ following blank texts)) := by
  rw [following, List.flatMap_cons, List.cons_append, List.append_assoc]
  rfl

section Following

variable {levels : Nat} {blank close : Bytes} (closing : Blank close)

include closing

theorem ends_following (blank : Bytes) (texts : List Bytes) (more : Bytes) {c : Char}
    (last : c ∈ [',', ']', '\x7d']) : Ends (following blank texts ++ (close ++ byte c :: more)) := by
  cases texts with
  | nil => exact ends_blank closing (ends_cons last more)
  | cons text rest => exact ends_cons (.head _) _

variable (blanks : Blank blank)

include blanks

theorem items_following {values : List Json} {texts : List Bytes}
    (each : List.Forall₂ (Sentence levels) values texts) (more : Bytes) {fuel : Nat}
    (enough : 3 * (following blank texts).length ≤ fuel) :
    items (fuel + 1) (levels + 1) false (following blank texts ++ (close ++ byte ']' :: more)) =
      .ok (values, more) := by
  induction each generalizing fuel with
  | nil => exact (items_blank _ _ _ _ closing).trans (items_close _ _ _ _)
  | @cons v text values texts sentence _ ih =>
      obtain ⟨b, rest, rfl, token, other⟩ := sentence.starts
      have ends := ends_following closing blank texts more (c := ']') (by decide)
      simp only [following_cons, List.length_cons, List.length_append] at enough
      obtain ⟨fuel, rfl⟩ : ∃ less, fuel = less + 1 := ⟨fuel - 1, by omega⟩
      have read := sentence.reads fuel _ (by simp only [List.length_cons]; omega) ends
      rw [List.cons_append] at read
      simp only [following_cons, List.cons_append, List.append_assoc]
      rw [items_next _ _ _ token other blanks, read]
      simp only [bind, Except.bind]
      rw [ih (by omega)]
      rfl

end Following

namespace Sentence

variable {levels : Nat}

theorem noItems : Sentence (levels + 1) (.array []) (bytesOf "[]") where
  starts := ⟨_, _, rfl, by decide, by decide⟩
  reads := by
    intro fuel more enough _
    have length : (bytesOf "[]").length = 2 := by decide
    obtain ⟨fuel, rfl⟩ : ∃ less, fuel = less + 1 := ⟨fuel - 1, by omega⟩
    have text : bytesOf "[]" ++ more = byte '[' :: byte ']' :: more := rfl
    rw [text, value_bracket, items_close]
    rfl

theorem array {v : Json} {values : List Json} {text : Bytes} {texts : List Bytes}
    (first : Sentence levels v text) (each : List.Forall₂ (Sentence levels) values texts)
    {blank close : Bytes} (blanks : Blank blank) (closing : Blank close) :
    Sentence (levels + 1) (.array (v :: values))
      (byte '[' :: (blank ++ (text ++ (following blank texts ++ (close ++ [byte ']']))))) where
  starts := ⟨_, _, rfl, by decide, by decide⟩
  reads := by
    intro fuel more enough _
    obtain ⟨b, rest, rfl, token, other⟩ := first.starts
    have ends := ends_following closing blank texts more (c := ']') (by decide)
    simp only [List.length_cons, List.length_append, List.length_nil] at enough
    obtain ⟨fuel, rfl⟩ : ∃ less, fuel = less + 2 := ⟨fuel - 2, by omega⟩
    have read := first.reads fuel _ (by simp only [List.length_cons]; omega) ends
    rw [List.cons_append] at read
    simp only [List.cons_append, List.append_assoc, List.nil_append]
    rw [value_bracket, items_blank _ _ _ _ blanks, items_first _ _ _ token other, read]
    simp only [bind, Except.bind]
    rw [items_following closing blanks each more (by omega)]
    rfl

end Sentence

/-! Objects. -/

section Fields

variable (fuel depth : Nat) (rest : Bytes)

theorem fields_blank (first : Bool) {blank : Bytes} (blanks : Blank blank) :
    fields (fuel + 1) depth first (blank ++ rest) = fields (fuel + 1) depth first rest := by
  rw [fields, fields, skipSpace_blank blanks]

theorem fields_close (first : Bool) :
    fields (fuel + 1) depth first (byte '\x7d' :: rest) = .ok ([], rest) := by
  rw [fields]
  rfl

theorem fields_first : fields (fuel + 1) depth true (byte '"' :: rest) = field fuel depth rest := by
  rw [fields]
  rfl

theorem fields_next {blank : Bytes} (blanks : Blank blank) :
    fields (fuel + 1) depth false (byte ',' :: (blank ++ byte '"' :: rest)) =
      field fuel depth rest := by
  have comma : ¬ IsSpace (byte ',') := by decide
  have quote : ¬ IsSpace (byte '"') := by decide
  have different : byte ',' ≠ byte '\x7d' := by decide
  rw [fields, skipSpace_of_not comma]
  simp only [if_neg different, if_true, skipSpace_blank blanks, skipSpace_of_not quote,
    Bool.false_eq_true, if_false]

end Fields

/-- A name, and behind a colon the text that is read as the value. -/
inductive Member (levels : Nat) : String × Json → Bytes → Prop
  | named {name : String} {v : Json} {gap text : Bytes} (gaps : Blank gap)
      (sentence : Sentence levels v text) :
      Member levels (name, v) (bytesOf (stringText name) ++ byte ':' :: (gap ++ text))

theorem field_of_member {levels : Nat} {name : String} {v : Json} {gap text : Bytes}
    (gaps : Blank gap) (sentence : Sentence levels v text) {more : Bytes} (ends : Ends more)
    {fuel : Nat} (enough : (between name).length + 3 * text.length ≤ fuel + 1) :
    field (fuel + 2) (levels + 1)
        (between name ++ byte '"' :: byte ':' :: (gap ++ (text ++ more))) = do
      let (others, rest) ← fields (fuel + 1) (levels + 1) false more
      return ((name, v) :: others, rest) := by
  obtain ⟨b, rest, rfl, -, -⟩ := sentence.starts
  simp only [List.length_cons] at enough
  have read := sentence.reads fuel more (by simp only [List.length_cons]; omega) ends
  have colon : ¬ IsSpace (byte ':') := by decide
  rw [field, stringTail_between name _ (by omega)]
  simp only [bind, Except.bind, skipSpace_of_not colon, if_true, value_blank _ _ _ gaps, read]

section Following

variable {levels : Nat} {blank close : Bytes} (blanks : Blank blank) (closing : Blank close)

include blanks closing

theorem fields_following {entries : List (String × Json)} {texts : List Bytes}
    (each : List.Forall₂ (Member levels) entries texts) (more : Bytes) {fuel : Nat}
    (enough : 3 * (following blank texts).length ≤ fuel) :
    fields (fuel + 1) (levels + 1) false (following blank texts ++ (close ++ byte '\x7d' :: more)) =
      .ok (entries, more) := by
  induction each generalizing fuel with
  | nil => exact (fields_blank _ _ _ _ closing).trans (fields_close _ _ _ _)
  | @cons entry text entries texts member _ ih =>
      cases member with
      | @named name v gap text gaps sentence =>
          have ends := ends_following closing blank texts more (c := '\x7d') (by decide)
          simp only [following_cons, bytesOf_stringText, List.length_cons, List.length_append,
            List.length_nil] at enough
          obtain ⟨fuel, rfl⟩ : ∃ less, fuel = less + 2 := ⟨fuel - 2, by omega⟩
          simp only [following_cons, bytesOf_stringText, List.cons_append, List.append_assoc,
            List.nil_append]
          rw [fields_next _ _ _ blanks, field_of_member gaps sentence ends (by omega),
            ih (by omega)]
          rfl

end Following

namespace Sentence

variable {levels : Nat}

theorem noFields : Sentence (levels + 1) (.object []) (bytesOf "\x7b\x7d") where
  starts := ⟨_, _, rfl, by decide, by decide⟩
  reads := by
    intro fuel more enough _
    have length : (bytesOf "\x7b\x7d").length = 2 := by decide
    obtain ⟨fuel, rfl⟩ : ∃ less, fuel = less + 1 := ⟨fuel - 1, by omega⟩
    have text : bytesOf "\x7b\x7d" ++ more = byte '\x7b' :: byte '\x7d' :: more := rfl
    rw [text, value_brace, fields_close]
    rfl

theorem object {entry : String × Json} {entries : List (String × Json)} {text : Bytes}
    {texts : List Bytes} (first : Member levels entry text)
    (each : List.Forall₂ (Member levels) entries texts) {blank close : Bytes} (blanks : Blank blank)
    (closing : Blank close) :
    Sentence (levels + 1) (.object (entry :: entries))
      (byte '\x7b' :: (blank ++ (text ++
        (following blank texts ++ (close ++ [byte '\x7d']))))) where
  starts := ⟨_, _, rfl, by decide, by decide⟩
  reads := by
    intro fuel more enough _
    cases first with
    | @named name v gap text gaps sentence =>
        have ends := ends_following closing blank texts more (c := '\x7d') (by decide)
        simp only [bytesOf_stringText, List.length_cons, List.length_append,
          List.length_nil] at enough
        obtain ⟨fuel, rfl⟩ : ∃ less, fuel = less + 3 := ⟨fuel - 3, by omega⟩
        simp only [bytesOf_stringText, List.cons_append, List.append_assoc, List.nil_append]
        rw [value_brace, fields_blank _ _ _ _ blanks, fields_first,
          field_of_member gaps sentence ends (by omega),
          fields_following blanks closing each more (by omega)]
        rfl

end Sentence

end FormatReview.Json
