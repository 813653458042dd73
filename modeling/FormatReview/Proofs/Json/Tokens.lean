import Mathlib
import FormatReview.Json.Reader
import FormatReview.Json.Writer

namespace FormatReview.Json

/-! The strings and the whole numbers that are written are read back. -/

open Reader

/-- The bytes of a text, as a reader takes them. -/
def bytesOf (text : String) : Bytes := text.toUTF8.data.toList

@[simp] theorem bytesOf_append (text more : String) :
    bytesOf (text ++ more) = bytesOf text ++ bytesOf more := by
  rw [bytesOf, String.toUTF8, String.toByteArray_append, ByteArray.toList_data_append]
  rfl

theorem bytesOf_ofList (chars : List Char) :
    bytesOf (String.ofList chars) = chars.flatMap String.utf8EncodeChar := by
  rw [bytesOf, String.toUTF8, String.toByteArray_ofList, List.utf8Encode,
    List.toList_data_toByteArray]

theorem flatMap_utf8EncodeChar (text : String) :
    text.toList.flatMap String.utf8EncodeChar = bytesOf text := by
  rw [← bytesOf_ofList, String.ofList_toList]

theorem textOf?_bytesOf (text : String) : textOf? (bytesOf text).reverse = some text := by
  rw [textOf?, List.reverse_reverse, bytesOf, Array.toArray_toList]
  exact dif_pos text.isValidUTF8

theorem utf8EncodeChar_ascii {c : Char} (ascii : c.toNat < 0x80) :
    String.utf8EncodeChar c = [byte c] := by
  have low : c.val.toNat ≤ 127 := Nat.le_of_lt_succ ascii
  rw [String.utf8EncodeChar]
  exact if_pos low

/-! Strings. -/

/-- A byte that stands for itself in a string. -/
def Plain (b : UInt8) : Prop := b ≠ byte '"' ∧ b ≠ byte '\\' ∧ ¬ b < 0x20

/-- The text is read as the bytes, whatever was read before. An escape is one step for several bytes
of the text, so its length only bounds the steps. -/
def Spelt (text bytes : Bytes) : Prop :=
  ∃ steps ≤ text.length, ∀ fuel reversed more,
    stringTail (fuel + steps) reversed (text ++ more) =
      stringTail fuel (bytes.reverse ++ reversed) more

namespace Spelt

theorem nil : Spelt [] [] := ⟨0, le_rfl, fun _ _ _ => rfl⟩

theorem append {text more bytes others : Bytes} (first : Spelt text bytes)
    (second : Spelt more others) : Spelt (text ++ more) (bytes ++ others) := by
  obtain ⟨steps, few, reads⟩ := first
  obtain ⟨next, fewer, continues⟩ := second
  refine ⟨next + steps, ?_, fun fuel reversed rest => ?_⟩
  · rw [List.length_append]
    omega
  · rw [← Nat.add_assoc, List.append_assoc, reads, continues, List.reverse_append,
      List.append_assoc]

theorem plain {b : UInt8} (stands : Plain b) : Spelt [b] [b] := by
  obtain ⟨quote, backslash, control⟩ := stands
  refine ⟨1, le_rfl, fun fuel reversed more => ?_⟩
  rw [List.singleton_append, stringTail, if_neg quote, if_neg backslash, if_neg control]
  rfl

theorem plains {bytes : Bytes} (stand : ∀ b ∈ bytes, Plain b) : Spelt bytes bytes := by
  induction bytes with
  | nil => exact nil
  | cons b rest ih =>
      exact append (plain (stand b List.mem_cons_self))
        (ih fun other member => stand other (List.mem_cons_of_mem _ member))

theorem escaped {text bytes : Bytes} (read : ∀ more, escape (text ++ more) = .ok (bytes, more)) :
    Spelt (byte '\\' :: text) bytes := by
  refine ⟨1, by simp, fun fuel reversed more => ?_⟩
  have other : byte '\\' ≠ byte '"' := by decide
  rw [List.cons_append, stringTail, if_neg other, if_pos rfl, read]
  rfl

end Spelt

theorem toNat_byte {c : Char} (ascii : c.toNat < 0x80) : (byte c).toNat = c.toNat :=
  UInt8.toNat_ofNat_of_lt' (ascii.trans (by decide))

theorem plain_of_ascii {c : Char} (quote : c ≠ '"') (backslash : c ≠ '\\')
    (control : ¬ c.toNat < 0x20) (ascii : c.toNat < 0x80) : Plain (byte c) := by
  have other (d : Char) (small : d.toNat < 0x80) (different : c ≠ d) : byte c ≠ byte d := by
    intro same
    have number := toNat_byte small
    rw [← same, toNat_byte ascii] at number
    exact different (Char.toNat_inj.1 number)
  refine ⟨other _ (by decide) quote, other _ (by decide) backslash, ?_⟩
  rw [UInt8.lt_iff_toNat_lt, toNat_byte ascii]
  exact control

theorem plain_of_high {n : Nat} (high : 0x80 ≤ n) (small : n < 0x100) : Plain (UInt8.ofNat n) := by
  have number : (UInt8.ofNat n).toNat = n := UInt8.toNat_ofNat_of_lt' small
  have other (c : Char) (ascii : c.toNat < 0x80) : UInt8.ofNat n ≠ byte c := by
    intro same
    rw [same, toNat_byte ascii] at number
    omega
  refine ⟨other _ (by decide), other _ (by decide), ?_⟩
  rw [UInt8.lt_iff_toNat_lt, number]
  exact Nat.not_lt.2 ((by decide : 32 ≤ 128).trans high)

theorem plain_of_wide {c : Char} (wide : ¬ c.toNat < 0x80) :
    ∀ b ∈ String.utf8EncodeChar c, Plain b := by
  have high : ¬ c.val.toNat ≤ 127 := fun low => wide (Nat.lt_succ_of_le low)
  rw [String.utf8EncodeChar, if_neg high]
  split_ifs
  all_goals
    simp only [List.forall_mem_cons, List.not_mem_nil, false_imp_iff, forall_true_iff, and_true]
  · exact ⟨plain_of_high (by omega) (by omega), plain_of_high (by omega) (by omega)⟩
  · exact ⟨plain_of_high (by omega) (by omega), plain_of_high (by omega) (by omega),
      plain_of_high (by omega) (by omega)⟩
  · exact ⟨plain_of_high (by omega) (by omega), plain_of_high (by omega) (by omega),
      plain_of_high (by omega) (by omega), plain_of_high (by omega) (by omega)⟩

theorem hexValue?_hexByte {n : Nat} (control : n < 0x20) :
    hexValue? (byte (Nat.digitChar (n / 16 % 16))) = some (n / 16) ∧
      hexValue? (byte (Nat.digitChar (n % 16))) = some (n % 16) := by
  revert n
  decide

theorem escape_control {c : Char} (control : c.toNat < 0x20) (more : Bytes) :
    escape ((['u', '0', '0'] ++ hexByte c.toNat).map byte ++ more) =
      .ok (String.utf8EncodeChar c, more) := by
  obtain ⟨high, low⟩ := hexValue?_hexByte control
  have zero : hexValue? (byte '0') = some 0 := rfl
  have unit : ((0 * 16 + 0) * 16 + c.toNat / 16) * 16 + c.toNat % 16 = c.toNat := by omega
  have read : fourHex ((['0', '0'] ++ hexByte c.toNat).map byte ++ more) = .ok (c.toNat, more) := by
    simp only [hexByte, List.map_cons, List.map_nil, List.cons_append, List.nil_append, fourHex,
      zero, high, low, unit]
  have numbered (rest : Bytes) : escape (byte 'u' :: rest) = unicodeEscape rest := rfl
  have below : ¬ (0xdc00 ≤ c.toNat ∧ c.toNat ≤ 0xdfff) := by omega
  rw [List.cons_append, List.map_cons, List.cons_append, numbered, unicodeEscape, read]
  simp only [bind, Except.bind, Bool.and_eq_true, Bool.or_eq_true, decide_eq_true_eq]
  rw [if_neg below, if_pos (.inl (by omega)), utf8, Char.ofNat_toNat]

/-- The characters that have an escape of their own. -/
def escapes : List (Char × Char) :=
  [('"', '"'), ('\\', '\\'), ('\x08', 'b'), ('\t', 't'), ('\n', 'n'), ('\x0c', 'f'), ('\r', 'r')]

theorem escape_short {entry : Char × Char} (listed : entry ∈ escapes) (more : Bytes) :
    escape (byte entry.2 :: more) = .ok ([byte entry.1], more) := by
  simp only [escapes, List.mem_cons, List.not_mem_nil, or_false] at listed
  rcases listed with rfl | rfl | rfl | rfl | rfl | rfl | rfl <;> rfl

/-- A character is escaped in short or by its number, or stands for itself. -/
inductive Written (c : Char) : List Char → Prop
  | short {letter : Char} (listed : (c, letter) ∈ escapes) : Written c ['\\', letter]
  | control (low : c.toNat < 0x20) : Written c (['\\', 'u', '0', '0'] ++ hexByte c.toNat)
  | plain (quote : c ≠ '"') (backslash : c ≠ '\\') (high : ¬ c.toNat < 0x20) : Written c [c]

theorem written_escapedChar (c : Char) : Written c (escapedChar c) := by
  rw [escapedChar]
  split_ifs
  all_goals
    first
    | exact .control ‹_›
    | exact .plain ‹_› ‹_› ‹_›
    | subst c; exact .short (by decide)

theorem ascii_of_escapes :
    ∀ entry ∈ escapes, entry.1.toNat < 0x80 ∧ entry.2.toNat < 0x80 := by decide

theorem ascii_hexByte (n : Nat) : ∀ c ∈ hexByte n, c.toNat < 0x80 := by
  have digit : ∀ n < 16, (Nat.digitChar n).toNat < 0x80 := by decide
  simp only [hexByte, List.forall_mem_cons]
  exact ⟨digit _ (by omega), digit _ (by omega), fun c none => absurd none List.not_mem_nil⟩

theorem flatMap_ascii {chars : List Char} (ascii : ∀ c ∈ chars, c.toNat < 0x80) :
    chars.flatMap String.utf8EncodeChar = chars.map byte := by
  induction chars with
  | nil => rfl
  | cons c rest ih =>
      rw [List.flatMap_cons, utf8EncodeChar_ascii (ascii c List.mem_cons_self),
        ih fun d member => ascii d (List.mem_cons_of_mem _ member)]
      rfl

theorem spelt_char (c : Char) :
    Spelt ((escapedChar c).flatMap String.utf8EncodeChar) (String.utf8EncodeChar c) := by
  have written := written_escapedChar c
  generalize escapedChar c = text at written
  cases written with
  | @short letter listed =>
      obtain ⟨plain, small⟩ := ascii_of_escapes _ listed
      have ascii : ∀ d ∈ ['\\', letter], d.toNat < 0x80 := by simp [small]
      rw [flatMap_ascii ascii, utf8EncodeChar_ascii plain]
      exact .escaped fun more => escape_short listed more
  | control low =>
      have ascii : ∀ d ∈ ['\\', 'u', '0', '0'] ++ hexByte c.toNat, d.toNat < 0x80 := by
        intro d member
        rcases List.mem_append.1 member with fixed | digit
        · have lead : ∀ d ∈ ['\\', 'u', '0', '0'], d.toNat < 0x80 := by simp
          exact lead d fixed
        · exact ascii_hexByte _ _ digit
      rw [flatMap_ascii ascii, List.cons_append, List.map_cons]
      exact .escaped (escape_control low)
  | plain quote backslash high =>
      rw [List.flatMap_singleton]
      refine .plains ?_
      by_cases ascii : c.toNat < 0x80
      · rw [utf8EncodeChar_ascii ascii]
        simpa using plain_of_ascii quote backslash high ascii
      · exact plain_of_wide ascii

theorem spelt_chars (chars : List Char) :
    Spelt ((chars.flatMap escapedChar).flatMap String.utf8EncodeChar)
      (chars.flatMap String.utf8EncodeChar) := by
  induction chars with
  | nil => exact .nil
  | cons c rest ih =>
      rw [List.flatMap_cons, List.flatMap_append, List.flatMap_cons]
      exact (spelt_char c).append ih

/-- What stands between the quotes of a string. -/
def between (text : String) : Bytes := bytesOf (String.ofList (text.toList.flatMap escapedChar))

theorem bytesOf_stringText (text : String) :
    bytesOf (stringText text) = byte '"' :: (between text ++ [byte '"']) := by
  have quote : String.utf8EncodeChar '"' = [byte '"'] := rfl
  rw [stringText, bytesOf_ofList, between, bytesOf_ofList, List.cons_append, List.flatMap_cons,
    List.flatMap_append, List.flatMap_singleton, quote]
  rfl

theorem stringTail_between (text : String) (more : Bytes) {fuel : Nat}
    (enough : (between text).length < fuel) :
    stringTail fuel [] (between text ++ byte '"' :: more) = .ok (text, more) := by
  obtain ⟨steps, few, reads⟩ := spelt_chars text.toList
  rw [← bytesOf_ofList, ← between, flatMap_utf8EncodeChar] at reads
  rw [← bytesOf_ofList, ← between] at few
  obtain ⟨rest, rfl⟩ : ∃ rest, fuel = rest + 1 + steps := ⟨fuel - 1 - steps, by omega⟩
  rw [reads, List.append_nil, stringTail, if_pos rfl, textOf?_bytesOf]

/-! Numbers. -/

/-- Nothing follows that a number could go on with. -/
def Ends : Bytes → Prop
  | [] => True
  | b :: _ => isDigit b = false ∧ b ≠ byte '.' ∧ b ≠ byte 'e' ∧ b ≠ byte 'E'

theorem digit_bounds {c : Char} (digit : c.isDigit) : 48 ≤ c.toNat ∧ c.toNat ≤ 57 := by
  simpa [Char.isDigit, UInt32.le_iff_toNat_le] using digit

theorem toNat_digit {c : Char} (digit : c.isDigit) : (byte c).toNat = c.toNat :=
  toNat_byte ((digit_bounds digit).2.trans_lt (by decide))

theorem isDigit_byte {c : Char} (digit : c.isDigit) : isDigit (byte c) := by
  rw [isDigit, Bool.and_eq_true, decide_eq_true_eq, decide_eq_true_eq, UInt8.le_iff_toNat_le,
    UInt8.le_iff_toNat_le, toNat_digit digit]
  exact digit_bounds digit

theorem digitValue_byte {c : Char} (digit : c.isDigit) :
    digitValue (byte c) = c.toNat - '0'.toNat := by
  rw [digitValue, toNat_digit digit]
  rfl

theorem le_ofDigitChars (digits : List Char) (sofar : Nat) :
    sofar ≤ Nat.ofDigitChars 10 digits sofar := by
  induction digits generalizing sofar with
  | nil => exact le_rfl
  | cons c rest ih =>
      rw [Nat.ofDigitChars_cons]
      exact le_trans (by omega) (ih _)

theorem numberEnd_of_ends {more : Bytes} (ends : Ends more) (n : Nat) :
    numberEnd false n more = .ok (.int n, more) := by
  cases more with
  | nil => rfl
  | cons b rest =>
      obtain ⟨-, point, lower, upper⟩ := ends
      simp [numberEnd, point, lower, upper, wholeNumber]

theorem integerDigits_digits {digits : List Char} (numeric : ∀ c ∈ digits, c.isDigit) {sofar : Nat}
    (small : Nat.ofDigitChars 10 digits sofar < UInt64.size) {more : Bytes} (ends : Ends more) :
    integerDigits false sofar (digits.map byte ++ more) =
      .ok (.int (Nat.ofDigitChars 10 digits sofar), more) := by
  induction digits generalizing sofar with
  | nil =>
      rw [List.map_nil, List.nil_append, Nat.ofDigitChars_nil, ← numberEnd_of_ends ends]
      cases more with
      | nil => rfl
      | cons b rest => simp [integerDigits, ends.1]
  | cons c rest ih =>
      have digit := numeric c List.mem_cons_self
      rw [Nat.ofDigitChars_cons] at small ⊢
      have next : sofar * 10 + digitValue (byte c) = 10 * sofar + (c.toNat - '0'.toNat) := by
        rw [digitValue_byte digit, Nat.mul_comm]
      have fits := (le_ofDigitChars rest _).trans_lt small
      rw [List.map_cons, List.cons_append, integerDigits, if_pos (isDigit_byte digit)]
      simp only [next]
      rw [if_pos (show _ ≤ wordLimit from Nat.le_pred_of_lt fits)]
      exact ih (fun d member => numeric d (List.mem_cons_of_mem _ member)) small

/-- Only zero has a zero in front. -/
theorem toDigits_zero_cons {n : Nat} {rest : List Char}
    (leading : Nat.toDigits 10 n = '0' :: rest) : n = 0 ∧ rest = [] := by
  induction n using Nat.strongRecOn generalizing rest with
  | ind n ih =>
      rcases Nat.lt_or_ge n 10 with short | long
      · rw [Nat.toDigits_of_lt_base short] at leading
        obtain ⟨digit, none⟩ := List.cons.inj leading
        have same : ∀ n < 10, Nat.digitChar n = '0' → n = 0 := by decide
        exact ⟨same n short digit, none.symm⟩
      · rw [Nat.toDigits_of_base_le (by decide) long] at leading
        obtain ⟨first, more, split⟩ :=
          List.exists_cons_of_ne_nil (Nat.toDigits_ne_nil (n := n / 10) (b := 10))
        rw [split, List.cons_append] at leading
        obtain rfl := (List.cons.inj leading).1
        obtain ⟨zero, -⟩ := ih (n / 10) (by omega) split
        omega

theorem bytesOf_toString (n : Nat) : bytesOf (toString n) = (Nat.toDigits 10 n).map byte := by
  have numeric : ∀ c ∈ Nat.toDigits 10 n, c.isDigit := fun c =>
    Nat.isDigit_of_mem_toDigits (by decide) (by decide)
  have text : toString n = String.ofList (Nat.toDigits 10 n) := rfl
  rw [text, bytesOf_ofList, flatMap_ascii fun c member => ?_]
  exact (digit_bounds (numeric c member)).2.trans_lt (by decide)

theorem number_of_digit {b : UInt8} (digit : isDigit b) (other : b ≠ byte '0') (rest : Bytes) :
    Reader.number false (b :: rest) = integerDigits false (digitValue b) rest := by
  rw [Reader.number.eq_def]
  simp only [if_neg other, if_pos digit]

theorem number_zero {more : Bytes} (ends : Ends more) :
    Reader.number false (byte '0' :: more) = .ok (.int 0, more) := by
  rw [← Nat.cast_zero, ← numberEnd_of_ends ends]
  cases more with
  | nil => rfl
  | cons b rest => simp [Reader.number, ends.1]

theorem number_digits {n : Nat} (small : n < UInt64.size) {more : Bytes} (ends : Ends more) :
    Reader.number false (bytesOf (toString n) ++ more) = .ok (.int n, more) := by
  have numeric : ∀ c ∈ Nat.toDigits 10 n, c.isDigit := fun c =>
    Nat.isDigit_of_mem_toDigits (by decide) (by decide)
  have value : Nat.ofDigitChars 10 (Nat.toDigits 10 n) 0 = n :=
    Nat.ofDigitChars_toDigits (by decide) (by decide)
  rw [bytesOf_toString]
  cases digits : Nat.toDigits 10 n with
  | nil => exact absurd digits Nat.toDigits_ne_nil
  | cons c rest =>
      by_cases zero : c = '0'
      · obtain ⟨rfl, rfl⟩ := toDigits_zero_cons (zero ▸ digits)
        rw [zero]
        exact number_zero ends
      · rw [digits] at numeric value
        have digit := numeric c List.mem_cons_self
        have other : byte c ≠ byte '0' := by
          intro same
          have number := toNat_digit digit
          rw [same] at number
          exact zero (Char.toNat_inj.1 number.symm)
        rw [Nat.ofDigitChars_cons, Nat.mul_zero, Nat.zero_add] at value
        rw [List.map_cons, List.cons_append, number_of_digit (isDigit_byte digit) other,
          digitValue_byte digit]
        have others : ∀ d ∈ rest, d.isDigit := fun d member => numeric d (List.mem_cons_of_mem _ member)
        have read := integerDigits_digits others (value.trans_lt small) ends
        rw [read, value]

end FormatReview.Json
