namespace FormatReview.Web.Punycode

/-! Names beyond ASCII, written with letters and digits: the ASCII characters come first, then the
places and values of all others as numbers to the base 36. -/

def digit (n : Nat) : Char := if n < 26 then Char.ofNat (0x61 + n) else Char.ofNat (0x30 + n - 26)

/-- The digits below which a number ends, at a place given in steps of 36. -/
def threshold (place bias : Nat) : Nat :=
  if place ≤ bias then 1 else if bias + 26 ≤ place then 26 else place - bias

theorem threshold_pos (place bias : Nat) : 0 < threshold place bias := by
  unfold threshold
  split
  · omega
  · split <;> omega

def digits (bias place n : Nat) : List Char :=
  let limit := threshold place bias
  if n < limit then [digit n]
  else digit (limit + (n - limit) % (36 - limit)) ::
    digits bias (place + 36) ((n - limit) / (36 - limit))
termination_by n
decreasing_by
  have := threshold_pos place bias
  exact Nat.lt_of_le_of_lt (Nat.div_le_self ..) (by omega)

def settle (delta steps : Nat) : Nat × Nat :=
  if 455 < delta then settle (delta / 35) (steps + 36) else (delta, steps)
termination_by delta
decreasing_by exact Nat.div_lt_self (by omega) (by omega)

def adapt (delta written : Nat) (first : Bool) : Nat :=
  let damped := if first then delta / 700 else delta / 2
  let (small, steps) := settle (damped + damped / written) 0
  steps + 36 * small / (small + 38)

structure Writer where
  text : List Char
  delta : Nat
  bias : Nat
  written : Nat

/-- Passes one character while the value `current` is being placed. -/
def pass (basic current : Nat) (writer : Writer) (c : Char) : Writer :=
  if c.toNat < current then { writer with delta := writer.delta + 1 }
  else if c.toNat = current then
    { text := writer.text ++ digits writer.bias 36 writer.delta
      delta := 0
      bias := adapt writer.delta (writer.written + 1) (writer.written == basic)
      written := writer.written + 1 }
  else writer

def place (name : List Char) (basic : Nat) : Nat → List Nat → Writer → Writer
  | _, [], writer => writer
  | least, current :: rest, writer =>
      let ahead := { writer with delta := writer.delta + (current - least) * (writer.written + 1) }
      let passed := name.foldl (pass basic current) ahead
      place name basic (current + 1) rest { passed with delta := passed.delta + 1 }

def insertValue (n : Nat) : List Nat → List Nat
  | [] => [n]
  | m :: rest =>
      if n < m then n :: m :: rest
      else if n = m then m :: rest
      else m :: insertValue n rest

def isAscii (c : Char) : Bool := c.toNat < 0x80

def encode (name : List Char) : List Char :=
  let basic := name.filter isAscii
  let others := (name.filter fun c => !isAscii c).foldl (fun ns c => insertValue c.toNat ns) []
  basic ++ (if basic.isEmpty then [] else ['-']) ++
    (place name basic.length 0x80 others ⟨[], 0, 72, basic.length⟩).text

/-! Reading such a name back. -/

def digitValue? (c : Char) : Option Nat :=
  if 'a' ≤ c ∧ c ≤ 'z' then some (c.toNat - 0x61)
  else if '0' ≤ c ∧ c ≤ '9' then some (c.toNat - 0x30 + 26)
  else none

/-- The name so far, the value and place of its latest character, and the number that is being
read: how much its next digit counts, the place of that digit, and where the number started. -/
structure Reader where
  text : List Char
  value : Nat
  index : Nat
  bias : Nat
  weight : Nat
  place : Nat
  start : Nat

/-- No number is larger than a word of 32 bits. -/
def wordSize : Nat := 4294967296

/-- Puts a character in where a number that was read to its end tells. -/
def Reader.insert (reader : Reader) (index : Nat) : Option Reader :=
  let length := reader.text.length + 1
  let value := reader.value + index / length
  let spot := index % length
  if value.isValidChar then
    some
      { text := reader.text.take spot ++ Char.ofNat value :: reader.text.drop spot
        value := value
        index := spot + 1
        bias := adapt (index - reader.start) length (reader.start == 0)
        weight := 1
        place := 36
        start := spot + 1 }
  else none

def Reader.digit (reader : Reader) (c : Char) : Option Reader := do
  let d ← digitValue? c
  let index := reader.index + d * reader.weight
  let limit := threshold reader.place reader.bias
  if wordSize ≤ index then none
  else if d < limit then reader.insert index
  else if wordSize ≤ reader.weight * (36 - limit) then none
  else
    return { reader with
      index := index
      weight := reader.weight * (36 - limit)
      place := reader.place + 36 }

/-- The characters before the last dash, and the digits behind it. A dash at the very front is no
such mark. -/
def splitBasic (code : List Char) : List Char × List Char :=
  let digits := (code.reverse.takeWhile (· != '-')).reverse
  let basic := code.take (code.length - digits.length - 1)
  if basic.isEmpty then ([], code) else (basic, digits)

def decode? (code : List Char) : Option (List Char) := do
  let (basic, digits) := splitBasic code
  if !basic.all isAscii then none
  let reader ← digits.foldlM Reader.digit ⟨basic, 0x80, 0, 72, 1, 36, 0⟩
  if reader.place = 36 then return reader.text else none

end FormatReview.Web.Punycode
