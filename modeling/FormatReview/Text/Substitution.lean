import FormatReview.Text.CodePoints

namespace FormatReview.Text

/-! Tables of characters and of what stands in their place, read from rows of hexadecimal numbers. -/

/-- The characters from `low` to `high` in steps of `step` become the targets. A single target moves
on with the character. -/
structure Substitution where
  low : Nat
  high : Nat
  step : Nat
  targets : List Nat
  deriving DecidableEq, Repr

namespace Substitution

def hexDigitValue (c : Char) : Nat := if c.isDigit then c.toNat - 0x30 else c.toNat - 0x57

def hexNumber (digits : List Char) : Nat := digits.foldl (fun n c => 16 * n + hexDigitValue c) 0

/-- A row starts with a character, with two around a dash, or with two around a colon, between which
every second one is left out. -/
def ofRow (row : String) : Substitution :=
  match row.splitOn " " with
  | [] => ⟨0, 0, 1, []⟩
  | source :: targets =>
      let low := source.toList.takeWhile Char.isAlphanum
      let rest := source.toList.dropWhile Char.isAlphanum
      let high := if rest.isEmpty then low else rest.drop 1
      ⟨hexNumber low, hexNumber high, if rest.head? = some ':' then 2 else 1,
        targets.map fun target => hexNumber target.toList⟩

/-- Rows are in increasing order of their first characters, with semicolons between them. -/
def ofLines (lines : List String) : List Substitution :=
  lines.flatMap fun line => (line.splitOn ";").map ofRow

def covers (row : Substitution) (point : Nat) : Bool :=
  decide (row.low ≤ point) && decide (point ≤ row.high) && (point - row.low) % row.step == 0

def at? (row : Substitution) (point : Nat) : Option (List Char) :=
  if row.covers point then
    match row.targets with
    | [target] => some [Char.ofNat (target + (point - row.low))]
    | targets => some (targets.map Char.ofNat)
  else none

def findPoint? (point : Nat) : List Substitution → Option (List Char)
  | [] => none
  | row :: rest =>
      if point < row.low then none else (row.at? point).or (findPoint? point rest)

def find? (rows : List Substitution) (c : Char) : Option (List Char) := findPoint? c.toNat rows

def source? (rows : List Substitution) (targets : List Nat) : Option Char :=
  (rows.find? (·.targets == targets)).map fun row => Char.ofNat row.low

end Substitution

end FormatReview.Text
