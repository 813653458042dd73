import FormatReview.Decimal.Binary

namespace FormatReview.Decimal

/-! The fewest decimal digits that read back as a given binary value. -/

/-- The value `digits * 10 ^ exponent`. -/
structure Digits where
  digits : Nat
  exponent : Int
  deriving DecidableEq, Repr

/-- Which of two equally near neighbours is taken. -/
inductive Tie where
  | up
  | even
  deriving DecidableEq, Repr

def Tie.goesUp : Tie → (below : Nat) → Bool
  | .up, _ => true
  | .even, below => below % 2 == 1

/-- Moves a trailing zero into the exponent. -/
def Digits.trimmed (d : Digits) : Digits :=
  if d.digits % 10 = 0 then ⟨d.digits / 10, d.exponent + 1⟩ else d

namespace Binary

/-- In quarters of the unit, the value and the ends of the interval that rounds to it. -/
def quarters (b : Binary) : Nat := 4 * b.mantissa

def quartersBelow (b : Binary) : Nat := 4 * b.mantissa - if b.narrowBelow then 1 else 2

def quartersAbove (b : Binary) : Nat := 4 * b.mantissa + 2

/-- The factors that bring a count of quarters and a count of grid steps `10 ^ step` to one
scale. -/
def quarterFactor (b : Binary) (step : Int) : Nat :=
  Nat.pow 2 (b.exponent - 2).toNat * Nat.pow 10 (-step).toNat

def gridFactor (b : Binary) (step : Int) : Nat :=
  Nat.pow 10 step.toNat * Nat.pow 2 (2 - b.exponent).toNat

/-- The grid point rounds to the value. The ends of the interval do so for an even mantissa. -/
def holds (b : Binary) (step : Int) (point : Nat) : Bool :=
  let low := b.quartersBelow * b.quarterFactor step
  let high := b.quartersAbove * b.quarterFactor step
  let here := point * b.gridFactor step
  if b.mantissa % 2 = 0 then decide (low ≤ here) && decide (here ≤ high)
  else decide (low < here) && decide (here < high)

def gridBelow (b : Binary) (step : Int) : Nat :=
  b.quarters * b.quarterFactor step / b.gridFactor step

/-- Of the two neighbours on the grid, the nearer that rounds to the value. -/
def onGrid? (b : Binary) (tie : Tie) (step : Int) : Option Digits :=
  let below := b.gridBelow step
  let above := below + 1
  match b.holds step below, b.holds step above with
  | false, false => none
  | true, false => some ⟨below, step⟩
  | false, true => some ⟨above, step⟩
  | true, true =>
      let value := b.quarters * b.quarterFactor step
      let under := value - below * b.gridFactor step
      let beyond := above * b.gridFactor step - value
      let goesUp := decide (beyond < under) || beyond == under && tie.goesUp below
      some ⟨if goesUp then above else below, step⟩

/-- A step that is not greater than the value, since `10 ^ n ≤ 2 ^ n` for a negative `n`. -/
def fineStep (b : Binary) : Int := min b.exponent 0

/-- The exponent of the leading digit, as the finer grid shows it. -/
def leadingExponent (b : Binary) : Int :=
  (Nat.toDigits 10 (b.gridBelow b.fineStep)).length - 1 + b.fineStep

/-- Seventeen digits always suffice, so the first grid with a hit ends the search. Only a carry
out of a single nine leaves a trailing zero. -/
def shortest (b : Binary) (tie : Tie) : Digits :=
  let hit? := (List.range 17).findSome? fun (n : Nat) => b.onGrid? tie (b.leadingExponent - n)
  (hit?.getD ⟨0, 0⟩).trimmed

end Binary

end FormatReview.Decimal
