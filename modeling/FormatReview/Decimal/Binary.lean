namespace FormatReview.Decimal

/-! Binary floating point values taken apart into whole numbers. -/

/-- The positive value `mantissa * 2 ^ exponent`. The next value below is half as far away as
the next above when `narrowBelow` holds. -/
structure Binary where
  mantissa : Nat
  exponent : Int
  narrowBelow : Bool
  deriving DecidableEq, Repr

inductive Magnitude where
  | zero
  | finite (value : Binary)
  | infinite
  | notANumber
  deriving DecidableEq, Repr

structure Signed where
  negative : Bool
  magnitude : Magnitude
  deriving DecidableEq, Repr

/-- The widths of the exponent and fraction fields of an interchange format. -/
structure Layout where
  exponentBits : Nat
  fractionBits : Nat

def power (bits : Nat) : Nat := Nat.pow 2 bits

def single : Layout := ⟨8, 23⟩

def double : Layout := ⟨11, 52⟩

namespace Layout

/-- The exponent of the unit of a value whose exponent field is zero or one. -/
def least (layout : Layout) : Int := 2 - power (layout.exponentBits - 1) - layout.fractionBits

def magnitude (layout : Layout) (field fraction : Nat) : Magnitude :=
  if field = power layout.exponentBits - 1 then
    if fraction = 0 then .infinite else .notANumber
  else if field = 0 then
    if fraction = 0 then .zero else .finite ⟨fraction, layout.least, false⟩
  else
    .finite ⟨fraction + power layout.fractionBits, layout.least + (field - 1 : Nat),
      fraction == 0 && field != 1⟩

def decode (layout : Layout) (bits : Nat) : Signed :=
  let fraction := bits % power layout.fractionBits
  let field := bits / power layout.fractionBits % power layout.exponentBits
  ⟨bits / power (layout.fractionBits + layout.exponentBits) % 2 == 1,
    layout.magnitude field fraction⟩

end Layout

def ofSingle (x : Float32) : Signed := single.decode x.toBits.toNat

def ofDouble (x : Float) : Signed := double.decode x.toBits.toNat

end FormatReview.Decimal
