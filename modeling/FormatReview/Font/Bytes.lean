namespace FormatReview.Font

/-! Numbers in a font file, highest byte first. -/

def byteAt? (data : ByteArray) (place : Nat) : Option Nat := data[place]?.map UInt8.toNat

def shortAt? (data : ByteArray) (place : Nat) : Option Nat := do
  let high ← byteAt? data place
  let low ← byteAt? data (place + 1)
  return 256 * high + low

def longAt? (data : ByteArray) (place : Nat) : Option Nat := do
  let high ← shortAt? data place
  let low ← shortAt? data (place + 2)
  return 65536 * high + low

/-- A stretch of a file, if all of it is there. -/
def slice? (data : ByteArray) (start length : Nat) : Option ByteArray :=
  if start + length ≤ data.size then some (data.extract start (start + length)) else none

/-- The number with the same sixteen bits, of which the first is a sign. -/
def signed (short : Nat) : Int := if short < 0x8000 then short else (short : Int) - 0x10000

end FormatReview.Font
