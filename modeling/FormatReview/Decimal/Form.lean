import FormatReview.Decimal.Shortest

namespace FormatReview.Decimal

/-! How the digits of a number are set out as text. -/

/-- Which exponents of the leading digit are written positionally, whether a whole number then
ends in `.0`, whether a positive exponent of the other numbers has a sign, and which way ties go. -/
structure Form where
  least : Option Int
  greatest : Option Int
  point : Bool
  plus : Bool
  tie : Tie

namespace Form

def positional (form : Form) (leading : Int) : Bool :=
  form.least.all (· ≤ leading) && form.greatest.all (leading ≤ ·)

def zeros (n : Nat) : List Char := List.replicate n '0'

def spread (form : Form) (digits : List Char) (exponent : Int) : List Char :=
  if 0 ≤ exponent then
    digits ++ zeros exponent.toNat ++ if form.point then ['.', '0'] else []
  else
    let places := (-exponent).toNat
    if places < digits.length then
      digits.take (digits.length - places) ++ '.' :: digits.drop (digits.length - places)
    else '0' :: '.' :: zeros (places - digits.length) ++ digits

/-- The digits of a positive number with one digit before the point, and an exponent. -/
def scientific (form : Form) (digits : List Char) (leading : Int) : List Char :=
  let mantissa :=
    match digits with
    | first :: second :: rest => first :: '.' :: second :: rest
    | short => short
  let sign := if leading < 0 then ['-'] else if form.plus then ['+'] else []
  mantissa ++ 'e' :: sign ++ Nat.toDigits 10 leading.natAbs

def magnitude (form : Form) : Magnitude → List Char
  | .zero => if form.point then ['0', '.', '0'] else ['0']
  | .infinite => ['i', 'n', 'f']
  | .notANumber => ['N', 'a', 'N']
  | .finite value =>
      let shortest := value.shortest form.tie
      let digits := Nat.toDigits 10 shortest.digits
      let leading := shortest.exponent + (digits.length - 1 : Nat)
      if form.positional leading then form.spread digits shortest.exponent
      else form.scientific digits leading

def write (form : Form) (x : Signed) : String :=
  let sign := if x.negative && x.magnitude != .notANumber then ['-'] else []
  String.ofList (sign ++ form.magnitude x.magnitude)

end Form

end FormatReview.Decimal
