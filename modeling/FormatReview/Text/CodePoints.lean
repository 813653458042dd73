namespace FormatReview.Text

/-! Sets of characters, written as closed ranges of code points in increasing order. -/

abbrev CodePoints := List (Nat × Nat)

namespace CodePoints

/-- The ranges increase, so the search ends at the first that starts beyond the point. -/
def covers : CodePoints → Nat → Bool
  | [], _ => false
  | (low, high) :: rest, point =>
      if point < low then false else decide (point ≤ high) || covers rest point

@[simp] theorem covers_nil (point : Nat) : covers [] point = false := rfl

def contains (points : CodePoints) (c : Char) : Bool := points.covers c.toNat

end CodePoints

end FormatReview.Text
