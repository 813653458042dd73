namespace FormatReview.Paper

/-! The numbers in which a page is laid out: single precision, or exact fractions. -/

class Measure (α : Type) extends Add α, Sub α, Mul α, Div α, LE α, LT α, OfScientific α where
  ofNat : Nat → α
  decideLe : ∀ a b : α, Decidable (a ≤ b)
  decideLt : ∀ a b : α, Decidable (a < b)

instance Measure.instDecidableLe (a b : α) [Measure α] : Decidable (a ≤ b) := Measure.decideLe a b

instance Measure.instDecidableLt (a b : α) [Measure α] : Decidable (a < b) := Measure.decideLt a b

instance : Measure Float32 where
  ofNat := Float32.ofNat
  decideLe := fun a b => inferInstanceAs (Decidable (a ≤ b))
  decideLt := fun a b => inferInstanceAs (Decidable (a < b))

instance : Measure Rat where
  ofNat := fun n => (n : Rat)
  decideLe := fun a b => inferInstanceAs (Decidable (a ≤ b))
  decideLt := fun a b => inferInstanceAs (Decidable (a < b))

variable (α : Type) [Measure α]

/-! Lengths are in millimetres. -/

def pageWidth : α := 210.0

def pageHeight : α := 297.0

def margin : α := 15.0

def padding : α := 1.5

def point : α := 0.352778

def spacing : α := 1.3

/-- Where the first line of a page hangs. -/
def top : α := pageHeight α - margin α

def textWidth : α := pageWidth α - 2.0 * margin α

end FormatReview.Paper
