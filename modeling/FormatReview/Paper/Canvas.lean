import FormatReview.Fault
import FormatReview.Paper.Measure

namespace FormatReview.Paper

/-! Surfaces to draw on. Places are millimetres from the lower left corner. -/

/-- One call to a surface. A font stays selected to the end of its page. -/
inductive Mark (α : Type) where
  | page
  | font (name : String) (size : α)
  | text (content : String) (x y : α)
  | rule (x y toX toY : α)
  deriving Repr

/-- A surface with states `σ`. A mark that it refuses leaves its state as it was. -/
structure Canvas (α σ : Type) where
  draw : σ → Mark α → Except Fault σ

/-- Drawing that may fail on the way, and leaves the surface as far as it got. -/
abbrev Drawing (σ β : Type) := ExceptT Fault (StateM σ) β

namespace Canvas

def put (canvas : Canvas α σ) (mark : Mark α) : Drawing σ Unit := fun state =>
  match canvas.draw state mark with
  | .ok next => (.ok (), next)
  | .error fault => (.error fault, state)

def recorder : Canvas α (List (Mark α)) := ⟨fun marks mark => .ok (marks ++ [mark])⟩

/-- Keeps the marks before the one with number `k`, which it refuses. -/
def failingAt (k : Nat) (fault : Fault) : Canvas α (List (Mark α)) :=
  ⟨fun marks mark => if marks.length = k then .error fault else .ok (marks ++ [mark])⟩

end Canvas

end FormatReview.Paper
