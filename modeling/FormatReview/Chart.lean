import FormatReview.Review

namespace FormatReview

/-! How often each code occurs, as bars in the order of the codes. -/

structure Bar where
  code : String
  count : UInt64
  deriving DecidableEq, Repr

structure Chart where
  bars : List Bar
  deriving DecidableEq, Repr

def Bar.label (bar : Bar) : String := bar.code ++ " (" ++ toString bar.count ++ ")"

namespace Chart

def ofReview (review : Review) : Chart :=
  ⟨review.counts.entries.map fun entry => ⟨entry.1, entry.2⟩⟩

def isEmpty (chart : Chart) : Bool := chart.bars.isEmpty

def largest (chart : Chart) : UInt64 := chart.bars.foldl (fun most bar => max most bar.count) 0

/-- The rounded share of `width`, of which the lower 64 bits count. -/
def cells (count largest width : Nat) : Nat := (count * width + largest / 2) / largest % UInt64.size

/-- The length of a bar. A count that is not zero has at least one cell, for which there must be
room. -/
def scaled (chart : Chart) (bar : Bar) (width : Nat) : Option Nat :=
  if chart.largest = 0 ∨ bar.count = 0 then some 0
  else if width = 0 then none
  else some (min (max 1 (cells bar.count.toNat chart.largest.toNat width)) width)

def labels (chart : Chart) : List String := chart.bars.map (·.label)

def labelWidth (chart : Chart) : Nat := (chart.labels.map (·.length)).foldl max 0

/-- Any width can be padded to. So it is with the oldest toolchain that is supported, 1.80; from 1.87
on a width beyond 65535 is refused, which only a label of that length asks for. -/
def padRight (width : Nat) (text : String) : String :=
  text ++ String.ofList (List.replicate (width - text.length) ' ')

/-- A text holds less than `2 ^ 63` bytes, and a cell takes three. -/
def mostCells : Nat := (UInt64.size / 2 - 1) / 3

def cellText? (length : Nat) : Option String :=
  if mostCells < length then none else some (String.ofList (List.replicate length '█'))

def line (chart : Chart) (width : Nat) (bar : Bar) : Option String := do
  let cells ← cellText? (← chart.scaled bar width)
  return padRight chart.labelWidth bar.label ++ " │" ++ cells ++ "\n"

def text (chart : Chart) (width : Nat) : Option String :=
  (chart.bars.mapM (chart.line width)).map String.join

end Chart

end FormatReview
