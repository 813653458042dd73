namespace FormatReview.Upload

/-! Byte counts as rounded percentages that only ever rise. -/

/-- Halves are rounded up, and nothing counts as fully sent. -/
def percentOf (sent total : UInt64) : UInt8 :=
  if total = 0 then 100
  else UInt8.ofNat ((min sent.toNat total.toNat * 200 + total.toNat) / (total.toNat * 2))

/-- The bytes sent so far, and the percentage told last. -/
structure Tracker where
  total : UInt64
  sent : UInt64
  last : Option UInt8
  deriving DecidableEq, Repr

/-- More bytes went out, or the upload is over. -/
inductive Advance where
  | bytes (n : UInt64)
  | finish
  deriving DecidableEq, Repr

namespace Tracker

def start (total : UInt64) : Tracker := ⟨total, 0, none⟩

def tell (tracker : Tracker) (percent : UInt8) : Option UInt8 × Tracker :=
  if tracker.last.any (percent ≤ ·) then (none, tracker)
  else (some percent, { tracker with last := some percent })

/-- A sum beyond the largest word stays at it. -/
def boundedSum (a b : UInt64) : UInt64 := UInt64.ofNat (min (a.toNat + b.toNat) (UInt64.size - 1))

def advance (tracker : Tracker) : Advance → Option UInt8 × Tracker
  | .bytes n =>
      let sent := boundedSum tracker.sent n
      { tracker with sent := sent }.tell (percentOf sent tracker.total)
  | .finish => tracker.tell 100

def run (tracker : Tracker) : List Advance → List (Option UInt8 × Tracker)
  | [] => []
  | step :: rest => tracker.advance step :: (tracker.advance step).2.run rest

def tellAll (tracker : Tracker) : List Advance → List UInt8 × Tracker
  | [] => ([], tracker)
  | step :: rest =>
      let (told, next) := tracker.advance step
      let (more, final) := next.tellAll rest
      (told.toList ++ more, final)

@[simp] theorem tellAll_nil (tracker : Tracker) : tracker.tellAll [] = ([], tracker) := rfl

@[simp] theorem tellAll_cons (tracker : Tracker) (step : Advance) (rest : List Advance) :
    tracker.tellAll (step :: rest) =
      ((tracker.advance step).1.toList ++ ((tracker.advance step).2.tellAll rest).1,
        ((tracker.advance step).2.tellAll rest).2) := rfl

theorem toNat_boundedSum (a b : UInt64) :
    (boundedSum a b).toNat = min (a.toNat + b.toNat) (UInt64.size - 1) := by
  simp only [boundedSum, UInt64.toNat_ofNat', UInt64.size]
  omega

end Tracker

end FormatReview.Upload
