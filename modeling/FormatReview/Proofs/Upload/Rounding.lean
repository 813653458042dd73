import Mathlib
import FormatReview.Proofs.Upload.Percent

namespace FormatReview.Upload

/-! The percentage told last is the share of the bytes recorded, rounded once. How the bytes were
cut into advances does not matter, nor that the counter and the numbers in between are words. -/

/-- What a percentage stands for: a hundredfold share, with halves rounded up. -/
def share (recorded total : Nat) : Nat :=
  if total = 0 then 100 else ⌊100 * ((min recorded total : Nat) : Rat) / total + 1 / 2⌋₊

theorem share_of_min_eq {recorded other total : Nat} (same : min recorded total = min other total) :
    share recorded total = share other total := by
  rw [share, share, same]

/-! Words of 128 bits hold the dividend and the divisor of a percentage. -/

def dividend (sent total : UInt64) : BitVec 128 :=
  .ofNat 128 (min sent.toNat total.toNat) * 200 + total.toBitVec.setWidth 128

def divisor (total : UInt64) : BitVec 128 := total.toBitVec.setWidth 128 * 2

theorem toNat_dividend (sent total : UInt64) :
    (dividend sent total).toNat = min sent.toNat total.toNat * 200 + total.toNat := by
  have small : total.toNat < 2 ^ 64 := total.toNat_lt_size
  have factor : (200 : BitVec 128).toNat = 200 := rfl
  rw [dividend, BitVec.toNat_add, BitVec.toNat_mul, BitVec.toNat_ofNat, toNat_widened, factor]
  omega

theorem toNat_divisor (total : UInt64) : (divisor total).toNat = total.toNat * 2 := by
  have small : total.toNat < 2 ^ 64 := total.toNat_lt_size
  have factor : (2 : BitVec 128).toNat = 2 := rfl
  rw [divisor, BitVec.toNat_mul, toNat_widened, factor]
  omega

theorem toNat_quotient_le {total : UInt64} (some : total ≠ 0) (sent : UInt64) :
    (dividend sent total / divisor total).toNat ≤ 100 := by
  rw [BitVec.toNat_udiv, toNat_dividend, toNat_divisor]
  exact rounded_le (toNat_pos_of_ne_zero some) sent.toNat

theorem percentOf_eq_words {total : UInt64} (some : total ≠ 0) (sent : UInt64) :
    percentOf sent total = .ofBitVec ((dividend sent total / divisor total).setWidth 8) := by
  have small := toNat_quotient_le some sent
  apply UInt8.toNat_inj.1
  rw [toNat_percentOf some, UInt8.toNat_ofBitVec, BitVec.toNat_setWidth,
    Nat.mod_eq_of_lt (by omega), BitVec.toNat_udiv, toNat_dividend, toNat_divisor]

theorem toNat_percentOf_eq_share (sent total : UInt64) :
    (percentOf sent total).toNat = share sent.toNat total.toNat := by
  by_cases empty : total = 0
  · simp [percentOf, share, empty]
  · have some := toNat_pos_of_ne_zero empty
    have exact : 100 * ((min sent.toNat total.toNat : Nat) : Rat) / total.toNat + 1 / 2 =
        ((min sent.toNat total.toNat * 200 + total.toNat : Nat) : Rat) /
          ((total.toNat * 2 : Nat) : Rat) := by
      push_cast
      field_simp
      ring
    rw [toNat_percentOf empty, share, if_neg some.ne', exact, Nat.floor_div_eq_div]

theorem percentOf_mono {sent more : UInt64} (grown : sent.toNat ≤ more.toNat) (total : UInt64) :
    percentOf sent total ≤ percentOf more total := by
  by_cases empty : total = 0
  · simp [percentOf, empty]
  · rw [UInt8.le_iff_toNat_le, toNat_percentOf empty, toNat_percentOf empty]
    gcongr

/-- The bytes of some advances together, beyond the largest word if need be. -/
def recorded : List Advance → Nat
  | [] => 0
  | .bytes n :: rest => n.toNat + recorded rest
  | .finish :: rest => recorded rest

@[simp] theorem recorded_nil : recorded [] = 0 := rfl

@[simp] theorem recorded_bytes (n : UInt64) (rest : List Advance) :
    recorded (.bytes n :: rest) = n.toNat + recorded rest := rfl

@[simp] theorem recorded_finish (rest : List Advance) :
    recorded (.finish :: rest) = recorded rest := rfl

namespace Tracker

@[simp] theorem total_tell (tracker : Tracker) (percent : UInt8) :
    (tracker.tell percent).2.total = tracker.total := by
  rw [tell]
  split <;> rfl

@[simp] theorem sent_tell (tracker : Tracker) (percent : UInt8) :
    (tracker.tell percent).2.sent = tracker.sent := by
  rw [tell]
  split <;> rfl

@[simp] theorem total_advance (tracker : Tracker) (step : Advance) :
    (tracker.advance step).2.total = tracker.total := by
  cases step <;> simp [advance]

@[simp] theorem total_tellAll (tracker : Tracker) (steps : List Advance) :
    (tracker.tellAll steps).2.total = tracker.total := by
  induction steps generalizing tracker with
  | nil => rfl
  | cons step rest ih => rw [tellAll_cons, ih, total_advance]

/-- The counter stays at the largest word once the sum is beyond it. -/
theorem toNat_sent_tellAll (tracker : Tracker) (steps : List Advance) :
    (tracker.tellAll steps).2.sent.toNat =
      min (tracker.sent.toNat + recorded steps) (UInt64.size - 1) := by
  induction steps generalizing tracker with
  | nil =>
      have small := tracker.sent.toNat_lt_size
      simp only [tellAll_nil, recorded_nil]
      omega
  | cons step rest ih =>
      rw [tellAll_cons, ih]
      cases step with
      | bytes n =>
          simp only [advance, sent_tell, toNat_boundedSum, recorded_bytes]
          omega
      | finish => simp only [advance, sent_tell, recorded_finish]

/-- Nothing was told beyond the percentage that the counter has come to. -/
def Behind (tracker : Tracker) : Prop :=
  ∀ last, tracker.last = some last → last ≤ percentOf tracker.sent tracker.total

/-- The percentage told last is the one that the counter has come to. -/
def Current (tracker : Tracker) : Prop :=
  tracker.last = some (percentOf tracker.sent tracker.total)

theorem behind_start (total : UInt64) : (start total).Behind := fun _ told => by cases told

variable {tracker : Tracker}

theorem Current.behind (current : tracker.Current) : tracker.Behind := by
  intro last told
  rw [Current, told] at current
  exact UInt8.le_of_eq (Option.some.inj current)

theorem Behind.advance_bytes (behind : tracker.Behind) (n : UInt64) :
    (tracker.advance (.bytes n)).2.Current := by
  have sent : (tracker.advance (.bytes n)).2.sent = boundedSum tracker.sent n := by
    simp only [advance, sent_tell]
  have grown : tracker.sent.toNat ≤ (boundedSum tracker.sent n).toNat := by
    have small := tracker.sent.toNat_lt_size
    rw [toNat_boundedSum]
    omega
  rw [Current, sent, total_advance]
  rcases tracker.advance_cases (.bytes n) with ⟨-, kept, last, told, reached⟩ | ⟨-, next, -⟩
  · -- Nothing is told only if the percentage is the one told last.
    have below := UInt8.le_trans (behind last told) (percentOf_mono grown tracker.total)
    rw [kept, told, UInt8.le_antisymm below reached]
  · rw [next]
    rfl

theorem Behind.current_tellAll (behind : tracker.Behind) {steps : List Advance}
    (some : steps ≠ []) (unfinished : .finish ∉ steps) : (tracker.tellAll steps).2.Current := by
  induction steps generalizing tracker with
  | nil => exact absurd rfl some
  | cons step rest ih =>
      cases step with
      | finish => exact absurd List.mem_cons_self unfinished
      | bytes n =>
          have current := behind.advance_bytes n
          rw [tellAll_cons]
          cases rest with
          | nil => exact current
          | cons next others =>
              exact ih current.behind (List.cons_ne_nil _ _)
                fun member => unfinished (List.mem_cons_of_mem _ member)

theorem last_of_unfinished (total : UInt64) {steps : List Advance} (some : steps ≠ [])
    (unfinished : .finish ∉ steps) :
    ∃ last, ((start total).tellAll steps).2.last = .some last ∧
      last.toNat = share (recorded steps) total.toNat := by
  have sent : ((start total).tellAll steps).2.sent.toNat =
      min (0 + recorded steps) (UInt64.size - 1) := toNat_sent_tellAll _ _
  have whole : ((start total).tellAll steps).2.total = total := total_tellAll _ _
  have small := total.toNat_lt_size
  refine ⟨_, (behind_start total).current_tellAll some unfinished, ?_⟩
  rw [toNat_percentOf_eq_share, whole]
  -- The counter stops beyond any total, and of a share only what is below the total matters.
  apply share_of_min_eq
  omega

/-- Until an upload is over, the percentage told last is the exact share of all bytes recorded, and
from then on it is 100. -/
theorem last_percentage_exact (total : UInt64) (steps : List Advance) :
    let told := ((start total).tellAll steps).1
    let tracker := ((start total).tellAll steps).2
    (told.Pairwise (· < ·) ∧ ∀ percent ∈ told, percent ≤ 100) ∧
    tracker.last = told.getLast? ∧
    (steps ≠ [] → .finish ∉ steps →
      tracker.last.map UInt8.toNat = some (share (recorded steps) total.toNat)) ∧
    (.finish ∈ steps → tracker.last = some 100 ∧ ∀ more, (tracker.tellAll more).1 = []) ∧
    (∀ others, steps ≠ [] → others ≠ [] → .finish ∉ steps → .finish ∉ others →
      recorded others = recorded steps →
      ((start total).tellAll others).2.last = tracker.last) ∧
    ∀ sent, (percentOf sent total).toNat = share sent.toNat total.toNat ∧
      (dividend sent total).toNat = min sent.toNat total.toNat * 200 + total.toNat ∧
      (divisor total).toNat = total.toNat * 2 ∧
      (total ≠ 0 → (dividend sent total / divisor total).toNat ≤ 100 ∧
        percentOf sent total = .ofBitVec ((dividend sent total / divisor total).setWidth 8)) := by
  intro told tracker
  refine ⟨⟨tellAll_rising _ _, fun _ => le_of_mem_tellAll⟩, ?last, ?exact, ?full, ?blind, ?words⟩
  case last => exact (last_tellAll _ _).trans (Option.or_none ..)
  case exact =>
    intro some unfinished
    obtain ⟨last, told, exact⟩ := last_of_unfinished total some unfinished
    rw [told, Option.map_some, exact]
  case full =>
    intro finished
    have full : tracker.last = some 100 := full_of_finish finished
    exact ⟨full, fun more => (tellAll_of_full full more).1⟩
  case blind =>
    intro others some someOther unfinished unfinishedOther same
    obtain ⟨last, told, exact⟩ := last_of_unfinished total some unfinished
    obtain ⟨other, toldOther, exactOther⟩ := last_of_unfinished total someOther unfinishedOther
    rw [same, ← exact] at exactOther
    rw [toldOther, told, UInt8.toNat_inj.1 exactOther]
  case words =>
    intro sent
    exact ⟨toNat_percentOf_eq_share sent total, toNat_dividend sent total, toNat_divisor total,
      fun some => ⟨toNat_quotient_le some sent, percentOf_eq_words some sent⟩⟩

end Tracker

end FormatReview.Upload
