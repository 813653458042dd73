import FormatReview.Proofs.Words
import FormatReview.Upload.Percent

namespace FormatReview.Upload

/-! The percentages that a tracker tells: each is larger than the one before, and none is beyond
100. -/

theorem rounded_le {total : Nat} (some : 0 < total) (sent : Nat) :
    (min sent total * 200 + total) / (total * 2) ≤ 100 := by
  rw [← Nat.lt_succ_iff, Nat.div_lt_iff_lt_mul (by omega)]
  omega

theorem toNat_percentOf {total : UInt64} (some : total ≠ 0) (sent : UInt64) :
    (percentOf sent total).toNat =
      (min sent.toNat total.toNat * 200 + total.toNat) / (total.toNat * 2) := by
  have small := rounded_le (toNat_pos_of_ne_zero some) sent.toNat
  rw [percentOf, if_neg some, UInt8.toNat_ofNat', Nat.mod_eq_of_lt (by omega)]

theorem percentOf_le (sent total : UInt64) : percentOf sent total ≤ 100 := by
  by_cases empty : total = 0
  · simp [percentOf, empty]
  · rw [UInt8.le_iff_toNat_le, toNat_percentOf empty]
    exact rounded_le (toNat_pos_of_ne_zero empty) sent.toNat

namespace Tracker

/-- The percentage that an advance comes to. -/
def target (tracker : Tracker) : Advance → UInt8
  | .bytes n => percentOf (boundedSum tracker.sent n) tracker.total
  | .finish => 100

theorem target_le (tracker : Tracker) (step : Advance) : tracker.target step ≤ 100 := by
  cases step with
  | bytes n => exact percentOf_le _ _
  | finish => exact UInt8.le_refl 100

theorem tell_cases (tracker : Tracker) (percent : UInt8) :
    tracker.tell percent = (none, tracker) ∧
        (∃ last, tracker.last = some last ∧ percent ≤ last) ∨
      tracker.tell percent = (some percent, { tracker with last := some percent }) ∧
        ∀ last, tracker.last = some last → last < percent := by
  cases told : tracker.last with
  | none => exact .inr ⟨by simp [tell, told], by simp⟩
  | some last =>
      by_cases reached : percent ≤ last
      · exact .inl ⟨by simp [tell, told, reached], last, rfl, reached⟩
      · refine .inr ⟨by simp [tell, told, reached], ?_⟩
        intro other same
        obtain rfl := Option.some.inj same
        exact UInt8.not_le.1 reached

/-- An advance is told if it comes to more than was told last. -/
theorem advance_cases (tracker : Tracker) (step : Advance) :
    (tracker.advance step).1 = none ∧ (tracker.advance step).2.last = tracker.last ∧
        (∃ last, tracker.last = some last ∧ tracker.target step ≤ last) ∨
      (tracker.advance step).1 = some (tracker.target step) ∧
        (tracker.advance step).2.last = some (tracker.target step) ∧
        ∀ last, tracker.last = some last → last < tracker.target step := by
  cases step with
  | bytes n =>
      simp only [advance, target]
      rcases tell_cases { tracker with sent := boundedSum tracker.sent n }
          (percentOf (boundedSum tracker.sent n) tracker.total) with ⟨told, last⟩ | ⟨told, last⟩
      · exact .inl ⟨by rw [told], by rw [told], last⟩
      · exact .inr ⟨by rw [told], by rw [told], last⟩
  | finish =>
      simp only [advance, target]
      rcases tracker.tell_cases 100 with ⟨told, last⟩ | ⟨told, last⟩
      · exact .inl ⟨by rw [told], by rw [told], last⟩
      · exact .inr ⟨by rw [told], by rw [told], last⟩

theorem eq_of_finish {tracker : Tracker} {percent : UInt8}
    (told : (tracker.advance .finish).1 = some percent) : percent = 100 := by
  rcases tracker.advance_cases .finish with ⟨silent, -, -⟩ | ⟨tells, -, -⟩
  · cases told.symm.trans silent
  · exact Option.some.inj (told.symm.trans tells)

theorem lt_of_mem_tellAll {tracker : Tracker} {steps : List Advance} {last percent : UInt8}
    (told : tracker.last = some last) (member : percent ∈ (tracker.tellAll steps).1) :
    last < percent := by
  induction steps generalizing tracker last with
  | nil => simp at member
  | cons step rest ih =>
      rw [tellAll_cons] at member
      rcases tracker.advance_cases step with ⟨silent, kept, -⟩ | ⟨tells, next, rises⟩
      · rw [silent] at member
        exact ih (kept.trans told) member
      · rw [tells] at member
        have above := rises last told
        rcases List.mem_cons.1 member with rfl | member
        · exact above
        · exact UInt8.lt_trans above (ih next member)

theorem le_of_mem_tellAll {tracker : Tracker} {steps : List Advance} {percent : UInt8}
    (member : percent ∈ (tracker.tellAll steps).1) : percent ≤ 100 := by
  induction steps generalizing tracker with
  | nil => simp at member
  | cons step rest ih =>
      rw [tellAll_cons] at member
      rcases tracker.advance_cases step with ⟨silent, -, -⟩ | ⟨tells, -, -⟩
      · rw [silent] at member
        exact ih member
      · rw [tells] at member
        rcases List.mem_cons.1 member with rfl | member
        · exact tracker.target_le step
        · exact ih member

theorem tellAll_rising (tracker : Tracker) (steps : List Advance) :
    (tracker.tellAll steps).1.Pairwise (· < ·) := by
  induction steps generalizing tracker with
  | nil => exact .nil
  | cons step rest ih =>
      rw [tellAll_cons]
      rcases tracker.advance_cases step with ⟨silent, -, -⟩ | ⟨tells, next, -⟩
      · rw [silent]
        exact ih _
      · rw [tells]
        exact .cons (fun percent member => lt_of_mem_tellAll next member) (ih _)

theorem tellAll_append (tracker : Tracker) (steps more : List Advance) :
    tracker.tellAll (steps ++ more) =
      ((tracker.tellAll steps).1 ++ ((tracker.tellAll steps).2.tellAll more).1,
        ((tracker.tellAll steps).2.tellAll more).2) := by
  induction steps generalizing tracker with
  | nil => simp
  | cons step rest ih => simp [ih]

theorem last_tellAll (tracker : Tracker) (steps : List Advance) :
    (tracker.tellAll steps).2.last = (tracker.tellAll steps).1.getLast?.or tracker.last := by
  induction steps generalizing tracker with
  | nil => rfl
  | cons step rest ih =>
      rw [tellAll_cons, ih]
      rcases tracker.advance_cases step with ⟨silent, kept, -⟩ | ⟨tells, next, -⟩
      · simp [silent, kept]
      · rw [tells, next]
        cases (((tracker.advance step).2.tellAll rest).1) with
        | nil => rfl
        | cons percent more => simp [List.getLast?_cons]

/-- Whatever was told before, the percentages of an upload that is over end with 100. -/
theorem getLast?_tellAll_finish (total : UInt64) (steps : List Advance) :
    ((start total).tellAll (steps ++ [.finish])).1.getLast? = some 100 := by
  have ends : ((start total).tellAll (steps ++ [.finish])).2.last = some 100 := by
    rw [tellAll_append]
    -- If finishing tells nothing, then 100 was told before.
    rcases advance_cases ((start total).tellAll steps).2 .finish with
      ⟨-, kept, last, told, reached⟩ | ⟨-, next, -⟩
    · have member : last ∈ ((start total).tellAll steps).1 := by
        rw [last_tellAll, start, Option.or_none] at told
        exact List.mem_of_getLast? told
      rw [tellAll_cons, tellAll_nil, kept, told]
      exact congrArg some (UInt8.le_antisymm (le_of_mem_tellAll member) reached)
    · rw [tellAll_cons, tellAll_nil, next]
      rfl
  rw [last_tellAll] at ends
  simpa [start] using ends

theorem tellAll_of_full {tracker : Tracker} (full : tracker.last = some 100) (steps : List Advance) :
    (tracker.tellAll steps).1 = [] ∧ (tracker.tellAll steps).2.last = some 100 := by
  have silent : (tracker.tellAll steps).1 = [] := by
    apply List.eq_nil_iff_forall_not_mem.2
    intro percent member
    exact UInt8.not_le.2 (lt_of_mem_tellAll full member) (le_of_mem_tellAll member)
  exact ⟨silent, by rw [last_tellAll, silent, full]; rfl⟩

theorem full_of_finish {total : UInt64} {steps : List Advance} (finished : .finish ∈ steps) :
    ((start total).tellAll steps).2.last = some 100 := by
  obtain ⟨before, after, rfl⟩ := List.append_of_mem finished
  have ended := getLast?_tellAll_finish total before
  have full : ((start total).tellAll (before ++ [.finish])).2.last = some 100 := by
    rw [last_tellAll, ended]
    rfl
  rw [List.append_cons, tellAll_append]
  exact (tellAll_of_full full after).2

end Tracker

end FormatReview.Upload
