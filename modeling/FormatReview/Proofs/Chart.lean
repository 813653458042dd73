import Mathlib
import FormatReview.Chart
import FormatReview.Proofs.SortedMap
import FormatReview.Proofs.Words

namespace FormatReview.Chart

/-! The bars of a chart are as long as their counts say: shares of the width, rounded once, of which
words lose nothing. The text of a chart is one line for each bar. -/

theorem foldl_max_spec (numbers : List Nat) :
    (∀ n ∈ numbers, n ≤ numbers.foldl max 0) ∧
      (numbers ≠ [] → numbers.foldl max 0 ∈ numbers) := by
  rw [List.foldl_max, Nat.zero_max]
  cases most : numbers.max? with
  | none => simp [List.max?_eq_none_iff.1 most]
  | some n =>
      obtain ⟨member, above⟩ := List.max?_eq_some_iff.1 most
      exact ⟨above, fun _ => member⟩

/-! The counts. -/

section Counts

variable (review : Review)

theorem increasing_ofReview :
    (ofReview review).bars.Pairwise fun bar next => bar.code < next.code :=
  List.pairwise_map.2 review.counts.increasing

theorem mem_ofReview (bar : Bar) :
    bar ∈ (ofReview review).bars ↔ review.counts.get? bar.code = some bar.count := by
  rw [← SortedMap.mem_entries]
  constructor
  · intro member
    obtain ⟨entry, listed, rfl⟩ := List.mem_map.1 member
    exact listed
  · intro listed
    exact List.mem_map.2 ⟨(bar.code, bar.count), listed, rfl⟩

end Counts

variable {chart : Chart} {bar : Bar} {width : UInt64}

theorem toNat_largest (chart : Chart) :
    chart.largest.toNat = (chart.bars.map fun bar => bar.count.toNat).foldl max 0 := by
  have grown (bars : List Bar) (most : UInt64) :
      (bars.foldl (fun most bar => max most bar.count) most).toNat =
        (bars.map fun bar => bar.count.toNat).foldl max most.toNat := by
    induction bars generalizing most with
    | nil => rfl
    | cons bar rest ih => rw [List.foldl_cons, ih, UInt64.toNat_max, List.map_cons, List.foldl_cons]
  exact grown chart.bars 0

theorem count_le_largest (member : bar ∈ chart.bars) :
    bar.count.toNat ≤ chart.largest.toNat := by
  rw [toNat_largest]
  exact (foldl_max_spec _).1 _ (List.mem_map_of_mem member)

theorem exists_largest (some : chart.bars ≠ []) :
    ∃ bar ∈ chart.bars, bar.count = chart.largest := by
  have listed :=
    (foldl_max_spec (chart.bars.map fun bar => bar.count.toNat)).2 (by simpa using some)
  rw [← toNat_largest] at listed
  obtain ⟨bar, member, same⟩ := List.mem_map.1 listed
  exact ⟨bar, member, UInt64.toNat_inj.1 same⟩

/-! The lengths. -/

/-- A count has its share of the width, with halves rounded up, but at least one cell. -/
def barLength (count largest width : Nat) : Nat :=
  if count = 0 then 0 else max 1 ⌊(count * width : Rat) / largest + 1 / 2⌋₊

theorem floor_share {largest : Nat} (positive : 0 < largest) (count width : Nat) :
    ⌊(count * width : Rat) / largest + 1 / 2⌋₊ = (count * width + largest / 2) / largest := by
  have exact : (count * width : Rat) / largest + 1 / 2 =
      ((2 * (count * width) + largest : Nat) : Rat) / ((2 * largest : Nat) : Rat) := by
    push_cast
    field_simp
  have halved : (2 * (count * width) + largest) / 2 = count * width + largest / 2 := by omega
  rw [exact, Nat.floor_div_eq_div, ← Nat.div_div_eq_div_mul, halved]

section Lengths

variable {count most width : Nat}

theorem barLength_of_pos (some : 0 < count) (positive : 0 < most) (width : Nat) :
    barLength count most width = max 1 ((count * width + most / 2) / most) := by
  rw [barLength, if_neg some.ne', floor_share positive]

@[simp] theorem barLength_zero (most width : Nat) : barLength 0 most width = 0 := rfl

theorem barLength_eq_zero (count most width : Nat) :
    barLength count most width = 0 ↔ count = 0 := by
  rw [barLength]
  split <;> omega

theorem share_le (some : 0 < most) (below : count ≤ most) (width : Nat) :
    (count * width + most / 2) / most ≤ width := by
  have product : count * width ≤ most * width := Nat.mul_le_mul_right width below
  rw [← Nat.lt_succ_iff, Nat.div_lt_iff_lt_mul some, Nat.succ_mul, Nat.mul_comm width]
  omega

theorem barLength_le (below : count ≤ most) (room : 0 < width) :
    barLength count most width ≤ width := by
  rcases Nat.eq_zero_or_pos count with rfl | some
  · exact Nat.zero_le _
  · rw [barLength_of_pos some (some.trans_le below)]
    exact Nat.max_le.2 ⟨room, share_le (some.trans_le below) below width⟩

theorem barLength_self (some : 0 < most) (room : 0 < width) :
    barLength most most width = width := by
  have whole : (most * width + most / 2) / most = width := by
    rw [Nat.mul_add_div some, Nat.div_eq_of_lt (Nat.div_lt_self some Nat.one_lt_two), Nat.add_zero]
  rw [barLength_of_pos some some, whole]
  exact Nat.max_eq_right room

theorem barLength_mono {other : Nat} (less : count ≤ other) (most width : Nat) :
    barLength count most width ≤ barLength other most width := by
  rcases Nat.eq_zero_or_pos count with rfl | some
  · exact Nat.zero_le _
  · rw [barLength, if_neg some.ne', barLength, if_neg (some.trans_le less).ne']
    gcongr

end Lengths

/-! A share is reckoned in words of 128 bits, and its lower 64 bits are taken. -/

def dividend (count largest width : UInt64) : BitVec 128 :=
  count.toBitVec.setWidth 128 * width.toBitVec.setWidth 128 + largest.toBitVec.setWidth 128 / 2

def quotient (count largest width : UInt64) : BitVec 128 :=
  dividend count largest width / largest.toBitVec.setWidth 128

theorem toNat_dividend (count largest width : UInt64) :
    (dividend count largest width).toNat = count.toNat * width.toNat + largest.toNat / 2 := by
  have half : (2 : BitVec 128).toNat = 2 := rfl
  have small : largest.toNat < 2 ^ 64 := largest.toNat_lt_size
  have product : count.toNat * width.toNat ≤ (2 ^ 64 - 1) * (2 ^ 64 - 1) :=
    Nat.mul_le_mul (Nat.le_pred_of_lt count.toNat_lt_size) (Nat.le_pred_of_lt width.toNat_lt_size)
  rw [dividend, BitVec.toNat_add, BitVec.toNat_mul, BitVec.toNat_udiv, half]
  simp only [toNat_widened]
  omega

theorem toNat_quotient (count largest width : UInt64) :
    (quotient count largest width).toNat =
      (count.toNat * width.toNat + largest.toNat / 2) / largest.toNat := by
  rw [quotient, BitVec.toNat_udiv, toNat_dividend, toNat_widened]

theorem cells_eq_quotient (count largest width : UInt64) :
    cells count.toNat largest.toNat width.toNat =
      ((quotient count largest width).setWidth 64).toNat := by
  rw [cells, BitVec.toNat_setWidth, toNat_quotient]

/-! The bars. -/

theorem toNat_quotient_le (member : bar ∈ chart.bars) (some : bar.count ≠ 0) (width : UInt64) :
    (quotient bar.count chart.largest width).toNat ≤ width.toNat := by
  have below := count_le_largest member
  rw [toNat_quotient]
  exact share_le ((toNat_pos_of_ne_zero some).trans_le below) below width.toNat

theorem scaled_of_ne_zero (some : chart.largest ≠ 0) (counted : bar.count ≠ 0)
    (room : 0 < width.toNat) :
    chart.scaled bar width.toNat = .some (min (max 1
      (cells bar.count.toNat chart.largest.toNat width.toNat)) width.toNat) := by
  rw [scaled, if_neg (not_or.2 ⟨some, counted⟩), if_neg room.ne']

theorem scaled_eq (member : bar ∈ chart.bars) (room : 0 < width.toNat) :
    chart.scaled bar width.toNat =
      .some (barLength bar.count.toNat chart.largest.toNat width.toNat) := by
  by_cases zero : bar.count = 0
  · rw [scaled, if_pos (.inr zero), zero]
    rfl
  · have below := count_le_largest member
    have positive := toNat_pos_of_ne_zero zero
    have largest := ne_zero_of_le zero (UInt64.le_iff_toNat_le.2 below)
    have small := toNat_quotient_le member zero width
    rw [toNat_quotient] at small
    have fits := small.trans_lt width.toNat_lt_size
    rw [scaled_of_ne_zero largest zero room, barLength_of_pos positive (positive.trans_le below),
      cells, Nat.mod_eq_of_lt fits, Nat.min_eq_left (Nat.max_le.2 ⟨room, small⟩)]

/-- A bar of the chart is as long as its count calls for. Neither the sum of the dividend nor the cast
of the quotient to 64 bits loses anything. -/
structure Faithful (chart : Chart) (width : UInt64) (bar : Bar) (length : Nat) : Prop where
  scaled : chart.scaled bar width.toNat = some length
  exact : length = barLength bar.count.toNat chart.largest.toNat width.toNat
  zero : length = 0 ↔ bar.count = 0
  within : length ≤ width.toNat
  full : bar.count ≠ 0 → (∀ other ∈ chart.bars, other.count ≤ bar.count) → length = width.toNat
  rising : ∀ other ∈ chart.bars, bar.count ≤ other.count → ∀ longer,
    chart.scaled other width.toNat = some longer → length ≤ longer
  lossless : bar.count ≠ 0 →
    (dividend bar.count chart.largest width).toNat =
      bar.count.toNat * width.toNat + chart.largest.toNat / 2 ∧
    cells bar.count.toNat chart.largest.toNat width.toNat =
      ((quotient bar.count chart.largest width).setWidth 64).toNat ∧
    ((quotient bar.count chart.largest width).setWidth 64).toNat =
      (bar.count.toNat * width.toNat + chart.largest.toNat / 2) / chart.largest.toNat

theorem faithful (member : bar ∈ chart.bars) (room : 0 < width.toNat) :
    Faithful chart width bar
      (barLength bar.count.toNat chart.largest.toNat width.toNat) where
  scaled := scaled_eq member room
  exact := rfl
  zero := by rw [barLength_eq_zero, ← UInt64.toNat_inj]; rfl
  within := barLength_le (count_le_largest member) room
  full := by
    intro some highest
    obtain ⟨other, listed, largest⟩ := exists_largest (List.ne_nil_of_mem member)
    have least : chart.largest.toNat ≤ bar.count.toNat :=
      largest ▸ UInt64.le_iff_toNat_le.1 (highest other listed)
    rw [Nat.le_antisymm least (count_le_largest member)]
    exact barLength_self (toNat_pos_of_ne_zero some) room
  rising := by
    intro other listed less longer length
    rw [scaled_eq listed room] at length
    obtain rfl := Option.some.inj length
    exact barLength_mono (UInt64.le_iff_toNat_le.1 less) _ _
  lossless := by
    intro some
    have fits := (toNat_quotient_le member some width).trans_lt width.toNat_lt_size
    have whole : ((quotient bar.count chart.largest width).setWidth 64).toNat =
        (bar.count.toNat * width.toNat + chart.largest.toNat / 2) / chart.largest.toNat := by
      rw [BitVec.toNat_setWidth, Nat.mod_eq_of_lt fits, toNat_quotient]
    exact ⟨toNat_dividend _ _ _, cells_eq_quotient _ _ _, whole⟩

/-! The text. -/

theorem label_le_labelWidth (member : bar ∈ chart.bars) : bar.label.length ≤ chart.labelWidth := by
  refine (foldl_max_spec _).1 _ (List.mem_map_of_mem ?_)
  exact List.mem_map_of_mem member

theorem exists_label (some : chart.bars ≠ []) :
    ∃ bar ∈ chart.bars, bar.label.length = chart.labelWidth := by
  have listed := (foldl_max_spec (chart.labels.map (·.length))).2 (by simpa [labels] using some)
  obtain ⟨label, member, same⟩ := List.mem_map.1 listed
  obtain ⟨bar, listed, rfl⟩ := List.mem_map.1 member
  exact ⟨bar, listed, same⟩

/-- A label with spaces up to the width of the labels, a rule, and the cells of the bar. -/
def segment (labelWidth length : Nat) (label : String) : String :=
  label ++ String.ofList (List.replicate (labelWidth - label.length) ' ') ++ " │" ++
    String.ofList (List.replicate length '█') ++ "\n"

/-- The segments of the bars, one after another. -/
def drawn (chart : Chart) (width : Nat) : String :=
  String.join (chart.bars.map fun bar =>
    segment chart.labelWidth (barLength bar.count.toNat chart.largest.toNat width) bar.label)

theorem line_of_scaled {width length : Nat} (scaled : chart.scaled bar width = some length) :
    chart.line width bar =
      if mostCells < length then none else some (segment chart.labelWidth length bar.label) := by
  simp only [line, scaled, cellText?, Option.bind_eq_bind, Option.bind_some]
  split <;> rfl

theorem mapM_eq_some {α β : Type} {f : α → Option β} {g : α → β} {items : List α}
    (every : ∀ item ∈ items, f item = some (g item)) : items.mapM f = some (items.map g) := by
  induction items with
  | nil => rfl
  | cons item rest ih =>
      rw [List.mapM_cons, every item List.mem_cons_self,
        ih fun other member => every other (List.mem_cons_of_mem _ member)]
      rfl

theorem mapM_eq_none {α β : Type} {f : α → Option β} {items : List α} {item : α}
    (member : item ∈ items) (missing : f item = none) : items.mapM f = none := by
  induction member with
  | head rest => rw [List.mapM_cons, missing]; rfl
  | tail other member ih =>
      rw [List.mapM_cons, ih]
      cases f other <;> rfl

theorem text_of_room (room : 0 < width.toNat)
    (fits : width.toNat ≤ mostCells ∨ chart.largest = 0) :
    chart.text width.toNat = some (chart.drawn width.toNat) := by
  have every (bar : Bar) (member : bar ∈ chart.bars) : chart.line width.toNat bar =
      some (segment chart.labelWidth
        (barLength bar.count.toNat chart.largest.toNat width.toNat) bar.label) := by
    have below := count_le_largest member
    have short : barLength bar.count.toNat chart.largest.toNat width.toNat ≤ mostCells := by
      rcases fits with narrow | none
      · exact (barLength_le below room).trans narrow
      · rw [none, UInt64.toNat_zero, Nat.le_zero] at below
        rw [below, barLength_zero]
        exact Nat.zero_le _
    rw [line_of_scaled (scaled_eq member room), if_neg (Nat.not_lt.2 short)]
  rw [text, mapM_eq_some every]
  rfl

theorem exists_full (some : chart.largest ≠ 0) (room : 0 < width.toNat) :
    ∃ bar ∈ chart.bars,
      barLength bar.count.toNat chart.largest.toNat width.toNat = width.toNat := by
  have bars : chart.bars ≠ [] := by
    intro none
    rw [largest, none] at some
    exact some rfl
  obtain ⟨bar, member, same⟩ := exists_largest bars
  refine ⟨bar, member, ?_⟩
  rw [same]
  exact barLength_self (toNat_pos_of_ne_zero some) room

theorem text_of_wide (wide : mostCells < width.toNat) (some : chart.largest ≠ 0) :
    chart.text width.toNat = none := by
  have room : 0 < width.toNat := Nat.zero_lt_of_lt wide
  obtain ⟨bar, member, full⟩ := exists_full some room
  have missing : chart.line width.toNat bar = none := by
    rw [line_of_scaled (scaled_eq member room), full, if_pos wide]
  rw [text, mapM_eq_none member missing]
  rfl

theorem utf8ByteSize_le_join {text : String} {texts : List String} (member : text ∈ texts) :
    text.utf8ByteSize ≤ (String.join texts).utf8ByteSize := by
  induction member with
  | head rest => rw [String.join_cons, String.utf8ByteSize_append]; omega
  | tail other member ih => rw [String.join_cons, String.utf8ByteSize_append]; omega

theorem utf8ByteSize_cells (length : Nat) :
    (String.ofList (List.replicate length '█')).utf8ByteSize = length * 3 := by
  rw [String.utf8ByteSize_ofList]
  induction length with
  | zero => rfl
  | succ length ih =>
      rw [List.replicate_succ, String.utf8Len_cons, ih, Nat.succ_mul]
      rfl

theorem utf8ByteSize_drawn (wide : mostCells < width.toNat) (some : chart.largest ≠ 0) :
    UInt64.size / 2 ≤ (chart.drawn width.toNat).utf8ByteSize := by
  obtain ⟨bar, member, full⟩ := exists_full some (Nat.zero_lt_of_lt wide)
  refine le_trans ?_ (utf8ByteSize_le_join (List.mem_map_of_mem member))
  rw [full]
  simp only [segment, String.utf8ByteSize_append, utf8ByteSize_cells]
  rw [mostCells, UInt64.size] at wide
  rw [UInt64.size]
  omega

/-- The bars of a review stand for its counts, in the order of the codes, and have the lengths that
the counts call for. The text is the segments of the bars, whose labels are as wide as the longest
one. There is no text only where it would have more bytes than a text can have. -/
theorem bars_faithful (review : Review) {width : UInt64} (wide : width ≠ 0) :
    let chart := ofReview review
    (∀ bar ∈ chart.bars, ∃ length, Faithful chart width bar length) ∧
    ((∀ bar ∈ chart.bars, bar.count ≤ chart.largest) ∧
      (chart.bars ≠ [] → ∃ bar ∈ chart.bars, bar.count = chart.largest)) ∧
    ((chart.bars.Pairwise fun bar next => bar.code < next.code) ∧
      ∀ bar, bar ∈ chart.bars ↔ review.counts.get? bar.code = some bar.count) ∧
    ((∀ bar ∈ chart.bars, bar.label.length ≤ chart.labelWidth) ∧
      (chart.bars ≠ [] → ∃ bar ∈ chart.bars, bar.label.length = chart.labelWidth)) ∧
    (width.toNat ≤ mostCells ∨ chart.largest = 0 →
      chart.text width.toNat = some (chart.drawn width.toNat)) ∧
    (mostCells < width.toNat → chart.largest ≠ 0 →
      chart.text width.toNat = none ∧
        UInt64.size / 2 ≤ (chart.drawn width.toNat).utf8ByteSize) := by
  intro chart
  have room := toNat_pos_of_ne_zero wide
  refine ⟨fun bar member => ⟨_, faithful member room⟩, ⟨?below, exists_largest⟩,
    ⟨increasing_ofReview review, mem_ofReview review⟩,
    ⟨fun bar => label_le_labelWidth, exists_label⟩, text_of_room room,
    fun beyond some => ⟨text_of_wide beyond some, utf8ByteSize_drawn beyond some⟩⟩
  intro bar member
  exact UInt64.le_iff_toNat_le.2 (count_le_largest member)

/-- The largest count, the smallest that has a cell, and none. -/
theorem bars_faithful_at_limits :
    let most : UInt64 := 18446744073709551615
    let chart := ofReview ⟨[], ⟨[("Bold", 1), ("Font", most), ("Line", 0)], by decide⟩, ⟨none, 0⟩⟩
    (4 : UInt64) ≠ 0 ∧
    (∀ bar ∈ chart.bars, ∃ length, Faithful chart 4 bar length) ∧
    chart.text 4 = some (chart.drawn 4) ∧
    chart.text 4 = some ("Bold (1)                    │█\n" ++
      "Font (18446744073709551615) │████\n" ++ "Line (0)                    │\n") := by
  intro most chart
  have wide : (4 : UInt64) ≠ 0 := by decide
  obtain ⟨lengths, -, -, -, fits, -⟩ := bars_faithful
    ⟨[], ⟨[("Bold", 1), ("Font", most), ("Line", 0)], by decide⟩, ⟨none, 0⟩⟩ wide
  exact ⟨wide, lengths, fits (.inl (by decide)), by cbv⟩

end FormatReview.Chart
