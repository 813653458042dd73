import FormatReview.Proofs.Chart

namespace FormatReview.Chart

/-! Bars that count as much as the largest of a chart or more, whether the chart holds them or not.
They call for the width at least. They fill it where a word holds what they call for, which is certain
only if the width has no more cells than the largest count. -/

section Lengths

variable {count most width : Nat}

theorem le_barLength (some : 0 < most) (beyond : most ≤ count) (room : 0 < width) :
    width ≤ barLength count most width := by
  calc
    width = barLength most most width := (barLength_self some room).symm
    _ ≤ barLength count most width := barLength_mono beyond most width

theorem barLength_of_beyond (some : 0 < most) (beyond : most ≤ count) (room : 0 < width) :
    barLength count most width = (count * width + most / 2) / most := by
  have whole : most ≤ count * width := beyond.trans (Nat.le_mul_of_pos_right count room)
  rw [barLength_of_pos (some.trans_le beyond) some]
  apply Nat.max_eq_right
  rw [Nat.le_div_iff_mul_le some, Nat.one_mul]
  exact whole.trans (Nat.le_add_right _ _)

/-- In a width of no more cells than the largest count, no count calls for more than a word. -/
theorem barLength_lt_size (beyond : most ≤ count) (word : count < UInt64.size) (room : 0 < width)
    (narrow : width ≤ most) : barLength count most width < UInt64.size := by
  have some : 0 < most := room.trans_le narrow
  have product : count * width ≤ (UInt64.size - 1) * most :=
    Nat.mul_le_mul (Nat.le_pred_of_lt word) narrow
  rw [barLength_of_beyond some beyond room, Nat.div_lt_iff_lt_mul some]
  simp only [UInt64.size] at product ⊢
  omega

theorem exists_first_multiple (bound : Nat) (room : 0 < width) :
    ∃ count, bound ≤ count * width ∧ count * width < bound + width := by
  have below : (bound + width - 1) / width * width ≤ bound + width - 1 := Nat.div_mul_le_self _ _
  have above : bound + width - 1 < (bound + width - 1) / width * width + width :=
    Nat.lt_div_mul_add room
  exact ⟨(bound + width - 1) / width, by omega, by omega⟩

/-- The first count to reach the share `UInt64.size` exceeds it by less than the width, and that
excess is all that a word keeps of its share. -/
theorem share_mod_lt (some : 0 < most) (reached : UInt64.size * most - most / 2 ≤ count * width)
    (first : count * width < UInt64.size * most - most / 2 + width) :
    (count * width + most / 2) / most % UInt64.size < width := by
  have least : UInt64.size ≤ (count * width + most / 2) / most := by
    rw [Nat.le_div_iff_mul_le some]
    omega
  have greatest : (count * width + most / 2) / most < UInt64.size + width := by
    have once : width ≤ width * most := Nat.le_mul_of_pos_right width some
    rw [Nat.div_lt_iff_lt_mul some, Nat.add_mul]
    simp only [UInt64.size] at first ⊢
    omega
  rw [Nat.mod_eq_sub_mod least]
  exact (Nat.mod_le _ _).trans_lt (Nat.sub_lt_left_of_lt_add least greatest)

/-- In a width of more cells than the largest count, a word keeps less than the width of what some
count calls for. -/
theorem exists_barLength_mod_lt (some : 0 < most) (wide : most < width)
    (word : width < UInt64.size) :
    ∃ count, most ≤ count ∧ count < UInt64.size ∧
      barLength count most width % UInt64.size < width := by
  have room : 0 < width := some.trans wide
  obtain ⟨count, reached, first⟩ := exists_first_multiple (UInt64.size * most - most / 2) room
  have within : count < UInt64.size := by
    have product : UInt64.size * (most + 1) ≤ UInt64.size * width := Nat.mul_le_mul_left _ wide
    apply Nat.lt_of_mul_lt_mul_right (a := width)
    simp only [UInt64.size] at product first word ⊢
    omega
  have beyond : most ≤ count := by
    by_contra fewer
    have product : count * width ≤ (most - 1) * (UInt64.size - 1) :=
      Nat.mul_le_mul (Nat.le_pred_of_lt (Nat.lt_of_not_le fewer)) (Nat.le_pred_of_lt word)
    simp only [UInt64.size] at product reached
    omega
  refine ⟨count, beyond, within, ?_⟩
  rw [barLength_of_beyond some beyond room]
  exact share_mod_lt some reached first

end Lengths

variable {chart : Chart} {bar : Bar} {width : UInt64}

theorem scaled_beyond (some : chart.largest ≠ 0) (beyond : chart.largest ≤ bar.count)
    (room : 0 < width.toNat) :
    chart.scaled bar width.toNat = .some (min (max 1
      (barLength bar.count.toNat chart.largest.toNat width.toNat % UInt64.size)) width.toNat) := by
  have positive := toNat_pos_of_ne_zero some
  have above := UInt64.le_iff_toNat_le.1 beyond
  rw [scaled_of_ne_zero some (ne_zero_of_le some beyond) room, cells,
    barLength_of_beyond positive above room]

/-- What is drawn of a bar that calls for the width at least. The quotient is all that the bar calls
for. It fills the width where the cast of the quotient to 64 bits leaves that much, and has one cell in
any case. -/
structure Clipped (chart : Chart) (width : UInt64) (bar : Bar) (length : Nat) : Prop where
  scaled : chart.scaled bar width.toNat = some length
  drawn : 0 < length
  within : length ≤ width.toNat
  called : width.toNat ≤ barLength bar.count.toNat chart.largest.toNat width.toNat
  exact : (quotient bar.count chart.largest width).toNat =
    barLength bar.count.toNat chart.largest.toNat width.toNat
  full_iff : length = width.toNat ↔ width = 1 ∨
    width.toNat ≤ ((quotient bar.count chart.largest width).setWidth 64).toNat

theorem clipped (some : chart.largest ≠ 0) (beyond : chart.largest ≤ bar.count)
    (room : 0 < width.toNat) :
    Clipped chart width bar (min (max 1
      (barLength bar.count.toNat chart.largest.toNat width.toNat % UInt64.size)) width.toNat) := by
  have positive := toNat_pos_of_ne_zero some
  have above := UInt64.le_iff_toNat_le.1 beyond
  have exact : (quotient bar.count chart.largest width).toNat =
      barLength bar.count.toNat chart.largest.toNat width.toNat := by
    rw [toNat_quotient, barLength_of_beyond positive above room]
  have one : width = 1 ↔ width.toNat = 1 := UInt64.toNat_inj.symm
  refine ⟨scaled_beyond some beyond room, ?drawn, Nat.min_le_right _ _,
    le_barLength positive above room, exact, ?full⟩
  case drawn => omega
  case full =>
    rw [BitVec.toNat_setWidth, exact, one]
    simp only [UInt64.size]
    omega

theorem scaled_eq_width (some : chart.largest ≠ 0) (beyond : chart.largest ≤ bar.count)
    (room : 0 < width.toNat)
    (fits : barLength bar.count.toNat chart.largest.toNat width.toNat < UInt64.size) :
    chart.scaled bar width.toNat = .some width.toNat := by
  have called := le_barLength (toNat_pos_of_ne_zero some) (UInt64.le_iff_toNat_le.1 beyond) room
  rw [scaled_beyond some beyond room, Nat.mod_eq_of_lt fits,
    Nat.min_eq_right (called.trans (Nat.le_max_right _ _))]

theorem scaled_eq_width_of_le (beyond : chart.largest ≤ bar.count) (wide : width ≠ 0)
    (narrow : width ≤ chart.largest) : chart.scaled bar width.toNat = .some width.toNat := by
  have room := toNat_pos_of_ne_zero wide
  have fits := barLength_lt_size (UInt64.le_iff_toNat_le.1 beyond) bar.count.toNat_lt_size room
    (UInt64.le_iff_toNat_le.1 narrow)
  exact scaled_eq_width (ne_zero_of_le wide narrow) beyond room fits

theorem exists_short (some : chart.largest ≠ 0) (wider : chart.largest < width) :
    ∃ bar : Bar, chart.largest ≤ bar.count ∧
      ∃ length, chart.scaled bar width.toNat = .some length ∧ length < width.toNat := by
  have positive := toNat_pos_of_ne_zero some
  have wide := UInt64.lt_iff_toNat_lt.1 wider
  obtain ⟨count, above, word, short⟩ :=
    exists_barLength_mod_lt positive wide width.toNat_lt_size
  have same : (UInt64.ofNat count).toNat = count := UInt64.toNat_ofNat_of_lt' word
  have beyond : chart.largest ≤ UInt64.ofNat count := by
    rw [UInt64.le_iff_toNat_le, same]
    exact above
  refine ⟨⟨"", .ofNat count⟩, beyond, _, scaled_beyond some beyond (positive.trans wide), ?_⟩
  rw [same]
  omega

/-- Bars that count as much as the largest of a chart or more are drawn within the width. All of them
fill it exactly if it has no more cells than the largest count, and exactly then none is shorter than
one that counts less. -/
theorem full_beyond_largest_iff (chart : Chart) {width : UInt64} (some : chart.largest ≠ 0)
    (wide : width ≠ 0) :
    (∀ bar : Bar, chart.largest ≤ bar.count → ∃ length, Clipped chart width bar length) ∧
    ((∀ bar : Bar, chart.largest ≤ bar.count →
        chart.scaled bar width.toNat = .some width.toNat) ↔ width ≤ chart.largest) ∧
    ((∀ bar other : Bar, chart.largest ≤ bar.count → bar.count ≤ other.count →
        ∀ length longer, chart.scaled bar width.toNat = .some length →
          chart.scaled other width.toNat = .some longer → length ≤ longer) ↔
      width ≤ chart.largest) := by
  have room := toNat_pos_of_ne_zero wide
  refine ⟨fun bar beyond => ⟨_, clipped some beyond room⟩, ⟨?all, ?filled⟩, ⟨?rising, ?steady⟩⟩
  case all =>
    intro all
    by_contra wider
    obtain ⟨bar, beyond, length, drawn, short⟩ := exists_short some (UInt64.not_le.1 wider)
    rw [all bar beyond] at drawn
    exact short.ne' (Option.some.inj drawn)
  case filled => exact fun narrow bar beyond => scaled_eq_width_of_le beyond wide narrow
  case rising =>
    intro rising
    by_contra wider
    obtain ⟨bar, beyond, length, drawn, short⟩ := exists_short some (UInt64.not_le.1 wider)
    have fits : barLength chart.largest.toNat chart.largest.toNat width.toNat < UInt64.size := by
      rw [barLength_self (toNat_pos_of_ne_zero some) room]
      exact width.toNat_lt_size
    have full : chart.scaled ⟨"", chart.largest⟩ width.toNat = .some width.toNat :=
      scaled_eq_width some (UInt64.le_refl _) room fits
    exact absurd (rising _ bar (UInt64.le_refl _) beyond _ _ full drawn) (Nat.not_le.2 short)
  case steady =>
    intro narrow bar other beyond less length longer drawn lengthened
    rw [scaled_eq_width_of_le beyond wide narrow] at drawn
    rw [scaled_eq_width_of_le (UInt64.le_trans beyond less) wide narrow] at lengthened
    exact (Option.some.inj (drawn.symm.trans lengthened)).le

/-- The largest word, in a chart as wide as its largest count. -/
theorem full_beyond_largest_of_twenty :
    let chart := ofReview ⟨[], ⟨[("Bold", 3), ("Font", 20)], by decide⟩, ⟨none, 0⟩⟩
    let bar : Bar := ⟨"Line", 18446744073709551615⟩
    chart.largest ≠ 0 ∧ (20 : UInt64) ≠ 0 ∧ (20 : UInt64) ≤ chart.largest ∧
      chart.largest ≤ bar.count ∧ chart.scaled bar 20 = some 20 := by
  intro chart bar
  have some : chart.largest ≠ 0 := by decide
  have wide : (20 : UInt64) ≠ 0 := by decide
  have narrow : (20 : UInt64) ≤ chart.largest := by decide
  have beyond : chart.largest ≤ bar.count := by decide
  obtain ⟨-, filled, -⟩ := full_beyond_largest_iff chart some wide
  exact ⟨some, wide, narrow, beyond, filled.2 narrow bar beyond⟩

/-- A bar that calls for one cell more than a word can tell has one cell. With one count less it fills
the width. -/
theorem one_cell_of_whole_word :
    let chart := ofReview (.ofFindings [⟨"A", "m", "s", "c"⟩])
    let shorter : Bar := ⟨"A", 9223372036854775807⟩
    let bar : Bar := ⟨"A", 9223372036854775808⟩
    chart.largest ≠ 0 ∧ chart.largest ≤ shorter.count ∧ shorter.count ≤ bar.count ∧
      chart.scaled shorter 2 = some 2 ∧ chart.scaled bar 2 = some 1 ∧
      chart.scaled bar 2 ≠ some 2 := by
  decide

end FormatReview.Chart
