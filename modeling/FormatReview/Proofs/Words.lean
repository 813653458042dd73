namespace FormatReview

/-! Words of 64 bits as numbers, and within words of 128 bits. -/

theorem toNat_pos_of_ne_zero {n : UInt64} (some : n ≠ 0) : 0 < n.toNat :=
  Nat.pos_of_ne_zero fun zero => some (UInt64.toNat_inj.1 zero)

theorem ne_zero_of_le {n m : UInt64} (some : n ≠ 0) (least : n ≤ m) : m ≠ 0 :=
  UInt64.pos_iff_ne_zero.1 (UInt64.lt_of_lt_of_le (UInt64.pos_iff_ne_zero.2 some) least)

theorem toNat_widened (n : UInt64) : (n.toBitVec.setWidth 128).toNat = n.toNat := by
  rw [BitVec.toNat_setWidth, UInt64.toNat_toBitVec]
  exact Nat.mod_eq_of_lt (Nat.lt_trans n.toNat_lt_size (by decide))

end FormatReview
