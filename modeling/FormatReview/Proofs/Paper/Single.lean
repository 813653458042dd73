import Mathlib
import FormatReview.Paper.Measure

namespace FormatReview.Single

/-! Single precision, as far as drawing depends on it: which results are numbers at all, and which
are not infinite. -/

open Float.Model Float.Model.UnpackedFloat

/-- A zero or a finite number of the given sign. -/
inductive Signed (sign : Sign) : UnpackedFloat → Prop
  | zero : Signed sign (.zero sign)
  | finite {mantissa : Nat} {exponent : Int} (positive : 0 < mantissa) :
      Signed sign (.finite sign mantissa exponent positive)

/-- A number, or infinite below all numbers. -/
inductive Low : UnpackedFloat → Prop
  | number {sign : Sign} {value : UnpackedFloat} (signed : Signed sign value) : Low value
  | lowest : Low (.infinity .negative)

/-- Not negative, but possibly infinite. -/
inductive Up : UnpackedFloat → Prop
  | number {value : UnpackedFloat} (signed : Signed .positive value) : Up value
  | highest : Up (.infinity .positive)

def Bounded (limit : Int) (value : UnpackedFloat) : Prop :=
  ∀ sign mantissa exponent positive, value = .finite sign mantissa exponent positive →
    exponent ≤ limit

theorem Signed.ne_nan {sign : Sign} {value : UnpackedFloat} (signed : Signed sign value) :
    value ≠ .notANumber := by
  cases signed <;> exact UnpackedFloat.noConfusion

theorem Low.ne_nan {value : UnpackedFloat} (low : Low value) : value ≠ .notANumber := by
  cases low with
  | number signed => exact signed.ne_nan
  | lowest => exact UnpackedFloat.noConfusion

theorem Up.ne_nan {value : UnpackedFloat} (up : Up value) : value ≠ .notANumber := by
  cases up with
  | number signed => exact signed.ne_nan
  | highest => exact UnpackedFloat.noConfusion

theorem Up.signed {value : UnpackedFloat} (up : Up value) (low : Low value) :
    Signed .positive value := by
  cases up with
  | number signed => exact signed
  | highest => cases low with | number signed => cases signed

theorem Up.low_or {value : UnpackedFloat} (up : Up value) :
    Low value ∨ value = .infinity .positive := by
  cases up with
  | number signed => exact .inl (.number signed)
  | highest => exact .inr rfl

theorem bounded_zero {limit : Int} {sign : Sign} : Bounded limit (.zero sign) := by
  intro _ _ _ _ same
  cases same

theorem bounded_finite {limit : Int} {sign : Sign} {mantissa : Nat} {exponent : Int}
    (positive : 0 < mantissa) (below : exponent ≤ limit) :
    Bounded limit (.finite sign mantissa exponent positive) := by
  intro _ _ _ _ same
  obtain ⟨-, -, rfl⟩ := UnpackedFloat.finite.inj same
  exact below

/-! Rounding keeps the sign, and the exponent within that of a larger number. -/

section Rounding

theorem mantissa_shiftRight (extended : ExtendedMantissa) (count : Nat) :
    (extended >>> count).mantissa = extended.mantissa / 2 ^ count := by
  induction count with
  | zero => simp [HShiftRight.hShiftRight, Nat.repeat]
  | succ count ih =>
      change (ExtendedMantissa.shiftRightOne (extended >>> count)).mantissa = _
      rw [ExtendedMantissa.shiftRightOne, ih, Nat.div_div_eq_div_mul, ← pow_succ]

theorem mantissa_ofMantissaAndAccuracy (mantissa : Nat) (accuracy : Accuracy) :
    (ExtendedMantissa.ofMantissaAndAccuracy mantissa accuracy).mantissa = mantissa := by
  cases accuracy with
  | exact => rfl
  | inexact order => cases order <;> rfl

theorem roundedMantissa_le (extended : ExtendedMantissa) :
    extended.roundedMantissa ≤ extended.mantissa + 1 := by
  rw [ExtendedMantissa.roundedMantissa]
  cases extended.accuracy with
  | exact => exact Nat.le_succ _
  | inexact order => cases order <;> simp only [Accuracy.roundToNearestEven] <;> omega

theorem targetExponent_eq (total : Int) :
    Format.binary32.targetExponent total = max (total - 24) (-149) := rfl

theorem targetExponent_le {value : Nat} {exponent limit : Int} (least : -149 ≤ limit)
    (below : exponent ≤ limit) (less : value < 2 ^ (24 + (limit - exponent).toNat)) :
    Format.binary32.targetExponent (totalExponent value exponent) ≤ limit := by
  have digits : (value.log2 : Int) + 1 ≤ 24 + (limit - exponent) := by
    by_cases zero : value = 0
    · subst zero
      simp only [Nat.log2_zero]
      omega
    · have := (Nat.log2_lt zero).2 less
      omega
  rw [targetExponent_eq, totalExponent]
  omega

variable (sign : Sign) (mantissa : Nat) (exponent : Int)

theorem signed_roundWithAccuracy (accuracy : Accuracy) :
    Signed sign (roundWithAccuracy .binary32 sign mantissa exponent accuracy) := by
  simp only [roundWithAccuracy]
  split
  · exact .zero
  · exact .finite _

theorem signed_round : Signed sign (UnpackedFloat.round .binary32 sign mantissa exponent) :=
  signed_roundWithAccuracy ..

variable {mantissa exponent} {bound : Nat} {limit : Int} (short : bound < 2 ^ 24)
  (least : -149 ≤ limit) (below : exponent ≤ limit)
  (less : mantissa < bound * 2 ^ (limit - exponent).toNat)

include short least below less

theorem bounded_roundWithAccuracy :
    Bounded limit (roundWithAccuracy .binary32 sign mantissa exponent .exact) := by
  -- The exponent is set twice: for the exact number, and again after the mantissa has been rounded.
  unfold roundWithAccuracy shiftToTargetExponent shiftToExponent
  simp only [mantissa_shiftRight, mantissa_ofMantissaAndAccuracy]
  have first : Format.binary32.targetExponent (totalExponent mantissa exponent) ≤ limit := by
    refine targetExponent_le least below (less.trans_le ?_)
    rw [pow_add]
    exact Nat.mul_le_mul_right _ short.le
  generalize Format.binary32.targetExponent (totalExponent mantissa exponent) = target at first ⊢
  generalize counted : (target - exponent).toNat = count
  generalize shifted :
    (ExtendedMantissa.ofMantissaAndAccuracy mantissa .exact >>> count) = extended
  have rounded : extended.roundedMantissa ≤ mantissa / 2 ^ count + 1 := by
    have near := roundedMantissa_le extended
    rwa [← shifted, mantissa_shiftRight, mantissa_ofMantissaAndAccuracy, shifted] at near
  have span : (limit - exponent).toNat = (limit - (exponent + count)).toNat + count := by omega
  have fewer : mantissa / 2 ^ count < bound * 2 ^ (limit - (exponent + count)).toNat := by
    rw [Nat.div_lt_iff_lt_mul (Nat.two_pow_pos count), mul_assoc, ← pow_add, ← span]
    exact less
  -- Rounding may carry up to the bound itself, which is short enough not to be rounded.
  have second : Format.binary32.targetExponent
      (totalExponent extended.roundedMantissa (exponent + count)) ≤ limit := by
    refine targetExponent_le least (by omega) ?_
    rw [pow_add]
    calc extended.roundedMantissa
        ≤ bound * 2 ^ (limit - (exponent + count)).toNat := by omega
      _ < 2 ^ 24 * 2 ^ (limit - (exponent + count)).toNat :=
          Nat.mul_lt_mul_of_pos_right short (Nat.two_pow_pos _)
  intro _ _ _ _ same
  split at same
  · cases same
  · obtain ⟨-, -, rfl⟩ := UnpackedFloat.finite.inj same
    omega

theorem bounded_round : Bounded limit (UnpackedFloat.round .binary32 sign mantissa exponent) := by
  simp only [UnpackedFloat.round, decreaseExponent]
  generalize Format.binary32.targetExponent (totalExponent mantissa exponent) = target
  refine bounded_roundWithAccuracy sign short least (by omega) ?_
  have span : (limit - (exponent - (exponent - target).toNat)).toNat =
      (limit - exponent).toNat + (exponent - target).toNat := by omega
  rw [Nat.shiftLeft_eq, span, pow_add, ← mul_assoc]
  exact Nat.mul_lt_mul_of_pos_right less (Nat.two_pow_pos _)

end Rounding

section Normalize

variable {mantissa : Int} (exponent : Int) (zeroSign : Sign)

theorem normalize_of_pos (positive : 0 < mantissa) :
    UnpackedFloat.normalize .binary32 mantissa exponent zeroSign =
      UnpackedFloat.round .binary32 .positive mantissa.toNat exponent := by
  rw [UnpackedFloat.normalize, Int.compare_eq_gt.2 positive]

theorem normalize_of_neg (negative : mantissa < 0) :
    UnpackedFloat.normalize .binary32 mantissa exponent zeroSign =
      UnpackedFloat.round .binary32 .negative (-mantissa).toNat exponent := by
  rw [UnpackedFloat.normalize, Int.compare_eq_lt.2 negative]

theorem normalize_ne_nan :
    UnpackedFloat.normalize .binary32 mantissa exponent zeroSign ≠ .notANumber := by
  rcases lt_trichotomy mantissa 0 with negative | rfl | positive
  · rw [normalize_of_neg _ _ negative]
    exact (signed_round ..).ne_nan
  · exact UnpackedFloat.noConfusion
  · rw [normalize_of_pos _ _ positive]
    exact (signed_round ..).ne_nan

end Normalize

/-! Packing and unpacking. -/

def repack (value : UnpackedFloat) : UnpackedFloat :=
  UnpackedFloat.unpack .binary32 (UnpackedFloat.pack .binary32 value)

theorem unpackSign_packComponents (sign : Sign) (exponent : BitVec 8) (mantissa : BitVec 23) :
    Sign.ofBitVec (unpackSign (packComponents .binary32 sign exponent mantissa)) = sign := by
  simp only [unpackSign, packComponents, BitVec.extractLsb]
  rw [BitVec.extractLsb'_append_eq_of_le (by omega), BitVec.extractLsb'_append_eq_of_le (by omega)]
  cases sign <;> rfl

theorem signed_unpack_packComponents (sign : Sign) {exponent : BitVec 8} (mantissa : BitVec 23)
    (finite : exponent ≠ -1#8) :
    Signed sign
      (UnpackedFloat.unpack .binary32 (packComponents .binary32 sign exponent mantissa)) := by
  simp only [UnpackedFloat.unpack, unpackMantissa_packComponents, unpackExponent_packComponents,
    unpackSign_packComponents, finite, if_false]
  split
  · split
    · exact .zero
    · exact .finite _
  · exact .finite _

theorem repack_infinity (sign : Sign) : repack (.infinity sign) = .infinity sign := by
  cases sign <;> rfl

theorem repack_zero (sign : Sign) : repack (.zero sign) = .zero sign := by
  cases sign <;> rfl

/-- A number is packed as a number or, if its exponent is too large, as infinite. -/
theorem repack_signed {sign : Sign} {value : UnpackedFloat} (signed : Signed sign value) :
    Signed sign (repack value) ∨ repack value = .infinity sign ∧ ¬Bounded 104 value := by
  cases signed with
  | zero =>
      rw [repack_zero]
      exact .inl .zero
  | @finite mantissa exponent positive =>
      have bias : (Format.binary32.exponentBias : Int) = 127 := rfl
      simp only [repack, UnpackedFloat.pack, bias]
      split
      · next large =>
          refine .inr ⟨repack_infinity sign, fun bounded => ?_⟩
          have := bounded _ _ _ _ rfl
          omega
      · next small =>
          refine .inl ?_
          split
          · refine signed_unpack_packComponents sign _ fun full => ?_
            have := congrArg BitVec.toNat full
            simp only [BitVec.toNat_ofNat, BitVec.reduceNeg] at this
            omega
          · exact signed_unpack_packComponents sign _ (by decide)

theorem repack_ne_nan {value : UnpackedFloat} (number : value ≠ .notANumber) :
    repack value ≠ .notANumber := by
  cases value with
  | notANumber => exact absurd rfl number
  | infinity sign =>
      rw [repack_infinity]
      exact UnpackedFloat.noConfusion
  | zero sign =>
      rw [repack_zero]
      exact UnpackedFloat.noConfusion
  | finite sign mantissa exponent positive =>
      rcases repack_signed (.finite positive) with again | ⟨large, -⟩
      · exact again.ne_nan
      · rw [large]
        exact UnpackedFloat.noConfusion

def Canonical (value : UnpackedFloat) : Prop :=
  ∀ sign mantissa exponent positive, value = .finite sign mantissa exponent positive →
    mantissa < 2 ^ 24 ∧ -149 ≤ exponent ∧ exponent ≤ 104

theorem canonical_unpack (bits : BitVec 32) : Canonical (UnpackedFloat.unpack .binary32 bits) := by
  intro sign mantissa exponent positive unpacked
  have bias : (Format.binary32.exponentBias : Int) = 127 := rfl
  have fraction : (@unpackMantissa .binary32 bits).toNat < 2 ^ 23 := BitVec.isLt _
  have power : (@unpackExponent .binary32 bits).toNat < 2 ^ 8 := BitVec.isLt _
  simp only [UnpackedFloat.unpack, bias] at unpacked
  split at unpacked
  · split at unpacked <;> cases unpacked
  · next notFull =>
      have less : (@unpackExponent .binary32 bits).toNat ≠ 255 := fun full =>
        notFull (BitVec.toNat_inj.1 full)
      split at unpacked
      · next none =>
          split at unpacked
          · cases unpacked
          · obtain ⟨-, rfl, rfl⟩ := UnpackedFloat.finite.inj unpacked
            rw [none]
            refine ⟨by omega, ?_, ?_⟩ <;> decide
      · next notNone =>
          have more : (@unpackExponent .binary32 bits).toNat ≠ 0 := fun zero =>
            notNone (BitVec.toNat_inj.1 zero)
          obtain ⟨-, rfl, rfl⟩ := UnpackedFloat.finite.inj unpacked
          refine ⟨BitVec.isLt _, ?_, ?_⟩ <;> omega

/-! Results of arithmetic, before they are packed. -/

/-- What does not become infinite above all numbers when it is packed. -/
inductive Settled : UnpackedFloat → Prop
  | lowest : Settled (.infinity .negative)
  | below {value : UnpackedFloat} (signed : Signed .negative value) : Settled value
  | within {value : UnpackedFloat} (signed : Signed .positive value)
      (bounded : Bounded 104 value) : Settled value

theorem Up.repack {value : UnpackedFloat} (up : Up value) : Up (repack value) := by
  cases up with
  | number signed =>
      rcases repack_signed signed with again | ⟨large, -⟩
      · exact .number again
      · rw [large]
        exact .highest
  | highest =>
      rw [repack_infinity]
      exact .highest

theorem Settled.repack {value : UnpackedFloat} (settled : Settled value) : Low (repack value) := by
  cases settled with
  | lowest =>
      rw [repack_infinity]
      exact .lowest
  | below signed =>
      rcases repack_signed signed with again | ⟨large, -⟩
      · exact .number again
      · rw [large]
        exact .lowest
  | within signed bounded =>
      rcases repack_signed signed with again | ⟨-, unbounded⟩
      · exact .number again
      · exact absurd bounded unbounded

theorem settled_normalize {mantissa exponent limit : Int} {bound : Nat} (short : bound < 2 ^ 24)
    (least : -149 ≤ limit) (most : limit ≤ 104) (below : exponent ≤ limit)
    (less : mantissa < (bound * 2 ^ (limit - exponent).toNat : Nat)) :
    Settled (UnpackedFloat.normalize .binary32 mantissa exponent .positive) := by
  rcases lt_trichotomy mantissa 0 with negative | rfl | positive
  · rw [normalize_of_neg _ _ negative]
    exact .below (signed_round ..)
  · exact .within .zero bounded_zero
  · rw [normalize_of_pos _ _ positive]
    refine .within (signed_round ..) fun sign m e some same => ?_
    exact (bounded_round .positive short least below (by omega) sign m e some same).trans most

def solid : UnpackedFloat → Bool
  | .finite .positive _ _ _ => true
  | _ => false

theorem exists_of_solid {value : UnpackedFloat} (positive : solid value) :
    ∃ mantissa exponent some, value = .finite .positive mantissa exponent some := by
  cases value with
  | finite sign mantissa exponent some =>
      cases sign with
      | negative => cases positive
      | positive => exact ⟨mantissa, exponent, some, rfl⟩
  | _ => cases positive

theorem signed_of_solid {value : UnpackedFloat} (positive : solid value) :
    Signed .positive value := by
  obtain ⟨mantissa, exponent, some, rfl⟩ := exists_of_solid positive
  exact .finite some

theorem apply_le (sign : Sign) (n : Nat) : sign.apply n ≤ n := by
  cases sign with
  | negative => exact (neg_nonpos.2 (Int.natCast_nonneg n)).trans (Int.natCast_nonneg n)
  | positive => exact le_rfl

theorem decreaseExponent_eq (mantissa : Nat) (exponent target : Int) :
    (decreaseExponent mantissa exponent target).1 = mantissa * 2 ^ (exponent - target).toNat :=
  Nat.shiftLeft_eq ..

section Operations

variable {value other : UnpackedFloat}

theorem up_mul (up : Up value) (positive : solid other) :
    Up (UnpackedFloat.mul .binary32 value other) := by
  obtain ⟨mantissa, exponent, some, rfl⟩ := exists_of_solid positive
  cases up with
  | highest => exact .highest
  | number signed =>
      cases signed with
      | zero => exact .number .zero
      | finite => exact .number (signed_roundWithAccuracy ..)

theorem up_add (up : Up value) (positive : solid other) :
    Up (UnpackedFloat.add .binary32 value other) := by
  obtain ⟨mantissa, exponent, some, rfl⟩ := exists_of_solid positive
  cases up with
  | highest => exact .highest
  | number signed =>
      cases signed with
      | zero => exact .number (.finite some)
      | @finite first power present =>
          have more : (0 : Int) < first * 2 ^ (power - min power exponent).toNat +
              mantissa * 2 ^ (exponent - min power exponent).toNat := by
            positivity
          simp only [UnpackedFloat.add, decreaseExponent_eq, Sign.apply, Nat.cast_mul,
            Nat.cast_pow, Nat.cast_ofNat]
          rw [normalize_of_pos _ _ more]
          exact .number (signed_round ..)

theorem settled_sub (low : Low value) (canonical : Canonical value) (up : Up other) :
    Settled (UnpackedFloat.sub .binary32 value other) := by
  cases low with
  | lowest =>
      cases up with
      | highest => exact .lowest
      | number signed => cases signed <;> exact .lowest
  | @number sign _ signed =>
      cases up with
      | highest => cases signed <;> exact .lowest
      | number signedOther =>
          cases signed with
          | zero =>
              cases signedOther with
              | zero =>
                  cases sign with
                  | negative => exact .below .zero
                  | positive => exact .within .zero bounded_zero
              | finite => exact .below (.finite _)
          | @finite mantissa exponent some =>
              obtain ⟨short, least, most⟩ := canonical _ _ _ _ rfl
              cases signedOther with
              | zero =>
                  cases sign with
                  | negative => exact .below (.finite some)
                  | positive => exact .within (.finite some) (bounded_finite some most)
              | @finite fewer lower present =>
                  simp only [UnpackedFloat.sub, decreaseExponent_eq]
                  refine settled_normalize short least most (min_le_left exponent lower) ?_
                  have taken : (0 : Int) <
                      Sign.positive.apply (fewer * 2 ^ (lower - min exponent lower).toNat : Nat) :=
                    Int.natCast_pos.2 (Nat.mul_pos present (Nat.two_pow_pos _))
                  have left := apply_le sign (mantissa * 2 ^ (exponent - min exponent lower).toNat)
                  omega

theorem settled_mul {shift : Int} (signed : Signed .positive value) (canonical : Canonical value)
    (small : shift < -23) (some : 0 < 2 ^ 23) :
    Settled (UnpackedFloat.mul .binary32 value (.finite .positive (2 ^ 23) shift some)) := by
  cases signed with
  | zero => exact .within .zero bounded_zero
  | @finite mantissa exponent present =>
      obtain ⟨short, least, most⟩ := canonical _ _ _ _ rfl
      have less : mantissa * 2 ^ 23 < mantissa * 2 ^ (exponent - (exponent + shift)).toNat :=
        Nat.mul_lt_mul_of_pos_left (Nat.pow_lt_pow_right (by omega) (by omega)) present
      refine .within (signed_roundWithAccuracy ..) fun sign m e positive same => ?_
      exact (bounded_roundWithAccuracy .positive short least (by omega) less sign m e positive
        same).trans most

theorem add_ne_nan (low : Low value) (signed : Signed .positive other) :
    UnpackedFloat.add .binary32 value other ≠ .notANumber := by
  cases low with
  | lowest => cases signed <;> exact UnpackedFloat.noConfusion
  | number signedValue =>
      cases signedValue with
      | zero =>
          cases signed with
          | zero =>
              simp only [UnpackedFloat.add]
              split <;> exact UnpackedFloat.noConfusion
          | finite => exact UnpackedFloat.noConfusion
      | finite =>
          cases signed with
          | zero => exact UnpackedFloat.noConfusion
          | finite => exact normalize_ne_nan _ _

end Operations

/-! The same of numbers as they are computed with. -/

def unpacked (x : Float32) : UnpackedFloat := x.toModel.unpack

def IsLow (x : Float32) : Prop := Low (unpacked x)

def IsUp (x : Float32) : Prop := Up (unpacked x)

variable {x y : Float32}

theorem canonical_unpacked (x : Float32) : Canonical (unpacked x) := canonical_unpack _

theorem isNaN_eq_false_iff : x.isNaN = false ↔ unpacked x ≠ .notANumber := by
  change (unpacked x).isNaN = false ↔ _
  cases unpacked x <;> simp [UnpackedFloat.isNaN]

theorem IsLow.isNaN (low : IsLow x) : x.isNaN = false :=
  isNaN_eq_false_iff.2 (Low.ne_nan low)

theorem IsUp.isNaN (up : IsUp x) : x.isNaN = false :=
  isNaN_eq_false_iff.2 (Up.ne_nan up)

theorem isLow_of_solid (positive : solid (unpacked x)) : IsLow x :=
  .number (signed_of_solid positive)

theorem isUp_of_solid (positive : solid (unpacked x)) : IsUp x :=
  .number (signed_of_solid positive)

theorem IsLow.sub (low : IsLow x) (up : IsUp y) : IsLow (x - y) :=
  (settled_sub low (canonical_unpacked x) up).repack

theorem IsUp.mul (up : IsUp x) (positive : solid (unpacked y)) : IsUp (x * y) :=
  (up_mul up positive).repack

theorem IsUp.add (up : IsUp x) (positive : solid (unpacked y)) : IsUp (x + y) :=
  (up_add up positive).repack

theorem unpacked_quarter : unpacked 0.25 = .finite .positive (2 ^ 23) (-25) (by norm_num) := rfl

/-- A quarter of a number is not infinite, and can be added to what may be. -/
theorem isNaN_add_quarter (low : IsLow x) (up : IsUp y) (lowOther : IsLow y) :
    (x + y * 0.25).isNaN = false := by
  have signed : Signed .positive (unpacked y) := Up.signed up lowOther
  have product : unpacked (y * 0.25) = repack (UnpackedFloat.mul .binary32 (unpacked y)
      (.finite .positive (2 ^ 23) (-25) (by norm_num))) := by
    rw [← unpacked_quarter]
    rfl
  have quarter : Signed .positive (unpacked (y * 0.25)) := by
    refine Up.signed (up.mul rfl) ?_
    rw [product]
    exact (settled_mul signed (canonical_unpacked y) (by norm_num) _).repack
  exact isNaN_eq_false_iff.2 (repack_ne_nan (add_ne_nan low quarter))

theorem le_iff : x ≤ y ↔ (unpacked x).le (unpacked y) = true :=
  decide_eq_true_iff

theorem lt_iff : x < y ↔ (unpacked x).lt (unpacked y) = true :=
  decide_eq_true_iff

theorem compare_swap (value other : UnpackedFloat) :
    other.compare value = (value.compare other).map Ordering.swap := by
  cases value with
  | notANumber => cases other <;> rfl
  | zero sign =>
      cases other with
      | notANumber | zero => rfl
      | infinity signOther | finite signOther => cases signOther <;> rfl
  | infinity sign =>
      cases other with
      | notANumber => rfl
      | zero | finite => cases sign <;> rfl
      | infinity signOther => cases sign <;> cases signOther <;> rfl
  | finite sign mantissa exponent positive =>
      cases other with
      | notANumber => rfl
      | zero => cases sign <;> rfl
      | infinity signOther => cases sign <;> cases signOther <;> rfl
      | finite signOther fewer lower present =>
          cases sign <;> cases signOther <;>
            simp [UnpackedFloat.compare, Ordering.swap_then, Int.compare_swap, Nat.compare_swap]

theorem exists_compare {value other : UnpackedFloat} (number : value ≠ .notANumber)
    (numberOther : other ≠ .notANumber) : ∃ order, value.compare other = some order := by
  rw [← Option.isSome_iff_exists]
  cases value with
  | notANumber => exact absurd rfl number
  | zero sign | infinity sign | finite sign =>
      cases other with
      | notANumber => exact absurd rfl numberOther
      | zero signOther | infinity signOther | finite signOther =>
          cases sign <;> cases signOther <;> rfl

/-- Of two numbers one is not below the other only if this is not above it. -/
theorem le_of_not_lt (number : x.isNaN = false) (numberOther : y.isNaN = false)
    (notLess : ¬y < x) : x ≤ y := by
  rw [isNaN_eq_false_iff] at number numberOther
  obtain ⟨order, compared⟩ := exists_compare number numberOther
  rw [lt_iff, UnpackedFloat.lt, compare_swap, compared] at notLess
  rw [le_iff, UnpackedFloat.le, compared]
  cases order with
  | lt | eq => rfl
  | gt => exact absurd rfl notLess

theorem unpacked_zero : unpacked 0 = .zero .positive := rfl

theorem pos_of_not_le (number : x.isNaN = false) (more : ¬x ≤ 0) : 0 < x := by
  by_contra notLess
  exact more (le_of_not_lt number rfl notLess)

theorem isUp_of_pos (positive : 0 < x) : IsUp x := by
  rw [lt_iff, unpacked_zero] at positive
  rw [IsUp]
  generalize unpacked x = value at positive
  cases value with
  | notANumber => cases positive
  | zero sign => cases positive
  | infinity sign =>
      cases sign with
      | negative => cases positive
      | positive => exact .highest
  | finite sign mantissa exponent some =>
      cases sign with
      | negative => cases positive
      | positive => exact .number (.finite some)

theorem sub_lt_of_highest (low : IsLow x) (highest : unpacked y = .infinity .positive) {z : Float32}
    (positive : solid (unpacked z)) : x - y < z := by
  have lowest : UnpackedFloat.sub .binary32 (unpacked x) (.infinity .positive) =
      .infinity .negative := by
    rw [IsLow] at low
    generalize unpacked x = value at low
    cases low with
    | number signed => cases signed <;> rfl
    | lowest => rfl
  have difference : unpacked (x - y) = .infinity .negative := by
    change repack (UnpackedFloat.sub .binary32 (unpacked x) (unpacked y)) = _
    rw [highest, lowest]
    rfl
  obtain ⟨mantissa, exponent, some, here⟩ := exists_of_solid positive
  rw [lt_iff, difference, here]
  rfl

end FormatReview.Single
