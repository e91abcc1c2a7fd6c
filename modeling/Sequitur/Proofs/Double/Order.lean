import Mathlib

/-!
# Which doubles can be compared

A double is compared by its unpacked form: a sign, a mantissa and an exponent, or one of the values
that have none of these.  All that are numbers stand in a linear order (`Double.rank`), so that the
comparison of two numbers is the comparison of two triples of integers (`Double.lt_iff_rank_lt`).

A quotient of two integers of moderate size is a number if the divisor is not zero
(`Double.isNaN_ofInt_div_ofInt`).  This rests on rounding being exact for such integers.  An integer
below `2 ^ 53` is shifted to a mantissa of full length, which rounding and packing leave alone, and
so does the multiplication by one that ends the conversion; the result is `Double.Moderate` and
hence neither zero nor infinite.
-/

set_option autoImplicit false

namespace Sequitur

namespace Double

open Float.Model Float.Model.UnpackedFloat

variable {u v : UnpackedFloat} {x y : Float} {m n : Nat} {e : Int}

/-! ## The order of numbers -/

/-- Where an unpacked double stands in the order of numbers.  The infinities are outside; numbers of
the same sign are told apart by their exponents first. -/
def rank : UnpackedFloat → Int ×ₗ Int ×ₗ Int
  | .notANumber => toLex (0, toLex (0, 0))
  | .infinity s => toLex (s.apply 2, toLex (0, 0))
  | .zero _ => toLex (0, toLex (0, 0))
  | .finite s m e _ => toLex (s.apply 1, toLex (s.apply e, s.apply m))

theorem compare_negative_positive : compare Sign.negative Sign.positive = .lt := rfl

theorem then_eq_lt_iff {e e' : Int} {m m' : Nat} :
    (compare e e').then (compare m m') = .lt ↔ e < e' ∨ e = e' ∧ m < m' := by
  rw [Ordering.then_eq_lt, Std.compare_eq_lt, compare_eq_iff_eq, Std.compare_eq_lt]

theorem then_eq_gt_iff {e e' : Int} {m m' : Nat} :
    (compare e e').then (compare m m') = .gt ↔ e' < e ∨ e = e' ∧ m' < m := by
  rw [Ordering.then_eq_gt, Std.compare_eq_gt, compare_eq_iff_eq, Std.compare_eq_gt]

/-- Unpacked doubles are compared by their ranks. -/
theorem lt_iff_rank_lt_of_unpacked (hu : u.isNaN = false) (hv : v.isNaN = false) :
    u.lt v = true ↔ rank u < rank v := by
  rw [UnpackedFloat.lt, beq_iff_eq]
  cases u with
  | notANumber => cases hu
  | infinity s | zero s | finite s m e hm =>
    cases v with
    | notANumber => cases hv
    | infinity s' | zero s' | finite s' m' e' hm' =>
      cases s <;> cases s' <;>
        simp [UnpackedFloat.compare, rank, Sign.apply, Prod.Lex.toLex_lt_toLex,
          compare_negative_positive, then_eq_lt_iff, then_eq_gt_iff]

/-- **Numbers are compared by their ranks.** -/
theorem lt_iff_rank_lt (hx : x.isNaN = false) (hy : y.isNaN = false) :
    x < y ↔ rank x.toModel.unpack < rank y.toModel.unpack := by
  have hlt : x < y ↔ x.toModel.unpack.lt y.toModel.unpack = true := by
    change x.lt y = true ↔ _
    rw [Float.lt, decide_eq_true_iff]
    rfl
  rw [hlt, lt_iff_rank_lt_of_unpacked hx hy]

/-! ## Packing -/

theorem isNaN_unpack {spec : Format} (bits : BitVec spec.numBits)
    (h : unpackExponent bits = -1#_ → unpackMantissa bits = 0#_) :
    (UnpackedFloat.unpack spec bits).isNaN = false := by
  rw [UnpackedFloat.unpack]
  split_ifs with hexponent hmantissa
  · rfl
  · exact absurd (h hexponent) hmantissa
  all_goals rfl

/-- A number is packed as a number, if only as an infinity. -/
theorem isNaN_unpack_pack (h : u.isNaN = false) : (Float.Model.pack u).unpack.isNaN = false := by
  refine isNaN_unpack _ ?_
  cases u with
  | notANumber => cases h
  | infinity s => exact fun _ ↦ unpackMantissa_packComponents
  | zero s => exact fun _ ↦ unpackMantissa_packComponents
  | finite s m e hm =>
    simp only [Float.Model.pack, UnpackedFloat.pack]
    split_ifs with hlarge hnormal
    · exact fun _ ↦ unpackMantissa_packComponents
    · intro hexponent
      rw [unpackExponent_packComponents] at hexponent
      have hones := congrArg BitVec.toNat hexponent
      simp at hones
      omega
    · intro hexponent
      rw [unpackExponent_packComponents] at hexponent
      exact absurd hexponent (by decide)

/-- A finite double with a mantissa of full length and an exponent that is far from both ends. -/
inductive Moderate : UnpackedFloat → Prop
  | mk (s : Sign) {m : Nat} {e : Int} (hpos : 0 < m) (hm : m.log2 = 52) (hlow : -52 ≤ e)
    (hhigh : e ≤ 0) : Moderate (.finite s m e hpos)

theorem Moderate.isNaN (h : Moderate u) : u.isNaN = false := by
  cases h
  rfl

/-- The fields into which it is packed. -/
theorem pack_moderate (s : Sign) (hpos : 0 < m) (hm : m.log2 = 52) {biased : Nat}
    (hbiased : e + 1075 = biased) (hhigh : biased < 2047) :
    UnpackedFloat.pack .binary64 (.finite s m e hpos) =
      packComponents .binary64 s (BitVec.ofNat 11 biased) (BitVec.ofNat 52 m) := by
  have hexponent : (e + (1023 : Nat) + (52 : Nat)).toNat = biased := by omega
  refine (if_neg ?_).trans (if_pos ?_ |>.trans ?_)
  · change ¬ 2 ^ 11 ≤ (e + (1023 : Nat) + (52 : Nat)).toNat + 1
    omega
  · rw [hm]
    decide
  · change packComponents .binary64 s
      (BitVec.ofNat 11 (e + (1023 : Nat) + (52 : Nat)).toNat) _ = _
    rw [hexponent]

/-- With its leading bit, which is not stored, a mantissa has full length. -/
theorem log2_one_append (bits : BitVec 52) : (1#1 ++ bits).toNat.log2 = 52 := by
  have hbits := bits.isLt
  rw [BitVec.toNat_append, ← Nat.shiftLeft_add_eq_or_of_lt hbits, BitVec.toNat_ofNat,
    Nat.shiftLeft_eq, Nat.log2_eq_iff (by omega)]
  omega

/-- **Packing keeps what is moderate.** -/
theorem Moderate.unpack_pack (h : Moderate u) : Moderate (Float.Model.pack u).unpack := by
  obtain @⟨s, m, e, hpos, hm, hlow, hhigh⟩ := h
  obtain ⟨biased, hbiased⟩ : ∃ biased : Nat, e + 1075 = biased := ⟨(e + 1075).toNat, by omega⟩
  have hexponent : (BitVec.ofNat 11 biased).toNat = biased := by
    rw [BitVec.toNat_ofNat, Nat.mod_eq_of_lt (by omega)]
  have hones : BitVec.ofNat 11 biased ≠ -1#11 := fun h ↦ by
    have hall : biased = 2047 := hexponent.symm.trans (congrArg BitVec.toNat h)
    omega
  have hzero : BitVec.ofNat 11 biased ≠ 0#11 := fun h ↦ by
    have hnone : biased = 0 := hexponent.symm.trans (congrArg BitVec.toNat h)
    omega
  have hunpack : (Float.Model.pack (.finite s m e hpos)).unpack =
      UnpackedFloat.unpack .binary64 (UnpackedFloat.pack .binary64 (.finite s m e hpos)) := rfl
  have he : ((BitVec.ofNat 11 biased).toNat : Int) - ((1023 : Nat) + (52 : Nat)) = e := by omega
  rw [hunpack, pack_moderate s hpos hm hbiased (by omega), UnpackedFloat.unpack]
  simp only [unpackExponent_packComponents, unpackMantissa_packComponents]
  rw [if_neg hones, if_neg hzero]
  exact .mk _ _ (log2_one_append _) (hlow.trans he.ge) (he.le.trans hhigh)

/-! ## Rounding -/

/-- Shifts to the right undo a shift to the left. -/
theorem repeat_shiftRightOne (m k : Nat) :
    k.repeat ExtendedMantissa.shiftRightOne ⟨m <<< k, false, false⟩ = ⟨m, false, false⟩ := by
  induction k generalizing m with
  | zero => rfl
  | succ k ih =>
    rw [Nat.repeat, Nat.shiftLeft_succ_inside, ih]
    simp [ExtendedMantissa.shiftRightOne]

theorem log2_shiftLeft (hpos : 0 < m) (k : Nat) : (m <<< k).log2 = m.log2 + k := by
  induction k with
  | zero => rfl
  | succ k ih =>
    rw [Nat.shiftLeft_succ, Nat.log2_two_mul (Nat.shiftLeft_pos_iff.2 hpos).ne', ih]
    rfl

/-- The exponent at which a mantissa has full length. -/
theorem targetExponent_eq (he : -1074 ≤ e) {total : Int} (htotal : total = e + 53) :
    Format.binary64.targetExponent total = e := by
  have hmin : Format.binary64.minExponent = -1074 := by decide
  have hbits : Format.binary64.mantissaBits = 53 := by decide
  rw [Format.targetExponent, hmin, hbits]
  omega

/-- A mantissa that is too long by some zeros is brought to full length. -/
theorem shiftToTargetExponent_shiftLeft (hpos : 0 < m) (hm : m.log2 = 52) (he : -1074 ≤ e)
    (k : Nat) :
    shiftToTargetExponent .binary64 (m <<< k) (e - k) .exact = (⟨m, false, false⟩, e) := by
  have htarget : Format.binary64.targetExponent (totalExponent (m <<< k) (e - k)) = e := by
    refine targetExponent_eq he ?_
    rw [totalExponent, log2_shiftLeft hpos, hm]
    omega
  have hshift : (e - (e - k)).toNat = k := by omega
  rw [shiftToTargetExponent, htarget, shiftToExponent, hshift]
  exact Prod.ext (repeat_shiftRightOne m k) (Int.sub_add_cancel e k)

/-- **Nothing is lost in rounding when only zeros are cut off.** -/
theorem roundWithAccuracy_shiftLeft (s : Sign) (hpos : 0 < m) (hm : m.log2 = 52) (he : -1074 ≤ e)
    (k : Nat) : roundWithAccuracy .binary64 s (m <<< k) (e - k) .exact = .finite s m e hpos := by
  have hsecond := shiftToTargetExponent_shiftLeft hpos hm he 0
  rw [Nat.shiftLeft_zero, Int.natCast_zero, Int.sub_zero] at hsecond
  have hrounded : (ExtendedMantissa.mk m false false).roundedMantissa = m := rfl
  rw [roundWithAccuracy, shiftToTargetExponent_shiftLeft hpos hm he k]
  simp only [hrounded, hsecond, dif_neg hpos.ne']

/-- A product with one is moderate when the other factor is. -/
theorem Moderate.mul_one (h : Moderate u) :
    Moderate (UnpackedFloat.mul .binary64 u (.finite .positive (2 ^ 52) (-52) (by decide))) := by
  obtain @⟨s, m, e, hpos, hm, hlow, hhigh⟩ := h
  have hround := roundWithAccuracy_shiftLeft (s * .positive) hpos hm (e := e) (by omega) 52
  rw [Nat.shiftLeft_eq] at hround
  exact (congrArg Moderate hround).mpr (.mk _ hpos hm hlow hhigh)

theorem isNaN_roundWithAccuracy (spec : Format) (s : Sign) (m : Nat) (e : Int)
    (accuracy : Accuracy) : (roundWithAccuracy spec s m e accuracy).isNaN = false := by
  simp only [roundWithAccuracy]
  split_ifs <;> rfl

theorem isNaN_neg (h : u.isNaN = false) : u.neg.isNaN = false := by
  cases u with
  | notANumber => cases h
  | infinity s | zero s | finite s m e hm => rfl

/-- A number divided by something moderate is a number. -/
theorem isNaN_div (hu : u.isNaN = false) (hv : Moderate v) :
    (UnpackedFloat.div .binary64 u v).isNaN = false := by
  cases hv
  cases u with
  | notANumber => cases hu
  | infinity s | zero s => rfl
  | finite s m e hm => exact isNaN_roundWithAccuracy _ _ _ _ _

/-! ## Integers as doubles -/

/-- An integer that is no longer than a mantissa is rounded to something moderate. -/
theorem moderate_round (s : Sign) (hpos : 0 < n) (hsmall : n < 2 ^ 53) :
    Moderate (UnpackedFloat.round .binary64 s n 0) := by
  have hlog : n.log2 < 53 := (Nat.log2_lt hpos.ne').2 hsmall
  have hshifted : 0 < n <<< (52 - n.log2) := Nat.shiftLeft_pos_iff.2 hpos
  have hfull : (n <<< (52 - n.log2)).log2 = 52 := by
    rw [log2_shiftLeft hpos]
    omega
  have htarget : Format.binary64.targetExponent (totalExponent n 0) = 0 - (52 - n.log2 : Nat) :=
    targetExponent_eq (by omega) (by rw [totalExponent]; omega)
  have hshift : ((0 : Int) - (0 - (52 - n.log2 : Nat))).toNat = 52 - n.log2 := by omega
  have hround := roundWithAccuracy_shiftLeft s hshifted hfull
    (e := 0 - (52 - n.log2 : Nat)) (by omega) 0
  rw [Nat.shiftLeft_zero, Int.natCast_zero, Int.sub_zero] at hround
  rw [UnpackedFloat.round, htarget, decreaseExponent, hshift]
  exact (congrArg Moderate hround).mpr (.mk s hshifted hfull (by omega) (by omega))

/-- A natural number is made a double by a conversion and a multiplication by one. -/
theorem ofNat_eq_mul (hsmall : n < 2 ^ 53) :
    Float.ofNat n = n.toUInt64.toFloat * Float.ofBits 0x3FF0000000000000 := by
  have hscientific : Float.ofNat n = Float.ofScientific n false 0 := rfl
  rw [hscientific, Float.ofScientific, dif_pos ⟨hsmall, by decide⟩]
  rfl

/-- **A positive integer that is no longer than a mantissa is a moderate double.** -/
theorem moderate_ofNat (hpos : 0 < n) (hsmall : n < 2 ^ 53) :
    Moderate (Float.ofNat n).toModel.unpack := by
  have hconverted : n.toUInt64.toFloat.toModel =
      Float.Model.pack
        (UnpackedFloat.normalize .binary64 (n.toUInt64.toNat : Int) 0 .positive) := rfl
  have hproduct : Float.ofNat n = .ofModel (Float.Model.pack (UnpackedFloat.mul .binary64
      n.toUInt64.toFloat.toModel.unpack (.finite .positive (2 ^ 52) (-52) (by decide)))) :=
    (ofNat_eq_mul hsmall).trans rfl
  have hn : n.toUInt64.toNat = n := by
    rw [Nat.toUInt64, UInt64.toNat_ofNat', Nat.mod_eq_of_lt (by omega)]
  rw [hproduct, hconverted, hn, UnpackedFloat.normalize, Int.compare_eq_gt.2 (by omega),
    Int.toNat_natCast]
  exact (moderate_round .positive hpos hsmall).unpack_pack.mul_one.unpack_pack

/-- An integer that is no longer than a mantissa is a number. -/
theorem isNaN_ofInt {z : Int} (hsmall : z.natAbs < 2 ^ 53) : (Float.ofInt z).isNaN = false := by
  cases z with
  | ofNat n =>
    rcases Nat.eq_zero_or_pos n with rfl | hpos
    · decide
    · exact (moderate_ofNat hpos hsmall).isNaN
  | negSucc n =>
    have hneg : (Float.ofInt (.negSucc n)).isNaN =
        (Float.Model.pack (Float.ofNat n.succ).toModel.unpack.neg).unpack.isNaN := rfl
    rw [hneg]
    exact isNaN_unpack_pack (isNaN_neg (moderate_ofNat n.succ_pos hsmall).isNaN)

/-- **A quotient of integers that are no longer than a mantissa is a number**, if the divisor is
positive. -/
theorem isNaN_ofInt_div_ofInt {a b : Int} (ha : a.natAbs < 2 ^ 53) (hb : 0 < b)
    (hb' : b < 2 ^ 53) : (Float.ofInt a / Float.ofInt b).isNaN = false := by
  obtain ⟨n, rfl⟩ := Int.eq_ofNat_of_zero_le hb.le
  have hdivisor : Moderate (Float.ofInt n).toModel.unpack := moderate_ofNat (by omega) (by omega)
  exact isNaN_unpack_pack (isNaN_div (isNaN_ofInt ha) hdivisor)

end Double

end Sequitur
