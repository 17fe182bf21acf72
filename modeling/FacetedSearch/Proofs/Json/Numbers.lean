import FacetedSearch.Json.Basic
import Mathlib.Tactic

/-!
# Numbers of documents as floats

A document holds integers of 64 bits and finite floats, and where a float is asked for, an integer
stands for the nearest one. That is finite, too, since the floats reach far beyond 64 bits.

Conversion works on a mantissa and an exponent, and a float is infinite only if its exponent is too
large for the field that it is stored in. It is therefore enough to follow the exponent
(`ExponentLe`) through the steps of a conversion. Rounding raises it by no more than the number of
bits that it drops, and storing a float and loading it again does not raise it at all. The bounds
are generous; nothing comes near the largest exponent.
-/

namespace FacetedSearch.Json

open Float.Model Float.Model.UnpackedFloat

/-- A finite float whose exponent is not above a bound. -/
inductive ExponentLe (k : ℤ) : UnpackedFloat → Prop
  | zero (s : Sign) : ExponentLe k (.zero s)
  | finite {s : Sign} {m : ℕ} {e : ℤ} {hm : 0 < m} (he : e ≤ k) : ExponentLe k (.finite s m e hm)

namespace ExponentLe

variable {k l : ℤ} {x : UnpackedFloat}

theorem isFinite (h : ExponentLe k x) : x.isFinite = true := by cases h <;> rfl

theorem mono (h : ExponentLe k x) (hkl : k ≤ l) : ExponentLe l x := by
  cases h with
  | zero s => exact .zero s
  | finite he => exact .finite (he.trans hkl)

theorem neg (h : ExponentLe k x) : ExponentLe k x.neg := by
  cases h with
  | zero s => exact .zero (-s)
  | finite he => exact .finite he

end ExponentLe

/-! ## Rounding -/

theorem mantissa_shiftRight_le (em : ExtendedMantissa) (n : ℕ) :
    (em >>> n).mantissa ≤ em.mantissa := by
  induction n with
  | zero => exact le_rfl
  | succ n ih => exact (Nat.div_le_self _ 2).trans ih

theorem roundedMantissa_le (em : ExtendedMantissa) : em.roundedMantissa ≤ em.mantissa + 1 := by
  obtain ⟨m, round, sticky⟩ := em
  have hm : m % 2 < 2 := Nat.mod_lt m two_pos
  cases round <;> cases sticky <;>
    simp only [ExtendedMantissa.roundedMantissa, ExtendedMantissa.accuracy,
      Accuracy.roundToNearestEven] <;> omega

theorem targetExponent_binary64 (t : ℤ) :
    Format.binary64.targetExponent t = max (t - 53) (-1074) := rfl

theorem log2_lt_of_lt {m n : ℕ} (hm : m < 2 ^ n) (hn : 0 < n) : m.log2 < n := by
  rcases eq_or_ne m 0 with rfl | hne
  · exact hn
  · exact (Nat.log2_lt hne).mpr hm

/-- Dropping bits raises an exponent by no more than the bits that there are. -/
theorem shiftToTargetExponent_bounds (m : ℕ) (e : ℤ) (a : Accuracy) :
    -1074 ≤ (shiftToTargetExponent .binary64 m e a).2 ∧
      (shiftToTargetExponent .binary64 m e a).2 ≤ max e (-1074) + m.log2 := by
  rw [shiftToTargetExponent, shiftToExponent, targetExponent_binary64, totalExponent]
  constructor <;> dsimp only <;> omega

/-- Rounding drops bits twice, the second time because the mantissa may have become one bit
longer. -/
theorem exponentLe_roundWithAccuracy (s : Sign) {m n : ℕ} (e : ℤ) (hm : m < 2 ^ n) (hn : 0 < n) :
    ExponentLe (max e (-1074) + 2 * n) (roundWithAccuracy .binary64 s m e .exact) := by
  let first := shiftToTargetExponent .binary64 m e .exact
  let second := shiftToTargetExponent .binary64 first.1.roundedMantissa first.2 .exact
  have hrounded : first.1.roundedMantissa < 2 ^ (n + 1) := by
    have hle : first.1.roundedMantissa ≤ m + 1 :=
      (roundedMantissa_le _).trans (Nat.succ_le_succ (mantissa_shiftRight_le _ _))
    rw [pow_succ]
    omega
  have hle : second.2 ≤ max e (-1074) + 2 * n := by
    have hfirst : -1074 ≤ first.2 ∧ first.2 ≤ max e (-1074) + m.log2 :=
      shiftToTargetExponent_bounds m e .exact
    have hsecond : _ ∧ second.2 ≤ max first.2 (-1074) + first.1.roundedMantissa.log2 :=
      shiftToTargetExponent_bounds first.1.roundedMantissa first.2 .exact
    -- each of the two shifts raises the exponent by less than the bits that are there
    have hlog := log2_lt_of_lt hm hn
    have hlog' := log2_lt_of_lt hrounded n.succ_pos
    omega
  have hround : roundWithAccuracy .binary64 s m e .exact =
      if h : second.1.mantissa = 0 then .zero s
      else .finite s second.1.mantissa second.2 (Nat.pos_of_ne_zero h) := rfl
  rw [hround]
  by_cases h : second.1.mantissa = 0
  · rw [dif_pos h]
    exact .zero s
  · rw [dif_neg h]
    exact .finite hle

/-- Making room for more bits in front of rounding lowers an exponent. -/
theorem exponentLe_round (s : Sign) {m : ℕ} (hm : m < 2 ^ 64) :
    ExponentLe 300 (UnpackedFloat.round .binary64 s m 0) := by
  have hshift : (0 - Format.binary64.targetExponent (totalExponent m 0)).toNat ≤ 52 := by
    rw [targetExponent_binary64, totalExponent]
    omega
  have hmantissa : m <<< (0 - Format.binary64.targetExponent (totalExponent m 0)).toNat
      < 2 ^ 116 := by
    rw [Nat.shiftLeft_eq]
    calc m * 2 ^ _ ≤ m * 2 ^ 52 := Nat.mul_le_mul_left m (Nat.pow_le_pow_right two_pos hshift)
      _ < 2 ^ 64 * 2 ^ 52 := Nat.mul_lt_mul_of_pos_right hm (by positivity)
      _ = 2 ^ 116 := by norm_num
  rw [UnpackedFloat.round]
  refine (exponentLe_roundWithAccuracy s _ hmantissa (by norm_num)).mono ?_
  omega

theorem exponentLe_ofUInt64 (n : UInt64) :
    ExponentLe 300 (UnpackedFloat.ofUInt64 .binary64 n) := by
  have hn : n.toNat < 2 ^ 64 := n.toNat_lt
  rw [UnpackedFloat.ofUInt64, UnpackedFloat.ofNat, UnpackedFloat.ofInt, UnpackedFloat.normalize]
  split
  · exact exponentLe_round _ (by omega)
  · exact .zero _
  · exact exponentLe_round _ (by omega)

/-! ## Storing -/

theorem exponentLe_unpack {b : BitVec Format.binary64.numBits} {k : ℤ}
    (hb : ((unpackExponent b).toNat : ℤ) ≤ k + 1075) (hlow : -1074 ≤ k) (hhigh : k ≤ 970) :
    ExponentLe k (UnpackedFloat.unpack .binary64 b) := by
  have hne : unpackExponent b ≠ -1#11 := by
    intro h
    have hmax : (-1#11).toNat = 2047 := by decide
    rw [h, hmax] at hb
    omega
  have hbias : Format.binary64.exponentBias = 1023 := by decide
  -- the largest exponent is that of infinities and of what is no number
  delta UnpackedFloat.unpack
  dsimp only
  rw [if_neg hne]
  by_cases hzero : unpackExponent b = 0#11
  · rw [if_pos hzero]
    by_cases hmantissa : unpackMantissa b = 0#52
    · rw [dif_pos hmantissa]
      exact .zero _
    · rw [dif_neg hmantissa]
      refine .finite ?_
      rw [hzero, hbias]
      change (0 : ℤ) - _ + 1 ≤ k
      omega
  · rw [if_neg hzero]
    refine .finite ?_
    rw [hbias]
    omega

/-- A float that is stored and loaded has no larger exponent than before. -/
theorem ExponentLe.unpack_pack {k : ℤ} {x : UnpackedFloat} (h : ExponentLe k x)
    (hlow : -1074 ≤ k) (hhigh : k ≤ 970) :
    ExponentLe k (UnpackedFloat.unpack .binary64 (UnpackedFloat.pack .binary64 x)) := by
  refine exponentLe_unpack ?_ hlow hhigh
  cases h with
  | zero s =>
    change ((unpackExponent (packedZero .binary64 s)).toNat : ℤ) ≤ k + 1075
    rw [packedZero, unpackExponent_packComponents]
    -- zero is packed with the least exponent
    change (0 : ℤ) ≤ _
    omega
  | @finite s m e hm he =>
    have hbias : Format.binary64.exponentBias = 1023 := by decide
    delta UnpackedFloat.pack
    dsimp only
    rw [hbias]
    split
    · omega
    · split
      · rw [unpackExponent_packComponents, BitVec.toNat_ofNat]
        have hmod := Nat.mod_le (e + (1023 : ℕ) + (52 : ℕ)).toNat (2 ^ 11)
        omega
      · rw [unpackExponent_packComponents]
        change (0 : ℤ) ≤ _
        omega

theorem mantissa_lt_of_unpack {b : BitVec Format.binary64.numBits} {s : Sign} {m : ℕ} {e : ℤ}
    {hm : 0 < m} (h : UnpackedFloat.unpack .binary64 b = .finite s m e hm) : m < 2 ^ 53 := by
  delta UnpackedFloat.unpack at h
  dsimp only at h
  by_cases hall : unpackExponent b = -1#11
  · rw [if_pos hall] at h
    by_cases hmantissa : unpackMantissa b = 0#52
    · rw [if_pos hmantissa] at h
      cases h
    · rw [if_neg hmantissa] at h
      cases h
  rw [if_neg hall] at h
  by_cases hzero : unpackExponent b = 0#11
  · rw [if_pos hzero] at h
    by_cases hmantissa : unpackMantissa b = 0#52
    · rw [dif_pos hmantissa] at h
      cases h
    · rw [dif_neg hmantissa] at h
      cases h
      exact (BitVec.isLt _).trans (by norm_num)
  · rw [if_neg hzero] at h
    cases h
    exact BitVec.isLt (1#1 ++ unpackMantissa b)

/-! ## Integers -/

/-- The float is finite, and loading it gives an exponent that is not above a bound. -/
def FloatLe (k : ℤ) (x : Float) : Prop := ExponentLe k x.toModel.unpack

theorem FloatLe.isFinite {k : ℤ} {x : Float} (h : FloatLe k x) : x.isFinite = true :=
  ExponentLe.isFinite h

theorem floatLe_pack {k : ℤ} {x : UnpackedFloat} (h : ExponentLe k x) (hlow : -1074 ≤ k)
    (hhigh : k ≤ 970) : FloatLe k ⟨Float.Model.pack x⟩ := h.unpack_pack hlow hhigh

theorem FloatLe.neg {k : ℤ} {x : Float} (h : FloatLe k x) (hlow : -1074 ≤ k) (hhigh : k ≤ 970) :
    FloatLe k x.neg := floatLe_pack (ExponentLe.neg h) hlow hhigh

theorem floatLe_toFloat (n : UInt64) : FloatLe 300 n.toFloat :=
  floatLe_pack (exponentLe_ofUInt64 n) (by norm_num) (by norm_num)

/-- A product is rounded from a mantissa of twice the bits. -/
theorem FloatLe.mul {j k l : ℤ} {x y : Float} (hx : FloatLe k x) (hy : FloatLe l y)
    (hlow : max (k + l) (-1074) + 212 ≤ j) (hhigh : j ≤ 970) : FloatLe j (x * y) := by
  refine floatLe_pack (x := UnpackedFloat.mul .binary64 x.toModel.unpack y.toModel.unpack) ?_
    (by omega) hhigh
  generalize hux : x.toModel.unpack = u
  generalize huy : y.toModel.unpack = v
  rw [FloatLe, hux] at hx
  rw [FloatLe, huy] at hy
  cases hx with
  | zero s => cases hy <;> exact .zero _
  | finite he =>
    cases hy with
    | zero t => exact .zero _
    | finite he' =>
      have hproduct := Nat.mul_lt_mul'' (mantissa_lt_of_unpack hux) (mantissa_lt_of_unpack huy)
      rw [← pow_add] at hproduct
      refine (exponentLe_roundWithAccuracy _ _ hproduct (by norm_num)).mono ?_
      omega

/-- The first power of ten in the table of the library. -/
theorem floatLe_one : FloatLe (-52) Float.exactlyRepresentablePowersOfTen[0] :=
  exponentLe_unpack (by decide) (by norm_num) (by norm_num)

theorem exponentLe_ofScientific {n : ℕ} (hn : n < 2 ^ 64) :
    ExponentLe 600 (UnpackedFloat.ofScientific .binary64 n 0) := by
  rcases eq_or_ne n 0 with rfl | hne
  · exact .zero _
  · have hproduct : n <<< 53 < 2 ^ 117 := by
      rw [Nat.shiftLeft_eq]
      omega
    have hround : UnpackedFloat.ofScientific .binary64 n 0 =
        roundWithAccuracy .binary64 .positive (n <<< 53) (-53) .exact := by
      have hten : (10 : ℕ) ^ (0 : ℤ).toNat = 1 := rfl
      rw [UnpackedFloat.ofScientific, dif_neg hne, if_neg (by norm_num), if_neg (by norm_num),
        if_pos le_rfl]
      delta UnpackedFloat.mul
      dsimp only
      rw [hten, Nat.mul_one]
      rfl
    rw [hround]
    exact (exponentLe_roundWithAccuracy _ (-53) hproduct (by norm_num)).mono (by norm_num)

theorem floatLe_ofNat {n : ℕ} (hn : n < 2 ^ 64) : FloatLe 600 (Float.ofNat n) := by
  change FloatLe 600 (Float.ofScientific n false 0)
  rw [Float.ofScientific]
  split
  · exact (floatLe_toFloat _).mul floatLe_one (by norm_num) (by norm_num)
  · exact floatLe_pack (exponentLe_ofScientific hn) (by norm_num) (by norm_num)

/-- **Every number of a document is finite as a float.** -/
theorem Number.isFinite_toFloat (n : Number) : n.toFloat.isFinite = true := by
  cases n with
  | float x finite => exact finite
  | int n fits =>
    obtain ⟨hlow, hhigh⟩ := fits
    cases n with
    | ofNat n =>
      have hn : (n : ℤ) < 18446744073709551616 := hhigh
      have hn : n < 2 ^ 64 := by omega
      exact (floatLe_ofNat hn).isFinite
    | negSucc n =>
      have hn : n + 1 < 2 ^ 64 := by omega
      exact ((floatLe_ofNat hn).neg (by norm_num) (by norm_num)).isFinite

end FacetedSearch.Json
