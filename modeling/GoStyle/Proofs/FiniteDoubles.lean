import Mathlib
import GoStyle.Decimal.Nearest

/-!
# Finite doubles

A word is a finite double unless its exponent has all bits set (`isFinite_ofBits`). The double
nearest to an integer that is not larger than the largest double has a smaller exponent
(`nearestBits_lt`), and so it is finite (`isFinite_doubleOfInt`).
-/

namespace GoStyle

/-! ## Words -/

section Words

open Float.Model Float.Model.UnpackedFloat

variable {b : BitVec Format.binary64.numBits}

/-- The exponent with all bits set. -/
def maxExponent : BitVec Format.binary64.exponentBits :=
  -BitVec.ofNat Format.binary64.exponentBits 1

theorem toNat_unpackExponent :
    (unpackExponent b).toNat = b.toNat / twoTo 52 % twoTo 11 := by
  rw [unpackExponent, BitVec.toNat_cast, BitVec.extractLsb_toNat, Nat.shiftRight_eq_div_pow]
  rfl

/-- An exponent has all bits set or is smaller than that. -/
theorem unpackExponent_ne_iff :
    unpackExponent b ≠ maxExponent ↔ (unpackExponent b).toNat < 2047 := by
  have hlt : (unpackExponent b).toNat < 2048 := (unpackExponent b).isLt
  have hmax : maxExponent.toNat = 2047 := rfl
  rw [Ne, ← BitVec.toNat_inj, hmax]
  omega

theorem isFinite_unpack_iff :
    (UnpackedFloat.unpack Format.binary64 b).isFinite ↔ unpackExponent b ≠ maxExponent := by
  unfold UnpackedFloat.unpack maxExponent
  dsimp only
  split_ifs <;> simp_all [UnpackedFloat.isFinite]

/-- A word with a smaller exponent is a number, so packing it again keeps it as it is. -/
theorem isFinite_pack_unpack (h : (unpackExponent b).toNat < 2047) :
    (UnpackedFloat.unpack Format.binary64
      (UnpackedFloat.pack Format.binary64 (UnpackedFloat.unpack Format.binary64 b))).isFinite := by
  have hexp := unpackExponent_ne_iff.mpr h
  have hnumber : ¬isNaNBits b := fun hnan => hexp (of_decide_eq_true hnan).1
  rw [pack_unpack b, if_neg hnumber, isFinite_unpack_iff]
  exact hexp

/-- A word is a finite double unless its exponent has all bits set. -/
theorem isFinite_ofBits {n : UInt64} (h : n.toNat / twoTo 52 % twoTo 11 < 2047) :
    (Float.ofBits n).isFinite :=
  isFinite_pack_unpack (toNat_unpackExponent.trans_lt h)

/-- Bits below those of infinity make up a finite double, with or without a sign. -/
theorem isFinite_ofBits_ofNat {bits : Nat} (h : bits < 2047 * twoTo 52) (negative : Bool) :
    (Float.ofBits (UInt64.ofNat (if negative then bits + twoTo 63 else bits))).isFinite := by
  have h52 : twoTo 52 = 4503599627370496 := rfl
  have h63 : twoTo 63 = 9223372036854775808 := rfl
  have h11 : twoTo 11 = 2048 := rfl
  refine isFinite_ofBits ?_
  rw [UInt64.toNat_ofNat', h52, h11, h63]
  rw [h52] at h
  split_ifs <;> omega

end Words

/-! ## Rounding -/

theorem twoTo_add (m n : Nat) : twoTo (m + n) = twoTo m * twoTo n :=
  Nat.pow_add 2 m n

theorem twoTo_pos (n : Nat) : 0 < twoTo n :=
  Nat.two_pow_pos n

theorem log2_lt_iff {n k : Nat} (hn : n ≠ 0) : n.log2 < k ↔ n < twoTo k :=
  Nat.log2_lt hn

/-- A quotient is not rounded beyond a natural number that it does not exceed. -/
theorem roundDiv_le {num den k : Nat} (hden : 0 < den) (h : num ≤ k * den) :
    roundDiv num den ≤ k := by
  have hq : num / den ≤ k := Nat.div_le_of_le_mul (by rwa [Nat.mul_comm])
  have hlt : 0 < num % den → num / den < k := by
    intro hr
    rw [Nat.div_lt_iff_lt_mul hden]
    refine lt_of_le_of_ne h fun heq => ?_
    rw [heq, Nat.mul_mod_left] at hr
    exact hr.false
  unfold roundDiv
  dsimp only
  split_ifs with hmore htie
  · exact hlt (by omega)
  · have hless := hlt (by omega)
    omega
  · exact hq

section Integers

variable {n : Nat}

theorem scaled_snd_pos (n : Nat) (e : Int) : 0 < (scaled n 1 e).2 :=
  Nat.mul_pos Nat.one_pos (twoTo_pos _)

/-- Scaling divides by a power of two. -/
theorem mul_scaled_snd {e : Int} {j k : Nat} (h : (j : Int) = k + e) :
    twoTo k * (scaled n 1 e).2 = twoTo j * twoTo (-e).toNat := by
  rw [scaled, Nat.one_mul, ← twoTo_add, ← twoTo_add]
  congr 1
  omega

/-- An integer is scaled to 53 bits. -/
theorem scaleFor_one (hn : n ≠ 0) : scaleFor n 1 = (n.log2 : Int) - 52 := by
  have hlog : twoTo n.log2 ≤ n := Nat.log2_self_le hn
  have hone : (Nat.log2 1 : Int) = 0 := rfl
  have hwhole : ¬(scaled n 1 ((n.log2 : Int) - 52)).1 / (scaled n 1 ((n.log2 : Int) - 52)).2 <
      twoTo 52 := by
    rw [not_lt, Nat.le_div_iff_mul_le (scaled_snd_pos n _),
      mul_scaled_snd (by omega : (n.log2 : Int) = (52 : Nat) + ((n.log2 : Int) - 52))]
    exact Nat.mul_le_mul_right _ hlog
  unfold scaleFor
  dsimp only
  rw [hone, Int.sub_zero, if_neg hwhole]
  omega

/-- The largest double. -/
def largestDouble : Nat :=
  (twoTo 53 - 1) * twoTo 971

theorem largestDouble_lt : largestDouble < twoTo 1024 := by
  have hsum : twoTo 1024 = twoTo 53 * twoTo 971 := twoTo_add 53 971
  rw [largestDouble, hsum]
  exact Nat.mul_lt_mul_of_pos_right (Nat.sub_one_lt (twoTo_pos 53).ne') (twoTo_pos 971)

/-- The bits of the double nearest to an integer are below those of infinity. -/
theorem nearestBits_lt (h : n ≤ largestDouble) : nearestBits n 1 < 2047 * twoTo 52 := by
  by_cases hn : n = 0
  · subst hn
    decide
  · have hlog : n.log2 < 1024 := (log2_lt_iff hn).mpr (h.trans_lt largestDouble_lt)
    have hlt : n < twoTo (n.log2 + 1) := Nat.lt_log2_self
    have hscale := scaleFor_one hn
    unfold nearestBits
    dsimp only
    rw [if_neg hn]
    generalize scaleFor n 1 = e at hscale ⊢
    have hm : roundDiv (scaled n 1 e).1 (scaled n 1 e).2 ≤ twoTo 53 := by
      refine roundDiv_le (scaled_snd_pos n e) ?_
      rw [mul_scaled_snd (by omega : ((n.log2 + 1 : Nat) : Int) = (53 : Nat) + e)]
      exact Nat.mul_le_mul_right _ hlt.le
    -- With the largest exponent there is no carry: the largest double is a multiple of the unit.
    have htop : e = 971 → roundDiv (scaled n 1 e).1 (scaled n 1 e).2 ≤ twoTo 53 - 1 := by
      rintro rfl
      have hnum : (scaled n 1 971).1 = n := Nat.mul_one n
      have hden : (scaled n 1 971).2 = twoTo 971 := Nat.one_mul _
      refine roundDiv_le (scaled_snd_pos n 971) ?_
      rwa [hnum, hden]
    generalize roundDiv (scaled n 1 e).1 (scaled n 1 e).2 = m at hm htop ⊢
    have h53 : twoTo 53 = 2 * twoTo 52 := rfl
    have hpos := twoTo_pos 52
    have hexp : ∀ k : Int, k ≤ 971 → (k + 1075).toNat * twoTo 52 ≤ 2046 * twoTo 52 := fun k hk =>
      Nat.mul_le_mul_right _ (by omega)
    rw [h53] at hm htop ⊢
    by_cases hcarry : m = 2 * twoTo 52
    · have hnext := hexp (e + 1)
      rw [if_pos hcarry]
      dsimp only
      split_ifs <;> omega
    · have hsame := hexp e
      rw [if_neg hcarry]
      dsimp only
      split_ifs <;> omega

theorem length_toDigits_le {k : Nat} (hk : 0 < k) (h : n < tenTo k) :
    (Nat.toDigits 10 n).length ≤ k :=
  (Nat.length_toDigits_le_iff (by decide) hk).mpr h

end Integers

/-- An integer not larger than the largest double is read as a finite double. -/
theorem isFinite_doubleOfInt {n : Int} (h : n.natAbs ≤ largestDouble) :
    (doubleOfInt n).isFinite := by
  have hten : twoTo 1024 ≤ tenTo 400 := by decide +kernel
  have hdigits : (Nat.toDigits 10 n.natAbs).length ≤ 400 :=
    length_toDigits_le (by decide) ((h.trans_lt largestDouble_lt).trans_le hten)
  have hone : tenTo 0 = 1 := rfl
  unfold doubleOfInt nearestDouble
  dsimp only
  refine isFinite_ofBits_ofNat ?_ _
  split_ifs with hsmall hlarge
  · decide
  · omega
  · rw [Int.neg_zero, Int.toNat_zero, hone, Nat.mul_one]
    exact nearestBits_lt h

end GoStyle
