import GameShelf.Binary64.Basic

/-!
# Whole numbers as doubles

A natural number that becomes a double keeps its first 53 binary digits, rounded. Up to that many
digits, and with zeros after them, it comes through unchanged.

* `Binary64.nearest`: the value of the double nearest to a natural number.
* `Binary64.nearest_eq_self_iff`: which numbers are not rounded.
* `Binary64.whole?_ofNat`: the value of a double made of a natural number.
-/

namespace GameShelf.Binary64

theorem twoTo_pos (k : Nat) : 0 < twoTo k :=
  Nat.pow_pos Nat.two_pos

theorem twoTo_add (j k : Nat) : twoTo (j + k) = twoTo j * twoTo k :=
  Nat.pow_add 2 j k

theorem twoTo_le_twoTo {j k : Nat} (h : j ≤ k) : twoTo j ≤ twoTo k :=
  Nat.pow_le_pow_right Nat.two_pos h

/-! ## Binary digits -/

/-- A number has no more binary digits than a power of two that it is below. -/
theorem bitLength_le {n k : Nat} (h : n < twoTo k) : bitLength n ≤ k := by
  unfold bitLength
  split
  · exact Nat.zero_le k
  · rename_i hn
    exact (Nat.log2_lt hn).mpr h

/-- Every zero at the end is one more digit. -/
theorem bitLength_mul_twoTo {n : Nat} (h : n ≠ 0) (k : Nat) :
    bitLength (n * twoTo k) = bitLength n + k := by
  have hne : n * twoTo k ≠ 0 := Nat.mul_ne_zero h (Nat.ne_of_gt (twoTo_pos k))
  rcases (Nat.log2_eq_iff h).mp rfl with ⟨hlow, hhigh⟩
  have hlog : Nat.log2 (n * twoTo k) = Nat.log2 n + k := by
    refine (Nat.log2_eq_iff hne).mpr ⟨?_, ?_⟩
    · rw [Nat.pow_add]
      exact Nat.mul_le_mul_right (twoTo k) hlow
    · rw [Nat.add_right_comm, Nat.pow_add]
      exact Nat.mul_lt_mul_of_pos_right hhigh (twoTo_pos k)
  rw [bitLength, bitLength, if_neg h, if_neg hne, hlog]
  omega

/-! ## Rounding -/

/-- What is whole is not rounded. -/
theorem roundHalfEven_mul {den : Nat} (h : 0 < den) (n : Nat) :
    roundHalfEven (n * den) den = n := by
  have hrest : 2 * (n * den % den) < den := by
    rw [Nat.mul_mod_left, Nat.mul_zero]
    exact h
  unfold roundHalfEven
  rw [if_pos hrest, Nat.mul_div_cancel n h]

/-- A common factor of numerator and denominator does not matter. -/
theorem roundHalfEven_mul_mul {factor : Nat} (h : 0 < factor) (num den : Nat) :
    roundHalfEven (num * factor) (den * factor) = roundHalfEven num den := by
  have hlt (a b : Nat) : a * factor < b * factor ↔ a < b := Nat.mul_lt_mul_right h
  unfold roundHalfEven
  simp only [Nat.mul_div_mul_right num den h, Nat.mul_mod_mul_right, ← Nat.mul_assoc, hlt]

/-- The value of the double nearest to a natural number, if there were doubles of any size: the
number cut to 53 binary digits and rounded. -/
def nearest (n : Nat) : Nat :=
  roundHalfEven n (twoTo (bitLength n - 53)) * twoTo (bitLength n - 53)

/-- A number is not rounded if all digits after the first 53 are zeros. -/
theorem nearest_eq_self_iff {n : Nat} : nearest n = n ↔ twoTo (bitLength n - 53) ∣ n := by
  constructor
  · intro h
    have hdvd : twoTo (bitLength n - 53) ∣ nearest n := Nat.dvd_mul_left _ _
    rwa [h] at hdvd
  · rintro ⟨significand, h⟩
    rw [Nat.mul_comm] at h
    rw [nearest]
    -- the number is rewritten where it is rounded, not in the count of its digits
    generalize twoTo (bitLength n - 53) = cut, twoTo_pos (bitLength n - 53) = hcut at h ⊢
    rw [h, roundHalfEven_mul hcut]

/-- A number of at most 53 binary digits is not rounded. -/
theorem nearest_of_bitLength_le {n : Nat} (h : bitLength n ≤ 53) : nearest n = n := by
  rw [nearest_eq_self_iff, Nat.sub_eq_zero_of_le h]
  exact Nat.one_dvd n

/-- Zeros after a number stay after it when it is rounded. -/
theorem nearest_mul_twoTo (n k : Nat) : nearest (n * twoTo k) = nearest n * twoTo k := by
  rcases Nat.eq_zero_or_pos n with rfl | hpos
  · rw [Nat.zero_mul, nearest_of_bitLength_le (by decide), Nat.zero_mul]
  have hlength := bitLength_mul_twoTo (Nat.ne_of_gt hpos) k
  rcases Nat.le_total (bitLength n) 53 with hshort | hlong
  · -- nothing but zeros is cut off
    rw [nearest_of_bitLength_le hshort, nearest_eq_self_iff, hlength]
    exact Nat.dvd_mul_left_of_dvd (Nat.pow_dvd_pow 2 (by omega)) n
  · have hcut : bitLength (n * twoTo k) - 53 = bitLength n - 53 + k := by omega
    rw [nearest, hcut, twoTo_add, roundHalfEven_mul_mul (twoTo_pos k), nearest, Nat.mul_assoc]

/-- A magnitude becomes the finite double nearest to it, unless it is beyond all of them. -/
theorem ofScaled_eq_finite {scaled : Nat} (h : bitLength scaled - 53 < maxExponent)
    (negative : Bool) :
    ∃ significand exponent, ofScaled negative scaled 1 = .finite negative significand exponent ∧
      significand * twoTo exponent = nearest scaled := by
  unfold ofScaled nearest
  simp only [Nat.div_one, Nat.one_mul]
  generalize bitLength scaled - 53 = exponent at h ⊢
  by_cases hcarry : roundHalfEven scaled (twoTo exponent) = twoTo 53
  · -- rounded up to one digit more, the significand is cut once again
    rw [if_pos hcarry, if_neg (Nat.not_lt.mpr h), hcarry]
    refine ⟨_, _, rfl, ?_⟩
    rw [Nat.add_comm, twoTo_add, ← Nat.mul_assoc, ← twoTo_add]
  · rw [if_neg hcarry, if_neg (Nat.not_lt.mpr (Nat.le_of_lt h))]
    exact ⟨_, _, rfl, rfl⟩

/-- A double made of a natural number is the nearest one. -/
theorem whole?_ofNat {n : Nat} (h : n < twoTo 1023) : (ofNat n).whole? = some (nearest n) := by
  have hunit : unit = twoTo 1074 := rfl
  have hpos : 0 < unit := twoTo_pos 1074
  have hsize : bitLength (n * unit) - 53 < maxExponent := by
    have hlt : n * unit < twoTo (1023 + 1074) := by
      rw [twoTo_add, hunit]
      exact Nat.mul_lt_mul_of_pos_right h (twoTo_pos 1074)
    exact Nat.lt_of_le_of_lt (Nat.sub_le_sub_right (bitLength_le hlt) 53) (by decide)
  rcases ofScaled_eq_finite hsize false with ⟨significand, exponent, hfinite, hvalue⟩
  rw [hunit, nearest_mul_twoTo, ← hunit] at hvalue
  rw [ofNat, ofRatio, hfinite, whole?, hvalue]
  generalize unit = one at hpos ⊢
  simp only [Nat.mul_mod_left, Nat.mul_div_cancel _ hpos, true_or, and_self, if_true]

end GameShelf.Binary64
