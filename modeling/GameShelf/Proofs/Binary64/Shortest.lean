import GameShelf.Binary64.Shortest

/-!
# The digits of a double

The shortest digits of a magnitude that is not zero are a proper numeral: there are some, all of
them decimal, and the first is not zero.

* `IsNumeral`: what that means.
* `isNumeral_toDigits`: the digits of a positive number are so.
* `isNumeral_shortest`: the shortest digits are so.
-/

namespace GameShelf.Binary64

/-- Decimal digits of which the first is not zero. -/
def IsNumeral (digits : List Char) : Prop :=
  (∀ c ∈ digits, c.isDigit = true) ∧ ∃ first others, digits = first :: others ∧ first ≠ '0'

theorem isNumeral_toDigits {n : Nat} (h : 0 < n) : IsNumeral (Nat.toDigits 10 n) := by
  refine ⟨fun c hc => Nat.isDigit_of_mem_toDigits (by decide) (by decide) hc, ?_⟩
  -- by induction on the number without its last digit
  induction n using Nat.strongRecOn with
  | ind n ih =>
    rcases Nat.lt_or_ge n 10 with hsmall | hlarge
    · rw [Nat.toDigits_of_lt_base hsmall]
      refine ⟨_, [], rfl, ?_⟩
      rw [Ne, Nat.digitChar_eq_zero]
      omega
    · rw [Nat.toDigits_of_base_le (by decide) hlarge]
      rcases ih (n / 10) (by omega) (by omega) with ⟨first, others, hdigits, hfirst⟩
      rw [hdigits]
      exact ⟨first, _, List.cons_append, hfirst⟩

/-- Zeros at the end may go. -/
theorem IsNumeral.trim {digits : List Char} (h : IsNumeral digits) :
    IsNumeral (digits.reverse.dropWhile (· == '0')).reverse := by
  rcases h with ⟨hdigits, first, others, rfl, hfirst⟩
  constructor
  · intro c hc
    have hmem := (List.dropWhile_sublist _).subset (List.mem_reverse.mp hc)
    exact hdigits c (List.mem_reverse.mp hmem)
  · have hkeep : [first].dropWhile (· == '0') = [first] := by
      rw [List.dropWhile, beq_false_of_ne hfirst]
    rw [List.reverse_cons, List.dropWhile_append]
    split
    · rw [hkeep]
      exact ⟨first, [], rfl, hfirst⟩
    · rw [List.reverse_append]
      exact ⟨first, _, rfl, hfirst⟩

theorem isNumeral_ofGrid {n : Nat} (h : 0 < n) (point : Int) (count : Nat) :
    IsNumeral (Decimal.ofGrid point count n).digits :=
  (isNumeral_toDigits h).trim

/-! ## Points of the grid -/

theorem interval_low_pos {significand : Nat} (h : 0 < significand) (exponent : Nat) :
    0 < (interval significand exponent).low := by
  have hstep : 0 < twoTo exponent := Nat.pow_pos (by decide)
  refine Nat.mul_pos ?_ hstep
  split
  · omega
  · omega

theorem Interval.onGrid_low_pos {i : Interval} (h : 0 < i.low) (point : Int) (count : Nat) :
    0 < (i.onGrid point count).low := by
  unfold onGrid
  split
  · exact h
  · exact Nat.mul_pos h (Nat.pow_pos (by decide))

/-- Zero does not read back as a positive magnitude. -/
theorem Interval.pos_of_contains {i : Interval} (h : 0 < i.low) {n : Nat}
    (hn : i.contains n = true) : 0 < n := by
  rcases Nat.eq_zero_or_pos n with rfl | hpos
  · unfold contains at hn
    split at hn
    · simp only [Nat.zero_mul, Bool.and_eq_true, decide_eq_true_eq] at hn
      omega
    · simp only [Nat.zero_mul, Bool.and_eq_true, decide_eq_true_eq] at hn
      omega
  · exact hpos

theorem Interval.nearer_pos (i : Interval) (tie : Tie) {n : Nat} (h : 0 < n) :
    0 < i.nearer tie n := by
  unfold nearer
  cases tie with
  | toEven =>
    simp only
    repeat' split
    all_goals omega
  | upward =>
    simp only
    repeat' split
    all_goals omega

/-- The chosen point of the grid is not zero. -/
theorem Interval.pos_of_choose? {i : Interval} (h : 0 < i.low) {tie : Tie} {n : Nat}
    (hn : i.choose? tie = some n) : 0 < n := by
  simp only [choose?] at hn
  split at hn
  · rename_i hbelow _
    obtain rfl := Option.some.inj hn
    exact i.nearer_pos tie (pos_of_contains h hbelow)
  · rename_i hbelow _
    obtain rfl := Option.some.inj hn
    exact pos_of_contains h hbelow
  · obtain rfl := Option.some.inj hn
    exact Nat.succ_pos _
  · exact absurd hn (by simp)

/-- The shortest digits of a magnitude that is not zero are a numeral. -/
theorem isNumeral_shortest (tie : Tie) {significand : Nat} (h : 0 < significand)
    (exponent : Nat) : IsNumeral (shortest tie significand exponent).digits := by
  have hlow := interval_low_pos h exponent
  simp only [shortest]
  generalize hfound : List.findSome? _ (List.range' 1 maxDigits) = found
  cases found with
  | none => exact isNumeral_ofGrid (Nat.succ_pos _) _ _
  | some decimal =>
    rcases List.exists_of_findSome?_eq_some hfound with ⟨count, -, hcandidate⟩
    rcases Option.map_eq_some_iff.mp hcandidate with ⟨n, hn, rfl⟩
    exact isNumeral_ofGrid (Interval.pos_of_choose? (Interval.onGrid_low_pos hlow _ _) hn) _ _

end GameShelf.Binary64
