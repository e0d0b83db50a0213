import GameShelf.Calendar.Reader

/-!
# Numbers in dates

Numbers are written in decimal digits that are filled up to a width, and come back from them
wherever the digits end.

* `digitsValue_padded`: the number of filled up digits.
* `length_padded`: as many digits as asked for, if they suffice.
* `longNumber?_append`, `shortNumber?_append`: digits are read up to where they end.
* `fixedNumber?_eq_some_iff`, `shortNumber?_full`: or up to a width, whatever comes next.
-/

namespace GameShelf.Calendar

open Date (padded)

/-! ## Writing -/

theorem digitsValue_eq (digits : List Char) :
    digitsValue digits = Nat.ofDigitChars 10 digits 0 := by
  unfold digitsValue Nat.ofDigitChars
  congr 1
  funext n c
  rw [Nat.mul_comm]

/-- Zeros in front do not count. -/
theorem digitsValue_padded (width n : Nat) : digitsValue (padded width n) = n := by
  rw [digitsValue_eq, padded, Nat.ofDigitChars_append, Nat.ofDigitChars_replicate_zero,
    Nat.mul_zero, Nat.ofDigitChars_ten_toDigits]

theorem isDigit_of_mem_padded {width n : Nat} {c : Char} (h : c ∈ padded width n) :
    c.isDigit = true := by
  rcases List.mem_append.mp h with hzero | hdigit
  · rw [List.eq_of_mem_replicate hzero]
    rfl
  · exact Nat.isDigit_of_mem_toDigits (by decide) (by decide) hdigit

theorem padded_ne_nil (width n : Nat) : padded width n ≠ [] := by
  intro h
  exact Nat.toDigits_ne_nil (List.append_eq_nil_iff.mp h).2

/-- A number is filled up to the width if it does not need more. -/
theorem length_padded {width n : Nat} (h : (Nat.toDigits 10 n).length ≤ width) :
    (padded width n).length = width := by
  rw [padded, List.length_append, List.length_replicate]
  omega

/-! ## Reading -/

/-- Where digits end. -/
def NoDigitFirst (rest : List Char) : Prop :=
  ∀ c ∈ rest.head?, c.isDigit = false

theorem noDigitFirst_nil : NoDigitFirst [] := nofun

theorem noDigitFirst_cons {c : Char} (h : c.isDigit = false) (rest : List Char) :
    NoDigitFirst (c :: rest) := by
  intro other hother
  rw [← Option.some.inj hother]
  exact h

section

variable {digits rest : List Char} (hdigits : ∀ c ∈ digits, c.isDigit = true)
  (hrest : NoDigitFirst rest)

include hdigits hrest

/-- Leading digits go up to where they end. -/
theorem takeWhile_isDigit_append : (digits ++ rest).takeWhile Char.isDigit = digits := by
  have hnone : rest.takeWhile Char.isDigit = [] := by
    cases rest with
    | nil => rfl
    | cons c rest =>
      have hother : c.isDigit = false := hrest c rfl
      exact List.takeWhile_cons_of_neg (by rw [hother]; exact Bool.false_ne_true)
  rw [List.takeWhile_append_of_pos hdigits, hnone, List.append_nil]

theorem longNumber?_append (hne : digits ≠ []) :
    longNumber? (digits ++ rest) = some (digitsValue digits, rest) := by
  simp only [longNumber?, takeWhile_isDigit_append hdigits hrest, List.drop_left]
  exact if_neg hne

theorem shortNumber?_append {most : Nat} (hne : digits ≠ []) (hlength : digits.length ≤ most) :
    shortNumber? most (digits ++ rest) = some (digitsValue digits, rest) := by
  -- what is left of the rest still begins with no digit
  have hcut : NoDigitFirst (rest.take (most - digits.length)) := by
    intro c hc
    rw [List.head?_take] at hc
    split at hc
    · exact absurd hc (by simp)
    · exact hrest c hc
  simp only [shortNumber?, List.take_append, List.take_of_length_le hlength,
    takeWhile_isDigit_append hdigits hcut, List.drop_left]
  exact if_neg hne

end

section

variable {digits rest : List Char}

/-- A number at its full width is that many digits, with whatever comes next. -/
theorem fixedNumber?_eq_some_iff {count n : Nat} {text : List Char} :
    fixedNumber? count text = some (n, rest) ↔
      ∃ digits, digits.length = count ∧ (∀ c ∈ digits, c.isDigit = true) ∧
        text = digits ++ rest ∧ digitsValue digits = n := by
  simp only [fixedNumber?]
  constructor
  · intro h
    split at h
    · rename_i hdigits
      rcases Prod.mk.inj (Option.some.inj h) with ⟨hvalue, rfl⟩
      exact ⟨text.take count, hdigits.1, List.all_eq_true.mp hdigits.2,
        (List.take_append_drop count text).symm, hvalue⟩
    · exact absurd h (by simp)
  · rintro ⟨digits, rfl, hdigits, rfl, rfl⟩
    rw [List.take_left, List.drop_left]
    exact if_pos ⟨rfl, List.all_eq_true.mpr hdigits⟩

/-- A number at its full width is also read as one of at most as many digits. -/
theorem shortNumber?_full (hdigits : ∀ c ∈ digits, c.isDigit = true) (hne : digits ≠ []) :
    shortNumber? digits.length (digits ++ rest) = some (digitsValue digits, rest) := by
  have hwhole : digits.takeWhile Char.isDigit = digits := by
    have h := takeWhile_isDigit_append hdigits noDigitFirst_nil
    rwa [List.append_nil] at h
  simp only [shortNumber?, List.take_left, hwhole, List.drop_left]
  exact if_neg hne

end

end GameShelf.Calendar
