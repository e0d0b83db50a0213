import GameShelf.Proofs.Text.Trim
import GameShelf.Text.Whole

/-!
# Whole numbers in decimal digits

The decimal digits of a number are read as that number if it fits into 64 bits.

* `readWholeDigits_eq`: digits are read as the number that they make.
* `readWhole_eq_ok_iff`: which texts are read, and as which number.
* `readWhole_repr`, `trim_repr`: the digits of a number are read as it, and there is no white space
  around them.
* `Padded`: a number in decimal digits, with or without white space around them.
-/

namespace GameShelf.Text

/-! ## Reading -/

/-- Further digits only make a number greater. -/
theorem le_ofDigitChars (digits : List Char) (read : Nat) :
    read ≤ Nat.ofDigitChars 10 digits read := by
  rw [Nat.ofDigitChars_eq_ofDigitChars_zero]
  have hpos : 0 < 10 ^ digits.length := Nat.pow_pos (by decide)
  have hle : read ≤ 10 ^ digits.length * read := Nat.le_mul_of_pos_left read hpos
  omega

/-- Digits are read to the end if the number that they make fits. -/
theorem readWholeDigits_eq {read : Nat} {digits : List Char}
    (hdigits : ∀ c ∈ digits, c.isDigit = true)
    (h : Nat.ofDigitChars 10 digits read < wholeLimit) :
    readWholeDigits read digits = .ok (Nat.ofDigitChars 10 digits read) := by
  induction digits generalizing read with
  | nil => rfl
  | cons c rest ih =>
    rcases List.forall_mem_cons.mp hdigits with ⟨hc, hrest⟩
    rw [Nat.ofDigitChars_cons, Nat.mul_comm] at h ⊢
    have hnext := Nat.lt_of_le_of_lt (le_ofDigitChars rest _) h
    simp only [readWholeDigits, if_pos hc, if_pos hnext]
    exact ih hrest h

/-- Nothing else is read: only digits, and only as the number that they make, if it fits. -/
theorem readWholeDigits_eq_ok_iff {read n : Nat} (hread : read < wholeLimit) {digits : List Char} :
    readWholeDigits read digits = .ok n ↔
      (∀ c ∈ digits, c.isDigit = true) ∧ Nat.ofDigitChars 10 digits read = n ∧ n < wholeLimit := by
  constructor
  · intro h
    induction digits generalizing read with
    | nil =>
      obtain rfl := Except.ok.inj h
      exact ⟨fun _ hmem => absurd hmem List.not_mem_nil, rfl, hread⟩
    | cons c rest ih =>
      simp only [readWholeDigits] at h
      split at h
      · rename_i hc
        split at h
        · rename_i hnext
          rcases ih hnext h with ⟨hrest, hvalue, hfits⟩
          refine ⟨List.forall_mem_cons.mpr ⟨hc, hrest⟩, ?_, hfits⟩
          rw [Nat.ofDigitChars_cons, Nat.mul_comm]
          exact hvalue
        · cases h
      · cases h
  · rintro ⟨hdigits, rfl, hfits⟩
    exact readWholeDigits_eq hdigits hfits

/-- Text of nothing but digits has no sign. -/
theorem readWhole_of_digits {text : String} (hne : text.toList ≠ [])
    (hdigits : ∀ c ∈ text.toList, c.isDigit = true) :
    readWhole text = readWholeDigits 0 text.toList := by
  have hsign : '+' ∉ text.toList := fun hmem => absurd (hdigits '+' hmem) (by decide)
  unfold readWhole
  split
  · rename_i hnil
    exact absurd hnil hne
  · rename_i hplus
    exact absurd (hplus ▸ List.mem_cons_self) hsign
  · rename_i hplus
    exact absurd (hplus ▸ List.mem_cons_self) hsign
  · rfl

/-- A text is read just if it is a plus sign or none and then digits, of a number that fits. -/
theorem readWhole_eq_ok_iff {text : String} {n : Nat} :
    readWhole text = .ok n ↔
      ∃ digits, (text.toList = digits ∨ text.toList = '+' :: digits) ∧ digits ≠ [] ∧
        (∀ c ∈ digits, c.isDigit = true) ∧ Nat.ofDigitChars 10 digits 0 = n ∧ n < wholeLimit := by
  have hlimit : 0 < wholeLimit := by decide
  constructor
  · intro h
    unfold readWhole at h
    split at h
    · cases h
    · cases h
    · rename_i digits hne hsigned
      exact ⟨digits, .inr hsigned, hne, (readWholeDigits_eq_ok_iff hlimit).mp h⟩
    · rename_i hempty _ _
      exact ⟨text.toList, .inl rfl, hempty, (readWholeDigits_eq_ok_iff hlimit).mp h⟩
  · rintro ⟨digits, hsign, hne, hdigits, hvalue, hfits⟩
    have hread : readWholeDigits 0 digits = .ok n :=
      (readWholeDigits_eq_ok_iff hlimit).mpr ⟨hdigits, hvalue, hfits⟩
    rcases hsign with hplain | hsigned
    · rw [← hplain] at hne hdigits hread
      rw [readWhole_of_digits hne hdigits, hread]
    · cases digits with
      | nil => exact absurd rfl hne
      | cons first rest =>
        rw [readWhole, hsigned]
        exact hread

/-! ## The digits of a number -/

theorem isDigit_of_mem_repr {n : Nat} {c : Char} (h : c ∈ n.repr.toList) : c.isDigit = true := by
  rw [Nat.toList_repr] at h
  exact Nat.isDigit_of_mem_toDigits (by decide) (by decide) h

/-- The decimal digits of a number are read as the number. -/
theorem readWhole_repr {n : Nat} (h : n < wholeLimit) : readWhole n.repr = .ok n := by
  have hvalue : Nat.ofDigitChars 10 n.repr.toList 0 = n := by
    rw [Nat.toList_repr, Nat.ofDigitChars_ten_toDigits]
  have hne : n.repr.toList ≠ [] := by
    rw [Nat.toList_repr]
    exact Nat.toDigits_ne_nil
  rw [readWhole_of_digits hne fun _ => isDigit_of_mem_repr,
    readWholeDigits_eq (fun _ => isDigit_of_mem_repr) (by rw [hvalue]; exact h), hvalue]

/-- There is no white space around the decimal digits of a number. -/
theorem trim_repr (n : Nat) : trim n.repr = n.repr := by
  have hblank (c : Char) (hmem : c ∈ n.repr.toList) : isBlank c = false :=
    isBlank_of_isDigit (isDigit_of_mem_repr hmem)
  rw [trim, trimChars_eq_self (fun c hc => hblank c (List.mem_of_mem_head? hc))
    (fun c hc => hblank c (List.mem_of_getLast? hc)), String.ofList_toList]

/-- The decimal digits of a number, with or without white space around them. -/
def Padded (n : Nat) (text : String) : Prop :=
  ∃ before after, text.toList = before ++ n.repr.toList ++ after ∧
    (∀ c ∈ before, isBlank c = true) ∧ ∀ c ∈ after, isBlank c = true

/-- They are read as the number if it fits. -/
theorem Padded.readWhole_trim {n : Nat} {text : String} (h : Padded n text) (hn : n < wholeLimit) :
    readWhole (trim text) = .ok n := by
  rcases h with ⟨before, after, htext, hbefore, hafter⟩
  have htrim : trim text = n.repr := by
    rw [trim, htext, trimChars_padded _ hbefore hafter]
    exact trim_repr n
  rw [htrim, readWhole_repr hn]

end GameShelf.Text
