import GameShelf.Proofs.Calendar.Digits
import GameShelf.Proofs.Text.Trim

/-!
# Days are read as they are written

A written day is one of the texts that stand for it, whatever its year. A year of four digits is
read to the end of them; every other one has a sign, and is read to where its digits end.

* `year?_yearChars`, `twoDigits?_padded`, `day?_chars`: the parts, with anything after them but a
  digit.
* `Date.ofText?_text`: the whole day.
-/

namespace GameShelf

open Calendar (NoDigitFirst noDigitFirst_nil noDigitFirst_cons)
open Date (padded yearChars)

namespace Calendar

/-! ## Parts of a day -/

/-- Digits that are filled up begin with one. -/
theorem exists_padded_eq_cons (width n : Nat) :
    ∃ first others, padded width n = first :: others ∧ first.isDigit = true := by
  rcases List.exists_cons_of_ne_nil (padded_ne_nil width n) with ⟨first, others, hcons⟩
  refine ⟨first, others, hcons, isDigit_of_mem_padded (hcons ▸ List.mem_cons_self)⟩

/-- Before a digit there is nothing to drop. -/
theorem dropBlanks_digit {first : Char} (h : first.isDigit = true) (rest : List Char) :
    Text.dropBlanks (first :: rest) = first :: rest := by
  apply Text.dropBlanks_eq_self
  intro c hc
  rw [← Option.some.inj hc]
  exact Text.isBlank_of_isDigit h

theorem dropBlanks_padded (width n : Nat) (rest : List Char) :
    Text.dropBlanks (padded width n ++ rest) = padded width n ++ rest := by
  rcases exists_padded_eq_cons width n with ⟨first, others, hcons, hdigit⟩
  rw [hcons, List.cons_append, dropBlanks_digit hdigit]

theorem longNumber?_padded {width n : Nat} {rest : List Char} (hrest : NoDigitFirst rest) :
    longNumber? (padded width n ++ rest) = some (n, rest) := by
  rw [longNumber?_append (fun _ => isDigit_of_mem_padded) hrest (padded_ne_nil width n),
    digitsValue_padded]

theorem shortNumber?_padded {width n : Nat} {rest : List Char}
    (h : (Nat.toDigits 10 n).length ≤ width) (hrest : NoDigitFirst rest) :
    shortNumber? width (padded width n ++ rest) = some (n, rest) := by
  rw [shortNumber?_append (fun _ => isDigit_of_mem_padded) hrest (padded_ne_nil width n)
    (Nat.le_of_eq (length_padded h)), digitsValue_padded]

theorem twoDigits?_padded {n : Nat} {rest : List Char} (h : n < 100) (hrest : NoDigitFirst rest) :
    twoDigits? (padded 2 n ++ rest) = some (n, rest) := by
  have hlength : (Nat.toDigits 10 n).length ≤ 2 :=
    (Nat.length_toDigits_le_iff (by decide) (by decide)).mpr h
  rw [twoDigits?, dropBlanks_padded]
  exact shortNumber?_padded hlength hrest

/-- Digits without a sign are a year of up to four digits. -/
theorem year?_unsigned {first : Char} (h : first.isDigit = true) (rest : List Char) :
    year? (first :: rest) =
      (shortNumber? 4 (first :: rest)).map fun (n, rest) => ((n : Int), rest) := by
  unfold year?
  rw [dropBlanks_digit h]
  split
  · rename_i hminus
    rw [(List.cons.inj hminus).1] at h
    exact absurd h (by decide)
  · rename_i hplus
    rw [(List.cons.inj hplus).1] at h
    exact absurd h (by decide)
  · rfl

/-- After a sign all digits are those of the year. -/
theorem year?_minus (rest : List Char) :
    year? ('-' :: rest) = (longNumber? rest).map fun (n, rest) => (-(n : Int), rest) := rfl

theorem year?_plus (rest : List Char) :
    year? ('+' :: rest) = (longNumber? rest).map fun (n, rest) => ((n : Int), rest) := rfl

/-- A written year is read. -/
theorem year?_yearChars (year : Int) {rest : List Char} (hrest : NoDigitFirst rest) :
    year? (yearChars year ++ rest) = some (year, rest) := by
  have hread : longNumber? (padded 4 year.natAbs ++ rest) = some (year.natAbs, rest) :=
    longNumber?_padded hrest
  unfold yearChars
  split
  · -- four digits without a sign
    rename_i hrange
    have hlt : year.natAbs < 10000 := by omega
    have hlength : (Nat.toDigits 10 year.natAbs).length ≤ 4 :=
      (Nat.length_toDigits_le_iff (by decide) (by decide)).mpr hlt
    have hshort : shortNumber? 4 (padded 4 year.natAbs ++ rest) = some (year.natAbs, rest) :=
      shortNumber?_padded hlength hrest
    have hyear : (year.natAbs : Int) = year := by omega
    rcases exists_padded_eq_cons 4 year.natAbs with ⟨first, others, hcons, hdigit⟩
    rw [hcons, List.cons_append] at hshort ⊢
    rw [year?_unsigned hdigit, hshort]
    exact congrArg (fun year => some (year, rest)) hyear
  · split
    · rename_i hnegative
      have hyear : -(year.natAbs : Int) = year := by omega
      rw [List.cons_append, year?_minus, hread]
      exact congrArg (fun year => some (year, rest)) hyear
    · rename_i hnonnegative
      have hyear : (year.natAbs : Int) = year := by omega
      rw [List.cons_append, year?_plus, hread]
      exact congrArg (fun year => some (year, rest)) hyear

end Calendar

/-! ## Days -/

namespace Date

theorem of?_eq (d : Date) : of? d.year d.month d.day = some d :=
  dif_pos d.isDay

theorem month_lt (d : Date) : d.month < 100 :=
  Nat.lt_of_le_of_lt d.isDay.month_le (by decide)

/-- No month has more than 31 days. -/
theorem day_lt (d : Date) : d.day < 100 := by
  have hle := d.isDay.day_le
  unfold daysIn at hle
  split at hle
  · split at hle
    · omega
    · omega
  · split at hle
    · omega
    · omega

end Date

namespace Calendar

/-- A written day is read. -/
theorem day?_chars (d : Date) {rest : List Char} (hrest : NoDigitFirst rest) :
    day? (d.chars ++ rest) = some (d, rest) := by
  have hparts : d.chars ++ rest =
      yearChars d.year ++ '-' :: (padded 2 d.month ++ '-' :: (padded 2 d.day ++ rest)) := by
    simp only [Date.chars, List.append_assoc, List.cons_append]
  have hyear := year?_yearChars d.year
    (noDigitFirst_cons (c := '-') rfl (padded 2 d.month ++ '-' :: (padded 2 d.day ++ rest)))
  have hmonth := twoDigits?_padded d.month_lt
    (noDigitFirst_cons (c := '-') rfl (padded 2 d.day ++ rest))
  have hday := twoDigits?_padded d.day_lt hrest
  rw [hparts]
  simp only [day?, hyear, hmonth, hday, literal?, if_true, Option.bind_eq_bind, Option.bind_some,
    Date.of?_eq]
  rfl

theorem bareDay?_chars (d : Date) : bareDay? d.chars = some d := by
  have hday := day?_chars d noDigitFirst_nil
  rw [List.append_nil] at hday
  rw [bareDay?, hday]
  rfl

end Calendar

namespace Date

/-- A written year begins with a sign or a digit. -/
theorem exists_yearChars_eq_cons (year : Int) :
    ∃ first others, yearChars year = first :: others ∧ Text.isBlank first = false := by
  unfold yearChars
  split
  · rcases Calendar.exists_padded_eq_cons 4 year.natAbs with ⟨first, others, hcons, hdigit⟩
    exact ⟨first, others, hcons, Text.isBlank_of_isDigit hdigit⟩
  · refine ⟨_, _, rfl, ?_⟩
    split
    · rfl
    · rfl

/-- So what begins with a written day does not begin with a blank. -/
theorem isBlank_of_head?_chars (d : Date) (rest : List Char) :
    ∀ c ∈ (d.chars ++ rest).head?, Text.isBlank c = false := by
  rcases exists_yearChars_eq_cons d.year with ⟨first, others, hcons, hblank⟩
  intro c hc
  rw [chars, hcons, List.append_assoc, List.append_assoc, List.cons_append, List.head?_cons] at hc
  rw [← Option.some.inj hc]
  exact hblank

/-- A written day begins and ends with what is no blank. -/
theorem trimChars_chars (d : Date) : Text.trimChars d.chars = d.chars := by
  apply Text.trimChars_eq_self
  · have hfirst := isBlank_of_head?_chars d []
    rwa [List.append_nil] at hfirst
  · rcases Option.isSome_iff_exists.mp
      (List.getLast?_isSome.mpr (Calendar.padded_ne_nil 2 d.day)) with ⟨last, hlast⟩
    intro c hc
    rw [chars, List.append_cons, List.getLast?_append, hlast, Option.some_or] at hc
    rw [← Option.some.inj hc]
    exact Text.isBlank_of_isDigit (Calendar.isDigit_of_mem_padded (List.mem_of_getLast? hlast))

/-- A day is read as it is written. -/
theorem ofText?_text (d : Date) : ofText? d.text = some d := by
  rw [ofText?, text, String.toList_ofList, trimChars_chars, Calendar.date?,
    Calendar.bareDay?_chars]
  rfl

end Date

end GameShelf
