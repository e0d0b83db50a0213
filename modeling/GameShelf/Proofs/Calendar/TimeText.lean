import GameShelf.Proofs.Calendar.DayText

/-!
# Points in time are read as they are written

A written point in time follows the strict grammar if its year has four digits, and is then read as
itself, to the nanosecond and with its leap second. A year of another length comes with a sign. Only
the lenient grammars have that, and they stop before the final letter.

* `fraction?_fractionChars`, `timeOfDay?_clockChars`: the parts.
* `strict?_chars`: a year of four digits.
* `timestamp?_chars_eq_none`: any other one.
* `Timestamp.ofText?_text_iff`: both together.
-/

namespace GameShelf

open Calendar
open Date (padded yearChars)

/-! ## Times of day -/

theorem TimeOfDay.of?_eq (time : TimeOfDay) :
    of? time.hour time.minute time.second time.nano = some time :=
  dif_pos ⟨time.hour_lt, time.minute_lt, time.second_le, time.nano_lt⟩

/-- A clock without an offset shows the time in UTC. -/
theorem Timestamp.ofLocal?_zero (t : Timestamp) : ofLocal? t.date t.time 0 = some t := by
  rcases t with ⟨date, hour, minute, second, nano, hhour, hminute, hsecond, hnano⟩
  have hpos : ¬ (hour : Int) * 60 + minute - 0 < 0 := by omega
  have hlt : (hour : Int) * 60 + minute - 0 < 1440 := by omega
  have hnat : ((hour : Int) * 60 + minute - 0).toNat = hour * 60 + minute := by omega
  have hours : (hour * 60 + minute) / 60 % 24 = hour := by omega
  have minutes : (hour * 60 + minute) % 60 = minute := by omega
  simp only [ofLocal?, if_neg hpos, if_pos hlt, hnat, atMinute, hours, minutes]

/-- The written form of a time of day in UTC. -/
def TimeOfDay.clockChars (time : TimeOfDay) : List Char :=
  padded 2 time.hour ++ ':' :: (padded 2 time.minute ++ ':' ::
    (padded 2 time.second ++ (Timestamp.fractionChars time.nano ++ ['Z'])))

theorem Timestamp.chars_eq (t : Timestamp) :
    t.chars = t.date.chars ++ 'T' :: t.time.clockChars := by
  simp only [chars, TimeOfDay.clockChars, List.append_assoc, List.cons_append]

namespace Calendar

/-! ## Numbers at their full width -/

theorem length_padded_of_lt {width n : Nat} (hwidth : width ≠ 0) (h : n < Nat.pow 10 width) :
    (padded width n).length = width :=
  length_padded ((Nat.length_toDigits_le_iff (by decide) (Nat.pos_of_ne_zero hwidth)).mpr h)

/-- A number that is filled up to the width is read, with whatever comes next. -/
theorem fixedNumber?_padded {width n : Nat} (hwidth : width ≠ 0) (h : n < Nat.pow 10 width)
    (rest : List Char) : fixedNumber? width (padded width n ++ rest) = some (n, rest) :=
  fixedNumber?_eq_some_iff.mpr
    ⟨padded width n, length_padded_of_lt hwidth h, fun _ => isDigit_of_mem_padded, rfl,
      digitsValue_padded width n⟩

/-- Where no digit comes first there is no number. -/
theorem fixedNumber?_of_noDigitFirst {count : Nat} {text : List Char} (hcount : count ≠ 0)
    (h : NoDigitFirst text) : fixedNumber? count text = none := by
  rw [Option.eq_none_iff_forall_ne_some]
  rintro ⟨n, rest⟩ hread
  rcases fixedNumber?_eq_some_iff.mp hread with ⟨digits, hlength, hdigits, rfl, -⟩
  cases digits with
  | nil => exact hcount hlength.symm
  | cons first others =>
    have hdigit := hdigits first List.mem_cons_self
    rw [h first rfl] at hdigit
    exact absurd hdigit Bool.false_ne_true

/-! ## Fractions -/

/-- Digits after the point count units that depend on how many there are. -/
theorem nanos?_padded {width n unit : Nat} {rest : List Char} (hwidth : width ≠ 0)
    (hnine : width ≤ 9) (h : n < Nat.pow 10 width) (hunit : Nat.pow 10 (9 - width) = unit)
    (hrest : NoDigitFirst rest) : nanos? (padded width n ++ rest) = some (n * unit, rest) := by
  have hlength := length_padded_of_lt hwidth h
  have hdigits : ∀ c ∈ padded width n, c.isDigit = true := fun _ => isDigit_of_mem_padded
  have hkept : (padded width n).take 9 = padded width n :=
    List.take_of_length_le (by rw [hlength]; exact hnine)
  have hvalue : digitsValue (padded width n ++ List.replicate (9 - width) '0') = n * unit := by
    have hzeros := @Nat.ofDigitChars_replicate_zero 10 n (9 - width)
    rw [digitsValue_eq, Nat.ofDigitChars_append, ← digitsValue_eq, digitsValue_padded, hzeros,
      Nat.mul_comm, ← hunit]
    rfl
  have hdrop : (padded width n ++ rest).drop width = rest := List.drop_left' hlength
  simp only [nanos?, takeWhile_isDigit_append hdigits hrest, if_neg (padded_ne_nil width n), hkept,
    hlength, hvalue, hdrop]

/-- A written fraction is read as the nanoseconds that it stands for. -/
theorem fraction?_fractionChars {nano : Nat} (h : nano < nanosPerSecond) :
    fraction? (Timestamp.fractionChars nano ++ ['Z']) = some (nano, ['Z']) := by
  have hrest : NoDigitFirst ['Z'] := noDigitFirst_cons rfl []
  unfold nanosPerSecond at h
  unfold Timestamp.fractionChars
  split
  · rename_i hzero
    rw [hzero]
    rfl
  · split
    · rename_i hmilli
      have hlt : nano / nanosPerMilli < Nat.pow 10 3 := Nat.div_lt_of_lt_mul h
      have hunit : Nat.pow 10 (9 - 3) = nanosPerMilli := rfl
      rw [List.cons_append, fraction?, nanos?_padded (by decide) (by decide) hlt hunit hrest,
        Nat.div_mul_cancel (Nat.dvd_of_mod_eq_zero hmilli)]
    · split
      · rename_i hmicro
        have hlt : nano / nanosPerMicro < Nat.pow 10 6 := Nat.div_lt_of_lt_mul h
        have hunit : Nat.pow 10 (9 - 6) = nanosPerMicro := rfl
        rw [List.cons_append, fraction?, nanos?_padded (by decide) (by decide) hlt hunit hrest,
          Nat.div_mul_cancel (Nat.dvd_of_mod_eq_zero hmicro)]
      · have hunit : Nat.pow 10 (9 - 9) = 1 := rfl
        rw [List.cons_append, fraction?, nanos?_padded (by decide) (by decide) h hunit hrest,
          Nat.mul_one]

/-- What comes after the seconds is no digit. -/
theorem noDigitFirst_fractionChars (nano : Nat) :
    NoDigitFirst (Timestamp.fractionChars nano ++ ['Z']) := by
  unfold Timestamp.fractionChars
  split
  · exact noDigitFirst_cons rfl _
  · split
    · exact noDigitFirst_cons rfl _
    · split
      · exact noDigitFirst_cons rfl _
      · exact noDigitFirst_cons rfl _

/-- The lenient grammars read a written time of day up to its final letter. -/
theorem timeOfDay?_clockChars (time : TimeOfDay) :
    timeOfDay? time.clockChars = some (time, ['Z']) := by
  have hhour : time.hour < 100 := Nat.lt_trans time.hour_lt (by decide)
  have hminute : time.minute < 100 := Nat.lt_trans time.minute_lt (by decide)
  have hsecond : time.second < 100 := Nat.lt_of_le_of_lt time.second_le (by decide)
  have hcolon (rest : List Char) : NoDigitFirst (':' :: rest) := noDigitFirst_cons rfl rest
  simp only [timeOfDay?, TimeOfDay.clockChars, twoDigits?_padded hhour (hcolon _),
    twoDigits?_padded hminute (hcolon _),
    twoDigits?_padded hsecond (noDigitFirst_fractionChars time.nano), literal?, if_true,
    fraction?_fractionChars time.nano_lt, TimeOfDay.of?_eq, Option.bind_eq_bind, Option.bind_some]
  rfl

/-! ## Years of four digits -/

/-- A point in time whose year has four digits is written in the strict grammar. -/
theorem strict?_chars {t : Timestamp} (h : 0 ≤ t.date.year ∧ t.date.year ≤ 9999) :
    strict? t.chars = some t := by
  have hyear : t.date.year.natAbs < 10000 := by omega
  have hhour : t.time.hour < 100 := Nat.lt_trans t.time.hour_lt (by decide)
  have hminute : t.time.minute < 100 := Nat.lt_trans t.time.minute_lt (by decide)
  have hsecond : t.time.second < 100 := Nat.lt_of_le_of_lt t.time.second_le (by decide)
  have htwo {n : Nat} (hn : n < 100) (rest : List Char) :
      fixedNumber? 2 (padded 2 n ++ rest) = some (n, rest) :=
    fixedNumber?_padded (by decide) hn rest
  have hparts : t.chars = padded 4 t.date.year.natAbs ++ '-' :: (padded 2 t.date.month ++
      '-' :: (padded 2 t.date.day ++ 'T' :: t.time.clockChars)) := by
    simp only [Timestamp.chars_eq, Date.chars, yearChars, if_pos h, List.append_assoc,
      List.cons_append]
  have hdate : Date.of? (t.date.year.natAbs : Int) t.date.month t.date.day = some t.date := by
    rw [Int.natAbs_of_nonneg h.1, Date.of?_eq]
  rw [hparts]
  -- number by number, each with the rest of the text after it
  refine Option.bind_eq_some_iff.mpr ⟨_, fixedNumber?_padded (by decide) hyear _, ?_⟩
  refine Option.bind_eq_some_iff.mpr ⟨_, rfl, ?_⟩
  refine Option.bind_eq_some_iff.mpr ⟨_, htwo t.date.month_lt _, ?_⟩
  refine Option.bind_eq_some_iff.mpr ⟨_, rfl, ?_⟩
  refine Option.bind_eq_some_iff.mpr ⟨_, htwo t.date.day_lt _, ?_⟩
  refine Option.bind_eq_some_iff.mpr ⟨_, rfl, ?_⟩
  refine Option.bind_eq_some_iff.mpr ⟨_, htwo hhour _, ?_⟩
  refine Option.bind_eq_some_iff.mpr ⟨_, rfl, ?_⟩
  refine Option.bind_eq_some_iff.mpr ⟨_, htwo hminute _, ?_⟩
  refine Option.bind_eq_some_iff.mpr ⟨_, rfl, ?_⟩
  refine Option.bind_eq_some_iff.mpr ⟨_, htwo hsecond _, ?_⟩
  refine Option.bind_eq_some_iff.mpr ⟨_, fraction?_fractionChars t.time.nano_lt, ?_⟩
  refine Option.bind_eq_some_iff.mpr ⟨(0, []), rfl, ?_⟩
  refine Option.bind_eq_some_iff.mpr ⟨_, hdate, ?_⟩
  exact Option.bind_eq_some_iff.mpr ⟨_, t.time.of?_eq, (if_pos rfl).trans t.ofLocal?_zero⟩

/-! ## Other years -/

theorem noDigitFirst_yearChars {year : Int} (h : ¬ (0 ≤ year ∧ year ≤ 9999)) (rest : List Char) :
    NoDigitFirst (yearChars year ++ rest) := by
  rw [yearChars, if_neg h, List.cons_append]
  apply noDigitFirst_cons
  split
  · rfl
  · rfl

/-- A point in time whose year has a sign is written in no grammar. -/
theorem timestamp?_chars_eq_none {t : Timestamp} (h : ¬ (0 ≤ t.date.year ∧ t.date.year ≤ 9999)) :
    timestamp? t.chars = none := by
  have hstrict : strict? t.chars = none := by
    have hfirst : NoDigitFirst t.chars := by
      rw [Timestamp.chars_eq, Date.chars, List.append_assoc, List.append_assoc]
      exact noDigitFirst_yearChars h _
    rw [strict?, fixedNumber?_of_noDigitFirst (by decide) hfirst]
    rfl
  have hday : day? t.chars = some (t.date, 'T' :: t.time.clockChars) := by
    rw [Timestamp.chars_eq]
    exact day?_chars t.date (noDigitFirst_cons rfl _)
  have hblanks : lenient? (fun rest => some (Text.dropBlanks rest)) t.chars = none := by
    rw [lenient?, hday]
    rfl
  -- the final letter is left over
  have hletter : lenient? (literal? 'T') t.chars = none := by
    simp only [lenient?, hday, literal?, if_true, timeOfDay?_clockChars, Option.bind_eq_bind,
      Option.bind_some]
    rfl
  have hbare : bareDay? t.chars = none := by
    rw [bareDay?, hday]
    rfl
  rw [timestamp?, hstrict, hblanks, hletter, hbare]
  rfl

end Calendar

namespace Timestamp

/-- A written point in time begins and ends with what is no blank. -/
theorem trimChars_chars (t : Timestamp) : Text.trimChars t.chars = t.chars := by
  apply Text.trimChars_eq_self
  · rw [chars_eq]
    exact t.date.isBlank_of_head?_chars _
  · intro c hc
    rw [chars, List.getLast?_append, List.getLast?_singleton, Option.some_or] at hc
    rw [← Option.some.inj hc]
    rfl

/-- A point in time is read as it is written if and only if its year has four digits. So what was
read from any text and written is read as the same again. -/
theorem ofText?_text_iff (t : Timestamp) :
    ofText? t.text = some t ↔ 0 ≤ t.date.year ∧ t.date.year ≤ 9999 := by
  rw [ofText?, text, String.toList_ofList, trimChars_chars]
  constructor
  · intro hread
    by_contra hyear
    rw [timestamp?_chars_eq_none hyear] at hread
    exact absurd hread (by simp)
  · intro hyear
    rw [timestamp?, strict?_chars hyear]
    rfl

end Timestamp

end GameShelf
