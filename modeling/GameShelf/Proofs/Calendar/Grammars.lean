import GameShelf.Proofs.Calendar.DayText

/-!
# The grammars of days and times agree

Several grammars are tried, for a day in another order than for a point in time. The order does not
matter: what is a day with nothing after it is no point in time for the other grammars, since each
of them reads the same day first and then goes on.

* `shortNumber?_of_fixedNumber?`: what the strict grammar takes for a number, the lenient ones take
  for it too.
* `exists_day?_of_strict?`: a text in the strict grammar begins with a day and does not end there.
* `timestamp?_of_bareDay?`: a bare day stands for its midnight.
* `Date.ofText?_eq_date`: the day of a text is the day of its point in time.
-/

namespace GameShelf

namespace Calendar

/-! ## Numbers -/

section

variable {count n : Nat} {text rest : List Char}

/-- What the strict grammar takes for a number, the lenient ones take for the same number, with no
white space before it. -/
theorem shortNumber?_of_fixedNumber? (hcount : count ≠ 0)
    (h : fixedNumber? count text = some (n, rest)) :
    shortNumber? count text = some (n, rest) ∧
      ∃ first others, text = first :: others ∧ first.isDigit = true := by
  rcases fixedNumber?_eq_some_iff.mp h with ⟨digits, rfl, hdigits, rfl, rfl⟩
  have hne : digits ≠ [] := fun hnil => hcount (List.length_eq_zero_iff.mpr hnil)
  refine ⟨shortNumber?_full hdigits hne, ?_⟩
  rcases List.exists_cons_of_ne_nil hne with ⟨first, others, rfl⟩
  exact ⟨first, others ++ rest, rfl, hdigits first List.mem_cons_self⟩

theorem year?_of_fixedNumber? (h : fixedNumber? 4 text = some (n, rest)) :
    year? text = some ((n : Int), rest) := by
  rcases shortNumber?_of_fixedNumber? (by decide) h with ⟨hshort, first, others, rfl, hdigit⟩
  rw [year?_unsigned hdigit, hshort]
  rfl

theorem twoDigits?_of_fixedNumber? (h : fixedNumber? 2 text = some (n, rest)) :
    twoDigits? text = some (n, rest) := by
  rcases shortNumber?_of_fixedNumber? (by decide) h with ⟨hshort, first, others, rfl, hdigit⟩
  rw [twoDigits?, dropBlanks_digit hdigit, hshort]

end

/-! ## Days with something after them, and bare days -/

/-- A text in the strict grammar begins with a day, and the character between day and time of day
comes next. -/
theorem exists_day?_of_strict? {text : List Char} {t : Timestamp} (h : strict? text = some t) :
    ∃ date rest, day? text = some (date, rest) ∧ rest ≠ [] := by
  rcases Option.bind_eq_some_iff.mp h with ⟨⟨year, afterYear⟩, hyear, h⟩
  rcases Option.bind_eq_some_iff.mp h with ⟨atMonth, hfirst, h⟩
  rcases Option.bind_eq_some_iff.mp h with ⟨⟨month, afterMonth⟩, hmonth, h⟩
  rcases Option.bind_eq_some_iff.mp h with ⟨atDay, hsecond, h⟩
  rcases Option.bind_eq_some_iff.mp h with ⟨⟨day, afterDay⟩, hday, h⟩
  rcases Option.bind_eq_some_iff.mp h with ⟨atTime, hseparator, h⟩
  -- the time of day and the offset do not matter
  rcases Option.bind_eq_some_iff.mp h with ⟨⟨hour, afterHour⟩, -, h⟩
  rcases Option.bind_eq_some_iff.mp h with ⟨atMinute, -, h⟩
  rcases Option.bind_eq_some_iff.mp h with ⟨⟨minute, afterMinute⟩, -, h⟩
  rcases Option.bind_eq_some_iff.mp h with ⟨atSecond, -, h⟩
  rcases Option.bind_eq_some_iff.mp h with ⟨⟨second, afterSecond⟩, -, h⟩
  rcases Option.bind_eq_some_iff.mp h with ⟨⟨nano, afterNano⟩, -, h⟩
  rcases Option.bind_eq_some_iff.mp h with ⟨⟨offset, left⟩, -, h⟩
  rcases Option.bind_eq_some_iff.mp h with ⟨date, hdate, -⟩
  refine ⟨date, afterDay, ?_, ?_⟩
  · refine Option.bind_eq_some_iff.mpr ⟨_, year?_of_fixedNumber? hyear, ?_⟩
    refine Option.bind_eq_some_iff.mpr ⟨_, hfirst, ?_⟩
    refine Option.bind_eq_some_iff.mpr ⟨_, twoDigits?_of_fixedNumber? hmonth, ?_⟩
    refine Option.bind_eq_some_iff.mpr ⟨_, hsecond, ?_⟩
    refine Option.bind_eq_some_iff.mpr ⟨_, twoDigits?_of_fixedNumber? hday, ?_⟩
    exact Option.bind_eq_some_iff.mpr ⟨date, hdate, rfl⟩
  · rintro rfl
    exact absurd hseparator (by simp [daySeparator?])

theorem bareDay?_eq_some_iff {text : List Char} {date : Date} :
    bareDay? text = some date ↔ day? text = some (date, []) := by
  simp only [bareDay?, Option.bind_eq_bind, Option.bind_eq_some_iff, Prod.exists]
  constructor
  · rintro ⟨found, rest, hday, hfound⟩
    split at hfound
    · rename_i hrest
      rw [hday, hrest, Option.some.inj hfound]
    · exact absurd hfound (by simp)
  · intro hday
    exact ⟨date, [], hday, rfl⟩

section

variable {text : List Char} {date : Date} (h : bareDay? text = some date)

include h

theorem strict?_of_bareDay? : strict? text = none := by
  rw [Option.eq_none_iff_forall_ne_some]
  intro t ht
  rcases exists_day?_of_strict? ht with ⟨other, rest, hday, hrest⟩
  rw [bareDay?_eq_some_iff.mp h] at hday
  exact hrest (Prod.mk.inj (Option.some.inj hday)).2.symm

/-- After a bare day there is no time of day, however the two are to be separated. -/
theorem lenient?_of_bareDay? {separator? : List Char → Option (List Char)}
    (hseparator : ∀ rest ∈ separator? [], rest = []) : lenient? separator? text = none := by
  rw [lenient?, bareDay?_eq_some_iff.mp h]
  cases hrest : separator? [] with
  | none => simp only [Option.bind_eq_bind, Option.bind_some, hrest, Option.bind_none]
  | some rest =>
    obtain rfl := hseparator rest hrest
    simp only [Option.bind_eq_bind, Option.bind_some, hrest]
    rfl

/-- A bare day stands for its midnight. -/
theorem timestamp?_of_bareDay? : timestamp? text = some ⟨date, .midnight⟩ := by
  have hblanks : lenient? (fun rest => some (Text.dropBlanks rest)) text = none :=
    lenient?_of_bareDay? h fun rest hrest => (Option.some.inj hrest).symm
  have hletter : lenient? (literal? 'T') text = none :=
    lenient?_of_bareDay? h fun rest hrest => absurd hrest (by simp [literal?])
  rw [timestamp?, strict?_of_bareDay? h, hblanks, hletter, h]
  rfl

end

end Calendar

/-- The day that a text stands for is the day in UTC of the point in time that it stands for, and
there is none if there is no such point. -/
theorem Date.ofText?_eq_date (text : String) :
    Date.ofText? text = (Timestamp.ofText? text).map Timestamp.date := by
  rw [Date.ofText?, Timestamp.ofText?, Calendar.date?]
  cases hday : Calendar.bareDay? (Text.trimChars text.toList) with
  | none => rfl
  | some date =>
    rw [Calendar.timestamp?_of_bareDay? hday]
    rfl

end GameShelf
