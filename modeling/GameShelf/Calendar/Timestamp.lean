import GameShelf.Calendar.Date
import GameShelf.Calendar.Span

/-!
# Points in time

A point in time is kept as the day and the time of day in UTC, to the nanosecond. A leap
second is the second 60 of its minute; any minute may have one.

* `Timestamp`: a point in time.
* `Timestamp.ofLocal?`: the point at which a clock with an offset from UTC shows a time.
* `Timestamp.text`: the written form, ending in `Z`.
-/

namespace GameShelf

/-- A time of day. The second 60 is a leap second. -/
structure TimeOfDay where
  hour : Nat
  minute : Nat
  second : Nat
  nano : Nat
  hour_lt : hour < 24
  minute_lt : minute < 60
  second_le : second ≤ 60
  nano_lt : nano < nanosPerSecond
deriving DecidableEq, Repr

/-- The time of day with the given numbers, if there is one. -/
def TimeOfDay.of? (hour minute second nano : Nat) : Option TimeOfDay :=
  if h : hour < 24 ∧ minute < 60 ∧ second ≤ 60 ∧ nano < nanosPerSecond then
    some ⟨hour, minute, second, nano, h.1, h.2.1, h.2.2.1, h.2.2.2⟩
  else none

/-- Midnight. -/
def TimeOfDay.midnight : TimeOfDay :=
  ⟨0, 0, 0, 0, by decide, by decide, by decide, by decide⟩

/-- A point in time: day and time of day in UTC. -/
structure Timestamp where
  date : Date
  time : TimeOfDay
deriving DecidableEq, Repr

namespace Timestamp

/-- The time of day with the same seconds in the given minute of the day. -/
def atMinute (time : TimeOfDay) (minuteOfDay : Nat) : TimeOfDay :=
  { time with
    hour := minuteOfDay / 60 % 24
    minute := minuteOfDay % 60
    hour_lt := Nat.mod_lt _ (by decide)
    minute_lt := Nat.mod_lt _ (by decide) }

/-- The point in time at which a clock that is `offset` minutes ahead of UTC shows a day and a
time of day. The offset is less than a day, so the day in UTC is the same or a neighbour. -/
def ofLocal? (date : Date) (time : TimeOfDay) (offset : Int) : Option Timestamp :=
  let minute : Int := time.hour * 60 + time.minute - offset
  if minute < 0 then
    date.previous?.map fun day => ⟨day, atMinute time (minute + 1440).toNat⟩
  else if minute < 1440 then some ⟨date, atMinute time minute.toNat⟩
  else date.next?.map fun day => ⟨day, atMinute time (minute - 1440).toNat⟩

/-- The fraction of a second in the fewest of zero, three, six or nine digits that are
exact. -/
def fractionChars (nano : Nat) : List Char :=
  if nano = 0 then []
  else if nano % nanosPerMilli = 0 then '.' :: Date.padded 3 (nano / nanosPerMilli)
  else if nano % nanosPerMicro = 0 then '.' :: Date.padded 6 (nano / nanosPerMicro)
  else '.' :: Date.padded 9 nano

/-- The characters of `YYYY-MM-DDTHH:MM:SS` with a fraction and a final `Z`. -/
def chars (t : Timestamp) : List Char :=
  t.date.chars ++ 'T' :: Date.padded 2 t.time.hour ++ ':' :: Date.padded 2 t.time.minute ++
    ':' :: Date.padded 2 t.time.second ++ fractionChars t.time.nano ++ ['Z']

/-- A point in time in its written form. -/
def text (t : Timestamp) : String :=
  String.ofList t.chars

end Timestamp

end GameShelf
