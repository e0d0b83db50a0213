/-!
# Spans of time

Spans of time are counted in whole nanoseconds, wherever they come from.

* `nanosPerMicro`, `nanosPerMilli`, `nanosPerSecond`: the units in which spans are given.
-/

namespace GameShelf

/-- The nanoseconds of a microsecond. -/
def nanosPerMicro : Nat := 1000

/-- The nanoseconds of a millisecond. -/
def nanosPerMilli : Nat := 1000000

/-- The nanoseconds of a second. -/
def nanosPerSecond : Nat := 1000000000

end GameShelf
