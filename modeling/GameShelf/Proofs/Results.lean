/-!
# Results that may be faults

What a result that is no fault says about the parts that it is made from.

* `exists_of_bind_eq_ok`, `exists_of_map_eq_ok`, `eq_ok_of_mapError`: the parts are no faults
  either.
* `map_eq_ok_iff`, `map_eq_error_iff`, `map_eq_bind`: a function of a result.
* `toOption_eq_some_iff`: a result with its fault left out.
-/

namespace GameShelf

variable {ε ε' α β : Type}

/-- A result that is no fault comes of two parts that are none. -/
theorem exists_of_bind_eq_ok {result : Except ε α} {next : α → Except ε β} {b : β}
    (h : result.bind next = .ok b) : ∃ a, result = .ok a ∧ next a = .ok b := by
  cases result with
  | error fault => exact absurd h (by simp [Except.bind])
  | ok a => exact ⟨a, rfl, h⟩

theorem exists_of_map_eq_ok {result : Except ε α} {f : α → β} {b : β}
    (h : result.map f = .ok b) : ∃ a, result = .ok a ∧ f a = b := by
  cases result with
  | error fault => exact absurd h (by simp [Except.map])
  | ok a => exact ⟨a, rfl, Except.ok.inj h⟩

theorem map_eq_ok_iff {result : Except ε α} {f : α → β} {b : β} :
    result.map f = .ok b ↔ ∃ a, result = .ok a ∧ b = f a := by
  cases result with
  | error fault => exact iff_of_false (by simp [Except.map]) (by simp)
  | ok a => simp [Except.map, eq_comm]

theorem map_eq_error_iff {result : Except ε α} {f : α → β} {fault : ε} :
    result.map f = .error fault ↔ result = .error fault := by
  cases result with
  | error other => simp [Except.map]
  | ok a => exact iff_of_false (by simp [Except.map]) (by simp)

theorem map_eq_bind (result : Except ε α) (f : α → β) :
    result.map f = result.bind fun a => .ok (f a) := by
  cases result <;> rfl

theorem eq_ok_of_mapError {result : Except ε α} {f : ε → ε'} {a : α}
    (h : result.mapError f = .ok a) : result = .ok a := by
  cases result with
  | error fault => cases h
  | ok b => exact congrArg Except.ok (Except.ok.inj h)

theorem toOption_eq_some_iff {result : Except ε α} {a : α} :
    result.toOption = some a ↔ result = .ok a := by
  cases result with
  | error fault => exact iff_of_false (by simp [Except.toOption]) (by simp)
  | ok b => simp [Except.toOption]

end GameShelf
