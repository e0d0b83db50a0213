import GameShelf.Proofs.Decode.Counts
import GameShelf.Proofs.Decode.LeftOut

/-!
# Lenient fields

The counts and amounts of a payload may be unusable without harm, as long as they are numbers or
texts: such a field is decoded as if it had been left out. A truth value, a list or a record in its
place is a fault, and nothing is decoded.

* `Decode.HoldsCount`, `Decode.HoldsAmount`: the values that can be used.
* `Json.MayHoldNumber`: the values that a lenient field takes.
* `Reported.Becomes`: what a value ends up as, wherever it is put in for a lenient field.
* `Reported.Spares`, `Reported.Spoils`: values that do no harm, and values that end decoding.
* `Reported.spares_iff`: which are which.
-/

namespace GameShelf

/-- A value that may hold a number: a number itself, a text, or nothing. -/
def Json.MayHoldNumber : Json → Prop
  | .null | .number _ | .text _ => True
  | .flag _ | .list _ | .record _ => False

namespace Decode

/-! ## Usable values -/

/-- A value that can be used as a count: a whole number, cut off at the greatest word, or digits of
a number that fits into one, with or without a plus sign and white space around them. -/
inductive HoldsCount : Json → UInt64 → Prop
  | number {value : JsonNumber} {count : Nat} (hwhole : value.toBinary64.whole? = some count) :
      HoldsCount (.number value) (UInt64.ofNat (min count (UInt64.size - 1)))
  | text {value : String} {digits : List Char} {count : Nat}
      (hsign : (Text.trim value).toList = digits ∨ (Text.trim value).toList = '+' :: digits)
      (hne : digits ≠ []) (hdigits : ∀ c ∈ digits, c.isDigit = true)
      (hcount : Nat.ofDigitChars 10 digits 0 = count) (hfits : count < UInt64.size) :
      HoldsCount (.text value) (UInt64.ofNat count)

/-- A value that can be used as an amount: a finite number, or one in decimal digits with or without
white space around them. -/
inductive HoldsAmount : Json → Binary64 → Prop
  | number {value : JsonNumber} (hfinite : value.toBinary64.isFinite = true) :
      HoldsAmount (.number value) value.toBinary64
  | text {value : String} {amount : Binary64}
      (hread : Binary64.ofText? (Text.trim value) = some amount)
      (hfinite : amount.isFinite = true) : HoldsAmount (.text value) amount

/-- A count is absent unless the value can be used as one. -/
theorem count_spec {value : Json} (h : value.MayHoldNumber) :
    ∃ found, count value = .ok found ∧ ∀ n, found = some n ↔ HoldsCount value n := by
  cases value with
  | null => exact ⟨none, rfl, fun n => iff_of_false (by simp) nofun⟩
  | number value =>
    refine ⟨_, count_eq rfl, fun n => ?_⟩
    rw [NumberOrText.count?, Option.map_eq_some_iff]
    constructor
    · rintro ⟨count, hwhole, rfl⟩
      exact .number hwhole
    · rintro ⟨hwhole⟩
      exact ⟨_, hwhole, rfl⟩
  | text value =>
    refine ⟨_, count_eq rfl, fun n => ?_⟩
    rw [NumberOrText.count?, Option.map_eq_some_iff]
    simp only [toOption_eq_some_iff, Text.readWhole_eq_ok_iff]
    constructor
    · rintro ⟨count, ⟨digits, hsign, hne, hdigits, hcount, hfits⟩, rfl⟩
      exact .text hsign hne hdigits hcount hfits
    · rintro (_ | ⟨hsign, hne, hdigits, hcount, hfits⟩)
      exact ⟨_, ⟨_, hsign, hne, hdigits, hcount, hfits⟩, rfl⟩
  | flag | list | record => exact h.elim

/-- A number or a text is an amount if it is usable as one. -/
theorem amount_eq {value : Json} {found : NumberOrText}
    (h : numberOrText value = .ok (some found)) : amount value = .ok found.amount? := by
  rw [amount, h, Except.map, Option.bind_some]

/-- An amount is absent unless the value can be used as one. -/
theorem amount_spec {value : Json} (h : value.MayHoldNumber) :
    ∃ found, amount value = .ok found ∧ ∀ x, found = some x ↔ HoldsAmount value x := by
  cases value with
  | null => exact ⟨none, rfl, fun x => iff_of_false (by simp) nofun⟩
  | number value =>
    refine ⟨_, amount_eq rfl, fun x => ?_⟩
    rw [NumberOrText.amount?]
    constructor
    · intro hx
      split at hx
      · rename_i hfinite
        obtain rfl := Option.some.inj hx
        exact .number hfinite
      · cases hx
    · rintro ⟨hfinite⟩
      rw [if_pos hfinite]
  | text value =>
    refine ⟨_, amount_eq rfl, fun x => ?_⟩
    rw [NumberOrText.amount?, Option.filter_eq_some_iff]
    constructor
    · rintro ⟨hread, hfinite⟩
      exact .text hread hfinite
    · rintro (_ | ⟨hread, hfinite⟩)
      exact ⟨hread, hfinite⟩
  | flag | list | record => exact h.elim

/-- What cannot hold a number is refused. -/
theorem numberOrText_refused {value : Json} (h : ¬ value.MayHoldNumber) :
    numberOrText value = .error .neitherNumberNorText := by
  cases value with
  | flag | list | record => rfl
  | null | number | text => exact absurd trivial h

end Decode

namespace Reported

/-! ## Wherever a lenient field is left out -/

/-- Wherever a lenient field is left out of what is decoded, a value that is put in for it ends up
as this count or this amount, and everything else as before. -/
structure Becomes (value : Json) (count : Except DecodeError (Option UInt64))
    (amount : Except DecodeError (Option Binary64)) : Prop where
  storedItems : Compartment.layout.Fills ["storedItems"] 6 value fun compartment =>
    count.map fun found => { compartment with storedItems := found }
  cost : Storefront.layout.Fills ["monthlyCost", "cost"] 5 value fun storefront =>
    amount.map fun found => { storefront with cost := found }
  locations : Totals.layout.Fills ["locations", "totalLocations"] 0 value fun totals =>
    count.map fun found => { totals with locations := found }
  items : Totals.layout.Fills ["items", "totalItems"] 1 value fun totals =>
    count.map fun found => { totals with items := found }

/-- A value ends up as what it is read as. -/
theorem becomes_read (value : Json) : Becomes value (Decode.count value) (Decode.amount value) := by
  constructor
  case storedItems =>
    exact Compartment.layout.fills
      (.there <| .there <| .there <| .there <| .there <| .there .here) (by decide) value
      fun _ _ => rfl
  case cost =>
    exact Storefront.layout.fills
      (.there <| .there <| .there <| .there <| .there .here) (by decide) value fun _ _ => rfl
  case locations => exact Totals.layout.fills .here (by decide) value fun _ _ => rfl
  case items => exact Totals.layout.fills (.there .here) (by decide) value fun _ _ => rfl

/-- It ends up as nothing else, as counts show. -/
theorem Becomes.count_eq {value : Json} {count : Except DecodeError (Option UInt64)}
    {amount : Except DecodeError (Option Binary64)} (h : Becomes value count amount) :
    count = Decode.count value := by
  -- without any field, counts are decoded
  have hgap : Decode.Gap.IsLeftOut ["locations", "totalLocations"] 0 (.entry [] "locations" []) :=
    ⟨List.mem_cons_self, fun _ hmem => absurd hmem List.not_mem_nil⟩
  have hbare : Totals.layout.read (Decode.Gap.bare (.entry [] "locations" [])) =
      .ok ⟨none, none⟩ := rfl
  have hsame := (h.locations _ _ hgap hbare).symm.trans
    ((becomes_read value).locations _ _ hgap hbare)
  cases hcount : Decode.count value with
  | error fault =>
    rw [hcount] at hsame
    exact map_eq_error_iff.mp hsame
  | ok found =>
    rw [hcount] at hsame
    rcases exists_of_map_eq_ok hsame with ⟨other, hother, htotals⟩
    rw [hother, (Totals.mk.inj htotals).1]

/-- A value that does no harm in a lenient field: it is decoded, as nothing unless it can be
used. -/
def Spares (value : Json) : Prop :=
  ∃ count amount, Becomes value (.ok count) (.ok amount) ∧
    (∀ n, count = some n ↔ Decode.HoldsCount value n) ∧
    ∀ x, amount = some x ↔ Decode.HoldsAmount value x

/-- A value that ends decoding in a lenient field. -/
def Spoils (value : Json) : Prop :=
  Becomes value (.error .neitherNumberNorText) (.error .neitherNumberNorText)

theorem spares_of_mayHoldNumber {value : Json} (h : value.MayHoldNumber) : Spares value := by
  rcases Decode.count_spec h with ⟨count, hcount, hcounts⟩
  rcases Decode.amount_spec h with ⟨amount, hamount, hamounts⟩
  have hbecomes := becomes_read value
  rw [hcount, hamount] at hbecomes
  exact ⟨count, amount, hbecomes, hcounts, hamounts⟩

theorem spoils_of_not_mayHoldNumber {value : Json} (h : ¬ value.MayHoldNumber) : Spoils value := by
  have hbecomes := becomes_read value
  rw [Decode.count, Decode.amount, Decode.numberOrText_refused h] at hbecomes
  exact hbecomes

/-- No value does both. -/
theorem Spoils.not_spares {value : Json} (h : Spoils value) : ¬ Spares value := by
  rintro ⟨count, amount, hbecomes, -, -⟩
  have hsame := hbecomes.count_eq.trans h.count_eq.symm
  cases hsame

/-- A value does no harm in a lenient field just if it is a number, a text or null: it is decoded
then as a count or an amount if it can be used as one and as nothing if it cannot, and all other
fields as without it. Any other value ends decoding. -/
theorem spares_iff (value : Json) :
    (Spares value ↔ value.MayHoldNumber) ∧ (Spoils value ↔ ¬ value.MayHoldNumber) := by
  by_cases h : value.MayHoldNumber
  · have hspares := spares_of_mayHoldNumber h
    constructor
    · exact iff_of_true hspares h
    · exact iff_of_false (fun hspoils => hspoils.not_spares hspares) (not_not_intro h)
  · have hspoils := spoils_of_not_mayHoldNumber h
    constructor
    · exact iff_of_false hspoils.not_spares h
    · exact iff_of_true hspoils h

/-- Not every value does no harm: a truth value is enough to end decoding. -/
theorem not_spares_flag : ¬ ∀ value, Spares value := by
  intro h
  have hspoils : Spoils (.flag true) := spoils_of_not_mayHoldNumber not_false
  exact hspoils.not_spares (h (.flag true))

end Reported

end GameShelf
