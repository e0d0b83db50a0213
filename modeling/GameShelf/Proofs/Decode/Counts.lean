import GameShelf.Proofs.Binary64.Whole
import GameShelf.Proofs.Decode.Gap
import GameShelf.Proofs.Text.Whole
import GameShelf.Reported.Basic

/-!
# Counts as numbers and as text

A count comes as a JSON integer or as text. Text is read digit by digit. An integer goes through a
double on its way: of more than 53 binary digits only the first 53 are left, rounded, and beyond
64 bits it is cut off.

* `Decode.count_text`, `Decode.count_nat`: what is read of either.
* `Reported.CountsAs`: a value that is decoded as a count wherever one may stand.
* `Reported.countsAs_word`: every 64-bit count is decoded exactly from its digits, and from an
  integer exactly if the double did not have to be rounded or was cut off.
-/

namespace GameShelf

namespace Decode

/-! ## Reading -/

/-- A number or a text is a count if it is usable as one. -/
theorem count_eq {value : Json} {found : NumberOrText}
    (h : numberOrText value = .ok (some found)) : count value = .ok found.count? := by
  rw [count, h, Except.map, Option.bind_some]

/-- The digits of a count are read as the count. -/
theorem count_text {n : Nat} (h : n < UInt64.size) :
    count (.text n.repr) = .ok (some (UInt64.ofNat n)) := by
  rw [count_eq rfl, NumberOrText.count?, Text.trim_repr, Text.readWhole_repr h]
  rfl

/-- The count that is left of an integer: the value of its double, or the greatest word. -/
def roundedCount (n : Nat) : UInt64 :=
  UInt64.ofNat (min (Binary64.nearest n) (UInt64.size - 1))

theorem count?_integer {n : Nat} (h : n < UInt64.size) :
    (NumberOrText.number (JsonNumber.integer n).toBinary64).count? = some (roundedCount n) := by
  have hsize : Binary64.twoTo 64 ≤ Binary64.twoTo 1023 := Binary64.twoTo_le_twoTo (by decide)
  have hwhole : (JsonNumber.integer n).toBinary64.whole? = some (Binary64.nearest n) :=
    Binary64.whole?_ofNat (Nat.lt_of_lt_of_le h hsize)
  rw [NumberOrText.count?, hwhole, Option.map_some, roundedCount]

theorem count_nat {n : Nat} (h : n < UInt64.size) :
    count (.nat n) = .ok (some (roundedCount n)) := by
  rw [count_eq rfl, count?_integer h]

/-- A count below `2 ^ 53` is not altered. -/
theorem roundedCount_of_lt {n : Nat} (h : n < Binary64.twoTo 53) :
    roundedCount n = UInt64.ofNat n := by
  have hle : n ≤ UInt64.size - 1 := Nat.le_trans (Nat.le_of_lt h) (by decide)
  rw [roundedCount, Binary64.nearest_of_bitLength_le (Binary64.bitLength_le h),
    Nat.min_eq_left hle]

/-- A count comes through a double unchanged if all of its digits after the first 53 are zeros, or
if it is the word at which greater ones are cut off. -/
theorem roundedCount_eq_iff {n : UInt64} :
    roundedCount n.toNat = n ↔
      Binary64.twoTo (Binary64.bitLength n.toNat - 53) ∣ n.toNat ∨
        n.toNat = UInt64.size - 1 := by
  have hle : n.toNat ≤ UInt64.size - 1 := Nat.le_sub_one_of_lt n.toNat_lt
  have hlt : min (Binary64.nearest n.toNat) (UInt64.size - 1) < UInt64.size :=
    Nat.lt_of_le_of_lt (Nat.min_le_right ..) (by decide)
  have hword : roundedCount n.toNat = n ↔
      min (Binary64.nearest n.toNat) (UInt64.size - 1) = n.toNat := by
    rw [← UInt64.toNat_inj, roundedCount, UInt64.toNat_ofNat_of_lt' hlt]
  rw [hword, ← Binary64.nearest_eq_self_iff]
  constructor
  · intro h
    rcases Nat.le_total (Binary64.nearest n.toNat) (UInt64.size - 1) with hfits | hcut
    · rw [Nat.min_eq_left hfits] at h
      exact .inl h
    · rw [Nat.min_eq_right hcut] at h
      exact .inr h.symm
  · rintro (h | h)
    · rw [h, Nat.min_eq_left hle]
    · -- the greatest word is rounded up, and cut off again
      rw [h]
      decide +kernel

end Decode

namespace Reported

/-! ## Wherever a count stands -/

/-- Wherever a count stands in what is decoded, a value in its place is decoded as the count `n`,
and everything else as before. -/
structure CountsAs (value : Json) (n : UInt64) : Prop where
  storedItems : Compartment.layout.Takes ["storedItems"] 6 value fun compartment =>
    { compartment with storedItems := some n }
  locations : Totals.layout.Takes ["locations", "totalLocations"] 0 value fun totals =>
    { totals with locations := some n }
  items : Totals.layout.Takes ["items", "totalItems"] 1 value fun totals =>
    { totals with items := some n }

/-- A value is decoded as a count if it is read as one. -/
theorem countsAs_iff {value : Json} {n : UInt64} :
    CountsAs value n ↔ Decode.count value = .ok (some n) := by
  constructor
  · intro h
    have hread := h.locations (.entry [] "locations" []) .null ⟨none, none⟩ List.mem_cons_self rfl
    rcases Decode.Layout.read_record hread with ⟨values, hgives, hresult⟩
    have hcount : Decode.count value = .ok values.1 := hgives.head List.mem_cons_self rfl
    rw [hcount, ← (Totals.mk.inj hresult).1]
  · intro h
    exact {
      storedItems := Compartment.layout.takes
        (.there <| .there <| .there <| .there <| .there <| .there .here) (by decide) h
        fun _ => rfl
      locations := Totals.layout.takes .here (by decide) h fun _ => rfl
      items := Totals.layout.takes (.there .here) (by decide) h fun _ => rfl }

/-- Every count of 64 bits is decoded exactly from its decimal digits. From an integer it is decoded
as the count that is left of the double, which is the exact one just if all binary digits after the
first 53 are zeros or if it is the greatest word. -/
theorem countsAs_word (n : UInt64) :
    CountsAs (.text n.toNat.repr) n ∧ CountsAs (.nat n.toNat) (Decode.roundedCount n.toNat) ∧
      (CountsAs (.nat n.toNat) n ↔
        Binary64.twoTo (Binary64.bitLength n.toNat - 53) ∣ n.toNat ∨
          n.toNat = UInt64.size - 1) := by
  have hcount := Decode.count_nat n.toNat_lt
  refine ⟨countsAs_iff.mpr ?_, countsAs_iff.mpr hcount, ?_⟩
  · rw [Decode.count_text n.toNat_lt, UInt64.ofNat_toNat]
  · rw [countsAs_iff, hcount, Except.ok.injEq, Option.some.injEq, Decode.roundedCount_eq_iff]

/-- The least count that is altered: one more than `2 ^ 53` is read as `2 ^ 53`. -/
theorem not_countsAs_integer :
    ¬ ∀ n : UInt64, CountsAs (.text n.toNat.repr) n ∧ CountsAs (.nat n.toNat) n := by
  intro h
  have hexact := countsAs_iff.mp (h 9007199254740993).2
  rw [Decode.count_nat (UInt64.toNat_lt 9007199254740993)] at hexact
  exact absurd (Option.some.inj (Except.ok.inj hexact)) (by decide +kernel)

end Reported

end GameShelf
