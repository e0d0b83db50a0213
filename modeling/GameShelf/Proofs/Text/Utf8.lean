import Mathlib.Data.String.Basic
import Mathlib.Tactic.SplitIfs
import GameShelf.Text.Utf8

/-!
# The order of texts

Texts are ordered by their characters, and their bytes in UTF-8 are ordered alike: the first bytes
of a character tell how many there are, more for greater characters, and then come its digits in
base 64, the highest first.

* `utf8_eq_flatMap`: the bytes of a text are those of its characters.
* `utf8_lt_utf8`: a text is before another exactly if its bytes are.
-/

namespace GameShelf.Text

/-- The bytes of a text are those of its characters. -/
theorem utf8_eq_flatMap (text : String) :
    utf8 text = text.toList.flatMap String.utf8EncodeChar := by
  conv_lhs => rw [← String.ofList_toList (s := text)]
  simp only [utf8, String.toUTF8_eq_toByteArray, String.toByteArray_ofList, List.utf8Encode,
    List.toList_data_toByteArray]

/-! ## Characters -/

/-- The bytes of the character with a code, in the layout for the size of the code. -/
def codeBytes (code : Nat) : List UInt8 :=
  if code ≤ 127 then [UInt8.ofNat code]
  else if code ≤ 2047 then
    [UInt8.ofNat (code / 64 % 32 + 192), UInt8.ofNat (code % 64 + 128)]
  else if code ≤ 65535 then
    [UInt8.ofNat (code / 4096 % 16 + 224), UInt8.ofNat (code / 64 % 64 + 128),
     UInt8.ofNat (code % 64 + 128)]
  else
    [UInt8.ofNat (code / 262144 % 8 + 240), UInt8.ofNat (code / 4096 % 64 + 128),
     UInt8.ofNat (code / 64 % 64 + 128), UInt8.ofNat (code % 64 + 128)]

theorem utf8EncodeChar_eq (c : Char) : String.utf8EncodeChar c = codeBytes c.toNat := rfl

theorem ofNat_cons_lt_ofNat_cons {a b : Nat} (ha : a < 256) (hb : b < 256) {xs ys : List UInt8} :
    UInt8.ofNat a :: xs < UInt8.ofNat b :: ys ↔ a < b ∨ a = b ∧ xs < ys := by
  have hlt : UInt8.ofNat a < UInt8.ofNat b ↔ a < b := by
    rw [UInt8.lt_iff_toNat_lt, UInt8.toNat_ofNat', UInt8.toNat_ofNat', Nat.mod_eq_of_lt ha,
      Nat.mod_eq_of_lt hb]
  have heq : UInt8.ofNat a = UInt8.ofNat b ↔ a = b := by
    rw [← UInt8.toNat_inj, UInt8.toNat_ofNat', UInt8.toNat_ofNat', Nat.mod_eq_of_lt ha,
      Nat.mod_eq_of_lt hb]
  rw [List.cons_lt_cons_iff, hlt, heq]

/-- The bytes of a character are before those of a greater one, whatever follows. -/
theorem codeBytes_append_lt {code other : Nat} (h : code < other) (hother : other < 1114112)
    (xs ys : List UInt8) : codeBytes code ++ xs < codeBytes other ++ ys := by
  -- each digit is cut off the one before
  have hdigits : ∀ n, n / 4096 = n / 64 / 64 ∧ n / 262144 = n / 64 / 64 / 64 := fun n => by
    simp only [Nat.div_div_eq_div_mul, and_self]
  unfold codeBytes
  simp only [hdigits]
  split_ifs
  all_goals
    simp (disch := omega) only [List.cons_append, List.nil_append, ofNat_cons_lt_ofNat_cons]
    omega

theorem toNat_lt (c : Char) : c.toNat < 1114112 := by
  have hval : c.toNat = c.val.toNat := rfl
  rcases c.valid with hlow | hhigh
  · omega
  · omega

/-! ## Texts -/

/-- The bytes of characters are ordered as the characters are. By induction on the characters that
are before the others: the first that is another one decides. -/
theorem flatMap_lt_flatMap {cs ds : List Char} (h : cs < ds) :
    cs.flatMap String.utf8EncodeChar < ds.flatMap String.utf8EncodeChar := by
  induction cs generalizing ds with
  | nil =>
    cases ds with
    | nil => exact absurd h (List.lt_irrefl _)
    | cons d ds =>
      rw [List.flatMap_nil, List.flatMap_cons]
      cases hbytes : String.utf8EncodeChar d with
      | nil => exact absurd hbytes String.utf8EncodeChar_ne_nil
      | cons byte bytes => exact List.nil_lt_cons _ _
  | cons c cs ih =>
    cases ds with
    | nil => exact absurd h (List.not_lt_nil _)
    | cons d ds =>
      rw [List.flatMap_cons, List.flatMap_cons]
      rcases List.cons_lt_cons_iff.mp h with hlt | ⟨rfl, hlt⟩
      · rw [utf8EncodeChar_eq, utf8EncodeChar_eq]
        exact codeBytes_append_lt hlt (toNat_lt d) _ _
      · exact List.append_left_lt (ih hlt)

/-- A text is before another exactly if its bytes are. -/
theorem utf8_lt_utf8 {text other : String} : utf8 text < utf8 other ↔ text < other := by
  have hmono : ∀ {text other : String}, text < other → utf8 text < utf8 other := by
    intro text other h
    rw [utf8_eq_flatMap, utf8_eq_flatMap]
    exact flatMap_lt_flatMap (String.lt_iff_toList_lt.mp h)
  constructor
  · intro h
    rcases lt_trichotomy text other with hlt | rfl | hgt
    · exact hlt
    · exact absurd h (List.lt_irrefl _)
    · exact absurd (hmono hgt) (List.lt_asymm h)
  · exact hmono

end GameShelf.Text
