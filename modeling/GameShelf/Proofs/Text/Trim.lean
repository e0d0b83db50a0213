import Mathlib.Data.List.TakeWhile
import GameShelf.Text.Blank

/-!
# Texts without white space around them

A text is blanks, the trimmed text, and blanks again. Digits are no blanks, and a text that neither
begins nor ends with a blank is trimmed already.

* `exists_trimmed`: what is trimmed away.
* `trimChars_padded`: blanks around a text make no difference.
* `trimToSome_of_blank`, `trimToSome_of_not_blank`: what is left of a text, if anything is.
* `trimChars_eq_self`: a text that stays as it is.
-/

namespace GameShelf.Text

/-- Visible ASCII characters are no blanks. -/
theorem isBlank_of_visible {c : Char} (h : 33 ≤ c.toNat ∧ c.toNat ≤ 126) : isBlank c = false := by
  rw [← Bool.not_eq_true, isBlank]
  simp only [Bool.or_eq_true, Bool.and_eq_true, decide_eq_true_eq, beq_iff_eq]
  omega

theorem toNat_of_isDigit {c : Char} (h : c.isDigit = true) : 48 ≤ c.toNat ∧ c.toNat ≤ 57 := by
  rw [Char.isDigit, Bool.and_eq_true, decide_eq_true_eq, decide_eq_true_eq] at h
  exact h

/-- Digits are no blanks. -/
theorem isBlank_of_isDigit {c : Char} (h : c.isDigit = true) : isBlank c = false := by
  have hbounds := toNat_of_isDigit h
  exact isBlank_of_visible (by omega)

/-- Letters are no blanks. -/
theorem isBlank_of_isAlpha {c : Char} (h : c.isAlpha = true) : isBlank c = false := by
  have hbounds : (65 ≤ c.toNat ∧ c.toNat ≤ 90) ∨ (97 ≤ c.toNat ∧ c.toNat ≤ 122) := by
    rcases Bool.or_eq_true_iff.mp h with hupper | hlower
    · exact .inl (of_decide_eq_true hupper)
    · rcases Bool.and_eq_true_iff.mp hlower with ⟨hlow, hhigh⟩
      exact .inr ⟨of_decide_eq_true hlow, of_decide_eq_true hhigh⟩
  exact isBlank_of_visible (by omega)

/-- Nothing is dropped where a text does not begin with a blank. -/
theorem dropBlanks_eq_self {cs : List Char} (h : ∀ c ∈ cs.head?, isBlank c = false) :
    dropBlanks cs = cs := by
  cases cs with
  | nil => rfl
  | cons c rest => exact List.dropWhile_cons_of_neg (by rw [h c rfl]; exact Bool.false_ne_true)

theorem trimChars_eq_self {cs : List Char} (hfirst : ∀ c ∈ cs.head?, isBlank c = false)
    (hlast : ∀ c ∈ cs.getLast?, isBlank c = false) : trimChars cs = cs := by
  rw [← List.head?_reverse] at hlast
  rw [trimChars, dropBlanks_eq_self hfirst, dropBlanks_eq_self hlast, List.reverse_reverse]

/-! ## What is trimmed away -/

/-- Only blanks are trimmed away, before the text and after it. -/
theorem exists_trimmed (cs : List Char) :
    ∃ before after, cs = before ++ trimChars cs ++ after ∧
      (∀ c ∈ before, isBlank c = true) ∧ ∀ c ∈ after, isBlank c = true := by
  refine ⟨cs.takeWhile isBlank, ((dropBlanks cs).reverse.takeWhile isBlank).reverse, ?_,
    fun c hc => List.mem_takeWhile_imp hc,
    fun c hc => List.mem_takeWhile_imp (List.mem_reverse.mp hc)⟩
  have hend : trimChars cs ++ ((dropBlanks cs).reverse.takeWhile isBlank).reverse =
      dropBlanks cs := by
    have hwhole := congrArg List.reverse
      (List.takeWhile_append_dropWhile (p := isBlank) (l := (dropBlanks cs).reverse))
    rw [List.reverse_append, List.reverse_reverse] at hwhole
    exact hwhole
  rw [List.append_assoc, hend, dropBlanks, List.takeWhile_append_dropWhile]

/-- Blanks before and after a text make no difference. -/
theorem trimChars_padded {before after : List Char} (cs : List Char)
    (hbefore : ∀ c ∈ before, isBlank c = true) (hafter : ∀ c ∈ after, isBlank c = true) :
    trimChars (before ++ cs ++ after) = trimChars cs := by
  have hfront : dropBlanks (before ++ cs ++ after) = dropBlanks (cs ++ after) := by
    rw [List.append_assoc]
    exact List.dropWhile_append_of_pos hbefore
  have hback (front : List Char) :
      dropBlanks (front ++ after).reverse = dropBlanks front.reverse := by
    rw [List.reverse_append]
    exact List.dropWhile_append_of_pos fun c hc => hafter c (List.mem_reverse.mp hc)
  have hdrop : dropBlanks (cs ++ after) =
      if (dropBlanks cs).isEmpty then dropBlanks after else dropBlanks cs ++ after :=
    List.dropWhile_append
  rw [trimChars, trimChars, hfront, hdrop]
  by_cases hempty : (dropBlanks cs).isEmpty
  · -- nothing but blanks: all of it goes in the first pass
    have hnone : dropBlanks after = [] := List.dropWhile_eq_nil_iff.mpr hafter
    rw [if_pos hempty, hnone, List.isEmpty_iff.mp hempty]
  · rw [if_neg hempty, hback]

/-- Nothing is left of a text just if there are only blanks in it. -/
theorem trimChars_eq_nil_iff {cs : List Char} :
    trimChars cs = [] ↔ ∀ c ∈ cs, isBlank c = true := by
  constructor
  · intro h
    rcases exists_trimmed cs with ⟨before, after, heq, hbefore, hafter⟩
    rw [h, List.append_nil] at heq
    rw [heq]
    exact List.forall_mem_append.mpr ⟨hbefore, hafter⟩
  · intro h
    rw [trimChars, dropBlanks, dropBlanks, List.dropWhile_eq_nil_iff.mpr h]
    rfl

theorem trim_eq_empty_iff {text : String} :
    trim text = "" ↔ ∀ c ∈ text.toList, isBlank c = true := by
  rw [← trimChars_eq_nil_iff, trim, ← String.toList_eq_nil_iff, String.toList_ofList]

theorem trimToSome_of_blank {text : String} (h : ∀ c ∈ text.toList, isBlank c = true) :
    trimToSome (some text) = none := by
  rw [trimToSome, Option.map_some, trim_eq_empty_iff.mpr h]
  rfl

theorem trimToSome_of_not_blank {text : String} (h : ¬ ∀ c ∈ text.toList, isBlank c = true) :
    trimToSome (some text) = some (trim text) := by
  rw [trimToSome, Option.map_some]
  exact Option.filter_eq_some_iff.mpr ⟨rfl, decide_eq_true (mt trim_eq_empty_iff.mp h)⟩

end GameShelf.Text
