import Mathlib
import GameShelf.Proofs.Text.Words
import GameShelf.Tag.Tables

/-!
# What texts stand for

Only the words of a text decide which tag it stands for, and of their letters only the lower case.
A text that stands for none is not lost: a notice has it as it came.

* `Tag.HasWords`, `Tag.SameLetters`: the words of a text, and words that differ in case only.
* `Tag.keyOf_eq`: the key of a text is made of its words.
* `Tag.lookup_lowersTo`: the lower case of characters outside ASCII does not matter.
* `Tag.LooksUp`: what is taken of texts, with a fallback and without one.
* `Tag.looksUp`: it holds of every set of tags, whatever its table is.
-/

namespace GameShelf

namespace Tag

/-! ## Words -/

/-- The words of a text, which end at white space, at hyphens and at underscores. -/
def HasWords (text : String) (words : List (List Char)) : Prop :=
  Text.IsSplit separates text.toList words

/-- Words that are the same up to the case of ASCII letters. -/
def SameLetters (words others : List (List Char)) : Prop :=
  words.map (fun word => word.map Char.toLower) = others.map fun word => word.map Char.toLower

/-- Words in lower case with single spaces between them. -/
def joined (words : List (List Char)) : String :=
  String.intercalate " " (words.map fun word => String.ofList (word.map lower))

/-- White space separates words. -/
theorem separates_of_isBlank {c : Char} (h : Text.isBlank c = true) : separates c = true := by
  rw [separates, h, Bool.true_or, Bool.true_or]

theorem separates_of_isAlpha {c : Char} (h : c.isAlpha = true) : separates c = false := by
  have hhyphen : c ≠ '-' := by
    rintro rfl
    exact absurd h (by decide)
  have hunderscore : c ≠ '_' := by
    rintro rfl
    exact absurd h (by decide)
  rw [separates, Text.isBlank_of_isAlpha h, beq_false_of_ne hhyphen, beq_false_of_ne hunderscore]
  rfl

/-- A letter has the same lower case as its ASCII lower case. -/
theorem lower_toLower (c : Char) : lower c.toLower = lower c := by
  by_cases hupper : c.isUpper = true
  · have hletter : c.toLower.isLower = true := by
      rw [Char.isLower_toLower_eq_isAlpha, Char.isAlpha, hupper, Bool.true_or]
    -- neither is the one character whose lower case is a special case
    have hc : c ≠ '\u212a' := by
      rintro rfl
      exact absurd hupper (by decide)
    have hlower : c.toLower ≠ '\u212a' := by
      intro heq
      rw [heq] at hletter
      exact absurd hletter (by decide)
    rw [lower, lower, if_neg hc, if_neg hlower, Char.toLower_toLower_eq_toLower]
  · rw [Char.toLower_eq_of_not_isUpper hupper]

/-- Letters stay letters in lower case, and separators have no case. -/
theorem separates_lower (c : Char) : separates (lower c) = separates c := by
  rw [lower]
  split
  · rename_i heq
    rw [heq]
    decide
  · by_cases hupper : c.isUpper = true
    · have halpha : c.isAlpha = true := by rw [Char.isAlpha, hupper, Bool.true_or]
      have hlower : c.toLower.isAlpha = true := by rw [Char.isAlpha_toLower_eq_isAlpha, halpha]
      rw [separates_of_isAlpha halpha, separates_of_isAlpha hlower]
    · rw [Char.toLower_eq_of_not_isUpper hupper]

theorem joined_congr {words others : List (List Char)} (h : SameLetters words others) :
    joined words = joined others := by
  have hlower (list : List (List Char)) : list.map (fun word => String.ofList (word.map lower)) =
      (list.map fun word => word.map Char.toLower).map fun word =>
        String.ofList (word.map lower) := by
    rw [List.map_map]
    congr 1
    funext word
    simp only [Function.comp_apply, List.map_map]
    congr 2
    funext c
    exact (lower_toLower c).symm
  rw [joined, joined, hlower words, hlower others, h]

/-- The key of a text is made of its words. -/
theorem keyOf_eq {text : String} {words : List (List Char)} (h : HasWords text words) :
    keyOf text = joined words := by
  have hsplit := Text.isSplit_iff.mp (h.map separates_lower)
  rw [keyOf, joined, hsplit, List.map_map]
  rfl

/-- Blanks around a text do not matter for its words. -/
theorem HasWords.trim {text : String} {words : List (List Char)} (h : HasWords text words) :
    HasWords (Text.trim text) words := by
  rcases Text.exists_trimmed text.toList with ⟨before, after, heq, hbefore, hafter⟩
  rw [HasWords, heq] at h
  rw [HasWords, Text.trim, String.toList_ofList]
  exact h.strip (fun c hc => separates_of_isBlank (hbefore c hc))
    fun c hc => separates_of_isBlank (hafter c hc)

/-- Blanks make up no words. -/
theorem HasWords.not_blank {text : String} {words : List (List Char)} (h : HasWords text words)
    (hne : words ≠ []) : ¬ ∀ c ∈ text.toList, Text.isBlank c = true := fun hblank =>
  hne (h.eq_nil_of_forall fun c hc => separates_of_isBlank (hblank c hc))

/-! ## Other lower cases

A table has no texts outside ASCII. So it does not matter what a lower case makes of the characters
that `lower` leaves outside ASCII, nor whether it looks at the characters around them. -/

/-- What another lower case may make of a character: the same, or anything outside ASCII for what
is outside ASCII. -/
inductive LowersTo (c : Char) : List Char → Prop where
  | same : LowersTo c [lower c]
  | foreign {lowered : List Char} {d : Char} (hc : separates c = false)
      (hforeign : 128 ≤ (lower c).toNat) (hd : d ∈ lowered) (hword : separates d = false)
      (hother : 128 ≤ d.toNat) : LowersTo c lowered

/-- Words with single spaces between them. -/
def spaced (words : List (List Char)) : String :=
  String.intercalate " " (words.map String.ofList)

/-- With spaces between them, the words keep their characters. -/
theorem mem_spaced {words : List (List Char)} {word : List Char} {c : Char} (hword : word ∈ words)
    (hc : c ∈ word) : c ∈ (spaced words).toList := by
  have hspaced : (spaced words).toList = [' '].intercalate words := by
    simp [spaced, String.toList_intercalate, Function.comp_def]
  rw [hspaced]
  clear hspaced
  induction words with
  | nil => exact absurd hword List.not_mem_nil
  | cons first rest ih =>
    cases rest with
    | nil =>
      rw [List.intercalate_singleton]
      rwa [← List.mem_singleton.mp hword]
    | cons second rest =>
      rw [List.intercalate_cons_cons, List.mem_append, List.mem_append]
      rcases List.mem_cons.mp hword with rfl | hrest
      · exact .inl (.inl hc)
      · exact .inr (ih hrest)

section

variable {α : Type} [Tag α]

/-- A text with a character outside ASCII in one of its words stands for nothing. -/
theorem lookup_spaced_of_foreign {cs : List Char} {c : Char} (hc : c ∈ cs)
    (hword : separates c = false) (hforeign : 128 ≤ c.toNat) :
    (table : List (String × α)).lookup (spaced (Text.splitRuns separates [] cs)) = none := by
  rcases (Text.isSplit_iff.mpr rfl).exists_word hc hword with ⟨word, hmem, hcword⟩
  have hspaced := mem_spaced hmem hcword
  rw [List.lookup_eq_none_iff]
  intro entry hentry
  refine bne_iff_ne.mpr fun heq => ?_
  rw [heq] at hspaced
  have hascii : isAscii entry.1 = true := List.all_eq_true.mp table_ascii entry hentry
  have hlt := List.all_eq_true.mp hascii c hspaced
  rw [decide_eq_true_eq] at hlt
  omega

/-- Another lower case makes the same of a text, or there is something outside ASCII both in what it
makes of the text and in what `lower` makes of it. -/
theorem lowersTo_cases {cs : List Char} {pieces : List (List Char)}
    (h : List.Forall₂ LowersTo cs pieces) :
    pieces.flatten = cs.map lower ∨
      (∃ c ∈ cs.map lower, separates c = false ∧ 128 ≤ c.toNat) ∧
        ∃ c ∈ pieces.flatten, separates c = false ∧ 128 ≤ c.toNat := by
  induction h with
  | nil => exact .inl rfl
  | @cons c piece cs pieces hpiece _ ih =>
    rw [List.flatten_cons, List.map_cons]
    cases hpiece with
    | same =>
      rcases ih with heq | ⟨⟨c', hc', hc'_foreign⟩, d, hd, hd_foreign⟩
      · exact .inl (by rw [heq, List.singleton_append])
      · exact .inr ⟨⟨c', List.mem_cons_of_mem _ hc', hc'_foreign⟩, d,
          List.mem_append_right _ hd, hd_foreign⟩
    | @foreign _ d hc hforeign hd hword hother =>
      exact .inr ⟨⟨lower c, List.mem_cons_self, (separates_lower c).trans hc, hforeign⟩, d,
        List.mem_append_left _ hd, hword, hother⟩

/-- Any such lower case finds the same tags. -/
theorem lookup_lowersTo {text : String} {pieces : List (List Char)}
    (h : List.Forall₂ LowersTo text.toList pieces) :
    (table : List (String × α)).lookup (spaced (Text.splitRuns separates [] pieces.flatten)) =
      find? text := by
  have hfind : (find? text : Option α) = (table : List (String × α)).lookup
      (spaced (Text.splitRuns separates [] (text.toList.map lower))) := rfl
  rw [hfind]
  rcases lowersTo_cases h with heq | ⟨⟨c, hc, hc_word, hc_foreign⟩, d, hd, hd_word, hd_foreign⟩
  · rw [heq]
  · rw [lookup_spaced_of_foreign hd hd_word hd_foreign,
      lookup_spaced_of_foreign hc hc_word hc_foreign]

/-- The capital I with a dot above, whose lower case is a letter and a combining dot. -/
example : LowersTo '\u0130' ['i', '\u0307'] :=
  .foreign (d := '\u0307') (by decide) (by decide) (by decide) (by decide) (by decide)

end

/-! ## What is taken of a text -/

section

variable {α : Type} [Tag α] {text : String} {words : List (List Char)}

theorem find?_trim (h : HasWords text words) :
    (find? (Text.trim text) : Option α) = (table : List (String × α)).lookup (joined words) := by
  rw [find?, keyOf_eq h.trim]

/-- A text that is not blank is looked up, and if it is not found, a notice has it without the
blanks around it. -/
theorem take_eq (fallback : α) (hwords : HasWords text words)
    (h : ¬ ∀ c ∈ text.toList, Text.isBlank c = true) :
    take fallback (some text) =
      match (table : List (String × α)).lookup (joined words) with
      | some tag => ⟨tag, []⟩
      | none => ⟨fallback, [.unknownTag (field α) (Text.trim text) (wire fallback)]⟩ := by
  simp only [take, Text.trimToSome_of_not_blank h, find?_trim hwords]
  rfl

theorem takeOptional_eq (hwords : HasWords text words)
    (h : ¬ ∀ c ∈ text.toList, Text.isBlank c = true) :
    takeOptional α (some text) =
      match (table : List (String × α)).lookup (joined words) with
      | some tag => ⟨some tag, []⟩
      | none => ⟨none, [.unknownTag (field α) (Text.trim text) "none"]⟩ := by
  simp only [takeOptional, Text.trimToSome_of_not_blank h, find?_trim hwords]
  rfl

end

/-- The same was taken, with notices in both cases or in neither. -/
structure Agree {β : Type} (first second : Noted β) : Prop where
  value : first.value = second.value
  notices : first.notices = [] ↔ second.notices = []

/-- What is taken of texts with the table of a set of tags. -/
structure LooksUp (α : Type) [Tag α] (fallback : α) : Prop where
  /-- Texts with the same words, but for case, are taken alike. -/
  alike : ∀ {text other : String} {words others : List (List Char)}, HasWords text words →
    HasWords other others → words ≠ [] → SameLetters words others →
    Agree (take fallback (some text)) (take fallback (some other)) ∧
      Agree (takeOptional α (some text)) (takeOptional α (some other))
  /-- A text whose words make up a key of the table is taken for the tag of the key. -/
  known : ∀ {text : String} {words : List (List Char)} {tag : α}, HasWords text words →
    (¬ ∀ c ∈ text.toList, Text.isBlank c = true) →
    (table : List (String × α)).lookup (joined words) = some tag →
    take fallback (some text) = ⟨tag, []⟩ ∧ takeOptional α (some text) = ⟨some tag, []⟩
  /-- Any other text that is not blank is taken for nothing known, and a notice has it. -/
  unknown : ∀ {text : String} {words : List (List Char)}, HasWords text words →
    (¬ ∀ c ∈ text.toList, Text.isBlank c = true) →
    joined words ∉ (table : List (String × α)).map Prod.fst →
    take fallback (some text) =
        ⟨fallback, [.unknownTag (field α) (Text.trim text) (wire fallback)]⟩ ∧
      takeOptional α (some text) = ⟨none, [.unknownTag (field α) (Text.trim text) "none"]⟩
  /-- A blank text says nothing. -/
  blank : ∀ {text : String}, (∀ c ∈ text.toList, Text.isBlank c = true) →
    take fallback (some text) = ⟨fallback, []⟩ ∧ takeOptional α (some text) = ⟨none, []⟩
  absent : take fallback none = ⟨fallback, []⟩ ∧ takeOptional α none = ⟨none, []⟩

/-- Texts are taken by their words in lower case, and none that says something is lost. -/
theorem looksUp (α : Type) [Tag α] (fallback : α) : LooksUp α fallback := by
  constructor
  case alike =>
    intro text other words others hwords hothers hne hsame
    have hjoined := joined_congr hsame
    have hnonempty : others ≠ [] := by
      intro hnil
      rw [SameLetters, hnil, List.map_nil, List.map_eq_nil_iff] at hsame
      exact hne hsame
    rw [take_eq fallback hwords (hwords.not_blank hne),
      take_eq fallback hothers (hothers.not_blank hnonempty),
      takeOptional_eq hwords (hwords.not_blank hne),
      takeOptional_eq hothers (hothers.not_blank hnonempty), hjoined]
    -- both are found, or neither is
    cases (table : List (String × α)).lookup (joined others) with
    | some tag => exact ⟨⟨rfl, Iff.rfl⟩, rfl, Iff.rfl⟩
    | none => exact ⟨⟨rfl, by simp⟩, rfl, by simp⟩
  case known =>
    intro text words tag hwords hsome hfound
    rw [take_eq fallback hwords hsome, takeOptional_eq hwords hsome, hfound]
    exact ⟨rfl, rfl⟩
  case unknown =>
    intro text words hwords hsome hnone
    have hlookup : (table : List (String × α)).lookup (joined words) = none := by
      rw [List.lookup_eq_none_iff]
      intro entry hentry
      exact bne_iff_ne.mpr fun heq => hnone (heq ▸ List.mem_map_of_mem hentry)
    rw [take_eq fallback hwords hsome, takeOptional_eq hwords hsome, hlookup]
    exact ⟨rfl, rfl⟩
  case blank =>
    intro text hblank
    simp only [take, takeOptional, Text.trimToSome_of_blank hblank]
    exact ⟨rfl, rfl⟩
  case absent => exact ⟨rfl, rfl⟩

example : take Platform.steam (some " EPIC_games- ") = ⟨.epicGames, []⟩ := by decide

/-- A text of separators has no words, but it is not blank. -/
example : takeOptional Color (some " -_") = ⟨none, [.unknownTag "color" "-_" "none"]⟩ := by
  decide

end Tag

end GameShelf
