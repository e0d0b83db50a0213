import Mathlib
import GameShelf.Proofs.Text.Trim
import GameShelf.Text.Slug

/-!
# The form of slugs

A slug is made of words of small letters and digits with one hyphen between two words. Without its
hyphens it is what is kept of the name, and the hyphens stand where the name is broken. No other
text is like this, so these rules say what the slug of a name is.

* `slugRest_kept`, `slugRest_passed`: one character of a name, kept or not.
* `IsSlug`, `IsSlugOf`: what a slug looks like, and what it has to do with its name.
* `isSlugOf_slugRest`: slugs are like this.
* `slugRest_of_isSlug`: a text that looks like a slug is its own slug.
* `IsSlugOf.slugRest_eq`: the slug of a text depends on what is kept of it and on its breaks.
* `eq_slug_iff`: all of it together.
-/

namespace GameShelf.Text

/-! ## Characters -/

/-- The characters of a slug other than its hyphens. -/
def isSlugLetter (c : Char) : Bool :=
  c.isLower || c.isDigit

/-- What is kept of a name: its ASCII letters and digits, the letters small. -/
def kept (name : List Char) : List Char :=
  (name.filter isSlugChar).map Char.toLower

/-- The text without its hyphens. -/
def letters (slug : List Char) : List Char :=
  slug.filter (· ≠ '-')

theorem not_isUpper_of_isDigit {c : Char} (h : c.isDigit = true) : ¬ c.isUpper = true := by
  intro hupper
  have hdigit := toNat_of_isDigit h
  have hletter : 65 ≤ c.toNat ∧ c.toNat ≤ 90 := of_decide_eq_true hupper
  omega

/-- A letter of a slug is kept as it is. -/
theorem isSlugChar_of_isSlugLetter {c : Char} (h : isSlugLetter c = true) :
    isSlugChar c = true ∧ c.toLower = c := by
  rcases Bool.or_eq_true_iff.mp h with hlower | hdigit
  · have hupper : ¬ c.isUpper = true := Char.not_isUpper_of_isLower hlower
    refine ⟨?_, Char.toLower_eq_of_not_isUpper hupper⟩
    rw [isSlugChar, Char.isAlphanum, Char.isAlpha, hlower, Bool.or_true, Bool.true_or]
  · refine ⟨?_, Char.toLower_eq_of_not_isUpper (not_isUpper_of_isDigit hdigit)⟩
    rw [isSlugChar, Char.isAlphanum, hdigit, Bool.or_true]

/-- What is kept of a name are letters of a slug. -/
theorem isSlugLetter_toLower {c : Char} (h : isSlugChar c = true) :
    isSlugLetter c.toLower = true := by
  rw [isSlugLetter, Char.isLower_toLower_eq_isAlpha]
  rcases Bool.or_eq_true_iff.mp h with halpha | hdigit
  · rw [halpha, Bool.true_or]
  · rw [Char.toLower_eq_of_not_isUpper (not_isUpper_of_isDigit hdigit), hdigit, Bool.or_true]

theorem ne_hyphen_of_isSlugLetter {c : Char} (h : isSlugLetter c = true) : c ≠ '-' := by
  rintro rfl
  exact absurd h (by decide)

/-! ## One character after another -/

/-- The hyphen after a break, if something was kept before it. -/
def hyphenIf (broken : Bool) : List Char :=
  if broken then ['-'] else []

section

variable {c : Char} (started broken : Bool) (rest : List Char)

theorem slugRest_kept (h : isSlugChar c = true) :
    slugRest started broken (c :: rest) =
      hyphenIf (started && broken) ++ c.toLower :: slugRest true false rest := by
  rw [slugRest, if_pos h, hyphenIf]
  cases started && broken with
  | true => rfl
  | false => rfl

theorem slugRest_passed (h : isSlugChar c = false) :
    slugRest started broken (c :: rest) = slugRest started (broken || isSlugBreak c) rest := by
  rw [slugRest, h, if_neg Bool.false_ne_true]

/-- What was kept is kept again. -/
theorem slugRest_toLower (h : isSlugChar c = true) :
    slugRest started broken (c.toLower :: rest) =
      hyphenIf (started && broken) ++ c.toLower :: slugRest true false rest := by
  rcases isSlugChar_of_isSlugLetter (isSlugLetter_toLower h) with ⟨hkept, hlower⟩
  rw [slugRest_kept _ _ _ hkept, hlower]

/-- A hyphen is a break. -/
theorem slugRest_hyphenIf :
    slugRest true false (hyphenIf broken ++ rest) = slugRest true broken rest := by
  cases broken with
  | true => rfl
  | false => rfl

/-- Of what is not kept, only the breaks count. -/
theorem slugRest_gap {between : List Char} (h : ∀ c ∈ between, isSlugChar c = false) :
    slugRest started broken (between ++ rest) =
      slugRest started (broken || between.any isSlugBreak) rest := by
  induction between generalizing broken with
  | nil => rw [List.nil_append, List.any_nil, Bool.or_false]
  | cons c between ih =>
    rcases List.forall_mem_cons.mp h with ⟨hc, hbetween⟩
    rw [List.cons_append, slugRest_passed _ _ _ hc, ih _ hbetween, List.any_cons, Bool.or_assoc]

end

/-! ## What is kept -/

theorem letters_hyphenIf (broken : Bool) (rest : List Char) :
    letters (hyphenIf broken ++ rest) = letters rest := by
  cases broken with
  | true => rfl
  | false => rfl

theorem letters_cons_of_ne {c : Char} (h : c ≠ '-') (rest : List Char) :
    letters (c :: rest) = c :: letters rest :=
  List.filter_cons_of_pos (decide_eq_true h)

theorem letters_cons {c : Char} (h : isSlugChar c = true) (rest : List Char) :
    letters (c.toLower :: rest) = c.toLower :: letters rest :=
  letters_cons_of_ne (ne_hyphen_of_isSlugLetter (isSlugLetter_toLower h)) rest

theorem kept_cons_of_pos {c : Char} (h : isSlugChar c = true) (name : List Char) :
    kept (c :: name) = c.toLower :: kept name := by
  rw [kept, List.filter_cons_of_pos h]
  rfl

theorem kept_cons_of_neg {c : Char} (h : isSlugChar c = false) (name : List Char) :
    kept (c :: name) = kept name := by
  rw [kept, List.filter_cons_of_neg (by rw [h]; exact Bool.false_ne_true)]
  rfl

/-- Without its hyphens a slug is what is kept of its name. -/
theorem letters_slugRest (started broken : Bool) (name : List Char) :
    letters (slugRest started broken name) = kept name := by
  induction name generalizing started broken with
  | nil => rfl
  | cons c name ih =>
    cases hc : isSlugChar c with
    | true =>
      rw [slugRest_kept _ _ _ hc, letters_hyphenIf, letters_cons hc, ih, kept_cons_of_pos hc]
    | false => rw [slugRest_passed _ _ _ hc, ih, kept_cons_of_neg hc]

/-! ## Hyphens -/

/-- The slug of a name goes on after a character that is kept, whatever came before it. -/
theorem exists_slugRest_append {one : Char} (hone : isSlugChar one = true) (started broken : Bool)
    (before rest : List Char) :
    ∃ left, slugRest started broken (before ++ one :: rest) =
        left ++ one.toLower :: slugRest true false rest ∧
      letters left = kept before := by
  induction before generalizing started broken with
  | nil =>
    refine ⟨hyphenIf (started && broken), slugRest_kept _ _ _ hone, ?_⟩
    have hnone := letters_hyphenIf (started && broken) []
    rwa [List.append_nil] at hnone
  | cons c before ih =>
    cases hc : isSlugChar c with
    | true =>
      rcases ih true false with ⟨left, hleft, hletters⟩
      refine ⟨hyphenIf (started && broken) ++ c.toLower :: left, ?_, ?_⟩
      · rw [List.cons_append, slugRest_kept _ _ _ hc, hleft, List.append_assoc, List.cons_append]
      · rw [letters_hyphenIf, letters_cons hc, hletters, kept_cons_of_pos hc]
    | false =>
      rcases ih started (broken || isSlugBreak c) with ⟨left, hleft, hletters⟩
      refine ⟨left, ?_, ?_⟩
      · rw [List.cons_append, slugRest_passed _ _ _ hc, hleft]
      · rw [hletters, kept_cons_of_neg hc]

/-- Between two characters that are kept one after the other, there is a hyphen exactly if there is
a break in the name. -/
theorem exists_slugRest_parted {one other : Char} (hone : isSlugChar one = true)
    (hother : isSlugChar other = true) {between : List Char}
    (hbetween : ∀ c ∈ between, isSlugChar c = false) (before after : List Char) :
    ∃ left right, slugRest false false (before ++ one :: (between ++ other :: after)) =
        left ++ one.toLower :: (hyphenIf (between.any isSlugBreak) ++ other.toLower :: right) ∧
      letters left = kept before ∧ letters right = kept after := by
  rcases exists_slugRest_append hone false false before (between ++ other :: after) with
    ⟨left, hleft, hletters⟩
  refine ⟨left, slugRest true false after, ?_, hletters, letters_slugRest true false after⟩
  rw [hleft, slugRest_gap _ _ _ hbetween, slugRest_kept _ _ _ hother, Bool.false_or, Bool.true_and]

/-! ## Words -/

/-- A word of a slug. -/
def IsSlugWord (word : List Char) : Prop :=
  word ≠ [] ∧ ∀ c ∈ word, isSlugLetter c = true

/-- Words of small letters and digits with one hyphen between two of them. There may be none. -/
def IsSlug (slug : List Char) : Prop :=
  ∃ words : List (List Char), (∀ word ∈ words, IsSlugWord word) ∧
    slug = ['-'].intercalate words

/-- A word in front of a slug, with a hyphen between them. -/
theorem IsSlug.cons {word slug : List Char} (hword : IsSlugWord word) (hslug : IsSlug slug)
    (hne : slug ≠ []) : IsSlug (word ++ '-' :: slug) := by
  rcases hslug with ⟨words, hwords, rfl⟩
  cases words with
  | nil => exact absurd rfl hne
  | cons first words =>
    refine ⟨word :: first :: words, List.forall_mem_cons.mpr ⟨hword, hwords⟩, ?_⟩
    rw [List.intercalate_cons_cons, List.append_assoc, List.singleton_append]

/-- What follows a word of a slug makes the word longer or begins another one. -/
theorem isSlug_append_slugRest {word : List Char} (hword : IsSlugWord word) (broken : Bool)
    (name : List Char) : IsSlug (word ++ slugRest true broken name) := by
  induction name generalizing word broken with
  | nil =>
    refine ⟨[word], List.forall_mem_singleton.mpr hword, ?_⟩
    rw [slugRest, List.append_nil, List.intercalate_singleton]
  | cons c name ih =>
    cases hc : isSlugChar c with
    | true =>
      have hletter := isSlugLetter_toLower hc
      rw [slugRest_kept _ _ _ hc]
      cases broken with
      | true =>
        have hrest : IsSlug ([c.toLower] ++ slugRest true false name) :=
          ih ⟨List.cons_ne_nil _ _, List.forall_mem_singleton.mpr hletter⟩ false
        exact hrest.cons hword (List.cons_ne_nil _ _)
      | false =>
        have hlonger : IsSlugWord (word ++ [c.toLower]) :=
          ⟨by simp, List.forall_mem_append.mpr
            ⟨hword.2, List.forall_mem_singleton.mpr hletter⟩⟩
        have hrest := ih hlonger false
        rw [List.append_assoc] at hrest
        exact hrest
    | false =>
      rw [slugRest_passed _ _ _ hc]
      exact ih hword _

theorem isSlug_slugRest (broken : Bool) (name : List Char) :
    IsSlug (slugRest false broken name) := by
  induction name generalizing broken with
  | nil => exact ⟨[], List.forall_mem_nil _, rfl⟩
  | cons c name ih =>
    cases hc : isSlugChar c with
    | true =>
      have hword : IsSlugWord [c.toLower] :=
        ⟨List.cons_ne_nil _ _, List.forall_mem_singleton.mpr (isSlugLetter_toLower hc)⟩
      rw [slugRest_kept _ _ _ hc]
      exact isSlug_append_slugRest hword false name
    | false =>
      rw [slugRest_passed _ _ _ hc]
      exact ih _

/-! ## Slugs of slugs -/

/-- The letters of a word are kept as they are. -/
theorem slugRest_letters {word : List Char} (h : ∀ c ∈ word, isSlugLetter c = true)
    (rest : List Char) : slugRest true false (word ++ rest) = word ++ slugRest true false rest := by
  induction word with
  | nil => rfl
  | cons c word ih =>
    rcases List.forall_mem_cons.mp h with ⟨hc, hword⟩
    rcases isSlugChar_of_isSlugLetter hc with ⟨hkept, hlower⟩
    rw [List.cons_append, slugRest_kept _ _ _ hkept, hlower, ih hword]
    rfl

theorem slugRest_word {word : List Char} (h : IsSlugWord word) (started broken : Bool)
    (rest : List Char) :
    slugRest started broken (word ++ rest) =
      hyphenIf (started && broken) ++ (word ++ slugRest true false rest) := by
  rcases h with ⟨hne, hletters⟩
  cases word with
  | nil => exact absurd rfl hne
  | cons c word =>
    rcases List.forall_mem_cons.mp hletters with ⟨hc, hword⟩
    rcases isSlugChar_of_isSlugLetter hc with ⟨hkept, hlower⟩
    rw [List.cons_append, slugRest_kept _ _ _ hkept, hlower, slugRest_letters hword]
    rfl

theorem slugRest_intercalate {words : List (List Char)} (h : ∀ word ∈ words, IsSlugWord word)
    (hne : words ≠ []) (started broken : Bool) :
    slugRest started broken (['-'].intercalate words) =
      hyphenIf (started && broken) ++ ['-'].intercalate words := by
  induction words generalizing started broken with
  | nil => exact absurd rfl hne
  | cons word words ih =>
    rcases List.forall_mem_cons.mp h with ⟨hword, hwords⟩
    cases words with
    | nil =>
      have hlast := slugRest_word hword started broken []
      rw [slugRest, List.append_nil] at hlast
      rw [List.intercalate_singleton, hlast]
    | cons next words =>
      have hrest : slugRest true false (['-'] ++ ['-'].intercalate (next :: words)) =
          ['-'] ++ ['-'].intercalate (next :: words) :=
        (slugRest_hyphenIf true _).trans (ih hwords (List.cons_ne_nil _ _) true true)
      rw [List.intercalate_cons_cons, List.append_assoc, slugRest_word hword, hrest]

/-- A text that looks like a slug is its own slug. -/
theorem slugRest_of_isSlug {slug : List Char} (h : IsSlug slug) :
    slugRest false false slug = slug := by
  rcases h with ⟨words, hwords, rfl⟩
  cases words with
  | nil => rfl
  | cons word words => exact slugRest_intercalate hwords (List.cons_ne_nil _ _) false false

/-! ## Slugs of names -/

/-- What a text is as the slug of a name. -/
structure IsSlugOf (name slug : List Char) : Prop where
  /-- Words of small letters and digits with single hyphens between them, or nothing. -/
  form : IsSlug slug
  /-- Without the hyphens, the ASCII letters and digits of the name in order, in lower case. -/
  keeps : letters slug = kept name
  /-- Between two of these that are neighbours, a hyphen exactly if there is white space or ASCII
  punctuation between them in the name. -/
  parts : ∀ (before between after : List Char) (one other : Char),
    name = before ++ one :: (between ++ other :: after) → isSlugChar one = true →
    isSlugChar other = true → (∀ c ∈ between, isSlugChar c = false) →
    ∃ left right,
      slug = left ++ one.toLower :: (hyphenIf (between.any isSlugBreak) ++ other.toLower :: right) ∧
        letters left = kept before ∧ letters right = kept after

theorem isSlugOf_slugRest (name : List Char) : IsSlugOf name (slugRest false false name) where
  form := isSlug_slugRest false name
  keeps := letters_slugRest false false name
  parts := by
    intro before between after one other hname hone hother hbetween
    rw [hname]
    exact exists_slugRest_parted hone hother hbetween before after

/-! ## No other text is the slug -/

theorem letters_append (one other : List Char) :
    letters (one ++ other) = letters one ++ letters other :=
  List.filter_append ..

theorem kept_append (one other : List Char) : kept (one ++ other) = kept one ++ kept other := by
  rw [kept, List.filter_append, List.map_append]
  rfl

theorem kept_eq_nil {between : List Char} (h : ∀ c ∈ between, isSlugChar c = false) :
    kept between = [] := by
  rw [kept, List.filter_eq_nil_iff.mpr fun c hc => Bool.eq_false_iff.mp (h c hc)]
  rfl

/-- Hyphens alone are not kept. -/
theorem not_isSlugChar_of_letters {gap : List Char} (h : letters gap = []) :
    ∀ c ∈ gap, isSlugChar c = false := by
  intro c hc
  have hhyphen : c = '-' := by
    have hnot := List.filter_eq_nil_iff.mp h c hc
    simpa using hnot
  rw [hhyphen]
  decide

/-- A letter has one place in a slug, told by the letters before it. -/
theorem split_unique {left left' right right' : List Char} {c c' : Char} (hc : c ≠ '-')
    (hc' : c' ≠ '-') (h : left ++ c :: right = left' ++ c' :: right')
    (hletters : letters left = letters left') : left = left' ∧ right = right' := by
  have hnone {between : List Char} {part : List Char}
      (hsame : letters part = letters (part ++ between)) : letters between = [] := by
    rw [letters_append] at hsame
    exact List.append_right_eq_self.mp hsame.symm
  have hempty {between rest rest' : List Char} {d d' : Char} (hd : d ≠ '-')
      (hsplit : d :: rest = between ++ d' :: rest') (hbetween : letters between = []) :
      between = [] := by
    cases between with
    | nil => rfl
    | cons first between =>
      obtain rfl := (List.cons.inj hsplit).1
      rw [letters_cons_of_ne hd] at hbetween
      exact absurd hbetween (List.cons_ne_nil _ _)
  rcases List.append_eq_append_iff.mp h with ⟨between, rfl, hsplit⟩ | ⟨between, rfl, hsplit⟩
  · obtain rfl := hempty hc hsplit (hnone hletters)
    exact ⟨(List.append_nil left).symm, (List.cons.inj hsplit).2⟩
  · obtain rfl := hempty hc' hsplit (hnone hletters.symm)
    exact ⟨List.append_nil left', (List.cons.inj hsplit).2.symm⟩

namespace IsSlugOf

variable {name slug : List Char} (h : IsSlugOf name slug)

include h

/-- After each character that is kept, the slug of the slug goes on like the slug of the name. By
induction on the rest of the name, up to the next character that is kept. -/
theorem slugRest_after {one : Char} {before between rest left right : List Char}
    (hone : isSlugChar one = true) (hbetween : ∀ c ∈ between, isSlugChar c = false)
    (hname : name = before ++ one :: (between ++ rest))
    (hslug : slug = left ++ one.toLower :: right) (hleft : letters left = kept before) :
    slugRest true false right = slugRest true (between.any isSlugBreak) rest := by
  induction rest generalizing one before between left right with
  | nil =>
    have hright : letters right = [] := by
      have hkeeps := h.keeps
      rw [hname, hslug, letters_append, letters_cons hone, kept_append, kept_cons_of_pos hone,
        List.append_nil, kept_eq_nil hbetween, hleft] at hkeeps
      exact (List.cons.inj (List.append_cancel_left hkeeps)).2
    have hgap := slugRest_gap true false [] (not_isSlugChar_of_letters hright)
    rw [List.append_nil] at hgap
    rw [hgap, slugRest, slugRest]
  | cons c rest ih =>
    cases hc : isSlugChar c with
    | false =>
      have hlonger : ∀ d ∈ between ++ [c], isSlugChar d = false :=
        List.forall_mem_append.mpr ⟨hbetween, List.forall_mem_singleton.mpr hc⟩
      have hnext := ih hone hlonger (by rw [hname, List.append_assoc]; rfl) hslug hleft
      rw [hnext, slugRest_passed _ _ _ hc, List.any_append, List.any_cons, List.any_nil,
        Bool.or_false]
    | true =>
      rcases h.parts before between rest one c hname hone hc hbetween with
        ⟨left', after, hparts, hleft', -⟩
      have hletter := ne_hyphen_of_isSlugLetter (isSlugLetter_toLower hone)
      obtain ⟨rfl, rfl⟩ :=
        split_unique hletter hletter (hslug.symm.trans hparts) (hleft.trans hleft'.symm)
      have hname' : name = (before ++ one :: between) ++ c :: ([] ++ rest) := by
        rw [hname, List.append_assoc]
        rfl
      have hslug' : slug =
          (left ++ one.toLower :: hyphenIf (between.any isSlugBreak)) ++ c.toLower :: after := by
        rw [hslug, List.append_assoc]
        rfl
      have hletters : letters (left ++ one.toLower :: hyphenIf (between.any isSlugBreak)) =
          kept (before ++ one :: between) := by
        have hhyphen := letters_hyphenIf (between.any isSlugBreak) []
        rw [List.append_nil] at hhyphen
        rw [letters_append, letters_cons hone, kept_append, kept_cons_of_pos hone,
          kept_eq_nil hbetween, hhyphen, hleft]
        rfl
      have hnext := ih hc (List.forall_mem_nil _) hname' hslug' hletters
      rw [slugRest_hyphenIf, slugRest_toLower _ _ _ hc, slugRest_kept _ _ _ hc, hnext, List.any_nil]

/-- The slug of the slug is the slug of the name. -/
theorem slugRest_eq : slugRest false false slug = slugRest false false name := by
  have hnone {part : List Char} (hpart : ∀ c ∈ part, isSlugChar c = false) :
      slugRest false false part = [] := by
    have hgap := slugRest_gap false false [] hpart
    rwa [List.append_nil] at hgap
  have hkeeps := h.keeps
  cases hfirst : name.filter isSlugChar with
  | nil =>
    have hname : ∀ c ∈ name, isSlugChar c = false := fun c hc =>
      Bool.eq_false_iff.mpr (List.filter_eq_nil_iff.mp hfirst c hc)
    rw [kept_eq_nil hname] at hkeeps
    rw [hnone hname, hnone (not_isSlugChar_of_letters hkeeps)]
  | cons one others =>
    rcases List.filter_eq_cons_iff.mp hfirst with ⟨before, rest, rfl, hbefore, hone, -⟩
    have hbefore : ∀ c ∈ before, isSlugChar c = false := fun c hc =>
      Bool.eq_false_iff.mpr (hbefore c hc)
    rw [kept, hfirst, List.map_cons] at hkeeps
    rcases List.filter_eq_cons_iff.mp hkeeps with ⟨left, right, rfl, hleft, -, -⟩
    have hleft : letters left = [] := List.filter_eq_nil_iff.mpr hleft
    have hrest := h.slugRest_after hone (List.forall_mem_nil _) rfl rfl
      (hleft.trans (kept_eq_nil hbefore).symm)
    rw [slugRest_gap _ _ _ hbefore, slugRest_gap _ _ _ (not_isSlugChar_of_letters hleft),
      slugRest_toLower _ _ _ hone, slugRest_kept _ _ _ hone, hrest]
    rfl

end IsSlugOf

/-- A text is the slug of a name if and only if it is made of words with single hyphens between
them, keeps of the name what is to be kept, and has the hyphens where the name is broken. A slug is
its own slug. -/
theorem eq_slug_iff (name : String) :
    (∀ text : String, text = slug name ↔ IsSlugOf name.toList text.toList) ∧
      slug (slug name) = slug name := by
  have hslug : (slug name).toList = slugRest false false name.toList := String.toList_ofList
  have hslugOf := isSlugOf_slugRest name.toList
  constructor
  · intro text
    constructor
    · rintro rfl
      rw [hslug]
      exact hslugOf
    · intro h
      rw [← String.toList_inj, hslug, ← h.slugRest_eq, slugRest_of_isSlug h.form]
  · rw [slug, hslug, slugRest_of_isSlug hslugOf.form]
    rfl

/-- Breaks in a row make one hyphen, and a letter that is left out makes none. -/
example : slug "Pokémon: Red 2" = "pokmon-red-2" := by
  rfl

end GameShelf.Text
