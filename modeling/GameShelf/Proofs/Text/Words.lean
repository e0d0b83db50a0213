import GameShelf.Proofs.Text.Trim

/-!
# The words of a text

To split a text at a class of characters is to find its words: what is left of it without the
separators before, between and after them.

* `IsSplit`: the words of a text, as a relation.
* `isSplit_iff`: splitting finds them, so every text has exactly one sequence of words.
* `IsSplit.strip`: separators around a text do not matter.
* `IsSplit.exists_word`: whatever does not separate is in a word.
* `IsSplit.map`: respelling characters respells words.
-/

namespace GameShelf.Text

/-- A text is made of words, which are not empty and have no separators in them, and of
separators. A word goes up to a separator or to the end of the text. -/
inductive IsSplit (separates : Char → Bool) : List Char → List (List Char) → Prop where
  | nil : IsSplit separates [] []
  | gap {c : Char} {rest : List Char} {words : List (List Char)} (hc : separates c = true)
      (hrest : IsSplit separates rest words) : IsSplit separates (c :: rest) words
  | word {word rest : List Char} {words : List (List Char)} (hne : word ≠ [])
      (hword : ∀ c ∈ word, separates c = false) (hend : ∀ c ∈ rest.head?, separates c = true)
      (hrest : IsSplit separates rest words) : IsSplit separates (word ++ rest) (word :: words)

variable {separates : Char → Bool}

/-! ## Splitting -/

/-- Splitting goes on with the word that it is in. -/
theorem isSplit_splitRuns {run : List Char} (hrun : ∀ c ∈ run.reverse, separates c = false)
    (cs : List Char) : IsSplit separates (run.reverse ++ cs) (splitRuns separates run cs) := by
  induction cs generalizing run with
  | nil =>
    rw [splitRuns]
    split
    · rename_i hempty
      rw [hempty]
      exact .nil
    · rename_i hne
      exact .word (mt List.reverse_eq_nil_iff.mp hne) hrun (fun _ hc => absurd hc (by simp)) .nil
  | cons c rest ih =>
    rw [splitRuns]
    split
    · rename_i hc
      have hrest : IsSplit separates (c :: rest) (splitRuns separates [] rest) :=
        .gap hc (@ih [] fun _ hd => absurd hd List.not_mem_nil)
      split
      · rename_i hempty
        rw [hempty]
        exact hrest
      · rename_i hne
        refine .word (mt List.reverse_eq_nil_iff.mp hne) hrun ?_ hrest
        intro first hfirst
        rwa [← Option.some.inj hfirst]
    · rename_i hc
      have hlonger : ∀ d ∈ (c :: run).reverse, separates d = false := by
        rw [List.reverse_cons]
        exact List.forall_mem_append.mpr
          ⟨hrun, List.forall_mem_singleton.mpr (Bool.eq_false_iff.mpr hc)⟩
      have hword := ih hlonger
      rw [List.reverse_cons, List.append_assoc] at hword
      exact hword

/-- A part without separators makes the current word longer. -/
theorem splitRuns_word {word : List Char} (h : ∀ c ∈ word, separates c = false)
    (run rest : List Char) :
    splitRuns separates run (word ++ rest) = splitRuns separates (word.reverse ++ run) rest := by
  induction word generalizing run with
  | nil => rfl
  | cons c word ih =>
    rcases List.forall_mem_cons.mp h with ⟨hc, hword⟩
    rw [List.cons_append, splitRuns, hc, if_neg Bool.false_ne_true, ih hword, List.reverse_cons,
      List.append_assoc, List.singleton_append]

/-- A separator ends the current word. -/
theorem splitRuns_of_ends {run rest : List Char} (hne : run ≠ [])
    (hend : ∀ c ∈ rest.head?, separates c = true) :
    splitRuns separates run rest = run.reverse :: splitRuns separates [] rest := by
  cases rest with
  | nil => rw [splitRuns, if_neg hne, splitRuns, if_pos rfl]
  | cons c rest =>
    have hc : separates c = true := hend c rfl
    rw [splitRuns, if_pos hc, if_neg hne, splitRuns, if_pos hc, if_pos rfl]

/-- Splitting a text finds its words. -/
theorem isSplit_iff {cs : List Char} {words : List (List Char)} :
    IsSplit separates cs words ↔ splitRuns separates [] cs = words := by
  constructor
  · intro h
    induction h with
    | nil => rfl
    | gap hc _ ih => rw [splitRuns, if_pos hc, if_pos rfl, ih]
    | @word word rest words hne hword hend _ ih =>
      rw [splitRuns_word hword, List.append_nil,
        splitRuns_of_ends (mt List.reverse_eq_nil_iff.mp hne) hend, List.reverse_reverse, ih]
  · rintro rfl
    exact @isSplit_splitRuns separates [] (fun _ hc => absurd hc List.not_mem_nil) cs

/-! ## Separators at the ends -/

/-- Separators before a text are passed over. -/
theorem splitRuns_gap {gap : List Char} (h : ∀ c ∈ gap, separates c = true) (cs : List Char) :
    splitRuns separates [] (gap ++ cs) = splitRuns separates [] cs := by
  induction gap with
  | nil => rfl
  | cons c gap ih =>
    rcases List.forall_mem_cons.mp h with ⟨hc, hgap⟩
    rw [List.cons_append, splitRuns, if_pos hc, if_pos rfl, ih hgap]

/-- Separators after a text end its last word, which ends there anyway. -/
theorem splitRuns_append_gap {gap : List Char} (h : ∀ c ∈ gap, separates c = true)
    (run cs : List Char) :
    splitRuns separates run (cs ++ gap) = splitRuns separates run cs := by
  have hnone : splitRuns separates [] gap = [] := by
    have hgap := splitRuns_gap h []
    rwa [List.append_nil] at hgap
  induction cs generalizing run with
  | nil =>
    rw [List.nil_append, splitRuns]
    split
    · rename_i hempty
      rw [hempty, hnone]
    · rename_i hne
      rw [splitRuns_of_ends hne fun c hc => h c (List.mem_of_mem_head? hc), hnone]
  | cons c rest ih =>
    rw [List.cons_append, splitRuns, splitRuns]
    simp only [ih]

/-- The words of a text are those of the text without separators around it. -/
theorem IsSplit.strip {before cs after : List Char} {words : List (List Char)}
    (hbefore : ∀ c ∈ before, separates c = true) (hafter : ∀ c ∈ after, separates c = true)
    (h : IsSplit separates (before ++ cs ++ after) words) : IsSplit separates cs words := by
  rw [isSplit_iff, splitRuns_append_gap hafter, splitRuns_gap hbefore] at h
  exact isSplit_iff.mpr h

/-- A text of separators has no words. -/
theorem IsSplit.eq_nil_of_forall {cs : List Char} {words : List (List Char)}
    (h : IsSplit separates cs words) (hall : ∀ c ∈ cs, separates c = true) : words = [] := by
  have hnone := splitRuns_gap hall []
  rw [List.append_nil] at hnone
  exact (isSplit_iff.mp h).symm.trans hnone

/-! ## Nothing is lost -/

/-- Every character that does not separate is in a word. -/
theorem IsSplit.exists_word {cs : List Char} {words : List (List Char)}
    (h : IsSplit separates cs words) {c : Char} (hc : c ∈ cs) (hword : separates c = false) :
    ∃ word ∈ words, c ∈ word := by
  induction h with
  | nil => exact absurd hc List.not_mem_nil
  | gap hgap _ ih =>
    rcases List.mem_cons.mp hc with rfl | hrest
    · rw [hgap] at hword
      contradiction
    · exact ih hrest
  | @word word rest words _ _ _ _ ih =>
    rcases List.mem_append.mp hc with hfirst | hrest
    · exact ⟨word, List.mem_cons_self, hfirst⟩
    · rcases ih hrest with ⟨later, hlater, hmem⟩
      exact ⟨later, List.mem_cons_of_mem _ hlater, hmem⟩

/-! ## Respelling -/

/-- If characters are respelled and separators stay separators, and nothing else becomes one, the
words are respelled. -/
theorem IsSplit.map {respell : Char → Char} (hsame : ∀ c, separates (respell c) = separates c)
    {cs : List Char} {words : List (List Char)} (h : IsSplit separates cs words) :
    IsSplit separates (cs.map respell) (words.map fun word => word.map respell) := by
  induction h with
  | nil => exact .nil
  | gap hc _ ih => exact .gap ((hsame _).trans hc) ih
  | @word word rest words hne hword hend _ ih =>
    rw [List.map_append, List.map_cons]
    refine .word (mt List.map_eq_nil_iff.mp hne) ?_ ?_ ih
    · intro c hc
      rcases List.mem_map.mp hc with ⟨original, horiginal, rfl⟩
      rw [hsame, hword original horiginal]
    · intro c hc
      rw [List.head?_map] at hc
      rcases Option.map_eq_some_iff.mp hc with ⟨original, horiginal, rfl⟩
      rw [hsame, hend original horiginal]

end GameShelf.Text
