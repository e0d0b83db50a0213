import GameShelf.Json.Reader
import GameShelf.Json.Writer
import GameShelf.Proofs.Json.NumberText

/-!
# The tokens of written values

What is written for a value is read as the tokens that spell it, one by one and none but them.

* `spelled`: the tokens of a value.
* `Scanner.Ends`: what was read comes to an end here, whatever may follow in a list or record.
* `tokens_write`: the tokens of the text of a value.
-/

namespace GameShelf.Json

/-! ## The tokens of a value -/

/-- What is read for a number that was written; absent if that is beyond all doubles. -/
def rereadNumber (n : JsonNumber) : Option Json :=
  if n.chars = ['n', 'u', 'l', 'l'] then some .null else (JsonNumber.ofChars? n.chars).map .number

mutual

/-- The tokens that spell a value. -/
def spelled : Json → List Token
  | .null => [.scalar (some .null)]
  | .flag value => [.scalar (some (.flag value))]
  | .number n => [.scalar (rereadNumber n)]
  | .text t => [.text (some t)]
  | .list items => .openList :: (itemsSpelled items ++ [.closeList])
  | .record fields => .openRecord :: (fieldsSpelled fields ++ [.closeRecord])

/-- The tokens of the items of a list. -/
def itemsSpelled : List Json → List Token
  | [] => []
  | [item] => spelled item
  | item :: rest => spelled item ++ .comma :: itemsSpelled rest

/-- The tokens of the fields of a record. -/
def fieldsSpelled : Fields → List Token
  | [] => []
  | [(key, value)] => .text (some key) :: .colon :: spelled value
  | (key, value) :: rest =>
    .text (some key) :: .colon :: (spelled value ++ .comma :: fieldsSpelled rest)

end

namespace Scanner

/-- Reads characters. -/
def reads (s : Scanner) (cs : List Char) : Scanner :=
  cs.foldl step s

@[simp] theorem reads_nil (s : Scanner) : s.reads [] = s := rfl

@[simp] theorem reads_cons (s : Scanner) (c : Char) (cs : List Char) :
    s.reads (c :: cs) = (s.step c).reads cs := rfl

theorem reads_append (s : Scanner) (cs ds : List Char) :
    s.reads (cs ++ ds) = (s.reads cs).reads ds :=
  List.foldl_append

/-! ## Strings -/

/-- A character that is neither escaped nor a control character is read as it stands. -/
theorem stepText_plain (found : List Token) (codes : List Nat) {c : Char} (hquote : c ≠ '"')
    (hslash : c ≠ '\\') (hcontrol : ¬ c.toNat < 0x20) :
    stepText found codes c = ⟨found, .text (c.toNat :: codes)⟩ := by
  rw [stepText, if_neg hquote, if_neg hslash, if_neg hcontrol]

theorem hexDigit?_digitChar {n : Nat} (h : n < 16) : hexDigit? (Nat.digitChar n) = some n := by
  revert n
  decide

/-- A character is read as it is escaped. -/
theorem reads_escapeChar (found : List Token) (codes : List Nat) (c : Char) :
    reads ⟨found, .text codes⟩ (escapeChar c) = ⟨found, .text (c.toNat :: codes)⟩ := by
  unfold escapeChar
  split
  -- the escapes of two characters are read by computation
  all_goals try rfl
  rename_i hquote hslash _ _ _ _ _
  split
  · rename_i hcontrol
    -- of the four digits of a control character the first two are zeros
    have hhigh : hexDigit? (Nat.digitChar (c.toNat / 16)) = some (c.toNat / 16) :=
      hexDigit?_digitChar (by omega)
    have hlow : hexDigit? (Nat.digitChar (c.toNat % 16)) = some (c.toNat % 16) :=
      hexDigit?_digitChar (by omega)
    have hlead : ∀ s, reads ⟨found, .text codes⟩ ('\\' :: 'u' :: '0' :: '0' :: s) =
        reads ⟨found, .unicode codes 2 0⟩ s := fun s => rfl
    have hthird : step ⟨found, .unicode codes 2 0⟩ (Nat.digitChar (c.toNat / 16)) =
        ⟨found, .unicode codes 3 (0 * 16 + c.toNat / 16)⟩ := by
      simp only [step, stepUnicode, hhigh]
      rfl
    have hfourth : step ⟨found, .unicode codes 3 (0 * 16 + c.toNat / 16)⟩
        (Nat.digitChar (c.toNat % 16)) =
        ⟨found, .text (((0 * 16 + c.toNat / 16) * 16 + c.toNat % 16) :: codes)⟩ := by
      simp only [step, stepUnicode, hlow]
      rfl
    have hsum : (0 * 16 + c.toNat / 16) * 16 + c.toNat % 16 = c.toNat := by omega
    rw [hlead, reads_cons, hthird, reads_cons, hfourth, reads_nil, hsum]
  · rename_i hcontrol
    exact stepText_plain found codes hquote hslash hcontrol

/-- The characters of a text are read one after the other. -/
theorem reads_escaped (found : List Token) (codes : List Nat) (cs : List Char) :
    reads ⟨found, .text codes⟩ (cs.flatMap escapeChar) =
      ⟨found, .text ((cs.map Char.toNat).reverse ++ codes)⟩ := by
  induction cs generalizing codes with
  | nil => rfl
  | cons c rest ih =>
    rw [List.flatMap_cons, reads_append, reads_escapeChar, ih, List.map_cons, List.reverse_cons,
      List.append_assoc]
    rfl

/-- The code of a character is no half of a surrogate pair. -/
theorem isHighHalf_toNat (c : Char) : isHighHalf c.toNat = false := by
  have hvalid : c.toNat.isValidChar := c.valid
  simp only [isHighHalf, Bool.and_eq_false_iff, decide_eq_false_iff_not]
  rcases hvalid with h | h <;> omega

theorem charOfCode?_toNat (c : Char) : charOfCode? c.toNat = some c := by
  have hvalid : c.toNat.isValidChar := c.valid
  rw [charOfCode?, if_pos hvalid, Char.ofNat_toNat]

/-- The codes of characters spell them. -/
theorem charsOfCodes?_toNat (cs : List Char) : charsOfCodes? (cs.map Char.toNat) = some cs := by
  induction cs with
  | nil => rfl
  | cons c rest ih =>
    cases rest with
    | nil =>
      simp only [List.map_cons, List.map_nil, charsOfCodes?, charOfCode?_toNat, Option.map_some]
    | cons next rest =>
      rw [List.map_cons, List.map_cons, charsOfCodes?, isHighHalf_toNat, charOfCode?_toNat]
      rw [List.map_cons] at ih
      simp only [Bool.false_eq_true, if_false, ih, Option.map_some]

/-- A text that is written is read as itself. -/
theorem reads_textChars (found : List Token) (t : String) :
    reads ⟨found, .between⟩ (textChars t) = ⟨.text (some t) :: found, .between⟩ := by
  have hopen : step ⟨found, .between⟩ '"' = ⟨found, .text []⟩ := rfl
  have hclose : ∀ codes, step ⟨found, .text codes⟩ '"' = emit found (textToken codes) :=
    fun codes => rfl
  rw [textChars, reads_cons, hopen, reads_append, reads_escaped, List.append_nil, reads_cons,
    hclose, reads_nil, textToken, List.reverse_reverse, charsOfCodes?_toNat, Option.map_some,
    String.ofList_toList]
  rfl

/-! ## Numbers -/

/-- A character that ends a part of a list or record. -/
def IsBreak (c : Char) : Prop :=
  c = ',' ∨ c = ']' ∨ c = '\x7d'

/-- What was read comes to an end here: with the text, or with a break. -/
structure Ends (s : Scanner) (found : List Token) : Prop where
  finish_eq : s.finish = found
  step_eq : ∀ c, IsBreak c → s.step c = start found c

theorem ends_between (found : List Token) : Ends ⟨found, .between⟩ found :=
  ⟨rfl, fun _ _ => rfl⟩

/-- Nothing continues a number that ends a part. -/
theorem next?_break (stage : NumberStage) {c : Char} (h : IsBreak c) : stage.next? c = none := by
  rcases h with rfl | rfl | rfl <;> cases stage <;> rfl

theorem ends_number (found : List Token) {stage : NumberStage} (h : stage.mayEnd = true)
    (read : List Char) : Ends ⟨found, .number stage read⟩ (numberToken read :: found) where
  finish_eq := by simp only [finish, h, if_true]
  step_eq := by
    intro c hc
    have hdigit : c.isDigit = false := by rcases hc with rfl | rfl | rfl <;> rfl
    simp only [step, stepNumber, next?_break stage hc, h, hdigit]
    rfl

/-- The first character of a number opens one. -/
theorem start_number (found : List Token) {c : Char} {stage : NumberStage}
    (h : NumberStage.start? c = some stage) : start found c = ⟨found, .number stage [c]⟩ := by
  have hchar : c = '-' ∨ c.isDigit = true := by
    unfold NumberStage.start? at h
    split at h
    · exact .inl ‹_›
    · right
      simp only [NumberStage.next?] at h
      split at h
      · rename_i hzero
        rw [hzero]
        rfl
      · split at h
        · assumption
        · exact absurd h (by simp)
  -- a sign or digit is none of the characters that start something else
  have hother : ∀ d : Char, d ≠ '-' → d.isDigit = false → c ≠ d := by
    rintro d hminus hdigit rfl
    rcases hchar with rfl | hc
    · exact hminus rfl
    · rw [hc] at hdigit
      exact absurd hdigit (by simp)
  have hgap : isGap c = false := by
    simp only [isGap, Bool.or_eq_false_iff, beq_eq_false_iff_ne]
    exact ⟨⟨⟨hother _ (by decide) rfl, hother _ (by decide) rfl⟩, hother _ (by decide) rfl⟩,
      hother _ (by decide) rfl⟩
  have hopenList := hother '[' (by decide) rfl
  have hcloseList := hother ']' (by decide) rfl
  have hopenRecord := hother '\x7b' (by decide) rfl
  have hcloseRecord := hother '\x7d' (by decide) rfl
  have hcomma := hother ',' (by decide) rfl
  have hcolon := hother ':' (by decide) rfl
  have hquote := hother '"' (by decide) rfl
  have hn := hother 'n' (by decide) rfl
  have ht := hother 't' (by decide) rfl
  have hf := hother 'f' (by decide) rfl
  simp only [start, hgap, hopenList, hcloseList, hopenRecord, hcloseRecord, hcomma, hcolon, hquote,
    hn, ht, hf, h, if_false, Bool.false_eq_true]

/-- Characters that continue a number are read as its part. -/
theorem reads_number (found : List Token) {stage last : NumberStage} {cs : List Char}
    (h : stage.after? cs = some last) (read : List Char) :
    reads ⟨found, .number stage read⟩ cs = ⟨found, .number last (cs.reverse ++ read)⟩ := by
  induction cs generalizing stage read with
  | nil =>
    obtain rfl := Option.some.inj h
    rfl
  | cons c rest ih =>
    rw [NumberStage.after?_cons] at h
    rcases Option.bind_eq_some_iff.mp h with ⟨next, hnext, hrest⟩
    have hstep : step ⟨found, .number stage read⟩ c = ⟨found, .number next (c :: read)⟩ := by
      simp only [step, stepNumber, hnext]
    rw [reads_cons, hstep, ih hrest, List.reverse_cons, List.append_assoc]
    rfl

/-- A number that is written is read as one token. -/
theorem ends_spelling (found : List Token) {cs : List Char} (h : IsSpelling cs) :
    Ends (reads ⟨found, .between⟩ cs)
      (.scalar ((JsonNumber.ofChars? cs).map .number) :: found) := by
  rcases h with ⟨first, rest, stage, last, rfl, hstart, hafter, hlast⟩
  have hfirst : step ⟨found, .between⟩ first = ⟨found, .number stage [first]⟩ :=
    start_number found hstart
  have hends := ends_number found hlast (rest.reverse ++ [first])
  rw [numberToken, List.reverse_append, List.reverse_reverse] at hends
  rw [reads_cons, hfirst, reads_number found hafter]
  exact hends

/-! ## Values -/

theorem start_comma (found : List Token) :
    start found ',' = ⟨.comma :: found, .between⟩ := rfl

theorem step_colon (found : List Token) :
    step ⟨found, .between⟩ ':' = ⟨.colon :: found, .between⟩ := rfl

/-- After an end a break starts afresh. -/
theorem Ends.reads_break {s : Scanner} {found : List Token} (h : s.Ends found) {c : Char}
    (hc : IsBreak c) (rest : List Char) : s.reads (c :: rest) = (start found c).reads rest := by
  rw [reads_cons, h.step_eq c hc]

theorem ends_word (found : List Token) {cs : List Char} {value : Json}
    (h : reads ⟨found, .between⟩ cs = ⟨.scalar (some value) :: found, .between⟩) :
    Ends (reads ⟨found, .between⟩ cs) ([.scalar (some value)] ++ found) := by
  rw [h]
  exact ends_between _

/-- What stands between brackets ends with the closing one. -/
theorem Ends.closed {s : Scanner} {found : List Token} (h : s.Ends found) {c : Char}
    (hc : IsBreak c) (token : Token) (htoken : start found c = emit found token) :
    Ends (s.reads [c]) (token :: found) := by
  rw [h.reads_break hc, htoken]
  exact ends_between _

mutual

/-- What is written for a value is read as the tokens that spell it. -/
theorem ends_chars (found : List Token) (value : Json) :
    Ends (reads ⟨found, .between⟩ (chars value)) ((spelled value).reverse ++ found) := by
  cases value with
  | null => exact ends_word found rfl
  | flag value => cases value <;> exact ends_word found rfl
  | number n =>
    rcases isSpelling_chars n with h | h
    · -- no number is spelled like the word
      have hnull : n.chars ≠ ['n', 'u', 'l', 'l'] := by
        intro heq
        rcases h with ⟨first, rest, stage, last, hcons, hstart, -, -⟩
        rw [heq] at hcons
        rcases List.cons.inj hcons with ⟨rfl, -⟩
        exact absurd hstart (by simp [NumberStage.start?, NumberStage.next?])
      have hends := ends_spelling found h
      simpa [chars, spelled, rereadNumber, if_neg hnull] using hends
    · simp only [chars, spelled, rereadNumber, h]
      exact ends_word found rfl
  | text t =>
    rw [chars, reads_textChars]
    exact ends_between _
  | list items =>
    have hitems := ends_items (.openList :: found) items
    have hclosed := hitems.closed (.inr (.inl rfl)) .closeList rfl
    have hopen : step ⟨found, .between⟩ '[' = ⟨.openList :: found, .between⟩ := rfl
    rw [chars, reads_cons, hopen, reads_append]
    simpa [spelled] using hclosed
  | record fields =>
    have hfields := ends_fields (.openRecord :: found) fields
    have hclosed := hfields.closed (.inr (.inr rfl)) .closeRecord rfl
    have hopen : step ⟨found, .between⟩ '\x7b' = ⟨.openRecord :: found, .between⟩ := rfl
    rw [chars, reads_cons, hopen, reads_append]
    simpa [spelled] using hclosed

/-- The items of a list are read with commas between them. -/
theorem ends_items (found : List Token) (items : List Json) :
    Ends (reads ⟨found, .between⟩ (itemChars items)) ((itemsSpelled items).reverse ++ found) := by
  match items with
  | [] => exact ends_between found
  | [item] => exact ends_chars found item
  | item :: second :: rest =>
    have hitem := ends_chars found item
    have hrest := ends_items (.comma :: ((spelled item).reverse ++ found)) (second :: rest)
    rw [itemChars, reads_append, hitem.reads_break (.inl rfl), start_comma]
    · simpa [itemsSpelled] using hrest
    · simp

/-- The fields of a record are read with commas between them. -/
theorem ends_fields (found : List Token) (fields : Fields) :
    Ends (reads ⟨found, .between⟩ (fieldChars fields))
      ((fieldsSpelled fields).reverse ++ found) := by
  match fields with
  | [] => exact ends_between found
  | [(key, value)] =>
    have hvalue := ends_chars (.colon :: .text (some key) :: found) value
    rw [fieldChars, reads_append, reads_textChars, reads_cons, step_colon]
    simpa [fieldsSpelled] using hvalue
  | (key, value) :: second :: rest =>
    have hvalue := ends_chars (.colon :: .text (some key) :: found) value
    have hrest := ends_fields
      (.comma :: ((spelled value).reverse ++ .colon :: .text (some key) :: found)) (second :: rest)
    rw [fieldChars, List.append_assoc, reads_append, reads_textChars, List.cons_append, reads_cons,
      step_colon, reads_append, hvalue.reads_break (.inl rfl), start_comma]
    · simpa [fieldsSpelled] using hrest
    · simp

end

end Scanner

/-- The text of a value is read as the tokens that spell it. -/
theorem tokens_write (value : Json) : tokens (write value) = spelled value := by
  have hends := (Scanner.ends_chars [] value).finish_eq
  rw [List.append_nil] at hends
  rw [tokens, write, String.toList_ofList, ← List.reverse_reverse (spelled value), ← hends]
  rfl

end GameShelf.Json
