import GameShelf.Proofs.Text.Percent

/-!
# The shape of a segment

The segment of an identifier is plain characters and escapes. It is what a form has for the
identifier, but with its blanks escaped, and it is no spelling of the dots that lead out of a
collection unless the identifier is these dots.

* `IsEscaped`: plain characters and escapes, with `isEscaped_encodeSegment`.
* `toList_encodeSegment`: the segment from what a form has.
* `IsDotSegment`: the dots, in every spelling, with `not_isDotSegment_encodeSegment`.
-/

namespace GameShelf.Text

/-! ## Plain characters and escapes -/

/-- Plain characters and escapes of two digits, in any order. -/
inductive IsEscaped : List Char → Prop where
  | nil : IsEscaped []
  | plain {c : Char} {rest : List Char} (h : isPlainInPath c = true) (hrest : IsEscaped rest) :
      IsEscaped (c :: rest)
  | escape (byte : UInt8) {rest : List Char} (hrest : IsEscaped rest) :
      IsEscaped ('%' :: hexDigit (byte.toNat / 16) :: hexDigit (byte.toNat % 16) :: rest)

theorem IsEscaped.encodeByte_append (byte : UInt8) {rest : List Char} (h : IsEscaped rest) :
    IsEscaped (encodeByte byte ++ rest) := by
  simp only [encodeByte]
  split
  · rename_i hplain
    exact .plain hplain h
  · exact .escape byte h

theorem isEscaped_encodeSegment (id : String) : IsEscaped (encodeSegment id).toList := by
  rw [encodeSegment, String.toList_ofList]
  induction utf8 id with
  | nil => exact .nil
  | cons byte rest ih =>
    rw [List.flatMap_cons]
    exact ih.encodeByte_append byte

/-! ## Forms -/

/-- One byte in a form. A blank is a plus sign there, and a plus sign is escaped. -/
def formByte (byte : UInt8) : List Char :=
  if byte = ' '.toNat.toUInt8 then ['+'] else encodeByte byte

/-- An escaped blank for a plus sign. -/
def escapeBlank (c : Char) : List Char :=
  if c = '+' then ['%', '2', '0'] else [c]

theorem flatMap_escapeBlank {cs : List Char} (h : '+' ∉ cs) : cs.flatMap escapeBlank = cs := by
  induction cs with
  | nil => rfl
  | cons c rest ih =>
    rcases List.ne_and_not_mem_of_not_mem_cons h with ⟨hc, hrest⟩
    rw [List.flatMap_cons, ih hrest, escapeBlank, if_neg (Ne.symm hc)]
    rfl

theorem plus_notMem_encodeByte (byte : UInt8) : '+' ∉ encodeByte byte := fun h =>
  absurd (isSegmentChar_of_mem_encodeByte h) (by decide)

/-- A segment is what a form has, with an escaped blank for every plus sign: these are the blanks of
the identifier and nothing else. -/
theorem toList_encodeSegment (id : String) :
    (encodeSegment id).toList = ((utf8 id).flatMap formByte).flatMap escapeBlank := by
  rw [encodeSegment, String.toList_ofList, List.flatMap_assoc]
  congr 1
  funext byte
  rw [formByte]
  split
  · rename_i hblank
    rw [hblank]
    decide
  · exact (flatMap_escapeBlank (plus_notMem_encodeByte byte)).symm

/-! ## Dots -/

/-- The spellings of a dot. -/
def dotSpellings : List String := [".", "%2e", "%2E"]

/-- A segment that readers of addresses take as a step to nowhere, one dot, or up, two dots,
escaped or not. -/
def IsDotSegment (segment : String) : Prop :=
  ∃ dot ∈ dotSpellings, segment = dot ∨ ∃ other ∈ dotSpellings, segment = dot ++ other

theorem utf8_injective {text other : String} (h : utf8 text = utf8 other) : text = other := by
  have htext := ofUtf8?_utf8 text
  rw [h, ofUtf8?_utf8] at htext
  exact (Option.some.inj htext).symm

/-- Whatever spells dots stands for dots. -/
theorem decodeBytes_dots :
    (∀ dot ∈ dotSpellings, decodeBytes (utf8 dot) = utf8 ".") ∧
      ∀ dot ∈ dotSpellings, ∀ other ∈ dotSpellings,
        decodeBytes (utf8 (dot ++ other)) = utf8 ".." := by
  decide

theorem not_isDotSegment_encodeSegment {id : String} (hone : id ≠ ".") (htwo : id ≠ "..") :
    ¬ IsDotSegment (encodeSegment id) := by
  rintro ⟨dot, hdot, hsegment | ⟨other, hother, hsegment⟩⟩
  · apply hone
    apply utf8_injective
    rw [← decodeBytes_encodeSegment, hsegment, decodeBytes_dots.1 dot hdot]
  · apply htwo
    apply utf8_injective
    rw [← decodeBytes_encodeSegment, hsegment, decodeBytes_dots.2 dot hdot other hother]

end GameShelf.Text
