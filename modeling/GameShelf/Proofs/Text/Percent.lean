import GameShelf.Proofs.Text.Utf8
import GameShelf.Text.Percent

/-!
# Segments and back

The segment of an identifier is plain ASCII, and decoding it gives the identifier again.

* `isSegmentChar_of_mem`: what a segment is made of.
* `decodeSegment?_encodeSegment`: decoding undoes encoding.
-/

namespace GameShelf.Text

/-! ## Bytes and characters -/

theorem ofUtf8?_utf8 (text : String) : ofUtf8? (utf8 text) = some text := by
  simp only [ofUtf8?, utf8, String.toUTF8_eq_toByteArray, Array.toArray_toList, String.fromUTF8?]
  rw [dif_pos text.isValidUTF8]
  rfl

/-- The byte of an ASCII character. -/
def asciiByte (c : Char) : UInt8 :=
  c.toNat.toUInt8

theorem utf8EncodeChar_ascii {c : Char} (h : c.toNat < 128) :
    String.utf8EncodeChar c = [asciiByte c] := by
  have hsize : c.utf8Size = 1 := by
    rw [Char.utf8Size_eq_one_iff, UInt32.le_iff_toNat_le]
    exact Nat.le_of_lt_succ h
  rw [String.utf8EncodeChar_eq_singleton hsize]
  rfl

/-- A text of ASCII characters has one byte for each. -/
theorem utf8_ofList {cs : List Char} (h : ∀ c ∈ cs, c.toNat < 128) :
    utf8 (String.ofList cs) = cs.map asciiByte := by
  rw [utf8_eq_flatMap, String.toList_ofList]
  induction cs with
  | nil => rfl
  | cons c rest ih =>
    have hrest : ∀ d ∈ rest, d.toNat < 128 := fun d hd => h d (List.mem_cons_of_mem c hd)
    rw [List.flatMap_cons, utf8EncodeChar_ascii (h c List.mem_cons_self), List.map_cons, ih hrest]
    rfl

/-! ## What a segment is made of -/

/-- The characters of a segment. -/
def isSegmentChar (c : Char) : Bool :=
  isPlainInPath c || c == '%'

theorem hexDigit_isSegmentChar {n : Nat} (h : n < 16) : isSegmentChar (hexDigit n) = true := by
  revert n
  decide

theorem isSegmentChar_of_mem_encodeByte {byte : UInt8} {c : Char} (h : c ∈ encodeByte byte) :
    isSegmentChar c = true := by
  simp only [encodeByte] at h
  split at h
  · rename_i hplain
    rw [List.mem_singleton.mp h, isSegmentChar, hplain, Bool.true_or]
  · have hbyte := byte.toNat_lt
    simp only [List.mem_cons, List.not_mem_nil, or_false] at h
    rcases h with rfl | rfl | rfl
    · rfl
    · exact hexDigit_isSegmentChar (by omega)
    · exact hexDigit_isSegmentChar (by omega)

theorem isSegmentChar_of_mem {id : String} {c : Char} (h : c ∈ (encodeSegment id).toList) :
    isSegmentChar c = true := by
  rw [encodeSegment, String.toList_ofList] at h
  rcases List.mem_flatMap.mp h with ⟨byte, -, hc⟩
  exact isSegmentChar_of_mem_encodeByte hc

theorem lt_of_isAlphanum {c : Char} (h : c.isAlphanum = true) : c.toNat < 128 := by
  have hval : c.toNat = c.val.toNat := rfl
  have hle : c.val ≤ 'Z'.val ∨ c.val ≤ 'z'.val ∨ c.val ≤ '9'.val := by
    rcases Bool.or_eq_true_iff.mp h with halpha | hdigit
    · rcases Bool.or_eq_true_iff.mp halpha with hupper | hlower
      · exact .inl (of_decide_eq_true hupper).2
      · exact .inr (.inl (of_decide_eq_true (Bool.and_eq_true_iff.mp hlower).2))
    · exact .inr (.inr (of_decide_eq_true (Bool.and_eq_true_iff.mp hdigit).2))
  have hZ : 'Z'.val.toNat = 90 := rfl
  have hz : 'z'.val.toNat = 122 := rfl
  have h9 : '9'.val.toNat = 57 := rfl
  rw [UInt32.le_iff_toNat_le, UInt32.le_iff_toNat_le, UInt32.le_iff_toNat_le] at hle
  omega

theorem lt_of_isSegmentChar {c : Char} (h : isSegmentChar c = true) : c.toNat < 128 := by
  simp only [isSegmentChar, isPlainInPath, Bool.or_eq_true, beq_iff_eq] at h
  rcases h with ((((h | rfl) | rfl) | rfl) | rfl) | rfl
  · exact lt_of_isAlphanum h
  all_goals decide

/-! ## Decoding -/

theorem hexByte?_hexDigit {n : Nat} (h : n < 16) : hexByte? (asciiByte (hexDigit n)) = some n := by
  revert n
  decide

/-- A byte that is no percent sign stands for itself. -/
theorem decodeBytes_cons {a : UInt8} (h : a ≠ '%'.toNat.toUInt8) (rest : List UInt8) :
    decodeBytes (a :: rest) = a :: decodeBytes rest := by
  match rest with
  | [] => rfl
  | [_] => rfl
  | b :: c :: rest =>
    rw [decodeBytes]
    split
    · exact if_neg h
    · rfl

theorem asciiByte_ofNat (byte : UInt8) : asciiByte (Char.ofNat byte.toNat) = byte := by
  have hvalid : byte.toNat.isValidChar := .inl (by have := byte.toNat_lt; omega)
  rw [asciiByte, Char.ofNat, dif_pos hvalid]
  apply UInt8.toNat_inj.mp
  have hval : (Char.ofNatAux byte.toNat hvalid).toNat = byte.toNat := rfl
  rw [hval]
  simp

/-- An encoded byte is decoded, whatever follows. -/
theorem decodeBytes_encodeByte (byte : UInt8) (rest : List UInt8) :
    decodeBytes ((encodeByte byte).map asciiByte ++ rest) = byte :: decodeBytes rest := by
  have hbyte := byte.toNat_lt
  simp only [encodeByte]
  split
  · rename_i hplain
    rw [List.map_singleton, List.singleton_append, asciiByte_ofNat]
    -- a byte that stands for itself is no percent sign
    apply decodeBytes_cons
    rintro rfl
    exact absurd hplain (by decide)
  · have hhigh : hexByte? (asciiByte (hexDigit (byte.toNat / 16))) = some (byte.toNat / 16) :=
      hexByte?_hexDigit (by omega)
    have hlow : hexByte? (asciiByte (hexDigit (byte.toNat % 16))) = some (byte.toNat % 16) :=
      hexByte?_hexDigit (by omega)
    have hpercent : asciiByte '%' = '%'.toNat.toUInt8 := rfl
    have hsum : (16 * (byte.toNat / 16) + byte.toNat % 16).toUInt8 = byte := by
      rw [Nat.div_add_mod]
      exact UInt8.ofNat_toNat
    simp only [List.map_cons, List.map_nil, List.cons_append, List.nil_append, decodeBytes, hhigh,
      hlow, hpercent, if_true, hsum]

/-- Decoding undoes encoding byte by byte. -/
theorem decodeBytes_flatMap (bytes : List UInt8) :
    decodeBytes ((bytes.flatMap encodeByte).map asciiByte) = bytes := by
  induction bytes with
  | nil => rfl
  | cons byte rest ih =>
    rw [List.flatMap_cons, List.map_append, decodeBytes_encodeByte, ih]

/-- The segment of an identifier is decoded to the bytes of the identifier. -/
theorem decodeBytes_encodeSegment (id : String) :
    decodeBytes (utf8 (encodeSegment id)) = utf8 id := by
  have hascii : ∀ c ∈ (utf8 id).flatMap encodeByte, c.toNat < 128 := by
    intro c hc
    rcases List.mem_flatMap.mp hc with ⟨byte, -, hmem⟩
    exact lt_of_isSegmentChar (isSegmentChar_of_mem_encodeByte hmem)
  rw [encodeSegment, utf8_ofList hascii, decodeBytes_flatMap]

/-- The segment of an identifier is decoded to the identifier. -/
theorem decodeSegment?_encodeSegment (id : String) :
    decodeSegment? (encodeSegment id) = some id := by
  rw [decodeSegment?, decodeBytes_encodeSegment, ofUtf8?_utf8]

/-- Different identifiers have different segments. -/
theorem encodeSegment_injective {id other : String} (h : encodeSegment id = encodeSegment other) :
    id = other := by
  have hdecoded := decodeSegment?_encodeSegment id
  rw [h, decodeSegment?_encodeSegment, Option.some.injEq] at hdecoded
  exact hdecoded.symm

/-- Only the empty identifier has an empty segment. -/
theorem encodeSegment_ne_empty {id : String} (h : id ≠ "") : encodeSegment id ≠ "" := by
  intro hempty
  exact h (encodeSegment_injective (hempty.trans (by decide)))

end GameShelf.Text
