import Mathlib.Data.List.TakeWhile
import GameShelf.Json.Token
import GameShelf.Proofs.Binary64.Shortest
import GameShelf.Proofs.Text.Whole

/-!
# How numbers are spelled

Every number that is written is spelled as JSON wants it: an integer, or a double with a fraction
or an exponent. A double that is not finite is written as a word instead.

* `IsSpelling`: the characters of a number that may end where they end.
* `isSpelling_chars`: the characters of a number are so, or they are the word `null`.
* `ofChars?_chars_natural`: a natural number of 64 bits is read as it was written.
-/

namespace GameShelf.Json

open Binary64 (IsNumeral isNumeral_toDigits isNumeral_shortest)

namespace NumberStage

/-- The stage after characters that continue a number. -/
def after? (stage : NumberStage) (cs : List Char) : Option NumberStage :=
  cs.foldlM next? stage

@[simp] theorem after?_nil (stage : NumberStage) : stage.after? [] = some stage := rfl

theorem after?_cons (stage : NumberStage) (c : Char) (cs : List Char) :
    stage.after? (c :: cs) = (stage.next? c).bind fun next => next.after? cs := rfl

theorem after?_append (stage : NumberStage) (cs ds : List Char) :
    stage.after? (cs ++ ds) = (stage.after? cs).bind fun next => next.after? ds :=
  List.foldlM_append

/-! ## Runs of digits -/

/-- A stage that goes on with every digit. -/
def TakesDigits (stage : NumberStage) : Prop :=
  ∀ c : Char, c.isDigit = true → stage.next? c = some stage

theorem takesDigits_whole : TakesDigits .whole := by
  intro c hc
  simp only [next?, if_pos hc]

theorem takesDigits_fraction : TakesDigits .fraction := by
  intro c hc
  simp only [next?, if_pos hc]

theorem takesDigits_exponent : TakesDigits .exponent := by
  intro c hc
  simp only [next?, if_pos hc]

theorem TakesDigits.after? {stage : NumberStage} (h : TakesDigits stage) {ds : List Char}
    (hdigits : ∀ c ∈ ds, c.isDigit = true) : stage.after? ds = some stage := by
  induction ds with
  | nil => rfl
  | cons c rest ih =>
    rw [after?_cons, h c (hdigits c List.mem_cons_self), Option.bind_some]
    exact ih fun d hd => hdigits d (List.mem_cons_of_mem c hd)

/-- Digits after a point make a fraction. -/
theorem after?_point {ds : List Char} (hne : ds ≠ []) (hdigits : ∀ c ∈ ds, c.isDigit = true) :
    NumberStage.point.after? ds = some .fraction := by
  cases ds with
  | nil => exact absurd rfl hne
  | cons c rest =>
    rw [after?_cons, next?, if_pos (hdigits c List.mem_cons_self), Option.bind_some]
    exact takesDigits_fraction.after? fun d hd => hdigits d (List.mem_cons_of_mem c hd)

/-- A sign and digits after the mark make an exponent. -/
theorem after?_exponentMark {sign : Char} (hsign : sign = '+' ∨ sign = '-') {ds : List Char}
    (hne : ds ≠ []) (hdigits : ∀ c ∈ ds, c.isDigit = true) :
    NumberStage.exponentMark.after? (sign :: ds) = some .exponent := by
  cases ds with
  | nil => exact absurd rfl hne
  | cons c rest =>
    rw [after?_cons, next?, if_pos hsign, Option.bind_some, after?_cons, next?,
      if_pos (hdigits c List.mem_cons_self), Option.bind_some]
    exact takesDigits_exponent.after? fun d hd => hdigits d (List.mem_cons_of_mem c hd)

/-- A numeral is read as the digits before the point. -/
theorem after?_numeral {ds : List Char} (h : IsNumeral ds) :
    NumberStage.sign.after? ds = some .whole := by
  rcases h with ⟨hdigits, first, others, rfl, hfirst⟩
  rw [after?_cons, next?, if_neg hfirst, if_pos (hdigits first List.mem_cons_self),
    Option.bind_some]
  exact takesDigits_whole.after? fun d hd => hdigits d (List.mem_cons_of_mem first hd)

end NumberStage

/-! ## Spellings -/

/-- The characters of a number after its sign, if it has one. -/
def IsUnsigned (cs : List Char) : Prop :=
  ∃ last, NumberStage.sign.after? cs = some last ∧ last.mayEnd = true

/-- The characters of a number that may end where they end. -/
def IsSpelling (cs : List Char) : Prop :=
  ∃ first rest stage last, cs = first :: rest ∧ NumberStage.start? first = some stage ∧
    stage.after? rest = some last ∧ last.mayEnd = true

/-- A sign may stand before a number. -/
theorem IsUnsigned.isSpelling {cs : List Char} (h : IsUnsigned cs) (negative : Bool) :
    IsSpelling (Binary64.signText negative cs) := by
  rcases h with ⟨last, hafter, hlast⟩
  cases negative with
  | true => exact ⟨'-', cs, .sign, last, rfl, rfl, hafter, hlast⟩
  | false =>
    cases cs with
    | nil =>
      obtain rfl := Option.some.inj hafter
      exact absurd hlast (by decide)
    | cons first rest =>
      rw [NumberStage.after?_cons] at hafter
      rcases Option.bind_eq_some_iff.mp hafter with ⟨stage, hstage, hrest⟩
      refine ⟨first, rest, stage, last, rfl, ?_, hrest, hlast⟩
      -- what may follow a sign is no sign
      have hminus : first ≠ '-' := by
        rintro rfl
        have hnone : NumberStage.sign.next? '-' = none := rfl
        rw [hnone] at hstage
        exact absurd hstage (by simp)
      rw [NumberStage.start?, if_neg hminus, hstage]

/-- A numeral is a number. -/
theorem isUnsigned_numeral {ds : List Char} (h : IsNumeral ds) : IsUnsigned ds :=
  ⟨.whole, NumberStage.after?_numeral h, rfl⟩

/-- A numeral with a fraction is a number. -/
theorem isUnsigned_fraction {ds fraction : List Char} (h : IsNumeral ds) (hne : fraction ≠ [])
    (hdigits : ∀ c ∈ fraction, c.isDigit = true) : IsUnsigned (ds ++ '.' :: fraction) := by
  refine ⟨.fraction, ?_, rfl⟩
  rw [NumberStage.after?_append, NumberStage.after?_numeral h, Option.bind_some,
    NumberStage.after?_cons]
  exact NumberStage.after?_point hne hdigits

/-- Zero with a fraction is a number. -/
theorem isUnsigned_zeroFraction {fraction : List Char} (hne : fraction ≠ [])
    (hdigits : ∀ c ∈ fraction, c.isDigit = true) : IsUnsigned ('0' :: '.' :: fraction) :=
  ⟨.fraction, NumberStage.after?_point hne hdigits, rfl⟩

/-- The exponent that is written after a double. -/
theorem after?_exponent {stage : NumberStage} (hmark : stage.next? 'e' = some .exponentMark)
    (power : Int) :
    stage.after? ('e' :: (if power < 0 then '-' else '+') :: Nat.toDigits 10 power.natAbs) =
      some .exponent := by
  rw [NumberStage.after?_cons, hmark, Option.bind_some]
  refine NumberStage.after?_exponentMark ?_ Nat.toDigits_ne_nil ?_
  · split
    · exact .inr rfl
    · exact .inl rfl
  · intro c hc
    exact Nat.isDigit_of_mem_toDigits (by decide) (by decide) hc

open Binary64 (Decimal)

/-- The scientific form is a number. -/
theorem isUnsigned_scientific {d : Decimal} (h : IsNumeral d.digits) : IsUnsigned d.scientific := by
  rcases h with ⟨hdigits, first, others, hcons, hfirst⟩
  refine ⟨.exponent, ?_, rfl⟩
  rw [hcons] at hdigits
  have hwhole : NumberStage.sign.next? first = some .whole := by
    rw [NumberStage.next?, if_neg hfirst, if_pos (hdigits first List.mem_cons_self)]
  unfold Decimal.scientific
  rw [hcons]
  cases others with
  | nil =>
    rw [NumberStage.after?_cons, hwhole, Option.bind_some]
    exact after?_exponent rfl _
  | cons second others =>
    have hrest : ∀ c ∈ second :: others, c.isDigit = true :=
      fun c hc => hdigits c (List.mem_cons_of_mem first hc)
    have hfraction : NumberStage.sign.after? (first :: '.' :: second :: others) =
        some .fraction := by
      rw [NumberStage.after?_cons, hwhole]
      exact NumberStage.after?_point (List.cons_ne_nil second others) hrest
    rw [NumberStage.after?_append, hfraction, Option.bind_some]
    exact after?_exponent rfl _

theorem isDigit_of_mem_replicate {n : Nat} {c : Char} (h : c ∈ List.replicate n '0') :
    c.isDigit = true := by
  rw [List.eq_of_mem_replicate h]
  rfl

/-- Zeros may stand after a numeral. -/
theorem IsNumeral.append_zeros {ds : List Char} (h : IsNumeral ds) (n : Nat) :
    IsNumeral (ds ++ List.replicate n '0') := by
  rcases h with ⟨hdigits, first, others, rfl, hfirst⟩
  refine ⟨?_, first, _, rfl, hfirst⟩
  intro c hc
  rcases List.mem_append.mp hc with hold | hzero
  · exact hdigits c hold
  · exact isDigit_of_mem_replicate hzero

theorem IsNumeral.take {ds : List Char} (h : IsNumeral ds) {n : Nat} (hn : 0 < n) :
    IsNumeral (ds.take n) := by
  rcases h with ⟨hdigits, first, others, rfl, hfirst⟩
  obtain ⟨m, rfl⟩ : ∃ m, n = m + 1 := ⟨n - 1, by omega⟩
  exact ⟨fun c hc => hdigits c (List.mem_of_mem_take hc), first, others.take m, rfl, hfirst⟩

theorem IsNumeral.point_notMem {ds : List Char} (h : IsNumeral ds) : '.' ∉ ds := by
  intro hmem
  exact absurd (h.1 '.' hmem) (by decide)

/-- The positional form with a fraction is a number. -/
theorem isUnsigned_positional {d : Decimal} (h : IsNumeral d.digits) :
    IsUnsigned (Binary64.withFraction d.positional) := by
  unfold Decimal.positional Binary64.withFraction
  by_cases hpoint : d.point ≤ 0
  · -- all digits stand after the point
    rw [if_pos hpoint, if_pos (by simp)]
    apply isUnsigned_zeroFraction
    · rcases h with ⟨-, first, others, hcons, -⟩
      simp [hcons]
    · intro c hc
      rcases List.mem_append.mp hc with hzero | hdigit
      · exact isDigit_of_mem_replicate hzero
      · exact h.1 c hdigit
  · rw [if_neg hpoint]
    by_cases hwhole : d.digits.length ≤ d.point.toNat
    · -- all of them stand before it
      have hnumeral := IsNumeral.append_zeros h (d.point.toNat - d.digits.length)
      simp only [if_pos hwhole, if_neg (IsNumeral.point_notMem hnumeral)]
      exact isUnsigned_fraction hnumeral (by decide) (List.forall_mem_singleton.mpr rfl)
    · -- the point stands among them
      simp only [if_neg hwhole]
      rw [if_pos (by simp)]
      apply isUnsigned_fraction (IsNumeral.take h (by omega))
      · intro hempty
        rw [List.drop_eq_nil_iff] at hempty
        exact hwhole hempty
      · intro c hc
        exact h.1 c (List.mem_of_mem_drop hc)

/-- What is written for a double that is finite is the spelling of a number. -/
theorem isSpelling_scientificText {x : Binary64} {text : String}
    (h : x.scientificText? = some text) : IsSpelling text.toList := by
  unfold Binary64.scientificText? at h
  split at h
  · obtain rfl := Option.some.inj h
    rw [String.toList_ofList]
    have hzero : IsUnsigned ['0', '.', '0'] :=
      isUnsigned_zeroFraction (by decide) (List.forall_mem_singleton.mpr rfl)
    exact hzero.isSpelling _
  · rename_i negative significand exponent hzero
    have hpos : 0 < significand := Nat.pos_of_ne_zero hzero
    have hnumeral := isNumeral_shortest .toEven hpos exponent
    obtain rfl := Option.some.inj h
    rw [String.toList_ofList]
    apply IsUnsigned.isSpelling
    split
    · exact isUnsigned_positional hnumeral
    · exact isUnsigned_scientific hnumeral
  · exact absurd h (by simp)

/-- What is written for a natural number is the spelling of a number. -/
theorem isUnsigned_toDigits (n : Nat) : IsUnsigned (Nat.toDigits 10 n) := by
  rcases Nat.eq_zero_or_pos n with rfl | hpos
  · exact ⟨.zero, rfl, rfl⟩
  · exact isUnsigned_numeral (isNumeral_toDigits hpos)

/-- A number is written as the spelling of one, or as the word for a double that is not finite. -/
theorem isSpelling_chars (n : JsonNumber) :
    IsSpelling n.chars ∨ n.chars = ['n', 'u', 'l', 'l'] := by
  cases n with
  | integer z =>
    left
    simp only [JsonNumber.chars]
    split
    · exact (isUnsigned_toDigits z.natAbs).isSpelling true
    · exact (isUnsigned_toDigits z.natAbs).isSpelling false
  | real x =>
    simp only [JsonNumber.chars]
    cases htext : x.scientificText? with
    | some text => exact .inl (isSpelling_scientificText htext)
    | none => exact .inr (by decide)

/-! ## Reading natural numbers -/

open JsonNumber (takeDigits wordLimit)

/-- Digits are taken to the end if the number that they make is a word. -/
theorem takeDigits_eq {read : Nat} {ds : List Char}
    (h : Nat.ofDigitChars 10 ds read < wordLimit) :
    takeDigits read ds = (Nat.ofDigitChars 10 ds read, []) := by
  induction ds generalizing read with
  | nil => rfl
  | cons c rest ih =>
    rw [Nat.ofDigitChars_cons, Nat.mul_comm] at h ⊢
    -- further digits only make the number greater
    have hnext := Nat.lt_of_le_of_lt (Text.le_ofDigitChars rest _) h
    simp only [takeDigits, if_pos hnext]
    exact ih h

/-- The digits of a number come apart as a whole part without fraction and exponent. -/
theorem parts_toDigits (n : Nat) :
    JsonNumber.Parts.ofChars? (Nat.toDigits 10 n) = some ⟨Nat.toDigits 10 n, none, none⟩ := by
  have hdigits : ∀ c ∈ Nat.toDigits 10 n, c.isDigit = true := fun c hc =>
    Nat.isDigit_of_mem_toDigits (by decide) (by decide) hc
  have htake : (Nat.toDigits 10 n).takeWhile Char.isDigit = Nat.toDigits 10 n :=
    List.takeWhile_eq_self_iff.mpr hdigits
  have hdrop : (Nat.toDigits 10 n).dropWhile Char.isDigit = [] :=
    List.dropWhile_eq_nil_iff.mpr hdigits
  -- zero is a single digit, and no other number begins with one
  have hleading : ¬ ((Nat.toDigits 10 n).length ≠ 1 ∧ (Nat.toDigits 10 n).head? = some '0') := by
    rcases Nat.eq_zero_or_pos n with rfl | hpos
    · simp
    · rcases isNumeral_toDigits hpos with ⟨-, first, others, hcons, hfirst⟩
      simp [hcons, hfirst]
  unfold JsonNumber.Parts.ofChars?
  simp only [htake, hdrop]
  rw [if_neg (not_or.mpr ⟨Nat.toDigits_ne_nil, hleading⟩)]
  rfl

/-- A natural number of 64 bits is read as it was written. -/
theorem ofChars?_chars_natural {n : Nat} (h : n < UInt64.size) :
    JsonNumber.ofChars? (JsonNumber.integer n).chars = some (.integer n) := by
  have hchars : (JsonNumber.integer n).chars = Nat.toDigits 10 n := by
    simp only [JsonNumber.chars, Int.natAbs_natCast]
    exact if_neg (by omega)
  have hread : takeDigits 0 (Nat.toDigits 10 n) = (n, []) := by
    have hvalue : Nat.ofDigitChars 10 (Nat.toDigits 10 n) 0 = n := Nat.ofDigitChars_ten_toDigits
    rw [takeDigits_eq (by rw [hvalue]; exact h), hvalue]
  rw [hchars]
  unfold JsonNumber.ofChars?
  split
  · -- no digit is a sign
    rename_i rest hminus
    have hdigit : '-'.isDigit = true := by
      apply Nat.isDigit_of_mem_toDigits (b := 10) (n := n) (by decide) (by decide)
      rw [hminus]
      exact List.mem_cons_self
    exact absurd hdigit (by decide)
  · rw [parts_toDigits, Option.bind_some]
    simp only [JsonNumber.ofParts?, JsonNumber.ofWhole?, hread]
    rfl

end GameShelf.Json
