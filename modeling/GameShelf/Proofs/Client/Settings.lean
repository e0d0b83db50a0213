import GameShelf.Client.Settings
import GameShelf.Proofs.Decode.Entries
import GameShelf.Proofs.Text.Whole

/-!
# Ways to the settings

Settings are built in code, read from JSON or looked up in the environment. The same base address
and the same numbers make the same settings in all three ways. No way leaves a slash at the end of
the base address, so that a path stands behind it with exactly one slash between.

* `slashes`: a run of slashes, with `exists_leading` and `exists_trailing` to take it off a text.
* `Settings.trimBase_append`, `Settings.address_append`: such a run makes no difference after a
  base address and before a path.
* `Settings.Provides`: an environment that gives a base address and two numbers.
* `Settings.Obtained`: settings that came about in any of the ways.
* `Settings.waysAgree`: all ways together.
-/

namespace GameShelf

/-! ## Runs of slashes -/

/-- A run of slashes. -/
def slashes (count : Nat) : String :=
  String.ofList (List.replicate count '/')

@[simp] theorem toList_slashes (count : Nat) :
    (slashes count).toList = List.replicate count '/' :=
  String.toList_ofList

/-- Every text is a run of slashes and a rest that does not begin with one. -/
theorem exists_leading (text : String) :
    ∃ count rest, text = slashes count ++ rest ∧ rest.toList.head? ≠ some '/' := by
  have hchars (cs : List Char) :
      ∃ count rest, cs = List.replicate count '/' ++ rest ∧ rest.head? ≠ some '/' := by
    induction cs with
    | nil => exact ⟨0, [], rfl, by simp⟩
    | cons c rest ih =>
      by_cases hc : c = '/'
      · rcases ih with ⟨count, tail, hrest, htail⟩
        refine ⟨count + 1, tail, ?_, htail⟩
        rw [hc, hrest, List.replicate_succ, List.cons_append]
      · refine ⟨0, c :: rest, rfl, ?_⟩
        intro hhead
        exact hc (Option.some.inj hhead)
  rcases hchars text.toList with ⟨count, rest, htext, hrest⟩
  refine ⟨count, String.ofList rest, ?_, by rwa [String.toList_ofList]⟩
  rw [slashes, ← String.ofList_append, ← htext, String.ofList_toList]

/-- A run of slashes is dropped whole, and nothing behind it. -/
theorem dropWhile_slashes {count : Nat} {rest : List Char} (h : rest.head? ≠ some '/') :
    (List.replicate count '/' ++ rest).dropWhile (· == '/') = rest := by
  have hrun : ∀ c ∈ List.replicate count '/', (c == '/') = true := by
    intro c hc
    rw [List.eq_of_mem_replicate hc]
    rfl
  rw [List.dropWhile_append_of_pos hrun]
  cases rest with
  | nil => rfl
  | cons c tail =>
    have hc : ¬ (c == '/') = true := by
      intro hslash
      exact h (congrArg some (beq_iff_eq.mp hslash))
    exact List.dropWhile_cons_of_neg hc

/-- Every text is a front that does not end with a slash, and a run of slashes. -/
theorem exists_trailing (text : String) :
    ∃ front count, text = front ++ slashes count ∧ front.toList.getLast? ≠ some '/' := by
  -- the end of a text is the beginning of it read backwards
  rcases exists_leading (String.ofList text.toList.reverse) with ⟨count, rest, htext, hrest⟩
  refine ⟨String.ofList rest.toList.reverse, count, ?_, ?_⟩
  · have hchars := congrArg (fun turned => turned.toList.reverse) htext
    simp only [String.toList_ofList, List.reverse_reverse, String.toList_append, toList_slashes,
      List.reverse_append, List.reverse_replicate] at hchars
    rw [slashes, ← String.ofList_append, ← hchars, String.ofList_toList]
  · rwa [String.toList_ofList, List.getLast?_reverse]

namespace Settings

/-! ## Base addresses -/

/-- Only the slashes at the end of a base address are taken off. -/
theorem trimBase_eq {front : String} (h : front.toList.getLast? ≠ some '/') (count : Nat) :
    trimBase (front ++ slashes count) = front := by
  have hhead : front.toList.reverse.head? ≠ some '/' := by rwa [List.head?_reverse]
  rw [trimBase, String.toList_append, List.reverse_append, toList_slashes, List.reverse_replicate,
    dropWhile_slashes hhead, List.reverse_reverse, String.ofList_toList]

/-- Further slashes at the end of a base address make no difference. -/
theorem trimBase_append (base : String) (count : Nat) :
    trimBase (base ++ slashes count) = trimBase base := by
  rcases exists_trailing base with ⟨front, trailing, rfl, hfront⟩
  have hjoin : front ++ slashes trailing ++ slashes count =
      front ++ slashes (trailing + count) := by
    rw [String.append_assoc, slashes, slashes, slashes, ← String.ofList_append,
      List.replicate_append_replicate]
  rw [hjoin, trimBase_eq hfront, trimBase_eq hfront]

theorem getLast?_trimBase (base : String) : (trimBase base).toList.getLast? ≠ some '/' := by
  rcases exists_trailing base with ⟨front, count, rfl, hfront⟩
  rw [trimBase_eq hfront]
  exact hfront

/-! ## Addresses -/

section

variable (settings : Settings)

/-- A path stands behind the base address without the slashes in front of it. -/
theorem address_eq {rest : String} (h : rest.toList.head? ≠ some '/') (count : Nat) :
    settings.address (slashes count ++ rest) = settings.base ++ "/" ++ rest := by
  rw [address, String.toList_append, toList_slashes, dropWhile_slashes h, String.ofList_toList]

/-- Further slashes in front of a path make no difference. -/
theorem address_append (path : String) (count : Nat) :
    settings.address (slashes count ++ path) = settings.address path := by
  rcases exists_leading path with ⟨leading, rest, rfl, hrest⟩
  have hjoin : slashes count ++ (slashes leading ++ rest) = slashes (count + leading) ++ rest := by
    rw [← String.append_assoc, slashes, slashes, slashes, ← String.ofList_append,
      List.replicate_append_replicate]
  rw [hjoin, settings.address_eq hrest, settings.address_eq hrest]

end

/-! ## The same settings in three ways -/

/-- Settings that are built in code. -/
def built (base : String) (seconds millis : UInt64) : Settings :=
  ((forBase base).withTimeout (seconds.toNat * nanosPerSecond)).withSlowThreshold
    (millis.toNat * nanosPerMilli)

/-- An environment that gives a base address and two numbers, each in decimal digits with or without
white space around them. -/
structure Provides (lookup : String → Option String) (base : String) (seconds millis : UInt64) :
    Prop where
  base_eq : lookup baseVariable = some base
  seconds_padded : ∃ text, lookup timeoutVariable = some text ∧ Text.Padded seconds.toNat text
  millis_padded : ∃ text, lookup slowVariable = some text ∧ Text.Padded millis.toNat text

/-- The fields of JSON settings with a base address and two numbers. -/
def given (base : String) (seconds millis : UInt64) : Json.Fields :=
  [("base_url", .text base), ("timeout", .nat seconds.toNat),
   ("slow_response_threshold", .nat millis.toNat)]

section

variable {lookup : String → Option String} {base : String} {seconds millis : UInt64}

/-- A variable that holds a number of 64 bits is read as it, and nothing is recorded. -/
theorem numberOf_padded {name : String} {n : UInt64}
    (h : ∃ text, lookup name = some text ∧ Text.Padded n.toNat text) :
    numberOf lookup name = (some n.toNat, []) := by
  rcases h with ⟨text, hlookup, hpadded⟩
  have hread : Text.readWhole (Text.trim text) = .ok n.toNat :=
    hpadded.readWhole_trim n.toNat_lt
  simp only [numberOf, hlookup, hread]

theorem Provides.fromEnvironment_eq (h : Provides lookup base seconds millis) :
    fromEnvironment lookup = (built base seconds millis, []) := by
  have hseconds := numberOf_padded h.seconds_padded
  have hmillis := numberOf_padded h.millis_padded
  simp only [fromEnvironment, h.base_eq, hseconds, hmillis, Option.map_some, Option.getD_some]
  rfl

/-- A number of 64 bits is read as so many units. -/
theorem readSpan_nat (unit : Nat) (n : UInt64) :
    readSpan unit (.nat n.toNat) = .ok (n.toNat * unit) := by
  have hword : Decode.word64 (.nat n.toNat) = .ok n.toNat := by
    have hlt := n.toNat_lt
    have hbounds : (0 : Int) ≤ n.toNat ∧ (n.toNat : Int) < (UInt64.size : Nat) := by
      constructor
      · exact Int.natCast_nonneg _
      · exact Int.ofNat_lt.mpr hlt
    simp only [Decode.word64, Json.nat, Decode.natBelow, if_pos hbounds, Int.toNat_natCast]
  rw [readSpan, hword]
  rfl

/-- The fields may stand in any order. -/
theorem read_given {record : Json.Fields} (h : record.Perm (given base seconds millis)) :
    layout.read (.record record) = .ok (built base seconds millis) := by
  -- a field is found by its name alone, so the order of the keys does not matter
  have htimeouts : ((given base seconds millis).filter fun entry =>
      layout.fields.2.1.answersTo entry.1) = [("timeout", .nat seconds.toNat)] := rfl
  have hlimits : ((given base seconds millis).filter fun entry =>
      layout.fields.2.2.1.answersTo entry.1) =
        [("slow_response_threshold", .nat millis.toNat)] := rfl
  have htimeout : layout.fields.2.1.found (given base seconds millis) =
      .ok (seconds.toNat * nanosPerSecond) := by
    have hread : layout.fields.2.1.read = readSpan nanosPerSecond := rfl
    rw [Decode.Field.found_of_filter htimeouts, hread, readSpan_nat]
  have hslow : layout.fields.2.2.1.found (given base seconds millis) =
      .ok (millis.toNat * nanosPerMilli) := by
    have hread : layout.fields.2.2.1.read = readSpan nanosPerMilli := rfl
    rw [Decode.Field.found_of_filter hlimits, hread, readSpan_nat]
  have hfinds : Decode.Finds layout.fields (given base seconds millis)
      (trimBase base, seconds.toNat * nanosPerSecond, millis.toNat * nanosPerMilli,
        default.userAgent, ()) :=
    ⟨rfl, htimeout, hslow, rfl, trivial⟩
  exact layout.read_of_finds _ (by decide) (hfinds.perm h.symm)

end

/-! ## Settings however they came about -/

/-- Settings that were built, read or looked up, and perhaps altered since. -/
inductive Obtained : Settings → Prop
  | default : Obtained default
  | forBase (base : String) : Obtained (forBase base)
  | fromEnvironment (lookup : String → Option String) : Obtained (fromEnvironment lookup).1
  | read {value : Json} {settings : Settings} (h : layout.read value = .ok settings) :
      Obtained settings
  | withTimeout {settings : Settings} (h : Obtained settings) (timeout : Nat) :
      Obtained (settings.withTimeout timeout)
  | withSlowThreshold {settings : Settings} (h : Obtained settings) (slowThreshold : Nat) :
      Obtained (settings.withSlowThreshold slowThreshold)
  | withUserAgent {settings : Settings} (h : Obtained settings) (userAgent : String) :
      Obtained (settings.withUserAgent userAgent)

/-- The default base address does not end with a slash. -/
theorem getLast?_default : default.base.toList.getLast? ≠ some '/' := by
  decide

/-- Settings from JSON have a trimmed base address, or the default one. -/
theorem getLast?_of_read {value : Json} {settings : Settings}
    (h : layout.read value = .ok settings) : settings.base.toList.getLast? ≠ some '/' := by
  rcases Decode.Layout.finds_of_read (by decide) h with ⟨values, hfinds, rfl⟩
  have hbase : layout.fields.1.found (layout.entries value) = .ok values.1 := hfinds.1
  show values.1.toList.getLast? ≠ some '/'
  rcases Decode.Field.read_or_absent hbase with ⟨given, hread⟩ | habsent
  · rcases exists_of_map_eq_ok hread with ⟨base, -, hvalue⟩
    rw [← hvalue]
    exact getLast?_trimBase base
  · obtain heq : default.base = values.1 := Except.ok.inj habsent
    rw [← heq]
    exact getLast?_default

theorem Obtained.getLast?_base {settings : Settings} (h : Obtained settings) :
    settings.base.toList.getLast? ≠ some '/' := by
  -- the address is trimmed when it is given, and no later change touches it
  induction h with
  | default => exact getLast?_default
  | forBase base => exact getLast?_trimBase base
  | fromEnvironment lookup =>
    cases hbase : lookup baseVariable with
    | none =>
      have hdefault : (Settings.fromEnvironment lookup).1.base = Settings.default.base := by
        simp only [Settings.fromEnvironment, hbase, Option.map_none, Option.getD_none]
      rw [hdefault]
      exact getLast?_default
    | some base =>
      have htrimmed : (Settings.fromEnvironment lookup).1.base = trimBase base := by
        simp only [Settings.fromEnvironment, hbase, Option.map_some, Option.getD_some]
      rw [htrimmed]
      exact getLast?_trimBase base
  | read h => exact getLast?_of_read h
  | withTimeout _ _ ih => exact ih
  | withSlowThreshold _ _ ih => exact ih
  | withUserAgent _ _ ih => exact ih

/-- How settings put a path behind their base address. -/
structure Joins (settings : Settings) : Prop where
  base_bare : settings.base.toList.getLast? ≠ some '/'
  /-- The one slash that is put between is the only one there. -/
  address_eq : ∀ path, ∃ count rest, path = slashes count ++ rest ∧
    rest.toList.head? ≠ some '/' ∧ settings.address path = settings.base ++ "/" ++ rest
  address_leading : ∀ path count, settings.address (slashes count ++ path) = settings.address path

theorem Obtained.joins {settings : Settings} (h : Obtained settings) : Joins settings := by
  constructor
  case base_bare => exact h.getLast?_base
  case address_eq =>
    intro path
    rcases exists_leading path with ⟨count, rest, rfl, hrest⟩
    exact ⟨count, rest, rfl, hrest, settings.address_eq hrest count⟩
  case address_leading => exact settings.address_append

/-- Whether they are built, looked up or read, settings with the same base address and the same
numbers are the same, and slashes at the end of the base address make no difference to them. All
settings put a path behind a base address that does not end with a slash, with one slash between,
whatever slashes the path has in front. -/
theorem waysAgree (base : String) (seconds millis : UInt64) :
    (∀ lookup, Provides lookup base seconds millis →
        fromEnvironment lookup = (built base seconds millis, [])) ∧
      (∀ record : Json.Fields, record.Perm (given base seconds millis) →
        layout.read (.record record) = .ok (built base seconds millis)) ∧
      (∀ count, built (base ++ slashes count) seconds millis = built base seconds millis) ∧
      ∀ settings, Obtained settings → Joins settings := by
  refine ⟨?environment, ?json, ?trailing, ?joins⟩
  case environment =>
    intro lookup h
    exact h.fromEnvironment_eq
  case json =>
    intro record h
    exact read_given h
  case trailing =>
    intro count
    have hbase : forBase (base ++ slashes count) = forBase base := by
      rw [forBase, forBase, trimBase_append]
    rw [built, built, hbase]
  case joins =>
    intro settings h
    exact h.joins

/-- An environment with two slashes after the base address, and with blanks around the greatest
timeout. -/
def spacedEnvironment (name : String) : Option String :=
  [(baseVariable, "http://h/api//"), (timeoutVariable, "\u00a018446744073709551615 "),
    (slowVariable, "0\n")].lookup name

/-- It says the same as JSON settings in the order of their keys, and a path with slashes in front
has one address under both. -/
theorem spacedEnvironment_agrees :
    let settings : Settings :=
      ⟨"http://h/api", 18446744073709551615000000000, 0, "library-sync/0.1.0"⟩
    let record : Json.Fields := [("base_url", .text "http://h/api//"),
      ("slow_response_threshold", .nat 0), ("timeout", .nat 18446744073709551615)]
    Provides spacedEnvironment "http://h/api//" 18446744073709551615 0 ∧
      fromEnvironment spacedEnvironment = (settings, []) ∧
      record.Perm (given "http://h/api//" 18446744073709551615 0) ∧
      layout.read (.record record) = .ok settings ∧ Obtained settings ∧
      settings.address "//v1/library" = settings.address "v1/library" := by
  intro settings record
  have hprovided : Provides spacedEnvironment "http://h/api//" 18446744073709551615 0 := by
    constructor
    case base_eq => rfl
    case seconds_padded =>
      exact ⟨_, rfl, ['\u00a0'], [' '], by decide +kernel,
        List.forall_mem_singleton.mpr rfl, List.forall_mem_singleton.mpr rfl⟩
    case millis_padded =>
      exact ⟨_, rfl, [], ['\n'], by decide +kernel, List.forall_mem_nil _,
        List.forall_mem_singleton.mpr rfl⟩
  have hperm : record.Perm (given "http://h/api//" 18446744073709551615 0) :=
    .cons _ (.swap _ _ _)
  have hways := waysAgree "http://h/api//" 18446744073709551615 0
  have hread : layout.read (.record record) = .ok settings := hways.2.1 record hperm
  refine ⟨hprovided, hways.1 _ hprovided, hperm, hread, .read hread, ?_⟩
  exact (hways.2.2.2 settings (.read hread)).address_leading "v1/library" 2

end Settings

end GameShelf
