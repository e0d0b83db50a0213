import Mathlib
import GameShelf.Library.Census
import GameShelf.Proofs.Intake.First

/-!
# Sums of counts

Counting a library is adding up, and it stops where a sum outgrows its word. Here the same is added
up without a limit. The library is counted if and only if all its games fit into a word, and then
its counts are the exact ones: no part of a sum outgrows a word unless the sum of everything does.

* `Tells`: a count with a limit, and the exact one.
* `sumOf?_eq`: sums.
* `addCount?_of_fits`, `countBy?_of_fits`: counts by identifier. `countAt_countBy`,
  `ascend_countBy` and `wholeOf_countBy` say what these come to.
* `Census.unlimited`: the counts of a library without a limit.
* `Census.ofLocations?_of_fits`, `Census.ofLocations?_of_outgrown`: the counts of a library, with
  `Census.ofLocations?_eq_some_iff` for both.
-/

namespace GameShelf

/-! ## Sums -/

theorem word?_of_lt {n : ℕ} (h : n < UInt64.size) : word? n = some n :=
  if_pos h

theorem word?_of_le {n : ℕ} (h : UInt64.size ≤ n) : word? n = none :=
  if_neg (Nat.not_lt.mpr h)

/-- Two counts that a word holds are added up like any sum. -/
theorem word?_add (m n : ℕ) :
    ((word? m).bind fun a => (word? n).bind fun b => word? (a + b)) = word? (m + n) := by
  rcases Nat.lt_or_ge (m + n) UInt64.size with hlt | hge
  · rw [word?_of_lt (by omega : m < UInt64.size), Option.bind_some,
      word?_of_lt (by omega : n < UInt64.size), Option.bind_some]
  · rw [word?_of_le hge]
    rcases Nat.lt_or_ge m UInt64.size with hm | hm
    · rcases Nat.lt_or_ge n UInt64.size with hn | hn
      · rw [word?_of_lt hm, Option.bind_some, word?_of_lt hn, Option.bind_some, word?_of_le hge]
      · rw [word?_of_lt hm, Option.bind_some, word?_of_le hn, Option.bind_none]
    · rw [word?_of_le hm, Option.bind_none]

theorem word?_eq_some_iff {n count : ℕ} : word? n = some count ↔ n < UInt64.size ∧ n = count := by
  rw [word?]
  split <;> simp [*]

/-- A count with a limit tells an exact one: it is there unless the exact one outgrows a word. -/
def Tells (count : Option ℕ) (exact : ℕ) : Prop :=
  count = some exact ∨ count = none ∧ UInt64.size ≤ exact

theorem tells_some (exact : ℕ) : Tells (some exact) exact :=
  .inl rfl

theorem tells_word? (exact : ℕ) : Tells (word? exact) exact := by
  rcases Nat.lt_or_ge exact UInt64.size with hlt | hge
  · exact .inl (word?_of_lt hlt)
  · exact .inr ⟨word?_of_le hge, hge⟩

theorem Tells.eq_some {count : Option ℕ} {exact : ℕ} (h : Tells count exact)
    (hfits : exact < UInt64.size) : count = some exact := by
  rcases h with hsome | ⟨-, hge⟩
  · exact hsome
  · exact absurd hfits (Nat.not_lt.mpr hge)

section

variable {α : Type} {count : α → Option ℕ} {exact : α → ℕ} {list : List α}

/-- Sums go on from what there is already. -/
theorem foldlM_word? (h : ∀ a, Tells (count a) (exact a)) {start : ℕ}
    (hstart : start < UInt64.size) :
    list.foldlM (fun total a => do word? (total + (← count a))) start =
      word? (start + (list.map exact).sum) := by
  induction list generalizing start with
  | nil => exact (word?_of_lt hstart).symm
  | cons a rest ih =>
    rw [List.map_cons, List.sum_cons, ← Nat.add_assoc, List.foldlM_cons]
    rcases Nat.lt_or_ge (start + exact a) UInt64.size with hlt | hge
    · have hcount : count a = some (exact a) := (h a).eq_some (by omega)
      simp only [hcount, Option.bind_eq_bind, Option.bind_some, word?_of_lt hlt]
      exact ih hlt
    · -- once a sum has outgrown its word, nothing follows
      rw [word?_of_le (Nat.le_trans hge (Nat.le_add_right _ _))]
      rcases h a with hsome | ⟨hnone, -⟩
      · simp only [hsome, Option.bind_eq_bind, Option.bind_some, word?_of_le hge, Option.bind_none]
      · simp only [hnone, Option.bind_eq_bind, Option.bind_none]

/-- A sum is the exact sum, unless that outgrows a word. -/
theorem sumOf?_eq (exact : α → ℕ) (h : ∀ a, Tells (count a) (exact a)) (list : List α) :
    sumOf? count list = word? (list.map exact).sum := by
  rw [sumOf?, foldlM_word? h (by decide), Nat.zero_add]

theorem sumOf?_some (exact : α → ℕ) (list : List α) :
    sumOf? (fun a => some (exact a)) list = word? (list.map exact).sum :=
  sumOf?_eq exact (fun a => tells_some (exact a)) list

/-- A member counts in the sum over a key if it has the key. -/
theorem sum_filter_cons (count : α → ℕ) (key : α → String) (k : String) (a : α) (rest : List α) :
    (((a :: rest).filter fun b => key b == k).map count).sum =
      (if key a = k then count a else 0) + ((rest.filter fun b => key b == k).map count).sum := by
  rw [List.filter_cons]
  by_cases h : key a = k
  · rw [if_pos (beq_iff_eq.mpr h), if_pos h, List.map_cons, List.sum_cons]
  · rw [if_neg (by simpa using h), if_neg h, Nat.zero_add]

end

/-- How many games a place stores, in whatever number. -/
def Place.exactItems (place : Place) : ℕ :=
  (place.compartments.map Compartment.storedItems).sum

theorem Place.storedItems?_eq (place : Place) : place.storedItems? = word? place.exactItems :=
  sumOf?_some Compartment.storedItems place.compartments

theorem Place.tells_storedItems? (place : Place) : Tells place.storedItems? place.exactItems := by
  rw [place.storedItems?_eq]
  exact tells_word? _

/-! ## Counts by identifier -/

/-- Adds to the count of a location, without a limit. -/
def addCount (id : String) (amount : ℕ) : List (String × ℕ) → List (String × ℕ)
  | [] => [(id, amount)]
  | (other, count) :: rest =>
    if id < other then (id, amount) :: (other, count) :: rest
    else if id = other then (other, count + amount) :: rest
    else (other, count) :: addCount id amount rest

/-- Adds what each member of a list counts to the count of its identifier, without a limit. -/
def countBy {α : Type} (key : α → String) (count : α → ℕ) (list : List α)
    (counts : List (String × ℕ)) : List (String × ℕ) :=
  list.foldl (fun counts a => addCount (key a) (count a) counts) counts

/-- All that is counted under an identifier. -/
def countAt (id : String) (counts : List (String × ℕ)) : ℕ :=
  ((counts.filter fun entry => entry.1 == id).map Prod.snd).sum

/-- What counts by identifier come to altogether. -/
def wholeOf (counts : List (String × ℕ)) : ℕ :=
  (counts.map Prod.snd).sum

/-- The identifiers ascend, so each has one count. -/
def Ascend (counts : List (String × ℕ)) : Prop :=
  (counts.map Prod.fst).Pairwise (· < ·)

section

variable {id : String} {amount : ℕ} {counts : List (String × ℕ)}

theorem countAt_cons (k : String) (entry : String × ℕ) (rest : List (String × ℕ)) :
    countAt k (entry :: rest) = (if entry.1 = k then entry.2 else 0) + countAt k rest :=
  sum_filter_cons Prod.snd Prod.fst k entry rest

theorem wholeOf_cons (entry : String × ℕ) (rest : List (String × ℕ)) :
    wholeOf (entry :: rest) = entry.2 + wholeOf rest := by
  rw [wholeOf, List.map_cons, List.sum_cons, wholeOf]

/-- What is added is counted under its identifier, and under no other. -/
theorem countAt_addCount (k : String) :
    countAt k (addCount id amount counts) =
      countAt k counts + if id = k then amount else 0 := by
  induction counts with
  | nil => rw [addCount, countAt_cons, Nat.add_comm]
  | cons entry rest ih =>
    rcases entry with ⟨other, count⟩
    unfold addCount
    split
    · rw [countAt_cons, Nat.add_comm]
    · split
      · -- the entry of the identifier itself grows
        rename_i heq
        subst heq
        rw [countAt_cons, countAt_cons]
        split <;> omega
      · rw [countAt_cons, countAt_cons, ih, Nat.add_assoc]

/-- What is added goes to exactly one count. -/
theorem wholeOf_addCount : wholeOf (addCount id amount counts) = wholeOf counts + amount := by
  induction counts with
  | nil => exact Nat.add_comm _ _
  | cons entry rest ih =>
    rcases entry with ⟨other, count⟩
    unfold addCount
    split
    · rw [wholeOf_cons, Nat.add_comm]
    · split
      · rw [wholeOf_cons, wholeOf_cons, Nat.add_right_comm]
      · rw [wholeOf_cons, wholeOf_cons, ih, Nat.add_assoc]

theorem mem_keys_addCount {k : String} :
    k ∈ (addCount id amount counts).map Prod.fst ↔ k = id ∨ k ∈ counts.map Prod.fst := by
  induction counts with
  | nil => simp [addCount]
  | cons entry rest ih =>
    rcases entry with ⟨other, count⟩
    unfold addCount
    split
    · simp
    · split
      · rename_i heq
        simp [heq]
      · simp only [List.map_cons, List.mem_cons, ih]
        exact or_left_comm

theorem ascend_addCount (h : Ascend counts) : Ascend (addCount id amount counts) := by
  induction counts with
  | nil => exact List.pairwise_singleton _ _
  | cons entry rest ih =>
    rcases entry with ⟨other, count⟩
    rcases List.pairwise_cons.mp h with ⟨hfirst, hrest⟩
    unfold addCount
    split
    · -- it comes before this entry, and so before all that follow
      rename_i hlt
      refine List.pairwise_cons.mpr ⟨?_, h⟩
      intro k hk
      rcases List.mem_cons.mp hk with rfl | hk
      · exact hlt
      · exact lt_trans hlt (hfirst k hk)
    · split
      · exact h
      · rename_i hge hne
        refine List.pairwise_cons.mpr ⟨?_, ih hrest⟩
        intro k hk
        rcases mem_keys_addCount.mp hk with rfl | hk
        · exact lt_of_le_of_ne (not_lt.mp hge) (Ne.symm hne)
        · exact hfirst k hk

/-- Nothing outgrows a word as long as the whole does not. -/
theorem addCount?_of_fits (h : wholeOf counts + amount < UInt64.size) :
    addCount? id amount counts = some (addCount id amount counts) := by
  induction counts with
  | nil => rfl
  | cons entry rest ih =>
    rcases entry with ⟨other, count⟩
    rw [wholeOf_cons] at h
    unfold addCount? addCount
    split
    · rfl
    · split
      · -- the sum at this entry is a part of the whole
        rw [word?_of_lt (by omega)]
        rfl
      · rw [ih (by omega)]
        rfl

/-- Where identifiers ascend, an entry has all that is counted under its identifier. -/
theorem countAt_of_mem (h : Ascend counts) {entry : String × ℕ} (hmem : entry ∈ counts) :
    countAt entry.1 counts = entry.2 := by
  have hnodup : (counts.map Prod.fst).Nodup := h.imp fun hlt => ne_of_lt hlt
  rw [countAt, filter_key_eq_singleton Prod.fst hnodup hmem, List.map_singleton,
    List.sum_singleton]

variable {α : Type} (key : α → String) (count : α → ℕ) (list : List α)

/-- Counting a list adds to the count of an identifier what the members with it come to. -/
theorem countAt_countBy (k : String) :
    countAt k (countBy key count list counts) =
      countAt k counts + ((list.filter fun a => key a == k).map count).sum := by
  unfold countBy
  induction list generalizing counts with
  | nil => rfl
  | cons a rest ih => rw [List.foldl_cons, ih, countAt_addCount, Nat.add_assoc, sum_filter_cons]

/-- Counting a list adds to the whole what its members come to. -/
theorem wholeOf_countBy :
    wholeOf (countBy key count list counts) = wholeOf counts + (list.map count).sum := by
  unfold countBy
  induction list generalizing counts with
  | nil => rfl
  | cons a rest ih =>
    rw [List.foldl_cons, ih, wholeOf_addCount, List.map_cons, List.sum_cons, Nat.add_assoc]

theorem mem_keys_countBy {k : String} :
    k ∈ (countBy key count list counts).map Prod.fst ↔
      k ∈ counts.map Prod.fst ∨ k ∈ list.map key := by
  unfold countBy
  induction list generalizing counts with
  | nil => simp
  | cons a rest ih =>
    rw [List.foldl_cons, ih, mem_keys_addCount, List.map_cons, List.mem_cons, or_assoc,
      or_left_comm]

theorem ascend_countBy (h : Ascend counts) : Ascend (countBy key count list counts) := by
  unfold countBy
  induction list generalizing counts with
  | nil => exact h
  | cons a rest ih => exact ih (ascend_addCount h)

variable {key count list}

/-- A list is counted as long as the whole does not outgrow a word. -/
theorem countBy?_of_fits {limited : α → Option ℕ} (htells : ∀ a, Tells (limited a) (count a))
    (h : wholeOf counts + (list.map count).sum < UInt64.size) :
    countBy? key limited list counts = some (countBy key count list counts) := by
  unfold countBy? countBy
  induction list generalizing counts with
  | nil => rfl
  | cons a rest ih =>
    rw [List.map_cons, List.sum_cons] at h
    -- what this member counts, the counts with it, and the rest are all parts of the whole
    have hcount : limited a = some (count a) := (htells a).eq_some (by omega)
    have hadd : addCount? (key a) (count a) counts = some (addCount (key a) (count a) counts) :=
      addCount?_of_fits (by omega)
    have hrest := @ih (addCount (key a) (count a) counts) (by rw [wholeOf_addCount]; omega)
    rw [List.foldlM_cons, List.foldl_cons, ← hrest]
    simp only [hcount, hadd, Option.bind_eq_bind, Option.bind_some]

end

/-! ## Counts of a library -/

/-- How many games places and storefronts have, in whatever number. -/
def itemsOf (places : List Place) (storefronts : List Storefront) : ℕ :=
  (places.map Place.exactItems).sum + (storefronts.map Storefront.storedItems).sum

namespace Census

variable (places : List Place) (storefronts : List Storefront)

/-- The counts of games by location, without a limit. -/
def byLocation : List (String × ℕ) :=
  countBy Storefront.id Storefront.storedItems storefronts
    (countBy Place.id Place.exactItems places [])

/-- The counts of places and storefronts, without a limit. -/
def unlimited : Census where
  locations :=
    { physical := places.length
      digital := storefronts.length
      sublocations := (places.map fun place => place.compartments.length).sum
      total := places.length + storefronts.length }
  items :=
    { physical := (places.map Place.exactItems).sum
      digital := (storefronts.map Storefront.storedItems).sum
      total := itemsOf places storefronts
      byLocation := byLocation places storefronts }
  source := .recomputed

variable {places storefronts}

/-- Each location has a count as long as all games fit into a word. -/
theorem byLocation?_of_fits (h : itemsOf places storefronts < UInt64.size) :
    byLocation? places storefronts = some (byLocation places storefronts) := by
  have hplaces : countBy? Place.id Place.storedItems? places [] =
      some (countBy Place.id Place.exactItems places []) := by
    apply countBy?_of_fits Place.tells_storedItems?
    change 0 + _ < _
    rw [itemsOf] at h
    omega
  rw [byLocation?, hplaces, Option.bind_eq_bind, Option.bind_some]
  apply countBy?_of_fits fun _ => tells_some _
  rw [wholeOf_countBy, wholeOf, List.map_nil, List.sum_nil, Nat.zero_add]
  exact h

theorem sumOf?_places : sumOf? Place.storedItems? places =
    word? (places.map Place.exactItems).sum :=
  sumOf?_eq Place.exactItems Place.tells_storedItems? places

theorem sumOf?_storefronts : sumOf? (fun storefront => some storefront.storedItems) storefronts =
    word? (storefronts.map Storefront.storedItems).sum :=
  sumOf?_some Storefront.storedItems storefronts

theorem foldl_compartments :
    places.foldl (fun total place => total + place.compartments.length) 0 =
      (places.map fun place => place.compartments.length).sum := by
  rw [List.sum_eq_foldl, List.foldl_map]

/-- If all games fit into a word, everything is counted exactly. -/
theorem ofLocations?_of_fits (h : itemsOf places storefronts < UInt64.size) :
    ofLocations? places storefronts = some (unlimited places storefronts) := by
  have hby := byLocation?_of_fits h
  rw [itemsOf] at h
  rw [ofLocations?, sumOf?_places, sumOf?_storefronts, word?_of_lt (by omega),
    word?_of_lt (by omega), hby, foldl_compartments]
  simp only [Option.bind_eq_bind, Option.bind_some, word?_of_lt h]
  rfl

/-- If they do not, nothing is counted. -/
theorem ofLocations?_of_outgrown (h : UInt64.size ≤ itemsOf places storefronts) :
    ofLocations? places storefronts = none := by
  rw [itemsOf] at h
  rw [ofLocations?, sumOf?_places, sumOf?_storefronts]
  rcases (tells_word? (places.map Place.exactItems).sum) with hphysical | ⟨hphysical, -⟩
  · rcases (tells_word? (storefronts.map Storefront.storedItems).sum) with hdigital | ⟨hdigital, -⟩
    · simp only [hphysical, hdigital, Option.bind_eq_bind, Option.bind_some, word?_of_le h,
        Option.bind_none]
    · simp only [hphysical, hdigital, Option.bind_eq_bind, Option.bind_some, Option.bind_none]
  · simp only [hphysical, Option.bind_eq_bind, Option.bind_none]

/-- Places and storefronts are counted if and only if their games fit into a word. -/
theorem ofLocations?_eq_some_iff {census : Census} :
    ofLocations? places storefronts = some census ↔
      itemsOf places storefronts < UInt64.size ∧ unlimited places storefronts = census := by
  rcases Nat.lt_or_ge (itemsOf places storefronts) UInt64.size with hlt | hge
  · simp [ofLocations?_of_fits hlt, hlt]
  · simp [ofLocations?_of_outgrown hge, Nat.not_lt.mpr hge]

theorem ascend_byLocation : Ascend (byLocation places storefronts) := by
  unfold byLocation
  exact ascend_countBy _ _ _ (ascend_countBy _ _ _ List.Pairwise.nil)

/-- Each place and each storefront has a count, and nothing else has. -/
theorem mem_keys_byLocation {id : String} :
    id ∈ (byLocation places storefronts).map Prod.fst ↔
      id ∈ places.map Place.id ∨ id ∈ storefronts.map Storefront.id := by
  unfold byLocation
  rw [mem_keys_countBy, mem_keys_countBy]
  simp

/-- What is counted under an identifier is what its places and its storefronts store. -/
theorem countAt_byLocation (id : String) :
    countAt id (byLocation places storefronts) =
      itemsOf (places.filter fun place => place.id == id)
        (storefronts.filter fun storefront => storefront.id == id) := by
  unfold byLocation
  rw [countAt_countBy, countAt_countBy]
  exact congrArg (· + _) (Nat.zero_add _)

/-- So the count of a location is that. -/
theorem entry_byLocation {entry : String × ℕ} (h : entry ∈ byLocation places storefronts) :
    entry.2 = itemsOf (places.filter fun place => place.id == entry.1)
      (storefronts.filter fun storefront => storefront.id == entry.1) := by
  rw [← countAt_of_mem ascend_byLocation h, countAt_byLocation]

/-- The counts by location come to all games. -/
theorem wholeOf_byLocation :
    wholeOf (byLocation places storefronts) = itemsOf places storefronts := by
  unfold byLocation
  rw [wholeOf_countBy, wholeOf_countBy]
  exact congrArg (· + _) (Nat.zero_add _)

end Census

end GameShelf
