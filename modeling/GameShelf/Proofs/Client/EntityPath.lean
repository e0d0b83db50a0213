import GameShelf.Client.Api
import GameShelf.Proofs.Text.Segment

/-!
# The address of an entity

An entity is asked for at the address of its collection and one segment more, whatever its
identifier is. No identifier cuts the address anywhere else, and no two have one address.

* `addressParts`: an address, cut wherever a part of it may end.
* `Settings.address_segment`, `Settings.addressParts_segment`: a segment behind a collection.
* `OneSegment`: what the segment of an identifier is.
* `entityPath_oneSegment`: which identifiers have a path, and which one it is.
-/

namespace GameShelf

open Text (IsDotSegment IsEscaped decodeBytes encodeSegment escapeBlank formByte
  isEscaped_encodeSegment isSegmentChar isSegmentChar_of_mem utf8)

/-! ## Addresses -/

/-- The characters that end a part of an address: the path goes on with a further segment, or the
query or the fragment begins. -/
def isDelimiter (c : Char) : Bool :=
  c == '/' || c == '\\' || c == '?' || c == '#'

/-- The parts of an address between the characters that end one. -/
def addressParts (address : String) : List (List Char) :=
  address.toList.splitOnP isDelimiter

theorem not_isDelimiter {c : Char} (h : isSegmentChar c = true) : isDelimiter c = false := by
  rw [isDelimiter]
  simp only [Bool.or_eq_false_iff, beq_eq_false_iff_ne]
  refine ⟨⟨⟨?_, ?_⟩, ?_⟩, ?_⟩
  all_goals
    rintro rfl
    exact absurd h (by decide)

namespace Settings

variable (settings : Settings) (collection : String) {segment : String}

/-- The address of a collection ends with a slash if its path does. -/
theorem address_collection :
    ∃ front, (settings.address (collection ++ "/")).toList = front ++ ['/'] := by
  simp only [address, String.toList_append, String.toList_ofList,
    List.dropWhile_append]
  split
  · exact ⟨settings.base.toList, List.append_nil _⟩
  · exact ⟨_, (List.append_assoc ..).symm⟩

/-- A segment is put behind the address of its collection. -/
theorem address_segment (hplain : ∀ c ∈ segment.toList, isDelimiter c = false) :
    settings.address (collection ++ "/" ++ segment) =
      settings.address (collection ++ "/") ++ segment := by
  -- only slashes of the collection are taken off
  have hstays : segment.toList.dropWhile (· == '/') = segment.toList := by
    cases hcs : segment.toList with
    | nil => rfl
    | cons c rest =>
      rw [hcs] at hplain
      refine List.dropWhile_cons_of_neg fun hslash => ?_
      have hc := hplain c List.mem_cons_self
      rw [isDelimiter, hslash] at hc
      exact absurd hc (by simp)
  have hdropped : (collection ++ "/" ++ segment).toList.dropWhile (· == '/') =
      (collection ++ "/").toList.dropWhile (· == '/') ++ segment.toList := by
    rw [String.toList_append, List.dropWhile_append, hstays]
    split
    · rename_i hempty
      rw [List.isEmpty_iff.mp hempty, List.nil_append]
    · rfl
  rw [address, address, hdropped, String.ofList_append, String.ofList_toList, String.append_assoc,
    String.append_assoc, String.append_assoc]

/-- It is one part more, and no other part is cut in two. -/
theorem addressParts_segment (hplain : ∀ c ∈ segment.toList, isDelimiter c = false) :
    addressParts (settings.address (collection ++ "/" ++ segment)) =
      (addressParts (settings.address (collection ++ "/"))).dropLast ++ [segment.toList] := by
  rcases settings.address_collection collection with ⟨front, hfront⟩
  have hslash : isDelimiter '/' = true := rfl
  rw [settings.address_segment collection hplain, addressParts, addressParts,
    String.toList_append, hfront, List.append_assoc, List.singleton_append,
    List.splitOnP_append_cons _ _ hslash, List.splitOnP_append_cons _ _ hslash,
    List.splitOnP_eq_singleton hplain, List.splitOnP_nil, List.dropLast_concat]

end Settings

/-! ## Entities -/

/-- The path of an entity: the path of its collection and one segment, which stands for the
identifier and for nothing else. -/
structure OneSegment (collection id path segment : String) : Prop where
  path_eq : path = collection ++ "/" ++ segment
  ne_empty : segment ≠ ""
  escaped : IsEscaped segment.toList
  /-- It is what a form has for the identifier, with an escaped blank for every plus sign. -/
  toList_eq : segment.toList = ((utf8 id).flatMap formByte).flatMap escapeBlank
  not_dots : ¬ IsDotSegment segment
  decoded : decodeBytes (utf8 segment) = utf8 id
  /-- Wherever the collection is, the entity is one segment behind it. -/
  address_eq : ∀ settings : Settings,
    settings.address path = settings.address (collection ++ "/") ++ segment
  /-- No part of the address but the last, empty one is another than without the identifier. -/
  parts_eq : ∀ settings : Settings, addressParts (settings.address path) =
    (addressParts (settings.address (collection ++ "/"))).dropLast ++ [segment.toList]

theorem oneSegment_encodeSegment (collection : String) {id : String}
    (h : ¬ (id = "" ∨ id = "." ∨ id = "..")) :
    OneSegment collection id (collection ++ "/" ++ encodeSegment id) (encodeSegment id) := by
  rw [not_or, not_or] at h
  rcases h with ⟨hempty, hone, htwo⟩
  have hplain : ∀ c ∈ (encodeSegment id).toList, isDelimiter c = false :=
    fun c hc => not_isDelimiter (isSegmentChar_of_mem hc)
  constructor
  case path_eq => rfl
  case ne_empty => exact Text.encodeSegment_ne_empty hempty
  case escaped => exact isEscaped_encodeSegment id
  case toList_eq => exact Text.toList_encodeSegment id
  case not_dots => exact Text.not_isDotSegment_encodeSegment hone htwo
  case decoded => exact Text.decodeBytes_encodeSegment id
  case address_eq => exact fun settings => settings.address_segment collection hplain
  case parts_eq => exact fun settings => settings.addressParts_segment collection hplain

/-- Segments of one collection at one address are the same, and so are their identifiers. -/
theorem OneSegment.eq_of_address_eq {collection id other path path' segment segment' : String}
    (h : OneSegment collection id path segment) (h' : OneSegment collection other path' segment')
    {settings : Settings} (haddress : settings.address path = settings.address path') :
    id = other := by
  rw [h.address_eq, h'.address_eq] at haddress
  apply Text.utf8_injective
  rw [← h.decoded, ← h'.decoded, (String.append_right_inj _).mp haddress]

/-- An entity has a path for all identifiers but the empty one and the dots. -/
theorem entityPath_eq_ok_iff {collection id path : String} :
    entityPath collection id = .ok path ↔
      ¬ (id = "" ∨ id = "." ∨ id = "..") ∧ path = collection ++ "/" ++ encodeSegment id := by
  rw [entityPath]
  split
  · rename_i hid
    exact iff_of_false (by simp) fun h => h.1 hid
  · rename_i hid
    rw [Except.ok.injEq, eq_comm, and_iff_right hid]

theorem entityPath_ok {collection id path : String} (h : entityPath collection id = .ok path) :
    OneSegment collection id path (encodeSegment id) := by
  rcases entityPath_eq_ok_iff.mp h with ⟨hid, rfl⟩
  exact oneSegment_encodeSegment collection hid

/-- In every collection, the identifiers without a path are the empty one and the dots. Every other
one has the path of one segment that stands for it, and at every base address, no two have the same
address. -/
theorem entityPath_oneSegment (collection : String) :
    (∀ id, (∃ fault, entityPath collection id = .error fault) ↔ id = "" ∨ id = "." ∨ id = "..") ∧
      (∀ id path, entityPath collection id = .ok path →
        ∃ segment, OneSegment collection id path segment) ∧
      ∀ id other path path', entityPath collection id = .ok path →
        entityPath collection other = .ok path' → id ≠ other →
        ∀ settings : Settings, settings.address path ≠ settings.address path' := by
  refine ⟨?refused, ?accepted, ?apart⟩
  case refused =>
    intro id
    rw [entityPath]
    split
    · rename_i hid
      exact iff_of_true ⟨_, rfl⟩ hid
    · rename_i hid
      exact iff_of_false (by simp) hid
  case accepted =>
    intro id path h
    exact ⟨encodeSegment id, entityPath_ok h⟩
  case apart =>
    intro id other path path' h h' hne settings haddress
    exact hne ((entityPath_ok h).eq_of_address_eq (entityPath_ok h') haddress)

example : entityPath storefrontsPath "a b+é/../%2e?#" =
    .ok "/v1/locations/digital/a%20b%2B%C3%A9%2F..%2F%252e%3F%23" := by
  decide

end GameShelf
