import Mathlib.Data.List.TakeWhile
import GameShelf.Client.Api
import GameShelf.Proofs.Text.Percent
import GameShelf.Rehearsal.Basic

/-!
# From paths to routes

The paths that the client asks for lead to the routes that they are meant for, with the segment
of an entity as the client encoded it.

* `splitSlashes_append`: the parts of a path, collection first.
* `arriving_path`: a path arrives as it was asked for.
* `ofPath?_place`, `ofPath?_compartment`, `ofPath?_storefront`: the routes of entities.
* `Reaches`: the operation that answers a request.
-/

namespace GameShelf

namespace Backend.Route

open Text (encodeSegment isSegmentChar isSegmentChar_of_mem)

/-! ## Parts -/

/-- A slash ends one part and begins the next. -/
theorem splitSlashes_append (part cs ds : List Char) :
    splitSlashes part (cs ++ '/' :: ds) = splitSlashes part cs ++ splitSlashes [] ds := by
  induction cs generalizing part with
  | nil => rfl
  | cons c rest ih =>
    rw [List.cons_append, splitSlashes, splitSlashes]
    split
    · rw [ih, List.cons_append]
    · rw [ih]

/-- Without a slash all is one part. -/
theorem splitSlashes_single {cs : List Char} (h : '/' ∉ cs) (part : List Char) :
    splitSlashes part cs = [String.ofList (part.reverse ++ cs)] := by
  induction cs generalizing part with
  | nil => rw [splitSlashes, List.append_nil]
  | cons c rest ih =>
    rcases List.ne_and_not_mem_of_not_mem_cons h with ⟨hc, hrest⟩
    rw [splitSlashes, if_neg (Ne.symm hc), ih hrest, List.reverse_cons, List.append_assoc]
    rfl

/-! ## Whole paths -/

/-- A path that begins at the root and asks for nothing but a place. -/
structure IsPlain (path : String) : Prop where
  rooted : ∃ c rest, path.toList = '/' :: c :: rest ∧ c ≠ '/'
  noQuery : ∀ c ∈ path.toList, c ≠ '?' ∧ c ≠ '#'

theorem isPlain_of_all {path : String} {c : Char} {rest : List Char}
    (hpath : path.toList = '/' :: c :: rest) (hc : c ≠ '/')
    (hall : path.toList.all (fun c => c != '?' && c != '#') = true) : IsPlain path where
  rooted := ⟨c, rest, hpath, hc⟩
  noQuery := by
    intro d hd
    have htest := List.all_eq_true.mp hall d hd
    simpa using htest

/-- The route of a plain path is that of its parts. -/
theorem ofPath?_plain {path : String} (h : IsPlain path) :
    ofPath? path = ofSegments? (splitSlashes [] path.toList) := by
  have hquery : withoutQuery path = path.toList := by
    rw [withoutQuery, List.takeWhile_eq_self_iff]
    intro c hc
    exact decide_eq_true (h.noQuery c hc)
  rcases h.rooted with ⟨c, rest, hpath, -⟩
  have hhost : withoutHost path.toList = path.toList := by
    rw [hpath]
    rfl
  rw [ofPath?, hquery, hhost]

/-- No character of a segment has a meaning in paths. -/
theorem ne_of_isSegmentChar {c : Char} (h : isSegmentChar c = true) :
    c ≠ '/' ∧ c ≠ '?' ∧ c ≠ '#' := by
  refine ⟨?_, ?_, ?_⟩
  all_goals
    rintro rfl
    exact absurd h (by decide)

/-- The path of an entity is plain if that of its collection is. -/
theorem isPlain_entity {collection : String} (h : IsPlain collection) (id : String) :
    IsPlain (collection ++ "/" ++ encodeSegment id) := by
  rcases h.rooted with ⟨c, rest, hpath, hc⟩
  constructor
  · exact ⟨c, _, by rw [String.toList_append, String.toList_append, hpath]; rfl, hc⟩
  · intro d hd
    rw [String.toList_append, String.toList_append, List.mem_append, List.mem_append] at hd
    rcases hd with (hd | hd) | hd
    · exact h.noQuery d hd
    · rw [List.mem_singleton.mp hd]
      decide
    · exact (ne_of_isSegmentChar (isSegmentChar_of_mem hd)).2

/-- The route of an entity is that of the parts of its collection and its segment. -/
theorem ofPath?_entity {collection : String} (h : IsPlain collection) (id : String) :
    ofPath? (collection ++ "/" ++ encodeSegment id) =
      ofSegments? (splitSlashes [] collection.toList ++ [encodeSegment id]) := by
  have hslash : '/' ∉ (encodeSegment id).toList :=
    fun hmem => (ne_of_isSegmentChar (isSegmentChar_of_mem hmem)).1 rfl
  have hlist : (collection ++ "/" ++ encodeSegment id).toList =
      collection.toList ++ '/' :: (encodeSegment id).toList := by
    rw [String.toList_append, String.toList_append, List.append_assoc]
    rfl
  rw [ofPath?_plain (isPlain_entity h id), hlist, splitSlashes_append, splitSlashes_single hslash,
    List.reverse_nil, List.nil_append, String.ofList_toList]

/-! ## The paths of the client -/

theorem isPlain_places : IsPlain placesPath :=
  isPlain_of_all rfl (by decide) (by decide)

theorem isPlain_batch : IsPlain batchPath :=
  isPlain_of_all rfl (by decide) (by decide)

theorem isPlain_compartments : IsPlain compartmentsPath :=
  isPlain_of_all rfl (by decide) (by decide)

theorem isPlain_storefronts : IsPlain storefrontsPath :=
  isPlain_of_all rfl (by decide) (by decide)

theorem isPlain_library : IsPlain libraryPath :=
  isPlain_of_all rfl (by decide) (by decide)

theorem ofPath?_places : ofPath? placesPath = some .places := by
  decide

theorem ofPath?_batch : ofPath? batchPath = some .batch := by
  decide

theorem ofPath?_compartments : ofPath? compartmentsPath = some .compartments := by
  decide

theorem ofPath?_storefronts : ofPath? storefrontsPath = some .storefronts := by
  decide

theorem ofPath?_library : ofPath? libraryPath = some .library := by
  decide

variable {id : String}

/-- The route of a place is that of the overview if it is named like it. -/
theorem ofPath?_place (hid : id ≠ "") :
    ofPath? (placesPath ++ "/" ++ encodeSegment id) =
      if id = "bff" then some .batch else some (.place (encodeSegment id)) := by
  have hparts : splitSlashes [] placesPath.toList = ["", "v1", "locations", "physical"] := by
    decide
  have hempty : encodeSegment id ≠ "" := Text.encodeSegment_ne_empty hid
  -- encoding tells identifiers apart, so only one has this segment
  have hbatch : encodeSegment id = "bff" ↔ id = "bff" := by
    have hsame : encodeSegment "bff" = "bff" := by decide
    constructor
    · intro h
      exact Text.encodeSegment_injective (h.trans hsame.symm)
    · rintro rfl
      exact hsame
  rw [ofPath?_entity isPlain_places, hparts]
  simp only [List.cons_append, List.nil_append, ofSegments?, if_neg hempty, if_true, hbatch]

theorem ofPath?_compartment (hid : id ≠ "") :
    ofPath? (compartmentsPath ++ "/" ++ encodeSegment id) =
      some (.compartment (encodeSegment id)) := by
  have hparts : splitSlashes [] compartmentsPath.toList =
      ["", "v1", "locations", "sublocations"] := by
    decide
  have hempty : encodeSegment id ≠ "" := Text.encodeSegment_ne_empty hid
  rw [ofPath?_entity isPlain_compartments, hparts]
  simp only [List.cons_append, List.nil_append, ofSegments?, if_neg hempty, String.reduceEq,
    if_false, if_true]

theorem ofPath?_storefront (hid : id ≠ "") :
    ofPath? (storefrontsPath ++ "/" ++ encodeSegment id) =
      some (.storefront (encodeSegment id)) := by
  have hparts : splitSlashes [] storefrontsPath.toList = ["", "v1", "locations", "digital"] := by
    decide
  have hempty : encodeSegment id ≠ "" := Text.encodeSegment_ne_empty hid
  rw [ofPath?_entity isPlain_storefronts, hparts]
  simp only [List.cons_append, List.nil_append, ofSegments?, if_neg hempty, String.reduceEq,
    if_false, if_true]

end Backend.Route

open Backend (Operation Store dispatch perform)
open Backend.Route (IsPlain ofPath?)
open Rehearsal (arriving)

/-- The identifier in the segment of an entity. -/
theorem decodeId_encodeSegment (id : String) :
    Backend.decodeId (Text.encodeSegment id) = .ok id := by
  rw [Backend.decodeId, Text.decodeSegment?_encodeSegment]

/-! ## Requests as they arrive -/

/-- A plain path arrives as it was asked for. -/
theorem arriving_path (settings : Settings) {request : Request} (h : IsPlain request.path)
    (credential : Option Credential) :
    (arriving settings.base (request.prepare settings credential)).path = request.path := by
  rcases h.rooted with ⟨c, rest, hpath, hc⟩
  -- one slash is taken off the path and put before it again
  have hslashes : request.path.toList.dropWhile (· == '/') = c :: rest := by
    have hslash : (c == '/') = false := beq_false_of_ne hc
    simp only [hpath, List.dropWhile_cons, beq_self_eq_true, if_true, hslash, Bool.false_eq_true,
      if_false]
  have haddress : (settings.address request.path).toList =
      settings.base.toList ++ '/' :: c :: rest := by
    have hrest : (String.ofList (c :: rest)).toList = c :: rest := String.toList_ofList
    rw [Settings.address, hslashes, String.toList_append, String.toList_append, List.append_assoc,
      hrest]
    rfl
  have hdrop : (settings.base.toList ++ '/' :: c :: rest).drop settings.base.length =
      '/' :: c :: rest := by
    rw [← String.length_toList, List.drop_left]
  rw [arriving, Request.prepare, haddress, hdrop, ← hpath, String.ofList_toList]

/-- Where the method and the path of a request lead. -/
structure Reaches (request : Request) (operation : Operation) : Prop where
  isPlain : IsPlain request.path
  leads : ∃ route, ofPath? request.path = some route ∧
    route.operation? request.method.text = some operation

/-- No request asks for the head alone. -/
theorem Method.text_ne_head (method : Method) : method.text ≠ "HEAD" := by
  cases method <;> decide

/-- A request is answered by the operation that it leads to. -/
theorem Reaches.dispatch_eq {request : Request} {operation : Operation}
    (h : Reaches request operation) (settings : Settings) (credential : Option Credential)
    (id now : String) (store : Store) :
    dispatch id now (arriving settings.base (request.prepare settings credential)) store =
      perform id now (arriving settings.base (request.prepare settings credential)) operation
        store := by
  rcases h.leads with ⟨route, hroute, hoperation⟩
  have hmethod : (arriving settings.base (request.prepare settings credential)).method =
      request.method.text := rfl
  rw [dispatch, arriving_path settings h.isPlain, hroute, hmethod,
    if_neg request.method.text_ne_head]
  simp only [hoperation]

/-- A request whose route does not have its method alters nothing. -/
theorem dispatch_unreached {request : Request} {route : Backend.Route}
    (hplain : IsPlain request.path) (hroute : ofPath? request.path = some route)
    (hoperation : route.operation? request.method.text = none) (settings : Settings)
    (credential : Option Credential) (id now : String) (store : Store) :
    (dispatch id now (arriving settings.base (request.prepare settings credential)) store).2 =
      store := by
  have hmethod : (arriving settings.base (request.prepare settings credential)).method =
      request.method.text := rfl
  rw [dispatch, arriving_path settings hplain, hroute, hmethod, if_neg request.method.text_ne_head]
  simp only [hoperation]

end GameShelf
