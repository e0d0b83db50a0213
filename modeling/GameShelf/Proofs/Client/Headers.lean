import Mathlib
import GameShelf.Client.Http

/-!
# The headers of a request

However a caller spells the names of headers and however often it gives one, every header goes out
once, under a name in lower case. Of the values that it was given the last counts, before that the
credential for the authorization, and after it the value that a request has by itself.

* `Headers.WellNamed`: names in lower case, no two of them the same header.
* `Headers.value?_set`, `Headers.value?_setAll`: what a header is after others were put in place.
* `Request.prepare_headers`: the names and values of a request that is ready for the wire.
-/

namespace GameShelf

namespace Headers

variable {headers : Headers}

/-! ## Names -/

theorem sameName_iff {name other : String} :
    sameName name other = true ↔ lowerName name = lowerName other :=
  beq_iff_eq

theorem lowerName_lowerName (name : String) : lowerName (lowerName name) = lowerName name := by
  simp only [lowerName, String.toList_ofList, List.map_map]
  congr 2
  funext c
  exact Char.toLower_toLower_eq_toLower c

theorem sameName_lowerName (name other : String) :
    sameName (lowerName name) other = sameName name other := by
  rw [sameName, lowerName_lowerName, sameName]

theorem sameName_comm (name other : String) : sameName name other = sameName other name := by
  rw [Bool.eq_iff_iff, sameName_iff, sameName_iff, eq_comm]

/-- Of two names for one header, a third is the same header either way. -/
theorem sameName_congr {name other : String} (h : sameName name other = true) (third : String) :
    sameName third name = sameName third other := by
  rw [Bool.eq_iff_iff, sameName_iff, sameName_iff, sameName_iff.mp h]

/-- Names are in lower case, and no two of them are the same header. -/
structure WellNamed (headers : Headers) : Prop where
  lowered : ∀ header ∈ headers, ∀ c ∈ header.1.toList, c.isUpper = false
  distinct : headers.Pairwise fun header other => sameName header.1 other.1 = false

theorem not_isUpper_of_mem_lowerName {name : String} {c : Char} (h : c ∈ (lowerName name).toList) :
    c.isUpper = false := by
  rw [lowerName, String.toList_ofList] at h
  rcases List.mem_map.mp h with ⟨original, -, rfl⟩
  exact Char.isUpper_toLower_eq_false original

/-- A header that is put in place keeps the names in order. -/
theorem WellNamed.set (h : headers.WellNamed) (name value : String) :
    (headers.set name value).WellNamed := by
  constructor
  case lowered =>
    intro header hmem
    rcases List.mem_append.mp hmem with hold | hnew
    · exact h.lowered header (List.mem_filter.mp hold).1
    · rw [List.mem_singleton.mp hnew]
      exact fun c => not_isUpper_of_mem_lowerName
  case distinct =>
    refine List.pairwise_append.mpr ⟨h.distinct.filter _, List.pairwise_singleton _ _, ?_⟩
    intro header hmem added hadded
    -- what is left is another header than the new one
    have hother := (List.mem_filter.mp hmem).2
    rw [List.mem_singleton.mp hadded, sameName_comm, sameName_lowerName, sameName_comm]
    rwa [Bool.not_eq_true'] at hother

/-- Headers that are put in place one after the other keep the names in order. -/
theorem WellNamed.setAll (h : headers.WellNamed) (given : Headers) :
    (given.foldl (fun headers header => headers.set header.1 header.2) headers).WellNamed := by
  induction given generalizing headers with
  | nil => exact h
  | cons header rest ih => exact ih (h.set header.1 header.2)

/-! ## Values -/

theorem value?_append (headers others : Headers) (name : String) :
    value? (headers ++ others) name = (headers.value? name).or (others.value? name) := by
  rw [value?, List.find?_append, Option.map_or]
  rfl

theorem value?_singleton (header : String × String) (name : String) :
    value? [header] name = if sameName header.1 name then some header.2 else none := by
  rw [value?, List.find?_singleton]
  split
  · rfl
  · rfl

/-- Without one header, the others have their values. -/
theorem value?_filter (headers : Headers) (name other : String) :
    value? (headers.filter fun header => !sameName header.1 name) other =
      if sameName name other then none else headers.value? other := by
  cases hsame : sameName name other with
  | true =>
    have hnone : (headers.filter fun header => !sameName header.1 name).find?
        (fun header => sameName header.1 other) = none := by
      rw [List.find?_eq_none]
      intro header hmem
      have hother := (List.mem_filter.mp hmem).2
      rw [sameName_congr hsame, Bool.not_eq_true'] at hother
      rw [hother]
      exact Bool.false_ne_true
    rw [value?, hnone]
    rfl
  | false =>
    -- what is found under the other name was not left out
    have hkept : ∀ header : String × String, sameName header.1 other = true →
        (!sameName header.1 name) = true := by
      intro header hheader
      rw [sameName_comm, sameName_congr hheader, hsame]
      rfl
    rw [value?, List.find?_filter, if_neg Bool.false_ne_true, value?]
    congr 2
    funext header
    rw [Bool.eq_iff_iff, decide_eq_true_eq, and_iff_right_of_imp (hkept header)]

/-- A header that was put in place has its value, and all others have theirs. -/
theorem value?_set (headers : Headers) (name value other : String) :
    (headers.set name value).value? other =
      if sameName name other then some value else headers.value? other := by
  rw [set, value?_append, value?_filter, value?_singleton, sameName_lowerName]
  split
  · rfl
  · exact Option.or_none

/-- The value of the last header of a name. -/
def last? (headers : Headers) (name : String) : Option String :=
  value? headers.reverse name

/-- Of headers that are put in place one after the other, the last of a name counts. -/
theorem value?_setAll (given headers : Headers) (name : String) :
    value? (given.foldl (fun headers header => headers.set header.1 header.2) headers) name =
      (given.last? name).or (headers.value? name) := by
  induction given generalizing headers with
  | nil => rfl
  | cons header rest ih =>
    rw [List.foldl_cons, ih, value?_set, last?, last?, List.reverse_cons, value?_append,
      value?_singleton, Option.or_assoc]
    split
    · rfl
    · rfl

end Headers

/-! ## Requests -/

namespace Request

open Headers (sameName)

/-- The value that a header has by itself: what is accepted, and the content type of a body. -/
def default? (request : Request) (name : String) : Option String :=
  if sameName "accept" name then some "application/json"
  else if sameName "content-type" name then request.body.map Body.contentType
  else none

theorem value?_ownHeaders (request : Request) (name : String) :
    request.ownHeaders.value? name = request.default? name := by
  rw [ownHeaders, default?, ← List.singleton_append, Headers.value?_append,
    Headers.value?_singleton]
  cases sameName "accept" name with
  | true => rfl
  | false =>
    cases request.body with
    | none => exact (ite_self _).symm
    | some body => exact Headers.value?_singleton _ name

theorem wellNamed_ownHeaders (request : Request) : request.ownHeaders.WellNamed := by
  have hlower : ∀ name, Headers.lowerName name = name → ∀ c ∈ name.toList, c.isUpper = false := by
    intro name hname c hc
    rw [← hname] at hc
    exact Headers.not_isUpper_of_mem_lowerName hc
  have haccept := hlower "accept" (by decide)
  have hcontent := hlower "content-type" (by decide)
  have hapart : sameName "accept" "content-type" = false := by decide
  rw [ownHeaders]
  cases request.body with
  | none => exact ⟨List.forall_mem_singleton.mpr haccept, List.pairwise_singleton _ _⟩
  | some body =>
    exact ⟨List.forall_mem_cons.mpr ⟨haccept, List.forall_mem_singleton.mpr hcontent⟩,
      List.pairwise_pair.mpr hapart⟩

/-- The headers of a request that is ready for the wire have names in lower case, each once, and
every header has the value of the credential, if there is one and the header is the authorization,
or else the last value that the caller gave it, or else the one that it has by itself. -/
theorem prepare_headers (settings : Settings) (request : Request)
    (credential : Option Credential) :
    (request.prepare settings credential).headers.WellNamed ∧
      ∀ name, (request.prepare settings credential).headers.value? name =
        ((credential.filter fun _ => sameName "authorization" name).map Credential.bearer).or
          ((request.headers.last? name).or (request.default? name)) := by
  have hnamed := (wellNamed_ownHeaders request).setAll request.headers
  have hvalue := fun name => Headers.value?_setAll request.headers request.ownHeaders name
  cases credential with
  | none =>
    refine ⟨hnamed, fun name => ?_⟩
    rw [← value?_ownHeaders]
    exact hvalue name
  | some credential =>
    refine ⟨hnamed.set _ _, fun name => ?_⟩
    rw [← value?_ownHeaders, ← hvalue, prepare, allHeaders, Headers.value?_set, Option.filter_some]
    split
    · rfl
    · rfl

end Request

end GameShelf
