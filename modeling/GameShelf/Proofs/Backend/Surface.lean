import GameShelf.Proofs.Backend.Refusal
import GameShelf.Proofs.Decode.Gap

/-!
# What a body shows

A body is decoded while it is read. If it is decoded, its marks are those of a whole record or of a
whole list, and what comes of it is what this record or list is decoded to.

* `ShowsEntries`, `Shows`: the record or the list that marks are of. There is one at most.
* `readFields_shows`, `readItems_shows`: what is read up to the end.
* `decodeBody_shows`: what is decoded of a body is decoded of what it shows.
-/

namespace GameShelf.Backend

open Decode
  (Draft FieldList Layout Values visit visitAll visitItems visitItems_cons visitItems_nil)
open Json (Mark)

/-- The marks of fields up to the end of a record, with the entries that they show. A value that
shows nothing is no entry. -/
inductive ShowsEntries : List Mark → Json.Fields → Prop
  | closed : ShowsEntries [.closed] []
  | entry {marks : List Mark} {entries : Json.Fields} (key : String) (value : Json)
      (h : ShowsEntries marks entries) :
      ShowsEntries (.key (some key) :: .value (some value) :: marks) ((key, value) :: entries)
  | unread {marks : List Mark} {entries : Json.Fields} (key : String)
      (h : ShowsEntries marks entries) :
      ShowsEntries (.key (some key) :: .value none :: marks) entries

/-- The marks of a whole record or of a whole list. -/
inductive Shows : List Mark → Json → Prop
  | record {marks : List Mark} {entries : Json.Fields} (h : ShowsEntries marks entries) :
      Shows (.opened .record :: marks) (.record entries)
  | list (items : List Json) :
      Shows (.opened .list :: (items.map fun item => Mark.value (some item)) ++ [.closed])
        (.list items)

theorem ShowsEntries.unique {marks : List Mark} {entries other : Json.Fields}
    (h : ShowsEntries marks entries) (hother : ShowsEntries marks other) : other = entries := by
  induction h generalizing other with
  | closed =>
    cases hother
    rfl
  | entry key value _ ih =>
    cases hother with
    | entry _ _ hrest => rw [ih hrest]
  | unread key _ ih =>
    cases hother with
    | unread _ hrest => exact ih hrest

/-- A body shows one thing. -/
theorem Shows.unique {marks : List Mark} {body other : Json} (h : Shows marks body)
    (hother : Shows marks other) : other = body := by
  cases h with
  | record hentries =>
    cases hother with
    | record hrest => rw [hentries.unique hrest]
  | list items =>
    generalize hmarks : Mark.opened .list ::
      (items.map fun item => Mark.value (some item)) ++ [.closed] = marks at hother
    cases hother with
    | record _ => cases hmarks
    | list others =>
      have hitems := List.append_cancel_right (List.cons.inj hmarks).2
      have hinjective (first second : Json)
          (heq : Mark.value (some first) = Mark.value (some second)) : first = second :=
        Option.some.inj (Mark.value.inj heq)
      rw [(List.map_inj_right hinjective).mp hitems]

theorem atEnd_eq_ok {α : Type} {result found : α} {marks : List Mark}
    (h : atEnd result marks = .ok found) : marks = [] ∧ result = found := by
  cases marks with
  | nil => exact ⟨rfl, Except.ok.inj h⟩
  | cons mark rest => exact absurd h (by simp [atEnd])

section

variable {types : List Type}

/-- A value that shows nothing is passed over. -/
theorem readField_none {fields : FieldList types} {draft next : Draft types} {key : String}
    (h : readField fields draft key none = .ok next) : next = draft := by
  rw [readField] at h
  split at h
  · exact absurd h (by simp)
  · exact (Except.ok.inj h).symm

/-- Fields that are read up to the end are read like the entries that they show. -/
theorem readFields_shows {fields : FieldList types} {draft last : Draft types}
    {marks : List Mark} (h : readFields fields draft marks = .ok (last, [])) :
    ∃ entries, ShowsEntries marks entries ∧ visitAll fields draft entries = .ok last := by
  fun_induction readFields fields draft marks with
  | case1 => cases h
  | case2 draft key shown rest _ _ ih =>
    have hbind : ((readField fields draft key shown).bind fun next =>
        readFields fields next rest) = .ok (last, []) := h
    rcases exists_of_bind_eq_ok hbind with ⟨next, hread, hrest⟩
    rcases ih next hrest with ⟨entries, hshows, hvisit⟩
    cases shown with
    | none =>
      rw [readField_none hread] at hvisit
      exact ⟨entries, .unread key hshows, hvisit⟩
    | some value =>
      have hnext : visit fields draft key value = .ok next := eq_ok_of_mapError hread
      refine ⟨(key, value) :: entries, .entry key value hshows, ?_⟩
      rw [visitAll, hnext]
      exact hvisit
  | case3 => cases h
  | case4 draft rest =>
    rcases Prod.mk.inj (Except.ok.inj h) with ⟨rfl, rfl⟩
    exact ⟨[], .closed, rfl⟩
  | case5 => cases h

/-- Items that are read up to the end are the items of a list. -/
theorem readItems_shows {fields : FieldList types} {marks : List Mark} {values : Values types}
    (h : readItems fields marks = .ok (values, [])) :
    ∃ items : List Json,
      marks = (items.map fun item => Mark.value (some item)) ++ [.closed] ∧
        ∀ short position, visitItems short fields position items = .ok (values, []) := by
  fun_induction readItems fields marks with
  | case1 rest =>
    rcases Prod.mk.inj (Except.ok.inj h) with ⟨-, rfl⟩
    exact ⟨[], rfl, fun _ _ => rfl⟩
  | case2 _ _ _ others rest _ value hend =>
    rename_i ih
    have hbind : ((readItems others (.closed :: rest)).bind fun found =>
        .ok ((value, found.1), found.2)) = .ok (values, []) := h
    rcases exists_of_bind_eq_ok hbind with ⟨⟨found, left⟩, hrest, heq⟩
    rcases Prod.mk.inj (Except.ok.inj heq) with ⟨rfl, rfl⟩
    rcases ih hrest with ⟨items, hitems, hvisit⟩
    refine ⟨items, hitems, fun short position => ?_⟩
    -- the list has ended, so there are no items
    cases items with
    | cons item items => cases hitems
    | nil => exact visitItems_nil.mpr ⟨hend, hvisit short (position + 1)⟩
  | case3 => cases h
  | case4 _ _ _ others shown rest ih =>
    rcases exists_of_bind_eq_ok h with ⟨value, hread, hbind⟩
    rcases exists_of_bind_eq_ok hbind with ⟨⟨found, left⟩, hrest, heq⟩
    rcases Prod.mk.inj (Except.ok.inj heq) with ⟨rfl, rfl⟩
    rcases ih hrest with ⟨items, rfl, hvisit⟩
    refine ⟨shown :: items, rfl, fun short position => ?_⟩
    exact visitItems_cons.mpr ⟨eq_ok_of_mapError hread, hvisit short (position + 1)⟩
  | case5 => cases h

end

section

variable {α : Type} {layout : Layout α}

theorem readRecord_shows {marks : List Mark} {result : α}
    (h : readRecord layout marks = .ok result) :
    ∃ entries, ShowsEntries marks entries ∧ layout.read (.record entries) = .ok result := by
  rcases exists_of_bind_eq_ok h with ⟨⟨draft, rest⟩, hfields, h⟩
  rcases exists_of_bind_eq_ok h with ⟨values, hcomplete, h⟩
  rcases atEnd_eq_ok h with ⟨rfl, rfl⟩
  rcases readFields_shows hfields with ⟨entries, hshows, hvisit⟩
  have hgives : Decode.Gives layout.fields entries values :=
    ⟨draft, hvisit, eq_ok_of_mapError hcomplete⟩
  exact ⟨entries, hshows, hgives.read⟩

theorem readList_shows {marks : List Mark} {result : α} (h : readList layout marks = .ok result) :
    ∃ items : List Json,
      marks = (items.map fun item => Mark.value (some item)) ++ [.closed] ∧
        layout.read (.list items) = .ok result := by
  rcases exists_of_bind_eq_ok h with ⟨⟨values, rest⟩, hitems, h⟩
  rcases atEnd_eq_ok h with ⟨rfl, rfl⟩
  rcases readItems_shows hitems with ⟨items, hmarks, hvisit⟩
  exact ⟨items, hmarks, Decode.Layout.read_list_iff.mpr ⟨values, hvisit _ 0, rfl⟩⟩

theorem readMarks_shows {marks : List Mark} {result : α}
    (h : readMarks layout marks = .ok result) :
    ∃ body, Shows marks body ∧ layout.read body = .ok result := by
  unfold readMarks at h
  split at h
  · rcases readRecord_shows h with ⟨entries, hshows, hread⟩
    exact ⟨.record entries, .record hshows, hread⟩
  · rcases readList_shows h with ⟨items, rfl, hread⟩
    exact ⟨.list items, .list items, hread⟩
  · cases h
  · cases h

/-- What is decoded of a body is decoded of the record or of the list that the body shows. -/
theorem decodeBody_shows {request : Request} {input : α}
    (h : decodeBody layout request = .ok input) :
    ∃ body, Shows (Json.surface (bodyTokens request.body)) body ∧
      layout.read body = .ok input := by
  unfold decodeBody at h
  split at h
  · cases h
  · split at h
    · cases h
    · exact readMarks_shows h

end

end GameShelf.Backend
