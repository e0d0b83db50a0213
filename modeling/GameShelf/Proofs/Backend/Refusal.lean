import GameShelf.Backend.Server

/-!
# Which refusals there are

A body can be refused for four reasons, and none of them is the credential: that is looked at
before, and only there is a request refused for it.

* `BodyRefusal`: the refusals of a body.
* `decodeBody_refusal`: a body is refused with one of them.
* `dispatch_admits`: no operation refuses a credential.
-/

namespace GameShelf.Backend

open Decode (Draft FieldList Layout)
open Json (Mark)

/-- The refusals of a body. -/
inductive BodyRefusal : Answer → Prop where
  | notAnnounced : BodyRefusal notAnnounced
  | tooLong : BodyRefusal tooLong
  | notJson : BodyRefusal notJson
  | wrongShape : BodyRefusal wrongShape

/-- A reading of a body that can fail with the refusals of a body only. -/
def FailsAsBody {α : Type} (result : Except Answer α) : Prop :=
  ∀ answer, result = .error answer → BodyRefusal answer

namespace FailsAsBody

variable {α β : Type}

theorem of_ok (a : α) : FailsAsBody (.ok a) := by
  intro answer h
  exact absurd h (by simp)

theorem of_refusal {answer : Answer} (h : BodyRefusal answer) :
    FailsAsBody (.error answer : Except Answer α) := by
  intro other hother
  obtain rfl := Except.error.inj hother
  exact h

theorem bind {result : Except Answer α} {next : α → Except Answer β} (h : FailsAsBody result)
    (hnext : ∀ a, FailsAsBody (next a)) : FailsAsBody (result.bind next) := by
  cases result with
  | error answer => exact of_refusal (h answer rfl)
  | ok a => exact hnext a

theorem orWrongShape (result : Except DecodeError α) : FailsAsBody (orWrongShape result) := by
  cases result with
  | error fault => exact of_refusal .wrongShape
  | ok a => exact of_ok a

end FailsAsBody

/-! ## Reading -/

theorem atEnd_fails {α : Type} (result : α) (marks : List Mark) :
    FailsAsBody (atEnd result marks) := by
  cases marks with
  | nil => exact .of_ok result
  | cons mark rest => exact .of_refusal .notJson

section

variable {types : List Type}

theorem readField_fails (fields : FieldList types) (draft : Draft types) (key : String)
    (shown : Option Json) : FailsAsBody (readField fields draft key shown) := by
  cases shown with
  | some value => exact .orWrongShape _
  | none =>
    rw [readField]
    split
    · exact .of_refusal .notJson
    · exact .of_ok draft

theorem readFields_fails (fields : FieldList types) (draft : Draft types) (marks : List Mark) :
    FailsAsBody (readFields fields draft marks) := by
  fun_induction readFields fields draft marks with
  | case1 => exact .of_refusal .wrongShape
  | case2 draft key shown rest _ _ ih =>
    exact (readField_fails fields draft key shown).bind ih
  | case3 =>
    split
    · exact .of_refusal .wrongShape
    · exact .of_refusal .notJson
  | case4 => exact .of_ok _
  | case5 => exact .of_refusal .notJson

theorem readItems_fails (fields : FieldList types) (marks : List Mark) :
    FailsAsBody (readItems fields marks) := by
  fun_induction readItems fields marks with
  | case1 => exact .of_ok _
  | case2 _ _ _ _ _ _ _ _ ih => exact ih.bind fun _ => .of_ok _
  | case3 => exact .of_refusal .wrongShape
  | case4 _ _ field _ shown _ ih =>
    exact (FailsAsBody.orWrongShape (field.read shown)).bind fun _ => ih.bind fun _ => .of_ok _
  | case5 => exact .of_refusal .notJson

end

section

variable {α : Type} (layout : Layout α)

theorem readMarks_fails (marks : List Mark) : FailsAsBody (readMarks layout marks) := by
  unfold readMarks
  split
  · exact (readFields_fails _ _ _).bind fun _ =>
      (FailsAsBody.orWrongShape _).bind fun _ => atEnd_fails _ _
  · exact (readItems_fails _ _).bind fun _ => atEnd_fails _ _
  · exact .of_refusal .wrongShape
  · exact .of_refusal .notJson

/-- A body is refused as not announced, too long, no JSON, or of the wrong shape. -/
theorem decodeBody_refusal (request : Request) {answer : Answer}
    (h : decodeBody layout request = .error answer) : BodyRefusal answer := by
  unfold decodeBody at h
  split at h
  · obtain rfl := Except.error.inj h
    exact .notAnnounced
  · split at h
    · obtain rfl := Except.error.inj h
      exact .tooLong
    · exact readMarks_fails layout _ answer h

end

/-! ## Operations -/

/-- An answer that does not refuse the credential. -/
def Admits (answer : Answer) : Prop :=
  answer.status ≠ 401

theorem admits_ok (data : Json) : Admits (.ok data) := by
  simp [Admits, Answer.ok]

theorem admits_created (data : Json) : Admits (.created data) := by
  simp [Admits, Answer.created]

theorem admits_fail {status : Nat} (h : status ≠ 401) (message : String) :
    Admits (.fail status message) := h

theorem admits_bare {status : Nat} (h : status ≠ 401) : Admits (.bare status) := h

theorem BodyRefusal.admits {answer : Answer} (h : BodyRefusal answer) : Admits answer := by
  cases h with
  | notAnnounced => exact admits_bare (by decide)
  | tooLong => exact admits_bare (by decide)
  | notJson => exact admits_bare (by decide)
  | wrongShape => exact admits_bare (by decide)

section

variable {segment : String}

theorem decodeId_eq_ok {id : String} (h : decodeId segment = .ok id) :
    Text.decodeSegment? segment = some id := by
  unfold decodeId at h
  split at h
  · rename_i found hfound
    rw [hfound, Except.ok.inj h]
  · cases h

theorem decodeId_eq_error {refusal : Answer} (h : decodeId segment = .error refusal) :
    refusal = .bare 400 := by
  unfold decodeId at h
  split at h
  · cases h
  · exact (Except.error.inj h).symm

end

theorem decodeId_admits (segment : String) {refusal : Answer}
    (h : decodeId segment = .error refusal) : Admits refusal := by
  rw [decodeId_eq_error h]
  exact admits_bare (by decide)

/-- A first part that may be refused, and a second one. -/
theorem orRefuse_admits {α : Type} {store : Store} {first : Except Answer α}
    {next : α → Except Answer (Answer × Store)}
    (hfirst : ∀ refusal, first = .error refusal → Admits refusal)
    (hnext : ∀ a, Admits (orRefuse store (next a)).1) :
    Admits (orRefuse store (first.bind next)).1 := by
  cases first with
  | error refusal => exact hfirst refusal rfl
  | ok a => exact hnext a

section

variable (id now : String) (store : Store)

theorem library_admits : Admits store.library := by
  unfold Store.library
  split
  · exact admits_ok _
  · exact admits_bare (by decide)

theorem getPlace_admits : Admits (store.getPlace id) := by
  unfold Store.getPlace
  split
  · exact admits_ok _
  · exact admits_fail (by decide) _

theorem getStorefront_admits : Admits (store.getStorefront id) := by
  unfold Store.getStorefront
  split
  · exact admits_ok _
  · exact admits_fail (by decide) _

theorem updatePlace_admits (input : UpdatePlace) : Admits (store.updatePlace now id input).1 := by
  unfold Store.updatePlace
  split
  · exact admits_ok _
  · exact admits_fail (by decide) _

theorem deletePlace_admits : Admits (store.deletePlace id).1 := by
  simp only [Store.deletePlace]
  split
  · exact admits_fail (by decide) _
  · exact admits_ok _

theorem createCompartment_admits (input : CreateCompartment) :
    Admits (store.createCompartment id now input).1 := by
  unfold Store.createCompartment
  split
  · exact admits_created _
  · exact admits_fail (by decide) _

theorem deleteCompartment_admits : Admits (store.deleteCompartment id).1 := by
  unfold Store.deleteCompartment
  split
  · exact admits_ok _
  · exact admits_fail (by decide) _

theorem updateStorefront_admits (input : UpdateStorefront) :
    Admits (store.updateStorefront now id input).1 := by
  unfold Store.updateStorefront
  split
  · exact admits_ok _
  · exact admits_fail (by decide) _

theorem deleteStorefront_admits : Admits (store.deleteStorefront id).1 := by
  simp only [Store.deleteStorefront]
  split
  · exact admits_fail (by decide) _
  · exact admits_ok _

end

/-- No operation refuses the credential. -/
theorem perform_admits (id now : String) (request : Request) (operation : Operation)
    (store : Store) : Admits (perform id now request operation store).1 := by
  unfold perform
  cases operation with
  | library => exact library_admits store
  | batch => exact admits_ok _
  | listPlaces => exact admits_ok _
  | listStorefronts => exact admits_ok _
  | getPlace segment =>
    exact orRefuse_admits (fun _ => decodeId_admits segment) fun _ => getPlace_admits _ _
  | getStorefront segment =>
    exact orRefuse_admits (fun _ => decodeId_admits segment) fun _ => getStorefront_admits _ _
  | createPlace =>
    exact orRefuse_admits (fun _ h => (decodeBody_refusal _ request h).admits)
      fun _ => admits_created _
  | createCompartment =>
    exact orRefuse_admits (fun _ h => (decodeBody_refusal _ request h).admits)
      fun _ => createCompartment_admits _ _ _ _
  | createStorefront =>
    exact orRefuse_admits (fun _ h => (decodeBody_refusal _ request h).admits)
      fun _ => admits_created _
  | updatePlace segment =>
    exact orRefuse_admits (fun _ => decodeId_admits segment) fun _ =>
      orRefuse_admits (fun _ h => (decodeBody_refusal _ request h).admits)
        fun _ => updatePlace_admits _ _ _ _
  | updateStorefront segment =>
    exact orRefuse_admits (fun _ => decodeId_admits segment) fun _ =>
      orRefuse_admits (fun _ h => (decodeBody_refusal _ request h).admits)
        fun _ => updateStorefront_admits _ _ _ _
  | deletePlace segment =>
    exact orRefuse_admits (fun _ => decodeId_admits segment) fun _ => deletePlace_admits _ _
  | deleteCompartment segment =>
    exact orRefuse_admits (fun _ => decodeId_admits segment) fun _ => deleteCompartment_admits _ _
  | deleteStorefront segment =>
    exact orRefuse_admits (fun _ => decodeId_admits segment) fun _ => deleteStorefront_admits _ _

/-- Whatever a request asks for, its credential is not refused when it is carried out. -/
theorem dispatch_admits (id now : String) (request : Request) (store : Store) :
    Admits (dispatch id now request store).1 := by
  unfold dispatch
  split
  · exact admits_bare (by decide)
  · split
    · exact admits_bare (by decide)
    · exact perform_admits id now request _ store

end GameShelf.Backend
