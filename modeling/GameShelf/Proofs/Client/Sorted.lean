import GameShelf.Proofs.Client.Retry
import GameShelf.Proofs.Results
import GameShelf.Proofs.Text.Words

/-!
# Which replies are data

Only an envelope that reports a success and has a list or a record in it becomes data, and only
with a status of success. Every other reply becomes a fault that its status and its body decide.

* `Envelope.Delivers`, `Envelope.Reports`, `Envelope.Tells`: what a body can be an envelope of.
* `IsPreview`: what a fault shows of a body that tells nothing.
* `Reply.Sorted`: the replies of each result, which are apart and are all there are.
* `Reply.data_sorted`: every reply is sorted so.
-/

namespace GameShelf

/-! ## Bodies -/

namespace Envelope

/-- A body is the envelope of a success with this list or record. -/
def Delivers (body : String) (data : Json) : Prop :=
  ∃ fields, Json.parse? body = some (.record fields) ∧
    Json.field? fields "success" = some (.flag true) ∧ Json.field? fields "data" = some data ∧
    ((∃ items, data = .list items) ∨ ∃ inner, data = .record inner)

/-- A body is the envelope of a failure with this text. -/
def Reports (body message : String) : Prop :=
  ∃ fields, Json.parse? body = some (.record fields) ∧
    Json.field? fields "success" = some (.flag false) ∧
    Json.field? fields "error" = some (.text message)

/-- A body is a record with this text for an error, whatever else is in it. -/
def Tells (body message : String) : Prop :=
  ∃ fields, Json.parse? body = some (.record fields) ∧
    Json.field? fields "error" = some (.text message)

variable {body message : String} {fields : Json.Fields} {payload value : Json}

theorem errorText?_eq_some_iff :
    errorText? fields = some message ↔ Json.field? fields "error" = some (.text message) := by
  unfold errorText?
  split
  · rename_i other hother
    rw [hother, Option.some.injEq, Option.some.injEq, Json.text.injEq]
  · rename_i hnone
    exact iff_of_false (by simp) (hnone message)

theorem data_eq_ok_iff :
    data fields = .ok value ↔ Json.field? fields "data" = some value ∧
      ((∃ items, value = .list items) ∨ ∃ inner, value = .record inner) := by
  unfold data
  split
  · rename_i inner hinner
    rw [hinner, Except.ok.injEq, Option.some.injEq]
    exact ⟨fun h => ⟨h, .inr ⟨inner, h.symm⟩⟩, And.left⟩
  · rename_i items hitems
    rw [hitems, Except.ok.injEq, Option.some.injEq]
    exact ⟨fun h => ⟨h, .inl ⟨items, h.symm⟩⟩, And.left⟩
  · rename_i hrecord hlist
    refine iff_of_false (by simp) ?_
    rintro ⟨hvalue, ⟨items, rfl⟩ | ⟨inner, rfl⟩⟩
    · exact hlist items hvalue
    · exact hrecord inner hvalue

theorem failure_eq_iff :
    failure fields = .remoteFailure message ↔
      Json.field? fields "error" = some (.text message) := by
  rw [← errorText?_eq_some_iff, failure]
  split
  · rename_i other hother
    rw [hother, Fault.remoteFailure.injEq, Option.some.injEq]
  · rename_i hnone
    rw [hnone]
    exact iff_of_false (by simp) (by simp)

/-- A body is an envelope of a success or of a failure, or it is no envelope. -/
theorem unwrapText_cases (body : String) :
    (∃ fields, Json.parse? body = some (.record fields) ∧
        Json.field? fields "success" = some (.flag true) ∧ unwrapText body = data fields) ∨
      (∃ fields, Json.parse? body = some (.record fields) ∧
        Json.field? fields "success" = some (.flag false) ∧
        unwrapText body = .error (failure fields)) ∨
      ((∀ fields flag, Json.parse? body = some (.record fields) →
          Json.field? fields "success" ≠ some (.flag flag)) ∧
        ∃ message, unwrapText body = .error (.protocolViolation message)) := by
  unfold unwrapText
  cases hparse : Json.parse? body with
  | none => exact .inr (.inr ⟨fun _ _ h => absurd h (by simp), _, rfl⟩)
  | some payload =>
    dsimp only
    unfold unwrap
    split
    · rename_i fields
      split
      · rename_i hsuccess
        exact .inl ⟨fields, rfl, hsuccess, rfl⟩
      · rename_i hsuccess
        exact .inr (.inl ⟨fields, rfl, hsuccess, rfl⟩)
      · rename_i other htrue hfalse hother
        refine .inr (.inr ⟨?_, _, rfl⟩)
        intro found flag hfound hflag
        obtain rfl := Json.record.inj (Option.some.inj hfound)
        obtain rfl := Option.some.inj (hother.symm.trans hflag)
        cases flag with
        | true => exact htrue rfl
        | false => exact hfalse rfl
      · rename_i hnone
        refine .inr (.inr ⟨?_, _, rfl⟩)
        intro found flag hfound hflag
        obtain rfl := Json.record.inj (Option.some.inj hfound)
        exact absurd (hnone.symm.trans hflag) (by simp)
    · rename_i hrecord
      refine .inr (.inr ⟨?_, _, rfl⟩)
      intro found flag hfound
      exact absurd (Option.some.inj hfound) (hrecord found)

/-- The fields of a body are what they are. -/
theorem fields_unique {other : Json.Fields} (h : Json.parse? body = some (.record fields))
    (hother : Json.parse? body = some (.record other)) : other = fields :=
  Json.record.inj (Option.some.inj (hother.symm.trans h))

/-- What is in an envelope is data if it is a list or a record beside the report of a success. -/
theorem unwrapText_eq_ok_iff : unwrapText body = .ok value ↔ Delivers body value := by
  rcases unwrapText_cases body with
    ⟨fields, hparse, hsuccess, heq⟩ | ⟨fields, hparse, hsuccess, heq⟩ | ⟨hnone, message, heq⟩
  · rw [heq, data_eq_ok_iff]
    constructor
    · exact fun h => ⟨fields, hparse, hsuccess, h⟩
    · rintro ⟨other, hother, -, h⟩
      rwa [fields_unique hparse hother] at h
  · rw [heq]
    refine iff_of_false (by simp) ?_
    rintro ⟨other, hother, htrue, -⟩
    rw [fields_unique hparse hother, hsuccess] at htrue
    exact absurd htrue (by simp)
  · rw [heq]
    refine iff_of_false (by simp) ?_
    rintro ⟨other, hother, htrue, -⟩
    exact hnone other true hother htrue

/-- A failure is reported by a text beside the report that there was one. -/
theorem unwrapText_eq_remoteFailure_iff :
    unwrapText body = .error (.remoteFailure message) ↔ Reports body message := by
  rcases unwrapText_cases body with
    ⟨fields, hparse, hsuccess, heq⟩ | ⟨fields, hparse, hsuccess, heq⟩ | ⟨hnone, violation, heq⟩
  · rw [heq]
    refine iff_of_false ?_ ?_
    · unfold data
      split <;> simp
    · rintro ⟨other, hother, hfalse, -⟩
      rw [fields_unique hparse hother, hsuccess] at hfalse
      exact absurd hfalse (by simp)
  · rw [heq, Except.error.injEq, failure_eq_iff]
    constructor
    · exact fun h => ⟨fields, hparse, hsuccess, h⟩
    · rintro ⟨other, hother, -, h⟩
      rwa [fields_unique hparse hother] at h
  · rw [heq]
    refine iff_of_false (by simp) ?_
    rintro ⟨other, hother, hfalse, -⟩
    exact hnone other false hother hfalse

/-- Any other body is no envelope that keeps its word. -/
theorem exists_protocolViolation_iff :
    (∃ message, unwrapText body = .error (.protocolViolation message)) ↔
      (∀ value, ¬ Delivers body value) ∧ ∀ message, ¬ Reports body message := by
  constructor
  · rintro ⟨message, h⟩
    constructor
    · intro value hvalue
      rw [unwrapText_eq_ok_iff.mpr hvalue] at h
      exact absurd h (by simp)
    · intro other hother
      rw [unwrapText_eq_remoteFailure_iff.mpr hother] at h
      exact absurd h (by simp)
  · rintro ⟨hdata, hfailure⟩
    cases hunwrap : unwrapText body with
    | ok value => exact absurd (unwrapText_eq_ok_iff.mp hunwrap) (hdata value)
    | error fault =>
      rcases unwrapText_error hunwrap with ⟨message, rfl | rfl⟩
      · exact ⟨message, rfl⟩
      · exact absurd (unwrapText_eq_remoteFailure_iff.mp hunwrap) (hfailure message)

theorem failureText?_eq_some_iff : failureText? body = some message ↔ Tells body message := by
  unfold failureText?
  split
  · rename_i fields hparse
    rw [errorText?_eq_some_iff]
    constructor
    · exact fun h => ⟨fields, hparse, h⟩
    · rintro ⟨other, hother, h⟩
      rwa [fields_unique hparse hother] at h
  · rename_i hrecord
    refine iff_of_false (by simp) ?_
    rintro ⟨fields, hparse, -⟩
    exact hrecord fields hparse

end Envelope

/-! ## Previews -/

/-- What is shown of a body: its words with single spaces between them, up to the first 160
characters, with dots just if there are more. -/
def IsPreview (body shown : String) : Prop :=
  ∃ words compact, Text.IsSplit Text.isBlank body.toList words ∧
    compact = String.intercalate " " (words.map String.ofList) ∧
    ((compact.length ≤ 160 ∧ shown = compact) ∨
      (160 < compact.length ∧ shown = String.ofList (compact.toList.take 160) ++ "..."))

theorem isPreview_iff {body shown : String} : IsPreview body shown ↔ preview body = shown := by
  have hcompact {words : List (List Char)} (h : Text.IsSplit Text.isBlank body.toList words) :
      Text.singleSpaced body = String.intercalate " " (words.map String.ofList) := by
    rw [Text.singleSpaced, Text.words, Text.isSplit_iff.mp h]
  have hpreview : preview body =
      if 160 < (Text.singleSpaced body).length then
        String.ofList ((Text.singleSpaced body).toList.take 160) ++ "..."
      else Text.singleSpaced body := by
    rw [preview, ← String.length_toList, String.ofList_toList]
    rfl
  rw [hpreview]
  constructor
  · rintro ⟨words, compact, hsplit, rfl, ⟨hlength, rfl⟩ | ⟨hlength, rfl⟩⟩
    · rw [hcompact hsplit, if_neg (Nat.not_lt.mpr hlength)]
    · rw [hcompact hsplit, if_pos hlength]
  · rintro rfl
    have hsplit : Text.IsSplit Text.isBlank body.toList
        (Text.splitRuns Text.isBlank [] body.toList) := Text.isSplit_iff.mpr rfl
    refine ⟨_, _, hsplit, (hcompact hsplit).symm, ?_⟩
    split
    · rename_i hlength
      exact .inr ⟨hlength, rfl⟩
    · rename_i hlength
      exact .inl ⟨Nat.not_lt.mp hlength, rfl⟩

/-! ## Replies -/

/-- The replies of each result. -/
structure Reply.Sorted (reply : Reply) (result : Except Fault Json) : Prop where
  /-- Data comes of an envelope with data, in internal spelling, and with a status of success. -/
  data : ∀ value, result = .ok value ↔ (200 ≤ reply.status ∧ reply.status ≤ 299) ∧
    ∃ data, Envelope.Delivers reply.body data ∧ value = data.toInternal
  authenticationExpired : result = .error .authenticationExpired ↔ reply.status = 401
  notFound : result = .error .notFound ↔ reply.status = 404
  /-- Any other status is told with what the body says, or else with the beginning of it. -/
  status : ∀ code message, result = .error (.status code message) ↔
    code = reply.status ∧ ¬ (200 ≤ reply.status ∧ reply.status ≤ 299) ∧ reply.status ≠ 401 ∧
      reply.status ≠ 404 ∧ (Envelope.Tells reply.body message ∨
        (∀ other, ¬ Envelope.Tells reply.body other) ∧ IsPreview reply.body message)
  remoteFailure : ∀ message, result = .error (.remoteFailure message) ↔
    (200 ≤ reply.status ∧ reply.status ≤ 299) ∧ Envelope.Reports reply.body message
  protocolViolation : (∃ message, result = .error (.protocolViolation message)) ↔
    (200 ≤ reply.status ∧ reply.status ≤ 299) ∧
      (∀ data, ¬ Envelope.Delivers reply.body data) ∧
      ∀ message, ¬ Envelope.Reports reply.body message
  /-- There are no other faults. -/
  covered : ∀ fault, result = .error fault → fault = .authenticationExpired ∨ fault = .notFound ∨
    (∃ code message, fault = .status code message) ∨
    (∃ message, fault = .remoteFailure message) ∨ ∃ message, fault = .protocolViolation message

namespace Reply

variable {reply : Reply}

theorem data_of_success (h : 200 ≤ reply.status ∧ reply.status ≤ 299) :
    reply.data = (Envelope.unwrapText reply.body).map Json.toInternal := by
  have hsuccess : isSuccess reply.status = true := by
    rw [isSuccess, Bool.and_eq_true, decide_eq_true_eq, decide_eq_true_eq]
    omega
  rw [data, if_pos hsuccess]

theorem data_of_failure (h : ¬ (200 ≤ reply.status ∧ reply.status ≤ 299)) :
    reply.data = .error
      (if reply.status = 401 then .authenticationExpired
      else if reply.status = 404 then .notFound
      else .status reply.status
        ((Envelope.failureText? reply.body).getD (preview reply.body))) := by
  have hfailure : ¬ isSuccess reply.status = true := by
    rw [isSuccess, Bool.and_eq_true, decide_eq_true_eq, decide_eq_true_eq]
    omega
  rw [data, if_neg hfailure, unauthorized]
  split
  · rfl
  · split <;> rfl

/-- What a fault tells of a body. -/
theorem failureText_getD_eq_iff {body message : String} :
    (Envelope.failureText? body).getD (preview body) = message ↔
      Envelope.Tells body message ∨
        (∀ other, ¬ Envelope.Tells body other) ∧ IsPreview body message := by
  simp only [← Envelope.failureText?_eq_some_iff, isPreview_iff]
  cases Envelope.failureText? body with
  | none => simp
  | some text => simp

theorem sorted_of_success (h : 200 ≤ reply.status ∧ reply.status ≤ 299) :
    reply.Sorted reply.data := by
  have hfault {fault : Fault} (hdata : reply.data = .error fault) :
      ∃ message, fault = .protocolViolation message ∨ fault = .remoteFailure message := by
    rw [data_of_success h, map_eq_error_iff] at hdata
    exact Envelope.unwrapText_error hdata
  constructor
  case data =>
    intro value
    simp only [data_of_success h, map_eq_ok_iff, Envelope.unwrapText_eq_ok_iff, h, and_self,
      true_and]
  case authenticationExpired =>
    refine iff_of_false ?_ (by omega)
    exact fun hdata => by simpa using hfault hdata
  case notFound =>
    refine iff_of_false ?_ (by omega)
    exact fun hdata => by simpa using hfault hdata
  case status =>
    intro code message
    refine iff_of_false ?_ fun hstatus => hstatus.2.1 h
    exact fun hdata => by simpa using hfault hdata
  case remoteFailure =>
    intro message
    rw [data_of_success h, map_eq_error_iff, Envelope.unwrapText_eq_remoteFailure_iff,
      and_iff_right h]
  case protocolViolation =>
    simp only [data_of_success h, map_eq_error_iff, and_iff_right h,
      Envelope.exists_protocolViolation_iff]
  case covered =>
    intro fault hdata
    rcases hfault hdata with ⟨message, rfl | rfl⟩
    · exact .inr (.inr (.inr (.inr ⟨message, rfl⟩)))
    · exact .inr (.inr (.inr (.inl ⟨message, rfl⟩)))

theorem sorted_of_expired (h : reply.status = 401) :
    reply.Sorted (.error .authenticationExpired) := by
  constructor <;> simp [h]

theorem sorted_of_notFound (h : reply.status = 404) : reply.Sorted (.error .notFound) := by
  constructor <;> simp [h]

theorem sorted_of_status (h : ¬ (200 ≤ reply.status ∧ reply.status ≤ 299))
    (hexpired : reply.status ≠ 401) (hmissing : reply.status ≠ 404) :
    reply.Sorted (.error (.status reply.status
      ((Envelope.failureText? reply.body).getD (preview reply.body)))) := by
  constructor
  case status =>
    intro code message
    rw [Except.error.injEq, Fault.status.injEq, failureText_getD_eq_iff, eq_comm (a := code),
      and_iff_right h, and_iff_right hexpired, and_iff_right hmissing]
  case covered =>
    intro fault hfault
    exact .inr (.inr (.inl ⟨_, _, (Except.error.inj hfault).symm⟩))
  all_goals simp [h, hexpired, hmissing]

theorem sorted_of_failure (h : ¬ (200 ≤ reply.status ∧ reply.status ≤ 299)) :
    reply.Sorted reply.data := by
  rw [data_of_failure h]
  split
  · rename_i hexpired
    exact sorted_of_expired hexpired
  · rename_i hexpired
    split
    · rename_i hmissing
      exact sorted_of_notFound hmissing
    · rename_i hmissing
      exact sorted_of_status h hexpired hmissing

/-- Every reply is sorted by its status and its body. -/
theorem data_sorted (reply : Reply) : reply.Sorted reply.data := by
  by_cases h : 200 ≤ reply.status ∧ reply.status ≤ 299
  · exact sorted_of_success h
  · exact sorted_of_failure h

end Reply

end GameShelf
