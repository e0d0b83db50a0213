import GameShelf.Proofs.Client.Retry

/-!
# What a request reports

The events that a request leaves tell how it went: what is asked for, whether its credential is
replaced, and in the end what comes of it and after how many exchanges.

* `Request.progress`: how far a request came, as its events tell it.
* `renewals`, `closing`: the events for replaced credentials and for a result.
* `attempt_reports`: they are all that the exchanges of a request leave.
* `Reports`: what a recorder keeps of a whole request.
* `send_reports`: it keeps that of every request in every world.
-/

namespace GameShelf

open Telemetry (Event Sink)

/-- How far a request came with its exchange of this number. -/
def Request.progress (request : Request) (number : Nat) (ending : Outcome × Nat) :
    Telemetry.Progress where
  method := request.method
  endpoint := request.path
  status := ending.1.status?
  duration := ending.2
  attempt := number

/-! ## Events of an outcome -/

/-- The events for exchanges, counted from a number on, whose credential is to be replaced. -/
def renewals (request : Request) : Nat → List (Outcome × Nat) → List Event
  | _, [] => []
  | number, ending :: rest =>
    .authError (request.progress number ending) "unauthorized, refreshing credential" ::
      renewals request (number + 1) rest

/-- The events for a result. -/
def closing (settings : Settings) (progress : Telemetry.Progress) : Result Json → List Event
  | .ok _ =>
    .success progress ::
      if settings.slowThreshold < progress.duration then
        [.slowResponse progress settings.slowThreshold]
      else []
  | .error .authenticationExpired =>
    [.authError progress "unauthorized after credential refresh"]
  | .error fault => [.requestError progress fault.kind fault.message]

theorem closing_error (settings : Settings) (progress : Telemetry.Progress) {fault : Fault}
    (h : fault ≠ .authenticationExpired) :
    closing settings progress (.error fault) =
      [.requestError progress fault.kind fault.message] := by
  unfold closing
  split
  · contradiction
  · next heq =>
    obtain rfl := Except.error.inj heq
    contradiction
  · next heq =>
    obtain rfl := Except.error.inj heq
    rfl

section

variable {σ : Type} (world : World σ) (settings : Settings) (state : σ)

/-- A fault that is given up with is reported as it is. -/
theorem giveUp_reports (progress : Telemetry.Progress) {fault : Fault}
    (h : fault ≠ .authenticationExpired) :
    ((giveUp progress fault : Dialogue (Result Json)).runIn world state).entries =
      (closing settings progress (.error fault)).map .event := by
  rw [closing_error settings progress h]
  rfl

/-- So is the data, or the fault, of a reply that is concluded with. -/
theorem conclude_reports (progress : Telemetry.Progress) {reply : Reply}
    (h : reply.status ≠ unauthorized) :
    ((conclude settings progress reply).runIn world state).entries =
      (closing settings progress reply.data).map .event := by
  unfold conclude
  cases hdata : reply.data with
  | error fault =>
    have hrefusal : ¬ (Outcome.reply reply).IsRefusal := h
    refine giveUp_reports world settings state progress ?_
    rintro rfl
    exact Outcome.verdict_error "" hrefusal _ hdata trivial
  | ok data =>
    simp only [closing, Dialogue.runIn_note]
    split
    · rfl
    · rfl

variable (request : Request)

/-- Without a refusal only the end of the one exchange is reported. -/
theorem attempt_reports_of_not_refusal (refreshes number : Nat) (credential : Option Credential)
    {after : σ} {outcome : Outcome} {duration : Nat}
    (hexchange : world.exchange (request.prepare settings credential) state =
      ((outcome, duration), after)) (h : ¬ outcome.IsRefusal) :
    ((attempt settings request refreshes number credential).runIn world state).entries =
      (closing settings (request.progress number (outcome, duration))
        (outcome.verdict (settings.address request.path))).map .event := by
  rw [attempt, Dialogue.runIn_exchange, hexchange]
  cases outcome with
  | failed failure => cases failure <;> rfl
  | elapsed => rfl
  | reply reply =>
    have hstatus : reply.status ≠ unauthorized := h
    simp only [if_neg hstatus]
    exact conclude_reports world settings after _ hstatus

/-- The exchanges of a request leave an event for each replaced credential and those for the
result, which tell of the last exchange. -/
theorem attempt_reports (refreshes number : Nat) (credential : Option Credential) :
    let turns := (attempt settings request refreshes number credential).turnsIn world state
    let run := (attempt settings request refreshes number credential).runIn world state
    ∃ last, (Turn.endings turns).getLast? = some last ∧
      run.entries =
        (renewals request number ((Turn.endings turns).take (Turn.refreshes turns).length) ++
          closing settings (request.progress (number + (Turn.endings turns).length - 1) last)
            run.result).map .event := by
  induction refreshes generalizing number credential state with
  | zero =>
    rcases hexchange : world.exchange (request.prepare settings credential) state with
      ⟨⟨outcome, duration⟩, after⟩
    by_cases h : outcome.IsRefusal
    · rcases h.eq_reply with ⟨reply, rfl, hstatus⟩
      simp only [attempt, Dialogue.turnsIn_exchange, Dialogue.runIn_exchange, hexchange,
        if_pos hstatus]
      exact ⟨_, rfl, rfl⟩
    · rcases attempt_of_not_refusal world settings request 0 number credential hexchange h with
        ⟨hturns, hresult⟩
      simp only [hturns, hresult, attempt_reports_of_not_refusal world settings state request 0
        number credential hexchange h]
      exact ⟨_, rfl, rfl⟩
  | succ left ih =>
    rcases hexchange : world.exchange (request.prepare settings credential) state with
      ⟨⟨outcome, duration⟩, after⟩
    by_cases h : outcome.IsRefusal
    · rcases h.eq_reply with ⟨reply, rfl, hstatus⟩
      rw [attempt, Dialogue.turnsIn_exchange, Dialogue.runIn_exchange, hexchange]
      simp only [if_pos hstatus, Dialogue.turnsIn_note, Dialogue.runIn_note,
        Dialogue.turnsIn_refresh, Dialogue.runIn_refresh]
      cases (world.refresh after).1 with
      | error reason =>
        exact ⟨_, rfl, rfl⟩
      | ok fresh =>
        rcases ih (world.refresh after).2 (number + 1) (some fresh) with ⟨last, hlast, hentries⟩
        refine ⟨last, ?_, ?_⟩
        · simp only [Turn.endings_exchange, Turn.endings_refresh, List.getLast?_cons, hlast,
            Option.getD_some]
        · have hnumber (count : Nat) : number + (count + 1) - 1 = number + 1 + count - 1 := by
            omega
          simp only [Turn.endings_exchange, Turn.endings_refresh, Turn.refreshes_exchange,
            Turn.refreshes_refresh, List.length_cons, List.take_succ_cons, renewals, hnumber,
            hentries, List.cons_append, List.map_cons]
          rfl
    · obtain ⟨hturns, hresult⟩ :=
        attempt_of_not_refusal world settings request (left + 1) number credential hexchange h
      simp only [hturns, hresult, attempt_reports_of_not_refusal world settings state request
        (left + 1) number credential hexchange h]
      exact ⟨_, rfl, rfl⟩

end

/-! ## The whole request -/

/-- The breadcrumb of a request. -/
def Request.breadcrumb (request : Request) : Event :=
  .breadcrumb "http" (request.method.text ++ " " ++ request.path)

/-- The event for a first exchange, if that ends with a refusal. -/
def renewal (request : Request) (first : Outcome × Nat) : List Event :=
  if first.1.status? = some unauthorized then
    [.authError (request.progress 1 first) "unauthorized, refreshing credential"]
  else []

/-- What is reported of a request that goes so and comes to that. -/
structure Reports (settings : Settings) (request : Request) (turns : List Turn)
    (result : Result Json) (events : List Event) : Prop where
  /-- Nothing but these events, which tell of the first and of the last exchange. -/
  exact : ∃ first last, (Turn.endings turns).head? = some first ∧
    (Turn.endings turns).getLast? = some last ∧
    events = request.breadcrumb :: (renewal request first ++
      closing settings (request.progress (Turn.endings turns).length last) result)
  /-- The first refusal. -/
  refused_iff : (∃ progress message, .authError progress message ∈ events ∧ progress.attempt = 1) ↔
    ∃ first, (Turn.endings turns).head? = some first ∧ first.1.status? = some unauthorized
  succeeded_iff : (∃ progress, .success progress ∈ events) ↔ ∃ data, result = .ok data
  slow_iff : (∃ progress threshold, .slowResponse progress threshold ∈ events) ↔
    (∃ data, result = .ok data) ∧
      ∃ last, (Turn.endings turns).getLast? = some last ∧ settings.slowThreshold < last.2
  failed_iff : (∃ progress kind message, .requestError progress kind message ∈ events) ↔
    ∃ fault, result = .error fault ∧ fault ≠ .authenticationExpired
  expired_iff : (∃ progress message, .authError progress message ∈ events ∧ progress.attempt = 2) ↔
    result = .error .authenticationExpired

section

variable {settings : Settings} {progress about : Telemetry.Progress} {result : Result Json}

theorem success_mem_closing :
    .success about ∈ closing settings progress result ↔
      (∃ data, result = .ok data) ∧ about = progress := by
  cases result with
  | ok data => simp [closing]
  | error fault =>
    by_cases h : fault = .authenticationExpired
    · simp [h, closing]
    · simp [closing_error settings progress h]

theorem slowResponse_mem_closing {threshold : Nat} :
    .slowResponse about threshold ∈ closing settings progress result ↔
      (∃ data, result = .ok data) ∧ settings.slowThreshold < progress.duration ∧
        about = progress ∧ threshold = settings.slowThreshold := by
  cases result with
  | ok data => simp [closing]
  | error fault =>
    by_cases h : fault = .authenticationExpired
    · simp [h, closing]
    · simp [closing_error settings progress h]

theorem requestError_mem_closing {kind message : String} :
    .requestError about kind message ∈ closing settings progress result ↔
      ∃ fault, result = .error fault ∧ fault ≠ .authenticationExpired ∧
        about = progress ∧ kind = fault.kind ∧ message = fault.message := by
  cases result with
  | ok data => simp [closing]
  | error fault =>
    by_cases h : fault = .authenticationExpired
    · simp [h, closing]
    · simp [closing_error settings progress h, h]

theorem authError_mem_closing {message : String} :
    .authError about message ∈ closing settings progress result ↔
      result = .error .authenticationExpired ∧ about = progress ∧
        message = "unauthorized after credential refresh" := by
  cases result with
  | ok data => simp [closing]
  | error fault =>
    by_cases h : fault = .authenticationExpired
    · simp [h, closing]
    · simp [closing_error settings progress h, h]

variable {request : Request} {first : Outcome × Nat}

theorem mem_renewal {event : Event} :
    event ∈ renewal request first ↔ first.1.status? = some unauthorized ∧
      event = .authError (request.progress 1 first) "unauthorized, refreshing credential" := by
  unfold renewal
  split
  · simp [*]
  · simp [*]

/-- A list of just these events says what happened. -/
theorem Reports.of_exact {turns : List Turn} {last : Outcome × Nat}
    (hfirst : (Turn.endings turns).head? = some first)
    (hlast : (Turn.endings turns).getLast? = some last)
    (hexpired : result = .error .authenticationExpired → (Turn.endings turns).length = 2) :
    Reports settings request turns result
      (request.breadcrumb :: (renewal request first ++
        closing settings (request.progress (Turn.endings turns).length last) result)) := by
  constructor
  case exact => exact ⟨first, last, hfirst, hlast, rfl⟩
  case refused_iff =>
    simp only [Request.breadcrumb, List.mem_cons, List.mem_append, mem_renewal,
      authError_mem_closing, hfirst, Option.some_inj, exists_eq_left', reduceCtorEq, false_or]
    constructor
    · rintro ⟨progress, message, ⟨hstatus, -⟩ | ⟨hresult, rfl, -⟩, hattempt⟩
      · exact hstatus
      · -- the other event of this kind comes after two exchanges
        have htwo : (Turn.endings turns).length = 1 := hattempt
        rw [hexpired hresult] at htwo
        contradiction
    · intro hstatus
      exact ⟨_, _, .inl ⟨hstatus, rfl⟩, rfl⟩
  case succeeded_iff =>
    simp [Request.breadcrumb, mem_renewal, success_mem_closing]
  case slow_iff =>
    simp [Request.breadcrumb, mem_renewal, slowResponse_mem_closing, hlast, Request.progress]
  case failed_iff =>
    simp only [Request.breadcrumb, List.mem_cons, List.mem_append, mem_renewal,
      requestError_mem_closing, reduceCtorEq, and_false, false_or]
    constructor
    · rintro ⟨progress, kind, message, fault, hresult, hfault, -⟩
      exact ⟨fault, hresult, hfault⟩
    · rintro ⟨fault, hresult, hfault⟩
      exact ⟨_, _, _, fault, hresult, hfault, rfl, rfl, rfl⟩
  case expired_iff =>
    simp only [Request.breadcrumb, List.mem_cons, List.mem_append, mem_renewal,
      authError_mem_closing, reduceCtorEq, false_or]
    constructor
    · rintro ⟨progress, message, ⟨-, hevent⟩ | ⟨hresult, -⟩, hattempt⟩
      · -- the first event of this kind comes after one exchange
        rcases Event.authError.inj hevent with ⟨rfl, -⟩
        exact absurd hattempt (by simp [Request.progress])
      · exact hresult
    · intro hresult
      exact ⟨_, _, .inr ⟨hresult, rfl, rfl⟩, hexpired hresult⟩

end

/-- The first exchange of a request decides whether its credential is replaced, and it takes a
second refusal to end it with that. -/
theorem Attempts.endings {settings : Settings} {request : Request} {credential : Option Credential}
    {turns : List Turn} {result : Result Json}
    (h : Attempts settings request 1 credential turns result) :
    ∃ first, (Turn.endings turns).head? = some first ∧
      renewals request 1 ((Turn.endings turns).take (Turn.refreshes turns).length) =
        renewal request first ∧
      (result = .error .authenticationExpired → (Turn.endings turns).length = 2) := by
  cases h with
  | concluded h =>
    refine ⟨_, rfl, ?_, ?_⟩
    · rw [renewal, if_neg (mt Outcome.status?_eq_unauthorized.mp h)]
      rfl
    · intro hresult
      exact absurd trivial (Outcome.verdict_error _ h _ hresult)
  | unavailable h =>
    refine ⟨_, rfl, ?_, ?_⟩
    · rw [renewal, if_pos (Outcome.status?_eq_unauthorized.mpr h)]
      rfl
    · intro hresult
      exact absurd hresult (by simp)
  | renewed h rest =>
    refine ⟨_, rfl, ?_, ?_⟩
    · rw [renewal, if_pos (Outcome.status?_eq_unauthorized.mpr h)]
      cases rest <;> rfl
    · intro hresult
      cases rest <;> rfl

/-- A recorder keeps the events among the entries. -/
theorem recorder_events (events : List Event) :
    Sink.recorder.events (events.map .event) = events.map Event.recorded := by
  rw [Sink.events, List.filterMap_map]
  exact congrFun List.filterMap_eq_map events

theorem renewal_recorded (request : Request) (first : Outcome × Nat) :
    (renewal request first).map Event.recorded = renewal request first := by
  unfold renewal
  split
  · rfl
  · rfl

theorem closing_recorded (settings : Settings) (progress : Telemetry.Progress)
    (result : Result Json) :
    (closing settings progress result).map Event.recorded = closing settings progress result := by
  unfold closing
  split
  · split
    · rfl
    · rfl
  · rfl
  · rfl

section

variable {σ : Type} (world : World σ) (settings : Settings) (request : Request) (state : σ)

/-- After the breadcrumb and the current credential, a recorder keeps of the exchanges what is
left to be reported. -/
theorem attempt_recorded (answer : Except Unavailable Credential)
    (credential : Option Credential) :
    Reports settings request
      (.credential answer ::
        (attempt settings request maxRefreshes 1 credential).turnsIn world state)
      ((attempt settings request maxRefreshes 1 credential).runIn world state).result
      (request.breadcrumb :: Sink.recorder.events
        ((attempt settings request maxRefreshes 1 credential).runIn world state).entries) := by
  rcases attempt_reports world settings state request maxRefreshes 1 credential with
    ⟨last, hlast, hentries⟩
  rcases (attempt_attempts world settings request maxRefreshes 1 credential state).endings with
    ⟨first, hfirst, hrenewal, hexpired⟩
  rw [hentries, recorder_events, List.map_append, hrenewal, renewal_recorded, closing_recorded,
    Nat.add_sub_cancel_left]
  exact .of_exact hfirst hlast hexpired

/-- A recorder keeps of a request exactly what tells how it went. -/
theorem send_reports :
    Reports settings request ((send settings request).turnsIn world state)
      ((send settings request).runIn world state).result
      (Sink.recorder.events ((send settings request).runIn world state).entries) := by
  rw [send, Dialogue.turnsIn_note, Dialogue.runIn_note, Dialogue.turnsIn_credential,
    Dialogue.runIn_credential]
  cases (world.credential state).1 with
  | ok credential => exact attempt_recorded world settings request _ _ (some credential)
  | error unavailable =>
    -- the log record in between is not kept
    exact attempt_recorded world settings request _ _ none

end

end GameShelf
