import GameShelf.Client.Send
import GameShelf.Proofs.Client.Transcript

/-!
# Sending once more

A request whose credential is refused is sent once more with a new one, and never a third time.

* `Attempts`: the ways in which the exchanges of a request can go.
* `attempt_attempts`: these are the ways in which they go, in every world.
* `RetriesOnce`: what that means for the transcript and the result of a whole request.
* `send_retriesOnce`: it holds of every request in every world.
-/

namespace GameShelf

/-! ## Verdicts -/

/-- Whether an exchange ends with the reply that the credential is no good. -/
def Outcome.IsRefusal : Outcome → Prop
  | .reply answer => answer.status = unauthorized
  | _ => False

theorem Outcome.IsRefusal.eq_reply {outcome : Outcome} (h : outcome.IsRefusal) :
    ∃ answer, outcome = .reply answer ∧ answer.status = unauthorized := by
  cases outcome with
  | reply answer => exact ⟨answer, rfl, h⟩
  | failed failure => exact h.elim
  | elapsed => exact h.elim

/-- The status with which an exchange ended, if there was a reply. -/
def Outcome.status? : Outcome → Option Nat
  | .reply answer => some answer.status
  | .failed _ => none
  | .elapsed => none

theorem Outcome.status?_eq_unauthorized {outcome : Outcome} :
    outcome.status? = some unauthorized ↔ outcome.IsRefusal := by
  cases outcome with
  | reply answer => exact Option.some_inj
  | failed failure => exact iff_of_false (by simp [status?]) id
  | elapsed => exact iff_of_false (by simp [status?]) id

/-- The result of a request whose last exchange, with this address, ended so. -/
def Outcome.verdict (address : String) : Outcome → Result Json
  | .reply answer => answer.data
  | .failed failure => .error (failure.fault address)
  | .elapsed => .error (.timeout address)

namespace Fault

/-- Whether a fault is about credentials. -/
def IsCredential : Fault → Prop
  | .authenticationExpired => True
  | .credentialUnavailable _ => True
  | _ => False

end Fault

/-- An envelope without data is malformed or reports a failure. -/
theorem Envelope.unwrapText_error {body : String} {fault : Fault}
    (h : unwrapText body = .error fault) :
    ∃ message, fault = .protocolViolation message ∨ fault = .remoteFailure message := by
  unfold unwrapText at h
  split at h
  · unfold unwrap at h
    split at h
    · split at h
      · unfold data at h
        split at h
        · exact absurd h (by simp)
        · exact absurd h (by simp)
        · exact ⟨_, .inl (Except.error.inj h).symm⟩
      · obtain rfl := Except.error.inj h
        unfold failure
        split
        · exact ⟨_, .inr rfl⟩
        · exact ⟨_, .inl rfl⟩
      · exact ⟨_, .inl (Except.error.inj h).symm⟩
      · exact ⟨_, .inl (Except.error.inj h).symm⟩
    · exact ⟨_, .inl (Except.error.inj h).symm⟩
  · exact ⟨_, .inl (Except.error.inj h).symm⟩

/-- Only a success has data. -/
theorem Reply.success_of_data {reply : Reply} {data : Json} (h : reply.data = .ok data) :
    isSuccess reply.status = true := by
  unfold Reply.data at h
  split at h
  · next hsuccess => exact hsuccess
  · split at h
    · contradiction
    · split at h
      · contradiction
      · contradiction

/-- A reply without data tells of its status or has such an envelope. -/
theorem Reply.data_error {reply : Reply} {fault : Fault} (h : reply.data = .error fault) :
    (isSuccess reply.status = true ∧
        ∃ message, fault = .protocolViolation message ∨ fault = .remoteFailure message) ∨
      (isSuccess reply.status = false ∧
        ((reply.status = unauthorized ∧ fault = .authenticationExpired) ∨ fault = .notFound ∨
          ∃ message, fault = .status reply.status message)) := by
  unfold data at h
  split at h
  · next hsuccess =>
    cases hunwrap : Envelope.unwrapText reply.body with
    | ok data =>
      rw [hunwrap] at h
      exact absurd h (by simp [Except.map])
    | error other =>
      rw [hunwrap] at h
      obtain rfl := Except.error.inj h
      exact .inl ⟨hsuccess, Envelope.unwrapText_error hunwrap⟩
  · next hfailure =>
    refine .inr ⟨Bool.eq_false_iff.mpr hfailure, ?_⟩
    split at h
    · next hstatus => exact .inl ⟨hstatus, (Except.error.inj h).symm⟩
    · split at h
      · exact .inr (.inl (Except.error.inj h).symm)
      · exact .inr (.inr ⟨_, (Except.error.inj h).symm⟩)

/-- An exchange that does not end with a refusal never makes a fault of credentials. -/
theorem Outcome.verdict_error (address : String) {outcome : Outcome} (h : ¬ outcome.IsRefusal)
    (fault : Fault) (hfault : outcome.verdict address = .error fault) : ¬ fault.IsCredential := by
  cases outcome with
  | failed failure =>
    obtain rfl := Except.error.inj hfault
    cases failure <;> exact not_false
  | elapsed =>
    obtain rfl := Except.error.inj hfault
    exact not_false
  | reply reply =>
    rcases Reply.data_error hfault with
      ⟨-, message, rfl | rfl⟩ | ⟨-, ⟨hstatus, -⟩ | rfl | ⟨message, rfl⟩⟩
    · exact not_false
    · exact not_false
    · exact absurd hstatus h
    · exact not_false
    · exact not_false

/-! ## The ways of a request -/

/-- How the exchanges of a request go that starts with a credential, or without, while it may
still replace it so often. -/
inductive Attempts (settings : Settings) (request : Request) :
    Nat → Option Credential → List Turn → Result Json → Prop where
  /-- The credential is not refused: what comes back decides. -/
  | concluded {refreshes : Nat} {credential : Option Credential} {outcome : Outcome}
      {duration : Nat} (h : ¬ outcome.IsRefusal) :
      Attempts settings request refreshes credential
        [.exchange (request.prepare settings credential) outcome duration]
        (outcome.verdict (settings.address request.path))
  /-- The credential is refused and must not be replaced any more. -/
  | refused {credential : Option Credential} {outcome : Outcome} {duration : Nat}
      (h : outcome.IsRefusal) :
      Attempts settings request 0 credential
        [.exchange (request.prepare settings credential) outcome duration]
        (.error .authenticationExpired)
  /-- The credential is refused and no new one can be had. -/
  | unavailable {refreshes : Nat} {credential : Option Credential} {outcome : Outcome}
      {duration : Nat} {reason : Unavailable} (h : outcome.IsRefusal) :
      Attempts settings request (refreshes + 1) credential
        [.exchange (request.prepare settings credential) outcome duration,
         .refresh (.error reason)]
        (.error (.credentialUnavailable reason.message))
  /-- The credential is refused and the request sent again with a new one. -/
  | renewed {refreshes : Nat} {credential : Option Credential} {outcome : Outcome}
      {duration : Nat} {fresh : Credential} {turns : List Turn} {result : Result Json}
      (h : outcome.IsRefusal)
      (rest : Attempts settings request refreshes (some fresh) turns result) :
      Attempts settings request (refreshes + 1) credential
        (.exchange (request.prepare settings credential) outcome duration ::
          .refresh (.ok fresh) :: turns)
        result

section

variable {σ : Type} (world : World σ)

/-- A reply that is concluded with gives its data, and nothing more is asked. -/
theorem conclude_ends (settings : Settings) (progress : Telemetry.Progress) (reply : Reply)
    (state : σ) :
    ((conclude settings progress reply).runIn world state).result = reply.data ∧
      (conclude settings progress reply).turnsIn world state = [] := by
  unfold conclude
  cases reply.data with
  | error fault => exact ⟨rfl, rfl⟩
  | ok data =>
    simp only [Dialogue.runIn_note, Dialogue.turnsIn_note]
    split
    · exact ⟨rfl, rfl⟩
    · exact ⟨rfl, rfl⟩

variable (settings : Settings) (request : Request)

/-- Without a refusal the one exchange decides. -/
theorem attempt_of_not_refusal (refreshes number : Nat) (credential : Option Credential)
    {state after : σ} {outcome : Outcome} {duration : Nat}
    (hexchange : world.exchange (request.prepare settings credential) state =
      ((outcome, duration), after)) (h : ¬ outcome.IsRefusal) :
    (attempt settings request refreshes number credential).turnsIn world state =
        [.exchange (request.prepare settings credential) outcome duration] ∧
      ((attempt settings request refreshes number credential).runIn world state).result =
        outcome.verdict (settings.address request.path) := by
  rw [attempt, Dialogue.turnsIn_exchange, Dialogue.runIn_exchange, hexchange]
  cases outcome with
  | failed failure => exact ⟨rfl, rfl⟩
  | elapsed => exact ⟨rfl, rfl⟩
  | reply reply =>
    have hstatus : ¬ reply.status = unauthorized := h
    simp only [if_neg hstatus, conclude_ends, Outcome.verdict, and_self]

/-- In every world the exchanges of a request go in one of those ways. -/
theorem attempt_attempts (refreshes number : Nat) (credential : Option Credential) (state : σ) :
    Attempts settings request refreshes credential
      ((attempt settings request refreshes number credential).turnsIn world state)
      ((attempt settings request refreshes number credential).runIn world state).result := by
  induction refreshes generalizing number credential state with
  | zero =>
    rcases hexchange : world.exchange (request.prepare settings credential) state with
      ⟨⟨outcome, duration⟩, after⟩
    by_cases h : outcome.IsRefusal
    · rcases h.eq_reply with ⟨reply, rfl, hstatus⟩
      simp only [attempt, Dialogue.turnsIn_exchange, Dialogue.runIn_exchange, hexchange,
        if_pos hstatus]
      exact .refused h
    · rcases attempt_of_not_refusal world settings request 0 number credential hexchange h with
        ⟨hturns, hresult⟩
      rw [hturns, hresult]
      exact .concluded h
  | succ left ih =>
    rcases hexchange : world.exchange (request.prepare settings credential) state with
      ⟨⟨outcome, duration⟩, after⟩
    by_cases h : outcome.IsRefusal
    · rcases h.eq_reply with ⟨reply, rfl, hstatus⟩
      rw [attempt, Dialogue.turnsIn_exchange, Dialogue.runIn_exchange, hexchange]
      simp only [if_pos hstatus, Dialogue.turnsIn_note, Dialogue.runIn_note,
        Dialogue.turnsIn_refresh, Dialogue.runIn_refresh]
      -- with a new credential one replacement less is left
      cases (world.refresh after).1 with
      | error reason => exact .unavailable h
      | ok fresh => exact .renewed h (ih _ _ _)
    · obtain ⟨hturns, hresult⟩ :=
        attempt_of_not_refusal world settings request (left + 1) number credential hexchange h
      rw [hturns, hresult]
      exact .concluded h

/-- A request asks for the current credential, and then goes in one of those ways. -/
theorem send_attempts (state : σ) :
    ∃ answer turns, (send settings request).turnsIn world state = .credential answer :: turns ∧
      Attempts settings request maxRefreshes answer.toOption turns
        ((send settings request).runIn world state).result := by
  rw [send, Dialogue.turnsIn_note, Dialogue.runIn_note, Dialogue.turnsIn_credential,
    Dialogue.runIn_credential]
  refine ⟨_, _, rfl, ?_⟩
  cases (world.credential state).1 with
  | ok credential => exact attempt_attempts ..
  | error unavailable => exact attempt_attempts ..

end

/-! ## Headers -/

namespace WireRequest

/-- The values of the authorization headers of a request. -/
def authorizations (wire : WireRequest) : List String :=
  (wire.headers.filter fun header => Headers.sameName header.1 "authorization").map Prod.snd

/-- The other headers of a request. -/
def otherHeaders (wire : WireRequest) : Headers :=
  wire.headers.filter fun header => !Headers.sameName header.1 "authorization"

end WireRequest

/-- The credential shows in the authorization header only. -/
theorem Request.prepare_otherHeaders (settings : Settings) (request : Request)
    (credential : Option Credential) :
    (request.prepare settings credential).otherHeaders =
      (request.prepare settings none).otherHeaders := by
  cases credential with
  | none => rfl
  | some credential =>
    have hname : Headers.sameName (Headers.lowerName "authorization") "authorization" = true := by
      decide
    simp only [prepare, WireRequest.otherHeaders, allHeaders, Headers.set, List.filter_append,
      List.filter_filter, Bool.and_self, List.filter_cons, hname]
    exact List.append_nil _

/-- A credential is the only authorization of a request. -/
theorem Request.prepare_authorizations (settings : Settings) (request : Request)
    (credential : Credential) :
    (request.prepare settings (some credential)).authorizations = [credential.bearer] := by
  have hname : Headers.sameName (Headers.lowerName "authorization") "authorization" = true := by
    decide
  simp [prepare, WireRequest.authorizations, allHeaders, Headers.set, List.filter_append,
    List.filter_filter, hname]

/-! ## The protocol -/

/-- What is asked for a request in a transcript and what comes of it: it is sent once, and once
more if a new credential takes the place of a refused one. -/
structure RetriesOnce (settings : Settings) (request : Request) (turns : List Turn)
    (result : Result Json) : Prop where
  /-- The current credential is asked for once, the server once or twice, and a new credential
  at most once and between the exchanges. -/
  order : turns.map Turn.kind <+: [.credential, .exchange, .refresh, .exchange]
  credential_once : (Turn.credentials turns).length = 1
  exchanges_count : (Turn.exchanges turns).length = 1 ∨ (Turn.exchanges turns).length = 2
  refreshes_count : (Turn.refreshes turns).length ≤ 1
  /-- The first exchange uses the current credential if there is one. -/
  first_request : ∀ answer, Turn.credentials turns = [answer] →
    ((Turn.exchanges turns).map Prod.fst).head? = some (request.prepare settings answer.toOption)
  /-- A new credential is asked for exactly if the first one is refused. -/
  refreshed_iff : (Turn.refreshes turns).length = 1 ↔
    ∃ first, ((Turn.exchanges turns).map Prod.snd).head? = some first ∧ first.IsRefusal
  /-- The request is sent again exactly if there is a new credential. -/
  resent_iff : (Turn.exchanges turns).length = 2 ↔ ∃ fresh, Turn.refreshes turns = [.ok fresh]
  /-- It is sent again with nothing changed but its authorization. -/
  same_request : ∀ first second, (Turn.exchanges turns).map Prod.fst = [first, second] →
    second.method = first.method ∧ second.address = first.address ∧ second.body = first.body ∧
      second.timeout = first.timeout ∧ second.otherHeaders = first.otherHeaders ∧
      ∃ fresh, Turn.refreshes turns = [.ok fresh] ∧ second.authorizations = [fresh.bearer]
  expired_iff : result = .error .authenticationExpired ↔
    ∃ first second, (Turn.exchanges turns).map Prod.snd = [first, second] ∧
      first.IsRefusal ∧ second.IsRefusal
  unavailable_iff : ∀ message, result = .error (.credentialUnavailable message) ↔
    (∃ first, (Turn.exchanges turns).map Prod.snd = [first] ∧ first.IsRefusal) ∧
      Turn.refreshes turns = [.error ⟨message⟩]
  /-- Any other result is the verdict on the last exchange. -/
  decided : (∀ fault, result = .error fault → ¬ fault.IsCredential) →
    ∃ last, ((Turn.exchanges turns).map Prod.snd).getLast? = some last ∧
      result = last.verdict (settings.address request.path)

section

variable {settings : Settings} {request : Request} {answer : Except Unavailable Credential}

/-- The verdict on an exchange without a refusal has no fault of credentials. -/
theorem RetriesOnce.of_concluded {outcome : Outcome} {duration : Nat}
    (h : ¬ outcome.IsRefusal) :
    RetriesOnce settings request
      [.credential answer,
       .exchange (request.prepare settings answer.toOption) outcome duration]
      (outcome.verdict (settings.address request.path)) := by
  have hverdict := Outcome.verdict_error (settings.address request.path) h
  constructor
  case order => exact ⟨[.refresh, .exchange], rfl⟩
  case credential_once => rfl
  case exchanges_count => exact .inl rfl
  case refreshes_count => exact Nat.zero_le 1
  case first_request =>
    intro current hcurrent
    obtain rfl := List.singleton_inj.mp hcurrent
    rfl
  case refreshed_iff => simp [Turn.refreshes, Turn.exchanges, h]
  case resent_iff => simp [Turn.refreshes, Turn.exchanges]
  case same_request => simp [Turn.exchanges]
  case expired_iff =>
    constructor
    · intro hresult
      exact absurd trivial (hverdict _ hresult)
    · simp [Turn.exchanges]
  case unavailable_iff =>
    intro message
    constructor
    · intro hresult
      exact absurd trivial (hverdict _ hresult)
    · simp [Turn.refreshes]
  case decided =>
    intro _
    exact ⟨outcome, rfl, rfl⟩

/-- A refusal and no new credential. -/
theorem RetriesOnce.of_unavailable {outcome : Outcome} {duration : Nat} {reason : Unavailable}
    (h : outcome.IsRefusal) :
    RetriesOnce settings request
      [.credential answer,
       .exchange (request.prepare settings answer.toOption) outcome duration,
       .refresh (.error reason)]
      (.error (.credentialUnavailable reason.message)) := by
  constructor
  case order => exact ⟨[.exchange], rfl⟩
  case credential_once => rfl
  case exchanges_count => exact .inl rfl
  case refreshes_count => exact Nat.le_refl 1
  case first_request =>
    intro current hcurrent
    obtain rfl := List.singleton_inj.mp hcurrent
    rfl
  case refreshed_iff => exact iff_of_true rfl ⟨outcome, rfl, h⟩
  case resent_iff => simp [Turn.refreshes, Turn.exchanges]
  case same_request => simp [Turn.exchanges]
  case expired_iff => simp [Turn.exchanges]
  case unavailable_iff =>
    intro message
    constructor
    · intro hresult
      obtain rfl := Fault.credentialUnavailable.inj (Except.error.inj hresult)
      exact ⟨⟨outcome, rfl, h⟩, rfl⟩
    · rintro ⟨-, hrefreshes⟩
      obtain rfl := Except.error.inj (List.singleton_inj.mp hrefreshes)
      rfl
  case decided =>
    intro hfault
    exact absurd trivial (hfault _ rfl)

/-- A refusal, a new credential, and a second exchange with whatever result. The result decides
what is left to show. -/
theorem RetriesOnce.of_renewed {first second : Outcome} {duration after : Nat}
    {fresh : Credential} {result : Result Json} (h : first.IsRefusal)
    (hexpired : result = .error .authenticationExpired ↔ second.IsRefusal)
    (hunavailable : ∀ message, result ≠ .error (.credentialUnavailable message))
    (hdecided : ¬ second.IsRefusal → result = second.verdict (settings.address request.path)) :
    RetriesOnce settings request
      [.credential answer,
       .exchange (request.prepare settings answer.toOption) first duration,
       .refresh (.ok fresh),
       .exchange (request.prepare settings (some fresh)) second after]
      result := by
  constructor
  case order => exact List.prefix_rfl
  case credential_once => rfl
  case exchanges_count => exact .inr rfl
  case refreshes_count => exact Nat.le_refl 1
  case first_request =>
    intro current hcurrent
    obtain rfl := List.singleton_inj.mp hcurrent
    rfl
  case refreshed_iff => exact iff_of_true rfl ⟨first, rfl, h⟩
  case resent_iff => exact iff_of_true rfl ⟨fresh, rfl⟩
  case same_request =>
    intro one two hrequests
    obtain ⟨rfl, rfl⟩ : request.prepare settings answer.toOption = one ∧
        request.prepare settings (some fresh) = two := by
      simpa [Turn.exchanges] using hrequests
    refine ⟨rfl, rfl, rfl, rfl, ?_, fresh, rfl, Request.prepare_authorizations ..⟩
    rw [Request.prepare_otherHeaders, ← Request.prepare_otherHeaders _ _ answer.toOption]
  case expired_iff =>
    rw [hexpired]
    constructor
    · intro hsecond
      exact ⟨first, second, rfl, h, hsecond⟩
    · rintro ⟨one, two, houtcomes, -, htwo⟩
      obtain ⟨-, rfl⟩ : first = one ∧ second = two := by simpa [Turn.exchanges] using houtcomes
      exact htwo
  case unavailable_iff =>
    intro message
    simp [Turn.refreshes, hunavailable message]
  case decided =>
    intro hfault
    refine ⟨second, rfl, hdecided fun hsecond => ?_⟩
    exact hfault _ (hexpired.mpr hsecond) trivial

/-- Sending a request replaces a refused credential at most once, whatever the answers are. -/
theorem send_retriesOnce {σ : Type} (world : World σ) (settings : Settings) (request : Request)
    (state : σ) :
    RetriesOnce settings request ((send settings request).turnsIn world state)
      ((send settings request).runIn world state).result := by
  rcases send_attempts world settings request state with ⟨answer, turns, hturns, hattempts⟩
  rw [hturns]
  rw [maxRefreshes] at hattempts
  generalize ((send settings request).runIn world state).result = result at hattempts ⊢
  cases hattempts with
  | concluded h => exact .of_concluded h
  | unavailable h => exact .of_unavailable h
  | renewed h rest =>
    cases rest with
    | refused hsecond =>
      exact .of_renewed h (iff_of_true rfl hsecond) (fun _ => by simp) (absurd hsecond)
    | concluded hsecond =>
      have hverdict := Outcome.verdict_error (settings.address request.path) hsecond
      refine .of_renewed h (iff_of_false ?_ hsecond) ?_ fun _ => rfl
      · exact fun hresult => hverdict _ hresult trivial
      · exact fun message hresult => hverdict _ hresult trivial

end

end GameShelf
