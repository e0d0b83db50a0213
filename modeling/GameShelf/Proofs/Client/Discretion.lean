import GameShelf.Proofs.Client.Interleaving

/-!
# Tokens stay out of sight

A request is sent twice, in two worlds that give the same answers but for the tokens of the
credentials. Nobody can tell the two runs apart by what is reported, written to the log or returned,
and on the wire only the value of the authorization header is another.

* `SameButToken`: answers about credentials that agree but for the token.
* `WireRequest.SameButBearer`: requests that agree but for the value of the authorization header.
* `Dialogue.Alike`: dialogues that ask alike, leave the same and end alike as long as their answers
  agree but for tokens.
* `Dialogue.Alike.runs`: what that means for their runs in two worlds.
* `send_alike`: sending a request is such a dialogue, in which tokens play no part.
* `Discreet`, `send_discreet`: two runs of a request are told apart by the authorization alone.
-/

namespace GameShelf

open Telemetry (Sink)

/-! ## Agreement but for tokens -/

/-- Two answers about a credential agree but for its token: there is one both times, or there is
none both times for the same reason. -/
inductive SameButToken : Except Unavailable Credential → Except Unavailable Credential → Prop where
  | ok (credential other : Credential) : SameButToken (.ok credential) (.ok other)
  | error (reason : Unavailable) : SameButToken (.error reason) (.error reason)

namespace WireRequest

/-- A request without the value of its authorization headers. -/
def veiled (wire : WireRequest) : WireRequest :=
  { wire with headers := wire.headers.map fun header =>
      if Headers.sameName header.1 "authorization" then (header.1, "") else header }

/-- Two requests agree but for the value of their authorization header, which is then that of a
credential in both. -/
structure SameButBearer (wire other : WireRequest) : Prop where
  veiled_eq : wire.veiled = other.veiled
  bearers : wire = other ∨ ∃ credential credential' : Credential,
    wire.authorizations = [credential.bearer] ∧ other.authorizations = [credential'.bearer]

end WireRequest

/-- A request is the same with any credential but for the value of its authorization header. -/
theorem Request.prepare_sameButBearer (settings : Settings) (request : Request)
    {credential other : Option Credential} (h : credential.isSome = other.isSome) :
    (request.prepare settings credential).SameButBearer (request.prepare settings other) := by
  cases credential with
  | none =>
    cases other with
    | none => exact ⟨rfl, .inl rfl⟩
    | some other => exact absurd h Bool.false_ne_true
  | some credential =>
    cases other with
    | none => exact absurd h.symm Bool.false_ne_true
    | some other =>
      have hname : Headers.sameName (Headers.lowerName "authorization") "authorization" = true := by
        decide
      constructor
      case veiled_eq =>
        -- the header stands at the end, and all that stands before it is left as it is
        simp only [WireRequest.veiled, prepare, allHeaders, Headers.set, List.map_append,
          List.map_cons, List.map_nil, if_pos hname]
      case bearers =>
        exact .inr ⟨credential, other, prepare_authorizations .., prepare_authorizations ..⟩

/-- Two turns with the same question agree but for tokens. -/
inductive Turn.SameButToken : Turn → Turn → Prop where
  | credential {answer answer' : Except Unavailable Credential}
      (h : GameShelf.SameButToken answer answer') :
      SameButToken (.credential answer) (.credential answer')
  | refresh {answer answer' : Except Unavailable Credential}
      (h : GameShelf.SameButToken answer answer') :
      SameButToken (.refresh answer) (.refresh answer')
  | exchange {request request' : WireRequest} (h : request.SameButBearer request')
      (outcome : Outcome) (duration : Nat) :
      SameButToken (.exchange request outcome duration) (.exchange request' outcome duration)

/-- The answers in two transcripts agree but for tokens, each kind for itself and as far as both
transcripts go. -/
structure AnsweredAlike (turns others : List Turn) : Prop where
  credentials : ∀ pair ∈ (Turn.credentials turns).zip (Turn.credentials others),
    SameButToken pair.1 pair.2
  refreshes : ∀ pair ∈ (Turn.refreshes turns).zip (Turn.refreshes others),
    SameButToken pair.1 pair.2
  endings : ∀ pair ∈ (Turn.endings turns).zip (Turn.endings others), pair.1 = pair.2

namespace AnsweredAlike

variable {turns others : List Turn}

theorem of_credential {answer answer' : Except Unavailable Credential}
    (h : AnsweredAlike (.credential answer :: turns) (.credential answer' :: others)) :
    SameButToken answer answer' ∧ AnsweredAlike turns others := by
  rcases List.forall_mem_cons.mp h.credentials with ⟨hanswer, hrest⟩
  exact ⟨hanswer, hrest, h.refreshes, h.endings⟩

theorem of_refresh {answer answer' : Except Unavailable Credential}
    (h : AnsweredAlike (.refresh answer :: turns) (.refresh answer' :: others)) :
    SameButToken answer answer' ∧ AnsweredAlike turns others := by
  rcases List.forall_mem_cons.mp h.refreshes with ⟨hanswer, hrest⟩
  exact ⟨hanswer, h.credentials, hrest, h.endings⟩

theorem of_exchange {request request' : WireRequest} {outcome outcome' : Outcome}
    {duration duration' : Nat}
    (h : AnsweredAlike (.exchange request outcome duration :: turns)
      (.exchange request' outcome' duration' :: others)) :
    outcome = outcome' ∧ duration = duration' ∧ AnsweredAlike turns others := by
  rcases List.forall_mem_cons.mp h.endings with ⟨hending, hrest⟩
  rcases Prod.mk.inj hending with ⟨houtcome, hduration⟩
  exact ⟨houtcome, hduration, h.credentials, h.refreshes, hrest⟩

end AnsweredAlike

/-! ## Dialogues in which tokens play no part -/

namespace Dialogue

variable {α σ τ : Type}

/-- Two dialogues leave the same, ask alike and go on alike whenever their answers agree but for
tokens. -/
inductive Alike : Dialogue α → Dialogue α → Prop where
  | done (result : α) : Alike (.done result) (.done result)
  | note (entry : Telemetry.Entry) {next next' : Dialogue α} (h : Alike next next') :
      Alike (.note entry next) (.note entry next')
  | credential {resume resume' : Except Unavailable Credential → Dialogue α}
      (h : ∀ answer answer', SameButToken answer answer' →
        Alike (resume answer) (resume' answer')) :
      Alike (.credential resume) (.credential resume')
  | refresh {resume resume' : Except Unavailable Credential → Dialogue α}
      (h : ∀ answer answer', SameButToken answer answer' →
        Alike (resume answer) (resume' answer')) :
      Alike (.refresh resume) (.refresh resume')
  | exchange {request request' : WireRequest} {resume resume' : Outcome → Nat → Dialogue α}
      (hrequest : request.SameButBearer request')
      (h : ∀ outcome duration, Alike (resume outcome duration) (resume' outcome duration)) :
      Alike (.exchange request resume) (.exchange request' resume')

/-- Such dialogues end alike and leave the same in two worlds whose answers agree but for tokens. By
induction on the dialogues: after each question they go on with answers that agree. -/
theorem Alike.runs {dialogue dialogue' : Dialogue α} (h : Alike dialogue dialogue')
    (world : World σ) (other : World τ) (state : σ) (state' : τ)
    (hanswers : AnsweredAlike (dialogue.turnsIn world state) (dialogue'.turnsIn other state')) :
    (dialogue.runIn world state).result = (dialogue'.runIn other state').result ∧
      (dialogue.runIn world state).entries = (dialogue'.runIn other state').entries ∧
      List.Forall₂ Turn.SameButToken (dialogue.turnsIn world state)
        (dialogue'.turnsIn other state') := by
  induction h generalizing state state' with
  | done result => exact ⟨rfl, rfl, List.Forall₂.nil⟩
  | note entry h ih =>
    rcases ih state state' hanswers with ⟨hresult, hentries, hturns⟩
    exact ⟨hresult, congrArg (entry :: ·) hentries, hturns⟩
  | credential h ih =>
    rcases hanswers.of_credential with ⟨hanswer, hrest⟩
    rcases ih _ _ hanswer _ _ hrest with ⟨hresult, hentries, hturns⟩
    exact ⟨hresult, hentries, List.Forall₂.cons (.credential hanswer) hturns⟩
  | refresh h ih =>
    rcases hanswers.of_refresh with ⟨hanswer, hrest⟩
    rcases ih _ _ hanswer _ _ hrest with ⟨hresult, hentries, hturns⟩
    exact ⟨hresult, hentries, List.Forall₂.cons (.refresh hanswer) hturns⟩
  | @exchange request request' resume resume' hrequest h ih =>
    rcases hexchange : world.exchange request state with ⟨⟨outcome, duration⟩, after⟩
    rcases hother : other.exchange request' state' with ⟨⟨outcome', duration'⟩, after'⟩
    simp only [turnsIn_exchange, runIn_exchange, hexchange, hother] at hanswers ⊢
    rcases hanswers.of_exchange with ⟨rfl, rfl, hrest⟩
    rcases ih outcome duration after after' hrest with ⟨hresult, hentries, hturns⟩
    exact ⟨hresult, hentries, List.Forall₂.cons (.exchange hrequest outcome duration) hturns⟩

end Dialogue

/-! ## Requests -/

section

variable (settings : Settings) (request : Request)

theorem giveUp_alike (progress : Telemetry.Progress) (fault : Fault) :
    (giveUp progress fault : Dialogue (Result Json)).Alike (giveUp progress fault) :=
  .note _ (.done _)

theorem conclude_alike (progress : Telemetry.Progress) (reply : Reply) :
    (conclude settings progress reply).Alike (conclude settings progress reply) := by
  unfold conclude
  cases reply.data with
  | error fault => exact giveUp_alike progress fault
  | ok data =>
    refine .note _ ?_
    split
    · exact .note _ (.done _)
    · exact .done _

/-- Which credential a request starts with makes no difference to what is asked and left. By
induction on the refreshes that are left: a refusal is answered alike, and the request goes on with
one refresh less and other credentials. -/
theorem attempt_alike (refreshes number : Nat) {credential other : Option Credential}
    (h : credential.isSome = other.isSome) :
    (attempt settings request refreshes number credential).Alike
      (attempt settings request refreshes number other) := by
  induction refreshes using Nat.strong_induction_on generalizing number credential other with
  | _ refreshes ih =>
    rw [attempt, attempt]
    refine .exchange (request.prepare_sameButBearer settings h) ?_
    intro outcome duration
    cases outcome with
    | failed failure => exact giveUp_alike _ _
    | elapsed => exact giveUp_alike _ _
    | reply reply =>
      by_cases hstatus : reply.status = unauthorized
      · simp only [if_pos hstatus]
        cases refreshes with
        | zero => exact .note _ (.done _)
        | succ left =>
          refine .note _ (.refresh ?_)
          intro answer answer' hanswer
          cases hanswer with
          | ok fresh fresh' => exact ih left (Nat.lt_succ_self left) (number + 1) rfl
          | error reason => exact giveUp_alike _ _
      · simp only [if_neg hstatus]
        exact conclude_alike settings _ reply

/-- Tokens play no part in sending a request. -/
theorem send_alike : (send settings request).Alike (send settings request) := by
  refine .note _ (.credential ?_)
  intro answer answer' hanswer
  cases hanswer with
  | ok credential credential' => exact attempt_alike settings request maxRefreshes 1 rfl
  | error reason => exact .note _ (attempt_alike settings request maxRefreshes 1 rfl)

end

/-- Two runs are told apart by tokens in authorization headers alone. -/
structure Discreet {σ τ : Type} (turns others : List Turn) (run : Run σ (Result Json))
    (other : Run τ (Result Json)) : Prop where
  result_eq : run.result = other.result
  /-- The same events and log records are left, in the same order. -/
  entries_eq : run.entries = other.entries
  /-- So every sink records the same events, and with every sink the log is the same. -/
  told_eq : ∀ sink : Sink, sink.events run.entries = sink.events other.entries ∧
    sink.logs run.entries = sink.logs other.entries
  /-- The same is asked in the same order, by requests that differ in the authorization alone. -/
  asked_alike : List.Forall₂ Turn.SameButToken turns others

/-- If the answers to a request agree but for tokens in two worlds, whatever the worlds are, its two
runs are told apart by tokens in authorization headers alone. How long an identity takes to answer
plays no part either: the durations that are reported are those of the exchanges. -/
theorem send_discreet {σ τ : Type} (world : World σ) (other : World τ) (settings : Settings)
    (request : Request) (state : σ) (state' : τ)
    (h : AnsweredAlike ((send settings request).turnsIn world state)
      ((send settings request).turnsIn other state')) :
    Discreet ((send settings request).turnsIn world state)
      ((send settings request).turnsIn other state')
      ((send settings request).runIn world state)
      ((send settings request).runIn other state') := by
  rcases (send_alike settings request).runs world other state state' h with
    ⟨hresult, hentries, hturns⟩
  constructor
  case result_eq => exact hresult
  case entries_eq => exact hentries
  case told_eq =>
    intro sink
    rw [hentries]
    exact ⟨rfl, rfl⟩
  case asked_alike => exact hturns

/-- A refused credential is replaced, and the second reply does not come in time, once with these
tokens and once with others. -/
theorem otherTokens_discreet :
    let request := Request.to .get "/a"
    let heard (old new : String) : List Heard :=
      [.credential (.ok ⟨old⟩), .exchange (.reply ⟨unauthorized, ""⟩) 5, .refresh (.ok ⟨new⟩),
        .exchange .elapsed 7]
    let turns := (send Settings.default request).turnsIn answering (heard "a" "b")
    let others := (send Settings.default request).turnsIn answering (heard "c" "d")
    (Turn.exchanges turns).map (fun exchange => exchange.1.authorizations) =
        [["Bearer a"], ["Bearer b"]] ∧
      (Turn.exchanges others).map (fun exchange => exchange.1.authorizations) =
        [["Bearer c"], ["Bearer d"]] ∧
      AnsweredAlike turns others ∧
      Discreet turns others ((send Settings.default request).runIn answering (heard "a" "b"))
        ((send Settings.default request).runIn answering (heard "c" "d")) := by
  intro request heard turns others
  have hturns : ∀ old new, (send Settings.default request).turnsIn answering (heard old new) =
      [.credential (.ok ⟨old⟩),
        .exchange (request.prepare Settings.default (some ⟨old⟩)) (.reply ⟨unauthorized, ""⟩) 5,
        .refresh (.ok ⟨new⟩),
        .exchange (request.prepare Settings.default (some ⟨new⟩)) .elapsed 7] := by
    intro old new
    simp [send, attempt, maxRefreshes, giveUp, heard, answering]
  have halike : AnsweredAlike turns others := by
    constructor
    case credentials => simpa [turns, others, hturns, Turn.credentials] using .ok ⟨"a"⟩ ⟨"c"⟩
    case refreshes => simpa [turns, others, hturns, Turn.refreshes] using .ok ⟨"b"⟩ ⟨"d"⟩
    case endings => simp [turns, others, hturns, Turn.endings]
  refine ⟨?_, ?_, halike, send_discreet answering answering Settings.default request _ _ halike⟩
  · simp only [turns, hturns, Turn.exchanges, List.filterMap_cons, List.filterMap_nil,
      List.map_cons, List.map_nil, Request.prepare_authorizations, Credential.bearer]
    rfl
  · simp only [others, hturns, Turn.exchanges, List.filterMap_cons, List.filterMap_nil,
      List.map_cons, List.map_nil, Request.prepare_authorizations, Credential.bearer]
    rfl

end GameShelf
