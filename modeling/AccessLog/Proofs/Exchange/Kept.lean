/-
URL and address of a record, as they were at the entry.

* `Scope.StateIsMapping`, `Scope.exists_clientIp_iff`: when a scope can be asked for the address
  that a trusted proxy has left.
* `Exchange.AttemptedFor`: the attempts that a layer can make for a request.
* `Exchange.AttemptedFor.capture_eq`: all of them see what was kept at the entry.
* `Token.url_of_kept`, `Token.remoteAddr_of_kept`: what the two tokens give then.
* `Exchange.logged_from_entry`: **a record shows the entry**: whatever becomes of the scope, URL
  and address are those of the entry, in either mode.
-/
import AccessLog.Proofs.Exchange.Gating
import AccessLog.Proofs.Exchange.Untimed

namespace AccessLog

/-! ### The address that a proxy has left -/

namespace Scope

/-- The state of a request is a mapping if there is one. -/
def StateIsMapping (scope : Scope) : Prop :=
  ∀ state, scope.get? "state" = some state → ∃ entries, state = .dict entries

/-- A scope can be asked for the address of the client. -/
lemma exists_clientIp_iff (scope : Scope) :
    (∃ ip, scope.clientIp = .ok ip) ↔ scope.StateIsMapping := by
  rw [clientIp, StateIsMapping]
  cases scope.get? "state" with
  | none => exact iff_of_true ⟨_, rfl⟩ fun state found => by cases found
  | some state =>
    cases state with
    | dict entries =>
      refine iff_of_true ⟨_, rfl⟩ fun state same => ⟨entries, ?_⟩
      cases same
      rfl
    | _ =>
      refine iff_of_false (fun ⟨ip, found⟩ => by cases found) fun isMapping => ?_
      obtain ⟨entries, same⟩ := isMapping _ rfl
      cases same

end Scope

/-! ### Tokens that look at what was kept -/

namespace Token

variable {view : View} {capture : Capture}

/-- The URL at the entry comes before the one that the scope has. -/
lemma url_of_kept (kept : view.capture = some capture) (given : capture.originalUrl.truthy) :
    url view = .ok capture.originalUrl := by
  rw [url, View.originalUrl, kept]
  exact if_pos given

/-- Before everything else comes the address that a proxy has left. -/
lemma remoteAddr_of_truthy {ip : Value} (left : view.scope.clientIp = .ok ip) (given : ip.truthy) :
    remoteAddr view = .ok ip := by
  rw [remoteAddr, left]
  exact if_pos given

/-- Then comes the peer at the entry. -/
lemma remoteAddr_of_kept (kept : view.capture = some capture) (given : capture.remoteAddress.truthy)
    {ip : Value} (left : view.scope.clientIp = .ok ip) :
    remoteAddr view = .ok (if ip.truthy then ip else capture.remoteAddress) := by
  by_cases trusted : ip.truthy
  · rw [if_pos trusted, remoteAddr_of_truthy left trusted]
  · rw [if_neg trusted, remoteAddr, left, kept]
    exact (if_neg trusted).trans (if_pos given)

end Token

namespace Exchange

/-! ### Attempts for a request -/

/-- A layer can make the attempt for a request: at its entry, or after whatever happens later, in
whatever scopes and at whatever times. -/
def AttemptedFor (layer : Layer) (scope₀ : Scope) (clock₀ : Clock) (a : Attempt) : Prop :=
  ∃ x result moments, enter layer scope₀ clock₀ = .ok (x, result) ∧
    a ∈ (run layer x moments).attempts

variable {layer : Layer} {scope₀ : Scope} {clock₀ : Clock} {a : Attempt} {url host : Value}

/-- A request with a URL and a peer is taken up. -/
lemma exists_enter (isUrl : scope₀.pathWithQuery = .ok url) (isHost : scope₀.peerHost = .ok host)
    (layer : Layer) (clock₀ : Clock) : ∃ x result, enter layer scope₀ clock₀ = .ok (x, result) := by
  have taken : Capture.begin scope₀ clock₀ = .ok ⟨some clock₀.ticks, clock₀.wall, host, url⟩ := by
    rw [Capture.begin, isHost, isUrl]
    rfl
  cases mode : layer.immediate with
  | true => exact ⟨_, _, enter_immediate taken mode⟩
  | false => exact ⟨_, _, enter_waiting taken mode⟩

namespace AttemptedFor

/-- The attempt is the one of the layer on what it sees. -/
lemma eq_attempt (attempted : AttemptedFor layer scope₀ clock₀ a) : a = layer.attempt a.view := by
  obtain ⟨x, result, moments, entered, made⟩ := attempted
  obtain ⟨seen, rest, -, -, scope, clock, rfl⟩ := exists_cut_of_attempt entered made
  rw [Layer.view_attempt]

/-- What was kept at the entry is seen in every attempt. -/
lemma capture_eq (attempted : AttemptedFor layer scope₀ clock₀ a)
    (isUrl : scope₀.pathWithQuery = .ok url) (isHost : scope₀.peerHost = .ok host) :
    a.view.capture = some ⟨some clock₀.ticks, clock₀.wall, host, url⟩ := by
  obtain ⟨x, result, moments, entered, made⟩ := attempted
  obtain ⟨seen, rest, -, -, scope, clock, rfl⟩ := exists_cut_of_attempt entered made
  obtain ⟨host', url', isHost', isUrl', kept⟩ := Capture.exists_of_begin (capture_enter entered)
  obtain rfl := Except.ok.inj (isHost.symm.trans isHost')
  obtain rfl := Except.ok.inj (isUrl.symm.trans isUrl')
  rw [Layer.view_attempt, view, capture_run, kept]

end AttemptedFor

/-! ### What records show -/

/-- The entries of a token have a text in an attempt, and so have their fields in every record
that comes of it. -/
def Logs (tokens : Tokens) (format : CompiledFormat) (a : Attempt) (name t : Text) : Prop :=
  ∀ argument, ((Entry.token name argument).render tokens a.view).result = .ok t ∧
    ∀ record : Record, a.rendered = some (.ok record.toValue) →
      format.Shows (.token name argument) →
        Table.get? record (fieldName name argument) = some t

variable {tokens : Tokens} {format : CompiledFormat} {name : Text} {v : Value}

/-- A token that gives a true value in an attempt shows it in every record. -/
lemma AttemptedFor.logs (attempted : AttemptedFor layer scope₀ clock₀ a)
    (renders : layer.render = (Renderer.compiled format).render tokens)
    {f : View → Except Failure Value}
    (known : tokens.lookup name = some (Token.plain fun view _ => f view))
    (gives : f a.view = .ok v) (given : v.truthy) : Logs tokens format a name v.shown := by
  intro argument
  have here : ((Entry.token name argument).render tokens a.view).result = .ok v.shown :=
    (Entry.render_plain_eq_ok_iff known).mpr ⟨v, gives, (if_pos given).symm⟩
  refine ⟨here, fun record rendered shows' => ?_⟩
  rw [attempted.eq_attempt] at rendered
  have isRecord : format.render tokens a.view = .ok record :=
    Renderer.render_compiled (renders ▸ render_of_attempt rendered)
  obtain ⟨t, shown, found⟩ := CompiledFormat.get?_of_shows shows' isRecord
  rw [here] at shown
  rw [Except.ok.inj shown]
  exact found

lemma lookup_url :
    Tokens.builtIn.lookup "url" = some (Token.plain fun view _ => Token.url view) := rfl

lemma lookup_remoteAddr :
    Tokens.builtIn.lookup "remote-addr" = some (Token.plain fun view _ => Token.remoteAddr view) :=
  rfl

/-- **A record shows the URL and the peer of the entry.** Of a request whose URL and peer are there
at the entry, every layer of either mode that shows them at all shows these, whatever happens
later in whatever scopes: the URL always, and the peer unless the state of the scope holds another
address, if the state is a mapping or there is none. An address in the state comes before all
others, also if there was no peer at the entry. -/
theorem logged_from_entry (isUrlToken : tokens.lookup "url" = Tokens.builtIn.lookup "url")
    (isAddressToken : tokens.lookup "remote-addr" = Tokens.builtIn.lookup "remote-addr")
    (scope₀ : Scope) :
    (∀ url host, scope₀.pathWithQuery = .ok url → url.truthy → scope₀.peerHost = .ok host →
      host.truthy → ∀ layer clock₀, layer.render = (Renderer.compiled format).render tokens →
        (∃ x result, enter layer scope₀ clock₀ = .ok (x, result)) ∧
        ∀ a, AttemptedFor layer scope₀ clock₀ a →
          Logs tokens format a "url" url.shown ∧
          (a.view.scope.StateIsMapping → ∃ ip, a.view.scope.clientIp = .ok ip ∧
            Logs tokens format a "remote-addr" (if ip.truthy then ip.shown else host.shown))) ∧
      ∀ layer clock₀, layer.render = (Renderer.compiled format).render tokens →
        ∀ a ip, AttemptedFor layer scope₀ clock₀ a → a.view.scope.clientIp = .ok ip → ip.truthy →
          Logs tokens format a "remote-addr" ip.shown := by
  have knownUrl := isUrlToken.trans lookup_url
  have knownAddress := isAddressToken.trans lookup_remoteAddr
  constructor
  · intro url host isUrl hasUrl isHost hasHost layer clock₀ renders
    refine ⟨exists_enter isUrl isHost layer clock₀, fun a attempted => ⟨?_, fun isMapping => ?_⟩⟩
    · have kept := attempted.capture_eq isUrl isHost
      exact attempted.logs renders knownUrl (Token.url_of_kept kept hasUrl) hasUrl
    · obtain ⟨ip, left⟩ := a.view.scope.exists_clientIp_iff.mpr isMapping
      have kept := attempted.capture_eq isUrl isHost
      have gives := Token.remoteAddr_of_kept kept hasHost left
      refine ⟨ip, left, ?_⟩
      by_cases trusted : ip.truthy
      · rw [if_pos trusted] at gives ⊢
        exact attempted.logs renders knownAddress gives trusted
      · rw [if_neg trusted] at gives ⊢
        exact attempted.logs renders knownAddress gives hasHost
  · intro layer clock₀ renders a ip attempted left given
    exact attempted.logs renders knownAddress (Token.remoteAddr_of_truthy left given) given

/-- Path, query and peer are gone, and the application ends without an answer; and an application
that rewrites path and peer before it ends changes the record that goes to the sink in neither
mode. -/
theorem logged_from_entry_torn_down :
    let format := CompiledFormat.ofItems [":url", ":remote-addr"]
    let layer (immediate : Bool) : Layer :=
      ⟨immediate, fun _ => .ok .null, (Renderer.compiled format).render Tokens.builtIn, "T"⟩
    let scope₀ : Scope := [("type", "http"), ("path", "/a"), ("query_string", .bytes [98]),
      ("client", .tuple ["10.0.0.1", .int 5])]
    let later : Scope := [("type", "http"), ("client", .null)]
    let record : Value := .dict [("url", "/a?b"), ("remote_addr", "10.0.0.1")]
    let app : App := .edit (fun scope => (scope.put "path" "/b").erase "client") (.done (.ok ()))
    let emitted (immediate : Bool) : List Emission :=
      ((World.starting [layer immediate] [.recorder] {} {} (Server.ofLists [] []) scope₀
        app).turns 2).emitted
    (∃ a, AttemptedFor (layer false) scope₀ {} a ∧ a.view.scope = later ∧
      Logs Tokens.builtIn format a "url" "/a?b" ∧
      Logs Tokens.builtIn format a "remote-addr" "10.0.0.1" ∧ a.rendered = some (.ok record)) ∧
      emitted false = [⟨"T", record⟩] ∧ emitted true = [⟨"T", record⟩] := by
  intro format layer scope₀ later record app emitted
  refine ⟨?_, by decide +kernel, by decide +kernel⟩
  have entered : enter (layer false) scope₀ {} =
      .ok (start (layer false) ⟨some 0, .whole 0, "10.0.0.1", "/a?b"⟩, .ok ()) := rfl
  have seen : (run (layer false) (start (layer false) ⟨some 0, .whole 0, "10.0.0.1", "/a?b"⟩)
      [(later, {}, .ended)]).attempts.map (fun a => (a.view.scope, a.rendered)) =
        [(later, some (.ok record))] := by
    decide +kernel
  obtain ⟨a, attempts, same⟩ := List.map_eq_singleton_iff.mp seen
  obtain ⟨isLater, isRecord⟩ := Prod.mk.inj same
  have attempted : AttemptedFor (layer false) scope₀ {} a :=
    ⟨_, _, _, entered, attempts ▸ List.mem_singleton_self a⟩
  obtain ⟨-, shown⟩ := (logged_from_entry rfl rfl scope₀).1 "/a?b" "10.0.0.1" rfl rfl rfl rfl
    (layer false) {} rfl
  obtain ⟨url, address⟩ := shown a attempted
  obtain ⟨ip, left, logs⟩ := address (isLater ▸ fun state found => by cases found)
  rw [isLater] at left
  obtain rfl : ip = .null := (Except.ok.inj left).symm
  exact ⟨a, attempted, isLater, url, logs, isRecord⟩

end Exchange

end AccessLog
