/-
What rendering with the built-in tokens needs.

* `Scope.IsComplete`: method and headers are there, and whatever else is there is of
  the right kind.
* `Text.IsHeaderName`, `Headers.exists_value_iff`: the names that headers can be
  searched for.
* `Entry.IsBuiltIn`, `Entry.Timely`, `Entry.NamesHeader`, `Entry.Answers`: an entry of
  a built-in token, with readings of the clocks and an argument that it can use.
* `Entry.exists_render_iff`: such an entry is rendered, one lemma for each token.
* `CompiledFormat.render_builtIn_iff`: **missing data never makes rendering fail**, but
  a name that no header can have does.
-/
import AccessLog.Proofs.Exchange.Completion
import AccessLog.Proofs.Token.Clocks
import AccessLog.Proofs.Token.Headers

namespace AccessLog

/-! ### Scopes -/

/-- Method and headers are there; peer, query, protocol version and state are of the right
kinds, as far as they are there. -/
structure Scope.IsComplete (scope : Scope) : Prop extends scope.IsTyped where
  method : ∃ v, scope.get? "method" = some v
  headers : ∃ items, (scope.get? "headers" = some (.list items) ∨
      scope.get? "headers" = some (.tuple items)) ∧
    ∀ item ∈ items, ∃ name value : List UInt8,
      item = .tuple [.bytes name, .bytes value] ∨ item = .list [.bytes name, .bytes value]
  version : ∃ t, scope.httpVersion = .text t
  state : ∃ entries, (scope.get? "state").getD (.dict []) = .dict entries

namespace Scope.IsComplete

variable {scope : Scope}

lemma exists_method (complete : scope.IsComplete) : ∃ v, scope.method = .ok v := by
  obtain ⟨v, given⟩ := complete.method
  exact ⟨v, by rw [Scope.method, need, given]⟩

lemma exists_headers (complete : scope.IsComplete) : ∃ headers, scope.headers = .ok headers := by
  have pairs {items : List Value} (all : ∀ item ∈ items, ∃ name value : List UInt8,
      item = .tuple [.bytes name, .bytes value] ∨ item = .list [.bytes name, .bytes value]) :
      ∃ headers, items.mapM Headers.pair? = some headers := by
    induction items with
    | nil => exact ⟨[], rfl⟩
    | cons item rest ih =>
      obtain ⟨⟨name, value, first⟩, others⟩ := List.forall_mem_cons.mp all
      obtain ⟨headers, found⟩ := ih others
      have pair : Headers.pair? item = some (name, value) := by
        rcases first with rfl | rfl <;> rfl
      exact ⟨(name, value) :: headers, by simp [pair, found]⟩
  obtain ⟨items, given, all⟩ := complete.headers
  obtain ⟨headers, found⟩ := pairs all
  refine ⟨headers, ?_⟩
  rcases given with given | given <;>
    simp [Scope.headers, need, given, Headers.ofValue, Value.items?, found, bind, Except.bind]

lemma exists_clientIp (complete : scope.IsComplete) : ∃ ip, scope.clientIp = .ok ip := by
  obtain ⟨entries, given⟩ := complete.state
  exact ⟨_, by rw [clientIp, given]⟩

/-- A method and no headers are enough. -/
lemma of_bare (method : Value) :
    Scope.IsComplete [("method", method), ("headers", .list [])] where
  client := .inl rfl
  query := ⟨[], rfl⟩
  method := ⟨method, rfl⟩
  headers := ⟨[], .inl rfl, List.forall_mem_nil _⟩
  version := ⟨_, rfl⟩
  state := ⟨[], rfl⟩

end Scope.IsComplete

/-! ### Names of headers -/

/-- The token and the search among the headers each take the lower-case form of a name, and
what comes of this has to be written in bytes. -/
def Text.IsHeaderName (name : Text) : Prop :=
  ∀ c ∈ name.lower.lower, c.toNat < 0x100

instance (name : Text) : Decidable name.IsHeaderName :=
  inferInstanceAs (Decidable (∀ c ∈ name.lower.lower, _))

namespace Headers

variable {headers : Headers} {name : Text}

lemma value_of_error {fault : EncodingFault} (failed : name.lower.toLatin1 = .error fault) :
    headers.value name = .error (.encoding fault) := by
  rw [value, find, failed]
  rfl

/-- Headers can be searched for a name if its lower-case form can be written in bytes. -/
lemma exists_value_iff :
    (∃ v, headers.value name = .ok v) ↔ ∀ c ∈ name.lower, c.toNat < 0x100 := by
  cases encoded : name.lower.toLatin1 with
  | error fault =>
    rw [value_of_error encoded]
    refine iff_of_false (not_exists_error_eq_ok _) fun bytes => ?_
    cases encoded.symm.trans (Text.toLatin1_eq_ok_iff.mpr ⟨bytes, rfl⟩)
  | ok key => exact iff_of_true ⟨_, value_of_ok encoded⟩ (Text.toLatin1_eq_ok_iff.mp encoded).1

end Headers

/-! ### Tokens -/

namespace Token

variable {view : View}

lemma exists_orElse (first : Value) {second : Except Failure Value}
    (given : ∃ v, second = .ok v) : ∃ v, orElse first second = .ok v := by
  rw [orElse]
  split
  · exact ⟨first, rfl⟩
  · exact given

/-- A header that the program itself names is searched for. -/
lemma exists_value (headers : Headers) (name : Text) (ascii : name.IsAscii) :
    ∃ v, headers.value name = .ok v := by
  refine Headers.exists_value_iff.mpr fun c isIn => ?_
  have below := Text.isAscii_lower ascii c isIn
  omega

lemma exists_status (view : View) : ∃ v, status view = .ok v :=
  ⟨_, rfl⟩

lemma exists_responseTime_iff : (∃ v, responseTime view = .ok v) ↔
    (view.reply.sent = true → ∀ c ∈ view.capture, c.InRange view.clock) := by
  rw [responseTime]
  cases view.reply.sent with
  | false => exact iff_of_true ⟨.null, rfl⟩ fun sent => by cases sent
  | true =>
    cases view.capture with
    | none => exact iff_of_true ⟨.null, rfl⟩ fun _ c isIn => by cases isIn
    | some c =>
      simp only [Option.mem_some_iff, forall_eq', forall_const, ← c.exists_elapsedMs_iff]
      cases c.elapsedMs view.clock with
      | error e => exact iff_of_false (not_exists_error_eq_ok e) (not_exists_error_eq_ok e)
      | ok ms => exact iff_of_true (by cases ms <;> exact ⟨_, rfl⟩) ⟨ms, rfl⟩

lemma exists_date_iff : (∃ v, date view = .ok v) ↔ view.clock.wall.InYears := by
  rw [date, ← WallTime.exists_moment_iff]
  cases view.clock.wall.moment with
  | error e => exact iff_of_false (not_exists_error_eq_ok e) (not_exists_error_eq_ok e)
  | ok m => exact iff_of_true ⟨_, rfl⟩ ⟨m, rfl⟩

/-- What a header token gives for an argument, or for none. -/
lemma exists_headerNamed_iff (headers : Headers) (argument : Option Text) :
    (∃ v, headerNamed (.ok headers) (argumentValue argument) = .ok v) ↔
      ∀ name ∈ argument, name.IsHeaderName := by
  rcases argument with _ | _ | ⟨c, rest⟩
  · exact iff_of_true ⟨.null, rfl⟩ fun name isIn => by cases isIn
  · exact iff_of_true ⟨.null, rfl⟩ (by simp [Text.IsHeaderName, Text.lower, Text.lowerFrom])
  · simp only [Option.mem_some_iff, forall_eq']
    exact headers.exists_value_iff

lemma encoding_of_headerNamed {headers : Headers} {argument : Option Text} {e : Failure}
    (failed : headerNamed (.ok headers) (argumentValue argument) = .error e) :
    ∃ fault, e = .encoding fault := by
  rcases argument with _ | _ | ⟨c, rest⟩
  · cases failed
  · cases failed
  · change headers.value (Text.lower (c :: rest)) = .error e at failed
    cases encoded : (Text.lower (c :: rest)).lower.toLatin1 with
    | error fault =>
      rw [Headers.value_of_error encoded] at failed
      exact ⟨fault, (Except.error.inj failed).symm⟩
    | ok key =>
      rw [Headers.value_of_ok encoded] at failed
      cases failed

section Complete

variable (complete : view.scope.IsComplete)
include complete

lemma exists_url : ∃ v, url view = .ok v :=
  exists_orElse _ complete.exists_pathWithQuery

lemma exists_referrer : ∃ v, referrer view = .ok v := by
  obtain ⟨headers, given⟩ := complete.exists_headers
  obtain ⟨first, found⟩ := exists_value headers "referer" (by decide)
  obtain ⟨v, chosen⟩ := exists_orElse first (exists_value headers "referrer" (by decide))
  exact ⟨v, by rw [referrer, given]; simpa [bind, Except.bind, found] using chosen⟩

lemma exists_remoteAddr : ∃ v, remoteAddr view = .ok v := by
  obtain ⟨ip, given⟩ := complete.exists_clientIp
  obtain ⟨v, chosen⟩ := exists_orElse ip (exists_orElse
    ((view.capture.map (·.remoteAddress)).getD .null) complete.exists_peerHost)
  exact ⟨v, by rw [remoteAddr, given]; exact chosen⟩

lemma exists_httpVersion : ∃ v, httpVersion view = .ok v := by
  obtain ⟨t, given⟩ := complete.version
  exact ⟨_, by rw [httpVersion, given]⟩

lemma exists_userAgent : ∃ v, userAgent view = .ok v := by
  obtain ⟨headers, given⟩ := complete.exists_headers
  obtain ⟨v, found⟩ := exists_value headers "user-agent" (by decide)
  exact ⟨v, by rw [userAgent, given]; exact found⟩

end Complete

end Token

/-! ### Entries -/

namespace Entry

/-- A literal, or a specifier of a built-in token. -/
def IsBuiltIn : Entry → Prop
  | token name _ => name ∈ Tokens.builtIn.names
  | literal _ => True
  | malformed _ => False

/-- The date can be shown where it is asked for, and so can the milliseconds once there are
some. -/
def Timely (view : View) : Entry → Prop
  | token name _ => (name = "date" → view.clock.wall.InYears) ∧
      (name = "response-time" → view.reply.sent = true →
        ∀ c ∈ view.capture, c.InRange view.clock)
  | literal _ | malformed _ => True

/-- Headers can be searched for the argument of a header token. -/
def NamesHeader : Entry → Prop
  | token name argument => name = "request" ∨ name = "response" →
      ∀ header ∈ argument, header.IsHeaderName
  | literal _ | malformed _ => True

instance : (entry : Entry) → Decidable entry.IsBuiltIn
  | token name _ => inferInstanceAs (Decidable (name ∈ Tokens.builtIn.names))
  | literal _ => isTrue trivial
  | malformed _ => isFalse id

instance : (entry : Entry) → Decidable entry.NamesHeader
  | token name argument => inferInstanceAs (Decidable (name = "request" ∨ name = "response" →
      ∀ header ∈ argument, header.IsHeaderName))
  | literal _ | malformed _ => isTrue trivial

/-- Such an entry has a text. -/
structure Answers (view : View) (entry : Entry) : Prop where
  builtIn : entry.IsBuiltIn
  timely : entry.Timely view
  header : entry.NamesHeader

variable {view : View}

lemma exists_render_plain_iff {tokens : Tokens} {name : Text}
    {f : View → Value → Except Failure Value}
    (known : tokens.lookup name = some (Token.plain f)) (argument : Option Text) :
    (∃ t, ((token name argument).render tokens view).result = .ok t) ↔
      ∃ v, f view (argumentValue argument) = .ok v := by
  simp only [render_plain_eq_ok_iff known]
  constructor
  · rintro ⟨_, v, found, -⟩
    exact ⟨v, found⟩
  · rintro ⟨v, found⟩
    exact ⟨_, v, found, rfl⟩

/-- What a token needs beyond being built in. -/
lemma exists_render_token_iff {name : Text} {f : View → Value → Except Failure Value}
    (known : Tokens.builtIn.lookup name = some (Token.plain f))
    (builtIn : name ∈ Tokens.builtIn.names) {argument : Option Text}
    (needs : (∃ v, f view (argumentValue argument) = .ok v) ↔
      (token name argument).Timely view ∧ (token name argument).NamesHeader) :
    (∃ t, ((token name argument).render Tokens.builtIn view).result = .ok t) ↔
      (token name argument).Answers view := by
  rw [exists_render_plain_iff known, needs]
  exact ⟨fun both => ⟨builtIn, both.1, both.2⟩, fun answers => ⟨answers.timely, answers.header⟩⟩

section Needs

variable {name : Text} {argument : Option Text}

lemma timely_of_ne (date : name ≠ "date") (time : name ≠ "response-time") :
    (token name argument).Timely view :=
  ⟨fun same => absurd same date, fun same => absurd same time⟩

lemma namesHeader_of_ne (request : name ≠ "request") (response : name ≠ "response") :
    (token name argument).NamesHeader :=
  fun same => absurd same (not_or_intro request response)

/-- A token that reads neither clocks nor an argument needs nothing. -/
lemma needs_nothing {given : Prop} (holds : given)
    (others : name ∉ (["date", "response-time", "request", "response"] : List Text)) :
    given ↔ (token name argument).Timely view ∧ (token name argument).NamesHeader := by
  simp only [List.mem_cons, List.not_mem_nil, or_false, not_or] at others
  obtain ⟨date, time, request, response⟩ := others
  exact iff_of_true holds ⟨timely_of_ne date time, namesHeader_of_ne request response⟩

/-- The date needs a time that has one. -/
lemma needs_wall {given : Prop} (needs : given ↔ view.clock.wall.InYears) :
    given ↔ (token "date" argument).Timely view ∧ (token "date" argument).NamesHeader := by
  refine needs.trans ⟨fun inYears => ⟨⟨fun _ => inYears, fun same => ?_⟩, ?_⟩,
    fun both => both.1.1 rfl⟩
  · exact absurd same (by decide)
  · exact namesHeader_of_ne (by decide) (by decide)

/-- The milliseconds need a duration in range once they are shown. -/
lemma needs_steady {given : Prop} (needs : given ↔
      (view.reply.sent = true → ∀ c ∈ view.capture, c.InRange view.clock)) :
    given ↔ (token "response-time" argument).Timely view ∧
      (token "response-time" argument).NamesHeader := by
  refine needs.trans ⟨fun inRange => ⟨⟨fun same => ?_, fun _ => inRange⟩, ?_⟩,
    fun both => both.1.2 rfl⟩
  · exact absurd same (by decide)
  · exact namesHeader_of_ne (by decide) (by decide)

/-- A header token needs the name of a header. -/
lemma needs_header {given : Prop} (isHeader : name = "request" ∨ name = "response")
    (needs : given ↔ ∀ header ∈ argument, header.IsHeaderName) :
    given ↔ (token name argument).Timely view ∧ (token name argument).NamesHeader := by
  have timely : (token name argument).Timely view := by
    rcases isHeader with rfl | rfl <;> exact timely_of_ne (by decide) (by decide)
  exact needs.trans ⟨fun header => ⟨timely, fun _ => header⟩, fun needs => needs.2 isHeader⟩

end Needs

/-- An entry has a text if its token is built in, its clocks can be shown and its argument can
be searched for. -/
lemma exists_render_iff (complete : view.scope.IsComplete) (entry : Entry) :
    (∃ t, (entry.render Tokens.builtIn view).result = .ok t) ↔ entry.Answers view := by
  cases entry with
  | literal text => exact iff_of_true ⟨text, rfl⟩ ⟨trivial, trivial, trivial⟩
  | malformed item =>
    exact iff_of_false (not_exists_error_eq_ok _) fun answers => answers.builtIn
  | token name argument =>
    by_cases builtIn : name ∈ Tokens.builtIn.names
    · obtain ⟨headers, given⟩ := complete.exists_headers
      have known := builtIn
      simp only [Table.names, Tokens.builtIn, List.map_cons, List.map_nil, List.mem_cons,
        List.not_mem_nil, or_false] at known
      -- the tokens in order
      rcases known with rfl | rfl | rfl | rfl | rfl | rfl | rfl | rfl | rfl | rfl | rfl
      · exact exists_render_token_iff rfl builtIn
          (needs_nothing (Token.exists_url complete) (by decide))
      · exact exists_render_token_iff rfl builtIn
          (needs_nothing complete.exists_method (by decide))
      · exact exists_render_token_iff rfl builtIn (needs_steady Token.exists_responseTime_iff)
      · exact exists_render_token_iff rfl builtIn (needs_wall Token.exists_date_iff)
      · exact exists_render_token_iff (f := fun v _ => Token.status v) rfl builtIn
          (needs_nothing (Token.exists_status view) (by decide))
      · exact exists_render_token_iff rfl builtIn
          (needs_nothing (Token.exists_referrer complete) (by decide))
      · exact exists_render_token_iff rfl builtIn
          (needs_nothing (Token.exists_remoteAddr complete) (by decide))
      · exact exists_render_token_iff rfl builtIn
          (needs_nothing (Token.exists_httpVersion complete) (by decide))
      · exact exists_render_token_iff rfl builtIn
          (needs_nothing (Token.exists_userAgent complete) (by decide))
      · refine exists_render_token_iff rfl builtIn (needs_header (.inl rfl) ?_)
        rw [Token.requestHeader, given]
        exact Token.exists_headerNamed_iff headers argument
      · exact exists_render_token_iff rfl builtIn
          (needs_header (.inr rfl) (Token.exists_headerNamed_iff view.reply.headers argument))
    · have unknown : Tokens.builtIn.lookup name = none := by
        rw [Tokens.lookup, Table.get?_eq_none_iff, Bool.eq_false_iff, ne_eq, Table.has_eq_true_iff]
        exact builtIn
      refine iff_of_false ?_ fun answers => builtIn answers.builtIn
      rintro ⟨t, rendered⟩
      obtain ⟨f, x, known, -⟩ := render_eq_ok_iff.mp rendered
      cases unknown.symm.trans known

end Entry

/-! ### Formats -/

/-- The clocks of a view can be read in every format. -/
structure View.IsTimely (view : View) : Prop where
  wall : view.clock.wall.InYears
  steady : ∀ c ∈ view.capture, c.InRange view.clock

variable {view : View}

lemma View.IsTimely.timely (timely : view.IsTimely) (entry : Entry) : entry.Timely view := by
  cases entry with
  | token name argument => exact ⟨fun _ => timely.wall, fun _ _ => timely.steady⟩
  | literal text => trivial
  | malformed item => trivial

/-- With clocks that can be read only the name of a header can make a token fail. -/
lemma Entry.encoding_of_render (complete : view.scope.IsComplete) (timely : view.IsTimely)
    {entry : Entry} (builtIn : entry.IsBuiltIn) {e : Failure}
    (failed : (entry.render Tokens.builtIn view).result = .error e) :
    ∃ fault, e = .encoding fault := by
  have silent : ¬entry.NamesHeader := by
    intro header
    obtain ⟨t, rendered⟩ :=
      (exists_render_iff complete entry).mpr ⟨builtIn, timely.timely entry, header⟩
    cases failed.symm.trans rendered
  cases entry with
  | literal text => exact absurd trivial silent
  | malformed item => exact absurd trivial silent
  | token name argument =>
    obtain ⟨headers, given⟩ := complete.exists_headers
    obtain ⟨rfl | rfl, -⟩ := Classical.not_imp.mp silent
    · have named := (render_plain_eq_error_iff rfl).mp failed
      rw [Token.requestHeader, given] at named
      exact Token.encoding_of_headerNamed named
    · exact Token.encoding_of_headerNamed ((render_plain_eq_error_iff rfl).mp failed)

/-- **Missing data never makes rendering fail**: for whatever scope, capture and reply, a
format is rendered if its tokens are built in, its clocks can be read, and headers can be
searched for its arguments. With clocks that can be read the arguments alone decide, and
rendering fails with nothing but the failure to write one of them in bytes. -/
theorem CompiledFormat.render_builtIn_iff (complete : view.scope.IsComplete)
    (format : CompiledFormat) :
    ((∃ record, format.render Tokens.builtIn view = .ok record) ↔
        ∀ entry ∈ format.entries, entry.Answers view) ∧
      (view.IsTimely → (∀ entry ∈ format.entries, entry.IsBuiltIn) →
        ((∃ record, format.render Tokens.builtIn view = .ok record) ↔
          ∀ entry ∈ format.entries, entry.NamesHeader) ∧
        ∀ e, format.render Tokens.builtIn view = .error e → ∃ fault, e = .encoding fault) := by
  have answers : (∃ record, format.render Tokens.builtIn view = .ok record) ↔
      ∀ entry ∈ format.entries, entry.Answers view :=
    (exists_renderEntries_iff []).trans
      (forall₂_congr fun entry _ => Entry.exists_render_iff complete entry)
  refine ⟨answers, fun timely builtIn => ⟨answers.trans ?_, fun e failed => ?_⟩⟩
  · exact forall₂_congr fun entry isIn =>
      ⟨Entry.Answers.header, fun header => ⟨builtIn entry isIn, timely.timely entry, header⟩⟩
  · obtain ⟨entry, isIn, failed⟩ := exists_of_renderEntries_error failed
    exact Entry.encoding_of_render complete timely (builtIn entry isIn) failed

/-- A bare scope, and arguments in other scripts whose lower-case forms are bytes. -/
theorem CompiledFormat.render_builtIn_iff_bare :
    let scope : Scope := [("method", "GET"), ("headers", .list [])]
    let view : View :=
      { scope, capture := some ⟨some 0, .whole 0, .null, "/"⟩, reply := { sent := true }
        clock := ⟨.whole 0, 1500000⟩ }
    let format := ofItems [":url", ":remote-addr", ":http-version", ":referrer", "text", ":date",
      ":response-time", ":request[X-Id]", ":response[É]"]
    ∃ record, format.render Tokens.builtIn view = .ok record := by
  intro scope view format
  have complete : scope.IsComplete := .of_bare _
  have timely : view.IsTimely := by
    refine ⟨⟨⟨0, 0⟩, rfl, by decide, by decide⟩, fun c isIn start isStart => ?_⟩
    obtain rfl := Option.some.inj isIn
    obtain rfl := Option.some.inj isStart
    exact Nat.lt_of_lt_of_le (by decide) (Binary64.le_middle 970)
  have entries : format.entries = [.token "url" none, .token "remote-addr" none,
      .token "http-version" none, .token "referrer" none, .literal "text", .token "date" none,
      .token "response-time" none, .token "request" (some "X-Id"),
      .token "response" (some "É")] := by decide +kernel
  refine (((render_builtIn_iff complete format).2 timely ?_).1).mpr ?_
  · rw [entries]
    decide
  · rw [entries]
    decide +kernel

/-- The sign of a currency is no byte, in either letter case: to ask for such a header of the
request fails. -/
theorem CompiledFormat.render_currency_fails :
    let scope : Scope := [("method", "GET"), ("headers", .list [])]
    let view : View := { scope }
    let format := ofItems [":request[€]"]
    scope.IsComplete ∧ view.IsTimely ∧ (∀ entry ∈ format.entries, entry.IsBuiltIn) ∧
      format.render Tokens.builtIn view = .error (.encoding ⟨.latin1, 0, "€"⟩) := by
  intro scope view format
  refine ⟨.of_bare _, ⟨⟨⟨0, 0⟩, rfl, by decide, by decide⟩, fun c isIn => by cases isIn⟩, ?_,
    by decide +kernel⟩
  have entries : format.entries = [.token "request" (some "€")] := by decide +kernel
  rw [entries]
  decide

end AccessLog
