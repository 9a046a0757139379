/-
When a record is attempted: once, at the first completion of the exchange.

* `Exchange.Happening.completes`: the server has taken the final part, the
  client is found to be gone, or the application is done.
* `Exchange.Listening`, `Exchange.Silent`: the two phases of an exchange, before
  its completion and after it; an immediate layer is silent from the start.
* `Exchange.step_going`, `Exchange.sent_final`, `Exchange.received_gone`: a
  happening is a signal if it completes the exchange, and else changes only the
  reply.
* `Listening.step`, `Listening.step_completes`, `Silent.step`: what one
  happening makes of each phase.
* `Listening.run`, `Listening.attempts_run`, `Silent.run`: what a run makes of
  them.
* `Layer.attempt_asks`: what an attempt asks of the skip policy and of the renderer.
* `Scope.IsTyped`, `Exchange.enter_immediate`, `Exchange.enter_waiting`: the
  entry of a request whose scope has values of the right kinds.
* `Exchange.AttemptsAfter`, `Exchange.exists_readings_of_attempt`: an attempt sees the
  exchange, the scope and the clocks as they are at the entry or after the first completion.
* `Exchange.attempted_once`: **one attempt for each exchange**, at the entry or
  at the first completion, on the view that this event leaves behind.
-/
import AccessLog.Proofs.Exchange.Reply

namespace AccessLog

/-- The client is gone. -/
def Message.isDisconnect (m : Message) : Bool :=
  m.messageKind = .ok .disconnect

namespace Exchange

/-- Whether a happening completes the exchange. -/
def Happening.completes : Happening → Bool
  | .sending _ => false
  | .sent m => m.isFinal
  | .received m => m.isDisconnect
  | .ended => true

variable {layer : Layer} {scope : Scope} {clock : Clock} {x : Exchange}

/-! ### The two phases -/

/-- Both completions are waited for, and nothing was attempted. -/
structure Listening (x : Exchange) : Prop where
  listeners : x.response.listeners = { finish := [.recorder], close := [.recorder] }
  fired : x.fired = false
  attempts : x.attempts = []
  unfinished : x.response.reply.finished = false

/-- Nobody waits for a completion. -/
def Silent (x : Exchange) : Prop :=
  x.response.listeners = {}

/-- What a completion makes of an exchange with a reply. -/
def completed (layer : Layer) (scope : Scope) (clock : Clock) (x : Exchange) (reply : Reply) :
    Exchange :=
  { capture := x.capture
    response := { reply }
    fired := true
    attempts := [layer.attempt { scope, clock, capture := some x.capture, reply }] }

lemma silent_completed (reply : Reply) : (completed layer scope clock x reply).Silent := rfl

/-- The first signal makes the attempt, whatever comes of it, and ends all
waiting. -/
lemma Listening.signal (h : x.Listening) (s : Signal) (reply : Reply) :
    (signal layer scope clock s (x.withReply reply)).1 = completed layer scope clock x reply := by
  obtain ⟨capture, ⟨_, _⟩, _, _⟩ := x
  obtain ⟨rfl, rfl, rfl, -⟩ := h
  cases s with
  | finish =>
    rw [Exchange.signal, withReply, Listeners.of, deliver]
    split <;> next _ h => exact (congrArg Prod.fst h).symm
  | close =>
    rw [Exchange.signal, withReply, Listeners.of, deliver]
    split <;> next _ h => exact (congrArg Prod.fst h).symm

/-- A happening that completes nothing changes only the reply. -/
lemma step_going {h : Happening} (going : h.completes = false) :
    (step layer scope clock x h).1 = x.withReply (x.response.reply.after h) := by
  cases h with
  | sending m =>
    rw [step, sending, Reply.after]
    cases kind : m.messageKind with
    | error e => rfl
    | ok k => cases k <;> rfl
  | sent m =>
    rw [Happening.completes, Message.isFinal] at going
    rw [step, sent, Reply.after, Message.isFinal]
    cases kind : m.messageKind with
    | error e => rfl
    | ok k =>
      cases k with
      | start => rfl
      | body =>
        have more : m.moreBody = true := by simpa [kind] using going
        simp [more, withReply]
      | pathSend => simp [kind] at going
      | disconnect => rfl
      | other => rfl
  | received m =>
    rw [Happening.completes, Message.isDisconnect] at going
    rw [step, received, Reply.after]
    split
    · next gone => simp [gone] at going
    · rfl
    · rfl
  | ended => simp [Happening.completes] at going

/-- A completion marks the reply as finished only if it is the final part. -/
lemma finished_after {reply : Reply} {h : Happening} (going : h.completes = false) :
    (reply.after h).finished = reply.finished := by
  cases h with
  | sending m =>
    rw [Reply.after]
    split
    · rw [Reply.stage]
      split
      · rfl
      · split <;> rfl
    · rfl
  | sent m =>
    rw [Happening.completes] at going
    rw [Reply.after, going]
    split <;> rfl
  | received m => rfl
  | ended => rfl

/-- The server's taking the final part is a signal on a finished reply. -/
lemma sent_final {m : Message} (final : m.isFinal = true) :
    sent layer scope clock m x =
      signal layer scope clock .finish (x.withReply (x.response.reply.after (.sent m))) := by
  have after : x.response.reply.after (.sent m) = { x.response.reply with finished := true } := by
    rw [Reply.after, final]
    rw [Message.isFinal] at final
    split
    · next start => simp [start] at final
    · rfl
  rw [after, sent]
  rw [Message.isFinal] at final
  cases kind : m.messageKind with
  | error e => simp [kind] at final
  | ok k =>
    cases k with
    | start => simp [kind] at final
    | body =>
      have last : m.moreBody = false := by simpa [kind] using final
      simp only [last, Bool.false_eq_true, if_false]
      rfl
    | pathSend => rfl
    | disconnect => simp [kind] at final
    | other => simp [kind] at final

/-- That the client is gone is a signal. -/
lemma received_gone {m : Message} (gone : m.isDisconnect = true) :
    received layer scope clock m x = signal layer scope clock .close x := by
  rw [Message.isDisconnect, decide_eq_true_eq] at gone
  rw [received, gone]

namespace Listening

/-- Without a completion an exchange goes on listening. -/
lemma step (l : x.Listening) {h : Happening} (going : h.completes = false) :
    (step layer scope clock x h).1.Listening := by
  rw [step_going going]
  exact ⟨l.listeners, l.fired, l.attempts, (finished_after going).trans l.unfinished⟩

/-- The first completion makes the one attempt. -/
lemma step_completes (l : x.Listening) {h : Happening} (completes : h.completes = true) :
    (Exchange.step layer scope clock x h).1 =
      completed layer scope clock x (x.response.reply.after h) := by
  cases h with
  | sending m => simp [Happening.completes] at completes
  | sent m =>
    rw [Exchange.step, sent_final completes]
    exact l.signal .finish _
  | received m =>
    rw [Exchange.step, received_gone completes]
    exact l.signal .close x.response.reply
  | ended =>
    have cut : (Exchange.signal layer scope clock .close x).1 =
        completed layer scope clock x x.response.reply := l.signal .close _
    rw [Exchange.step, ended, l.unfinished]
    simp only [Bool.false_eq_true, if_false]
    split
    · exact cut
    · -- the list of listeners is empty already when it is cleared
      exact congrArg (fun y : Exchange => y.withListeners {}) cut

end Listening

namespace Silent

/-- Once nobody waits, a signal does nothing. -/
lemma signal (silent : x.Silent) (s : Signal) (reply : Reply) :
    Exchange.signal layer scope clock s (x.withReply reply) = (x.withReply reply, .ok ()) := by
  obtain ⟨capture, ⟨_, _⟩, fired, attempts⟩ := x
  obtain rfl := silent
  cases s <;> rfl

/-- Once nobody waits, a happening changes only the reply. -/
lemma step (silent : x.Silent) (h : Happening) :
    (Exchange.step layer scope clock x h).1 = x.withReply (x.response.reply.after h) := by
  cases completes : h.completes with
  | false => exact step_going completes
  | true =>
    cases h with
    | sending m => simp [Happening.completes] at completes
    | sent m => rw [Exchange.step, sent_final completes, silent.signal]
    | received m =>
      rw [Exchange.step, received_gone completes]
      exact congrArg Prod.fst (silent.signal .close x.response.reply)
    | ended =>
      have cut : Exchange.signal layer scope clock .close x = (x, .ok ()) :=
        silent.signal .close x.response.reply
      rw [Exchange.step, ended, cut]
      simp only [ite_self]
      obtain ⟨capture, ⟨_, _⟩, fired, attempts⟩ := x
      obtain rfl := silent
      rfl

/-- Once nobody waits, a run makes no attempt. -/
lemma run (silent : x.Silent) (moments : List Moment) :
    (Exchange.run layer x moments).Silent ∧
      (Exchange.run layer x moments).attempts = x.attempts := by
  induction moments generalizing x with
  | nil => exact ⟨silent, rfl⟩
  | cons moment rest ih =>
    have next : (Exchange.step layer moment.1 moment.2.1 x moment.2.2).1.Silent := by
      rw [silent.step]
      exact silent
    obtain ⟨still, same⟩ := ih next
    refine ⟨still, same.trans ?_⟩
    rw [silent.step]
    rfl

end Silent

namespace Listening

/-- Before its completion an exchange makes no attempt. -/
lemma run (l : x.Listening) {moments : List Moment}
    (going : ∀ moment ∈ moments, moment.2.2.completes = false) :
    (Exchange.run layer x moments).Listening := by
  induction moments generalizing x with
  | nil => exact l
  | cons moment rest ih =>
    exact ih (l.step (going _ List.mem_cons_self)) fun m h => going m (List.mem_cons_of_mem _ h)

/-- The first completion of a run makes its one attempt, on the view that it
leaves behind. -/
lemma attempts_run (l : x.Listening) {before after : List Moment} {last : Moment}
    (going : ∀ moment ∈ before, moment.2.2.completes = false)
    (completes : last.2.2.completes = true) :
    (Exchange.run layer x (before ++ last :: after)).attempts =
      [layer.attempt ((Exchange.run layer x (before ++ [last])).view last.1 last.2.1)] := by
  have made : Exchange.run layer x (before ++ [last]) =
      completed layer last.1 last.2.1 (Exchange.run layer x before)
        ((Exchange.run layer x before).response.reply.after last.2.2) := by
    rw [run_append]
    exact (l.run going).step_completes completes
  have silent : (Exchange.run layer x (before ++ [last])).Silent := by
    rw [made]
    exact silent_completed _
  rw [List.append_cons, run_append, (silent.run after).2, made]
  rfl

end Listening

/-- A run in which something completes has a first completion. -/
lemma exists_first_completion {moments : List Moment}
    (done : ∃ moment ∈ moments, moment.2.2.completes = true) :
    ∃ before last after, moments = before ++ last :: after ∧
      (∀ moment ∈ before, moment.2.2.completes = false) ∧ last.2.2.completes = true := by
  obtain ⟨moment, isIn, completes⟩ := done
  obtain ⟨last, found⟩ :=
    Option.isSome_iff_exists.mp
      ((List.find?_isSome (p := fun m : Moment => m.2.2.completes)).mpr ⟨moment, isIn, completes⟩)
  obtain ⟨completes, before, after, rfl, going⟩ := List.find?_eq_some_iff_append.mp found
  exact ⟨before, last, after, rfl, fun m h => by simpa using going m h, completes⟩

end Exchange

/-! ### The attempt -/

/-- In an attempt the skip policy is asked about the view, and the renderer about
the same view if the policy answers that nothing is to be skipped, and not else. -/
lemma Layer.attempt_asks (layer : Layer) (view : View) :
    (layer.attempt view).view = view ∧ (layer.attempt view).skipped = layer.skip view ∧
      ∀ answer, (layer.attempt view).rendered = some answer ↔
        (∃ v, layer.skip view = .ok v ∧ v.truthy = false) ∧ answer = layer.render view := by
  rw [attempt]
  cases layer.skip view with
  | error e => simp
  | ok v =>
    refine ⟨rfl, rfl, fun answer => ?_⟩
    cases truthy : v.truthy with
    | true => simp [truthy]
    | false => simp [truthy, eq_comm (a := answer)]

/-! ### The entry -/

/-- Peer and query of a scope are of the right kinds, as far as they are there. -/
structure Scope.IsTyped (scope : Scope) : Prop where
  client : scope.value "client" = .null ∨
    ∃ parts, scope.value "client" = .list parts ∨ scope.value "client" = .tuple parts
  query : ∃ bytes, (scope.get? "query_string").getD (.bytes []) = .bytes bytes

lemma Scope.IsTyped.exists_peerHost {scope : Scope} (typed : scope.IsTyped) :
    ∃ host, scope.peerHost = .ok host := by
  rw [peerHost]
  rcases typed.client with absent | ⟨parts, listed | paired⟩
  · exact ⟨.null, by simp [absent, Value.truthy]⟩
  · cases parts <;> simp [listed, Value.truthy, Value.first]
  · cases parts <;> simp [paired, Value.truthy, Value.first]

lemma Scope.IsTyped.exists_pathWithQuery {scope : Scope} (typed : scope.IsTyped) :
    ∃ url, scope.pathWithQuery = .ok url := by
  obtain ⟨bytes, query⟩ := typed.query
  simp only [pathWithQuery, query]
  split
  · exact ⟨_, rfl⟩
  · exact ⟨_, rfl⟩

/-- What is kept of a request can be taken from its scope. -/
lemma Scope.IsTyped.exists_capture {scope : Scope} (typed : scope.IsTyped) (clock : Clock) :
    ∃ capture, Capture.begin scope clock = .ok capture := by
  obtain ⟨host, foundHost⟩ := typed.exists_peerHost
  obtain ⟨url, foundUrl⟩ := typed.exists_pathWithQuery
  exact ⟨_, by rw [Capture.begin, foundHost, foundUrl]; rfl⟩

/-- What is kept are peer and query of the scope and the readings of the clocks. -/
lemma Capture.exists_of_begin {scope : Scope} {clock : Clock} {capture : Capture}
    (taken : Capture.begin scope clock = .ok capture) :
    ∃ host url, scope.peerHost = .ok host ∧ scope.pathWithQuery = .ok url ∧
      capture = ⟨some clock.ticks, clock.wall, host, url⟩ := by
  rw [Capture.begin] at taken
  cases isHost : scope.peerHost with
  | error e =>
    rw [isHost] at taken
    cases taken
  | ok host =>
    cases isUrl : scope.pathWithQuery with
    | error e =>
      rw [isHost, isUrl] at taken
      cases taken
    | ok url =>
      rw [isHost, isUrl] at taken
      cases taken
      exact ⟨host, url, rfl, rfl, rfl⟩

namespace Exchange

variable {layer : Layer} {scope : Scope} {clock : Clock} {x : Exchange}

lemma enter_immediate {capture : Capture} (taken : Capture.begin scope clock = .ok capture)
    (immediate : layer.immediate = true) :
    enter layer scope clock = .ok (record layer scope clock { capture }) := by
  rw [enter, taken]
  simp [immediate, start, bind, Except.bind, pure, Except.pure]

lemma enter_waiting {capture : Capture} (taken : Capture.begin scope clock = .ok capture)
    (immediate : layer.immediate = false) :
    enter layer scope clock = .ok (start layer capture, .ok ()) := by
  rw [enter, taken]
  simp [immediate, bind, Except.bind, pure, Except.pure]

lemma listening_start (capture : Capture) (immediate : layer.immediate = false) :
    (start layer capture).Listening := by
  rw [start, immediate]
  exact ⟨rfl, rfl, rfl, rfl⟩

/-- What was entered has kept what the scope shows, in one of the two modes. -/
lemma exists_of_enter {result : Except Failure Unit}
    (entered : enter layer scope clock = .ok (x, result)) :
    ∃ capture, (layer.immediate = true ∧ x = (record layer scope clock { capture }).1) ∨
      (layer.immediate = false ∧ x = start layer capture) := by
  cases taken : Capture.begin scope clock with
  | error e =>
    rw [enter, taken] at entered
    cases entered
  | ok capture =>
    refine ⟨capture, ?_⟩
    cases mode : layer.immediate with
    | true =>
      rw [enter_immediate taken mode, Except.ok.injEq] at entered
      exact .inl ⟨rfl, (congrArg Prod.fst entered).symm⟩
    | false =>
      rw [enter_waiting taken mode, Except.ok.injEq] at entered
      exact .inr ⟨rfl, (congrArg Prod.fst entered).symm⟩

/-- The reply is empty at the entry. -/
lemma reply_enter {result : Except Failure Unit}
    (entered : enter layer scope clock = .ok (x, result)) : x.response.reply = {} := by
  obtain ⟨capture, ⟨-, rfl⟩ | ⟨mode, rfl⟩⟩ := exists_of_enter entered
  · rfl
  · rw [start, mode]
    rfl

/-- What was entered has kept what was taken from the scope. -/
lemma capture_enter {result : Except Failure Unit}
    (entered : enter layer scope clock = .ok (x, result)) :
    Capture.begin scope clock = .ok x.capture := by
  cases taken : Capture.begin scope clock with
  | error e =>
    rw [enter, taken] at entered
    cases entered
  | ok capture =>
    cases mode : layer.immediate with
    | true =>
      rw [enter_immediate taken mode, Except.ok.injEq] at entered
      exact congrArg Except.ok (congrArg (fun pair => pair.1.capture) entered)
    | false =>
      rw [enter_waiting taken mode, Except.ok.injEq, start, mode] at entered
      exact congrArg Except.ok (congrArg (fun pair => pair.1.capture) entered)

/-- The layer makes its attempt after these moments: an immediate one at the
entry, any other at the first completion. -/
def AttemptsAfter (layer : Layer) (seen : List Moment) : Prop :=
  (layer.immediate = true ∧ seen = []) ∨
    (layer.immediate = false ∧ ∃ before last, seen = before ++ [last] ∧
      (∀ moment ∈ before, moment.2.2.completes = false) ∧ last.2.2.completes = true)

/-- Scope and clocks as they are after some moments. -/
def readings (scope : Scope) (clock : Clock) (moments : List Moment) : Scope × Clock :=
  ((moments.getLast?).map fun last => (last.1, last.2.1)).getD (scope, clock)

/-- An attempt is made at the entry or at the first completion, and sees the
exchange, the scope and the clocks as they are then. -/
lemma exists_readings_of_attempt {result : Except Failure Unit}
    (entered : enter layer scope clock = .ok (x, result)) {moments : List Moment} {a : Attempt}
    (made : a ∈ (run layer x moments).attempts) :
    ∃ seen rest, moments = seen ++ rest ∧ AttemptsAfter layer seen ∧
      a = layer.attempt ((run layer x seen).view (readings scope clock seen).1
        (readings scope clock seen).2) := by
  obtain ⟨capture, ⟨mode, rfl⟩ | ⟨mode, rfl⟩⟩ := exists_of_enter entered
  · have silent : (record layer scope clock { capture }).1.Silent := rfl
    rw [(silent.run moments).2] at made
    exact ⟨[], moments, rfl, .inl ⟨mode, rfl⟩, List.mem_singleton.mp made⟩
  · have listening := listening_start capture mode
    by_cases done : ∃ moment ∈ moments, moment.2.2.completes = true
    · obtain ⟨before, last, after, rfl, going, completes⟩ := exists_first_completion done
      rw [listening.attempts_run going completes, List.mem_singleton] at made
      refine ⟨before ++ [last], after, List.append_cons before last after,
        .inr ⟨mode, before, last, rfl, going, completes⟩, ?_⟩
      rw [readings, List.getLast?_concat]
      exact made
    · have going : ∀ moment ∈ moments, moment.2.2.completes = false := by
        simpa using done
      rw [(listening.run going).attempts] at made
      exact absurd made List.not_mem_nil

/-- An attempt is made at the entry or at the first completion, and sees the
exchange as it is then. -/
lemma exists_cut_of_attempt {result : Except Failure Unit}
    (entered : enter layer scope clock = .ok (x, result)) {moments : List Moment} {a : Attempt}
    (made : a ∈ (run layer x moments).attempts) :
    ∃ seen rest, moments = seen ++ rest ∧ AttemptsAfter layer seen ∧ ∃ scope clock,
      a = layer.attempt ((run layer x seen).view scope clock) := by
  obtain ⟨seen, rest, cut, after, view⟩ := exists_readings_of_attempt entered made
  exact ⟨seen, rest, cut, after, _, _, view⟩

/-- An attempt sees the exchange as it is after some of the happenings. -/
lemma exists_view_of_attempt {result : Except Failure Unit}
    (entered : enter layer scope clock = .ok (x, result)) {moments : List Moment} {a : Attempt}
    (made : a ∈ (run layer x moments).attempts) :
    ∃ seen rest, moments = seen ++ rest ∧ ∃ scope clock,
      a = layer.attempt ((run layer x seen).view scope clock) := by
  obtain ⟨seen, rest, cut, -, view⟩ := exists_cut_of_attempt entered made
  exact ⟨seen, rest, cut, view⟩

/-- There is never more than one attempt, and one once the application is done. -/
lemma length_attempts_run {result : Except Failure Unit}
    (entered : enter layer scope clock = .ok (x, result)) (moments : List Moment) :
    (run layer x moments).attempts.length ≤ 1 ∧
      ((∃ moment ∈ moments, moment.2.2 = .ended) →
        (run layer x moments).attempts.length = 1) := by
  obtain ⟨capture, ⟨-, rfl⟩ | ⟨mode, rfl⟩⟩ := exists_of_enter entered
  · have silent : (record layer scope clock { capture }).1.Silent := rfl
    have one : (run layer (record layer scope clock { capture }).1 moments).attempts.length = 1 :=
      congrArg List.length (silent.run moments).2
    exact ⟨Nat.le_of_eq one, fun _ => one⟩
  · have listening := listening_start capture mode
    by_cases done : ∃ moment ∈ moments, moment.2.2.completes = true
    · obtain ⟨before, last, after, rfl, going, completes⟩ := exists_first_completion done
      rw [listening.attempts_run going completes]
      exact ⟨Nat.le_refl 1, fun _ => rfl⟩
    · have going : ∀ moment ∈ moments, moment.2.2.completes = false := by
        simpa using done
      rw [(listening.run going).attempts]
      refine ⟨Nat.zero_le 1, fun ⟨moment, isIn, ended⟩ => absurd ⟨moment, isIn, ?_⟩ done⟩
      rw [ended]
      rfl

/-- **One attempt for each exchange.** An immediate layer makes it at the entry
and never again. Any other layer makes none until the exchange completes, makes
one at the first completion, on the view that this happening leaves behind, and
none afterwards; so it has made exactly one once the application is done. An
attempt asks the skip policy about its view, and the renderer only if the policy
does not skip. -/
theorem attempted_once (layer : Layer) (clock : Clock) (typed : scope.IsTyped) :
    ∃ x result, enter layer scope clock = .ok (x, result) ∧
      (layer.immediate = true →
        x.attempts = [layer.attempt { scope, clock, capture := some x.capture }] ∧
        ∀ moments, (run layer x moments).attempts = x.attempts) ∧
      (layer.immediate = false →
        result = .ok () ∧
        (∀ moments, (run layer x moments).response.reply = Reply.afterAll {} moments) ∧
        (∀ moments, (∀ moment ∈ moments, moment.2.2.completes = false) →
          (run layer x moments).attempts = []) ∧
        (∀ before last after, (∀ moment ∈ before, moment.2.2.completes = false) →
          last.2.2.completes = true →
          (run layer x (before ++ last :: after)).attempts =
            [layer.attempt ((run layer x (before ++ [last])).view last.1 last.2.1)]) ∧
        ∀ moments, (∃ moment ∈ moments, moment.2.2 = .ended) →
          (run layer x moments).attempts.length = 1) ∧
      ∀ view, (layer.attempt view).view = view ∧ (layer.attempt view).skipped = layer.skip view ∧
        ∀ answer, (layer.attempt view).rendered = some answer ↔
          (∃ v, layer.skip view = .ok v ∧ v.truthy = false) ∧ answer = layer.render view := by
  obtain ⟨capture, taken⟩ := typed.exists_capture clock
  cases mode : layer.immediate with
  | true =>
    refine ⟨_, _, enter_immediate taken mode, fun _ => ⟨rfl, fun moments => ?_⟩, nofun,
      layer.attempt_asks⟩
    have silent : (record layer scope clock { capture }).1.Silent := rfl
    exact (silent.run moments).2
  | false =>
    have listening := listening_start capture mode
    refine ⟨_, _, enter_waiting taken mode, nofun, fun _ => ⟨rfl, ?_, ?_, ?_, ?_⟩,
      layer.attempt_asks⟩
    · intro moments
      rw [reply_run, start, mode]
      rfl
    · exact fun moments going => (listening.run going).attempts
    · exact fun before last after going completes => listening.attempts_run going completes
    · intro moments ⟨moment, isIn, ended⟩
      obtain ⟨before, last, after, rfl, going, completes⟩ :=
        exists_first_completion ⟨moment, isIn, by rw [ended]; rfl⟩
      rw [listening.attempts_run going completes]
      rfl

/-- A skip policy that fails, so that the renderer is not asked, a client that leaves after
the last part of the body, and a task that goes on sending after the end. -/
theorem attempted_once_failing_skip :
    let layer : Layer := ⟨false, fun _ => .error .wrongType, fun _ => .ok .null, "T"⟩
    let scope : Scope := [("type", "http"), ("client", .tuple ["10.0.0.1", .int 80])]
    let head : Message := [("type", "http.response.start"), ("status", .int 200)]
    let body : Message := [("type", "http.response.body")]
    let gone : Message := [("type", "http.disconnect")]
    let now (h : Happening) : Moment := (scope, {}, h)
    let before := [.sending head, .sent head, .sending body].map now
    let after := [.received gone, .ended, .sent body].map now
    scope.IsTyped ∧ ∃ x result, enter layer scope {} = .ok (x, result) ∧
      (run layer x before).attempts = [] ∧
      (∃ a, (run layer x (before ++ now (.sent body) :: after)).attempts = [a] ∧
        a.view = (run layer x (before ++ [now (.sent body)])).view scope {} ∧
        a.skipped = .error .wrongType ∧ a.rendered = none) ∧
      (run layer x (before ++ [now (.sent body)])).response.reply =
        { status := .int 200, sent := true, finished := true } := by
  intro layer scope head body gone now before after
  have typed : scope.IsTyped := ⟨.inr ⟨_, .inr rfl⟩, [], rfl⟩
  have going : ∀ moment ∈ before, moment.2.2.completes = false := by decide
  obtain ⟨x, result, entered, -, waits, asks⟩ := attempted_once layer {} typed
  obtain ⟨-, reply, early, once, -⟩ := waits rfl
  have made := once before (now (.sent body)) after going (by decide)
  refine ⟨typed, x, result, entered, early before going, ⟨_, made, ?_⟩, ?_⟩
  · obtain ⟨view, skipped, rendered⟩ :=
      asks ((run layer x (before ++ [now (.sent body)])).view scope {})
    refine ⟨view, skipped, Option.eq_none_iff_forall_ne_some.mpr fun answer asked => ?_⟩
    obtain ⟨⟨v, ⟨⟩, -⟩, -⟩ := (rendered answer).mp asked
  · rw [reply]
    decide

end Exchange

end AccessLog
