/-
Layers that never fail are not noticed.

* `App.IsTyped`: all messages that an application may send are well-formed.
* `World.Orderly`: steady layers, well-formed applications and requests, and no
  exchange with two jobs.
* `World.Running`: the same while an exchange has the turn.
* `World.Running.advance`: an application runs up to its next pause or its end
  as it does without layers.
* `World.Orderly.turn`, `World.Orderly.turns`: so do all exchanges on a loop,
  whose turns are those without layers, with turns that send events in between.
* `World.transparent`: **one exchange behind one layer** is the exchange without
  that layer.
-/
import AccessLog.Proofs.Exchange.Bare

namespace AccessLog

/-- All messages that an application may send are well-formed, whatever it has
seen before. -/
def App.IsTyped : App → Prop
  | .done _ => True
  | .send m next => m.IsTyped ∧ ∀ result, (next result).IsTyped
  | .receive next => ∀ result, (next result).IsTyped
  | .edit _ next => next.IsTyped
  | .elapse _ next => next.IsTyped
  | .pause next => next.IsTyped
  | .tell _ next => next.IsTyped

/-- The application of a job is well-formed. -/
def Job.IsTyped : Job → Prop
  | .start _ app => app.IsTyped
  | .resume _ app => app.IsTyped
  | .emit .. => True

namespace World

/-- The exchanges that wait for their turn. -/
def waiting (w : World) : List Nat :=
  w.queue.filterMap Job.exchange?

/-- Nothing can fail but applications and servers, and an exchange has one job
at most. -/
structure Orderly (w : World) : Prop where
  layers : ∀ layer ∈ w.layers, layer.Steady
  conversations : ∀ c ∈ w.conversations, c.Steady
  jobs : ∀ job ∈ w.queue, job.IsTyped
  requests : ∀ i app, .start i app ∈ w.queue → ∀ c, w.conversation? i = some c → c.scope.IsRequest
  once : w.waiting.Nodup

/-- The same while an exchange has the turn. -/
structure Running (i : Nat) (w : World) : Prop extends Orderly w where
  alone : i ∉ w.waiting

variable {w : World} {i : Nat} {c : Conversation}

lemma Orderly.steady (orderly : w.Orderly) (found : w.conversation? i = some c) : c.Steady :=
  orderly.conversations c (List.mem_of_getElem? found)

/-! ### What keeps a world orderly -/

namespace Running

lemma see (running : w.Running i) (o : Occurrence) : (w.see o).Running i :=
  ⟨⟨running.layers, running.conversations, running.jobs, running.requests, running.once⟩,
    running.alone⟩

lemma note (running : w.Running i) (j : Nat) (notes : List Noted) : (w.note j notes).Running i := by
  obtain ⟨events, queue, sent⟩ := exists_queue_note w j notes
  have same : (w.note j notes).waiting = w.waiting := by
    have taskless : events.filterMap Job.exchange? = [] := by
      rw [List.filterMap_eq_nil_iff]
      intro job isIn
      obtain ⟨_, _, _, rfl⟩ := sent job isIn
      rfl
    rw [waiting, queue, List.filterMap_append, taskless, List.append_nil, waiting]
  refine ⟨⟨running.layers, running.conversations, ?_, ?_, same ▸ running.once⟩,
    same ▸ running.alone⟩
  · intro job isIn
    rw [queue, List.mem_append] at isIn
    rcases isIn with old | new
    · exact running.jobs job old
    · obtain ⟨_, _, _, rfl⟩ := sent job new
      trivial
  · intro k app isIn
    rw [queue, List.mem_append] at isIn
    rcases isIn with old | new
    · exact running.requests k app old
    · obtain ⟨_, _, _, isEmit⟩ := sent _ new
      cases isEmit

lemma update (running : w.Running i) (steady : c.Steady) : (w.update i c).Running i := by
  refine ⟨⟨running.layers, ?_, running.jobs, ?_, running.once⟩, running.alone⟩
  · intro other isIn
    rcases List.mem_or_eq_of_mem_set isIn with old | rfl
    · exact running.conversations other old
    · exact steady
  · intro j app isIn other found
    have apart : i ≠ j := by
      rintro rfl
      exact running.alone (List.mem_filterMap.mpr ⟨_, isIn, rfl⟩)
    rw [conversation?, World.update, List.getElem?_set_ne apart] at found
    exact running.requests j app isIn other found

lemma tell (running : w.Running i) (c : Conversation) (what : Telling) :
    (w.tell i c what).Running i := by
  cases what with
  | caught e => exact running.see _
  | context => exact running.see _
  | line call =>
    exact ⟨⟨running.layers, running.conversations, running.jobs, running.requests, running.once⟩,
      running.alone⟩

/-- An application that pauses waits for its next turn. -/
lemma pause (running : w.Running i) {app : App} (typed : app.IsTyped) :
    Orderly { w with queue := w.queue ++ [.resume i app] } := by
  refine ⟨running.layers, running.conversations, ?_, ?_, ?_⟩
  · intro job isIn
    rcases List.mem_append.mp isIn with old | new
    · exact running.jobs job old
    · obtain rfl := List.mem_singleton.mp new
      exact typed
  · intro j app' isIn
    rcases List.mem_append.mp isIn with old | new
    · exact running.requests j app' old
    · cases List.mem_singleton.mp new
  · have longer : waiting { w with queue := w.queue ++ [.resume i app] } = w.waiting ++ [i] := by
      rw [waiting, List.filterMap_append]
      rfl
    rw [longer]
    refine List.nodup_append.mpr ⟨running.once, List.pairwise_singleton _ i, ?_⟩
    intro j isIn k single same
    rw [List.mem_singleton.mp single] at same
    exact running.alone (same ▸ isIn)

lemma send (running : w.Running i) (steady : c.Steady) {m : Message} (typed : m.IsTyped) :
    (w.send i c m).1.Running i := by
  obtain ⟨frames, notes, more, kept, sent⟩ := @exists_send w c steady m typed i
  have next : Conversation.Steady { c with frames, calls := c.calls ++ [.send m] } :=
    ⟨kept, steady.incoming⟩
  rw [sent]
  cases c.server.take c.calls m with
  | error e => exact ((running.note i notes).see _).update next
  | ok _ => exact (((running.note i notes).see _).note i more).update next

lemma receive (running : w.Running i) (steady : c.Steady) : (w.receive i c).1.Running i := by
  obtain ⟨frames, notes, kept, received⟩ := @exists_receive w c steady i
  have next : Conversation.Steady { c with frames, calls := c.calls ++ [.receive] } :=
    ⟨kept, steady.incoming⟩
  rw [received]
  exact ((running.note i notes).update next).see _

lemma finish (running : w.Running i) (steady : c.Steady) (outcome : Except Failure Unit) :
    (w.finish i c outcome).Running i := by
  obtain ⟨frames, notes, context, kept, finished⟩ := @exists_finish w c steady i outcome
  have next : Conversation.Steady { c with frames, context } := ⟨kept, steady.incoming⟩
  rw [finished]
  exact ((running.note i notes).update next).see _

/-! ### Applications -/

/-- What is done to an exchange, if there is one of that number, is done without
layers too. -/
lemma act (running : w.Running i) {f g : Conversation → World}
    (step : ∀ c, w.conversation? i = some c → c.Steady →
      (f c).bare = g c.bare ∧ (f c).Orderly) :
    (match w.conversation? i with
      | some c => f c
      | none => w).bare =
        (match w.bare.conversation? i with
        | some c => g c
        | none => w.bare) ∧
      (match w.conversation? i with
      | some c => f c
      | none => w).Orderly := by
  rw [conversation?_bare]
  cases found : w.conversation? i with
  | none => exact ⟨rfl, running.toOrderly⟩
  | some c => exact step c found (running.steady found)

/-- An application runs up to its next pause or its end as it does without
layers. -/
theorem advance (running : w.Running i) {app : App} (typed : app.IsTyped) :
    (World.advance i app w).bare = World.advance i app w.bare ∧
      (World.advance i app w).Orderly := by
  induction app generalizing w with
  | done outcome =>
    refine running.act fun c _ steady => ?_
    exact ⟨bare_finish steady w i outcome, (running.finish steady outcome).toOrderly⟩
  | send m next ih =>
    rw [World.advance, World.advance]
    refine running.act fun c _ steady => ?_
    rw [bare_send steady typed.1]
    exact ih _ (running.send steady typed.1) (typed.2 _)
  | receive next ih =>
    rw [World.advance, World.advance]
    refine running.act fun c _ steady => ?_
    rw [bare_receive steady]
    exact ih _ (running.receive steady) (typed _)
  | edit change next ih =>
    refine running.act fun c _ steady => ?_
    have changed : Running i (w.update i { c with scope := change c.scope }) :=
      running.update ⟨steady.frames, steady.incoming⟩
    have after := ih changed typed
    rw [bare_update] at after
    exact after
  | elapse nanos next ih =>
    have later : Running i
        { w with clock := { w.clock with ticks := w.clock.ticks + nanos } } :=
      ⟨⟨running.layers, running.conversations, running.jobs, running.requests, running.once⟩,
        running.alone⟩
    exact ih later typed
  | pause next =>
    refine ⟨?_, running.pause typed⟩
    simp only [World.advance, bare, List.filter_append]
    rfl
  | tell what next ih =>
    refine running.act fun c _ _ => ?_
    have after := ih (running.tell c what) typed
    rw [bare_tell] at after
    exact after

/-- A request enters and its application runs as it does without layers. -/
lemma start (running : w.Running i) {app : App} (typed : app.IsTyped)
    (request : ∀ c, w.conversation? i = some c → c.scope.IsRequest) :
    (w.begin i app).bare = w.bare.begin i app ∧ (w.begin i app).Orderly := by
  cases found : w.conversation? i with
  | none =>
    simp only [World.begin, conversation?_bare, found, Option.map_none]
    exact ⟨trivial, running.toOrderly⟩
  | some c =>
    have steady := running.steady found
    obtain ⟨frames, failed, notes, context, kept, began⟩ :=
      exists_begin found running.layers (request c found) app
    have entered : Running i ((w.note i notes).update i { c with frames, failed, context }) :=
      (running.note i notes).update ⟨kept, steady.incoming⟩
    have after := entered.advance typed
    rw [bare_enter found] at after
    rw [began, begin_bare w found]
    exact after

end Running

/-! ### Turns -/

lemma turns_add (w : World) (m n : Nat) : w.turns (m + n) = (w.turns m).turns n := by
  induction m generalizing w with
  | zero => rw [Nat.zero_add, turns]
  | succ m ih => rw [Nat.succ_add, turns, turns, ih]

namespace Orderly

/-- Sending an event is a turn that nobody notices. -/
lemma turn_emit (orderly : w.Orderly) {number : Nat} {event : Emission} {context : Context}
    {rest : List Job} (queue : w.queue = .emit number event context :: rest) :
    w.turn.Orderly ∧ w.turn.queue = rest ∧ w.turn.bare = w.bare := by
  have turned : w.turn = World.emit { w with queue := rest } number event context := by
    rw [turn, queue]
    rfl
  have left : World.bare { w with queue := rest } = w.bare := by
    simp [bare, queue, Job.exchange?]
  obtain ⟨sinks, network, seen, told, emitted, -, -⟩ :=
    exists_emit { w with queue := rest } number event context
  refine ⟨?_, ?_, ?_⟩
  · have once : (waiting { w with queue := rest }).Nodup := by
      have before := orderly.once
      rw [waiting, queue] at before
      exact before
    rw [turned, emitted]
    exact ⟨orderly.layers, orderly.conversations,
      fun job isIn => orderly.jobs job (queue ▸ List.mem_cons_of_mem _ isIn),
      fun i app isIn => orderly.requests i app (queue ▸ List.mem_cons_of_mem _ isIn), once⟩
  · rw [turned, emitted]
  · rw [turned, bare_emit, left]

/-- Any other job gives the turn to its exchange. -/
lemma running (orderly : w.Orderly) {job : Job} {rest : List Job} (queue : w.queue = job :: rest)
    (task : job.exchange? = some i) : Running i { w with queue := rest } := by
  have order : w.waiting = i :: waiting { w with queue := rest } := by
    rw [waiting, queue, List.filterMap_cons, task]
    rfl
  obtain ⟨alone, once⟩ := List.nodup_cons.mp (order ▸ orderly.once)
  exact ⟨⟨orderly.layers, orderly.conversations,
    fun job isIn => orderly.jobs job (queue ▸ List.mem_cons_of_mem _ isIn),
    fun i app isIn => orderly.requests i app (queue ▸ List.mem_cons_of_mem _ isIn), once⟩, alone⟩

/-- Such a turn is one that there is without layers. -/
lemma turn_task (orderly : w.Orderly) {job : Job} {rest : List Job} (queue : w.queue = job :: rest)
    (task : job.exchange? = some i) : w.turn.Orderly ∧ w.turn.bare = w.bare.turn := by
  have turned : w.turn = perform { w with queue := rest } job := by rw [turn, queue]
  have left : w.bare.queue = job :: (World.bare { w with queue := rest }).queue := by
    simp [bare, queue, task]
  have turnedBare : w.bare.turn = perform (World.bare { w with queue := rest }) job := by
    rw [turn, left]
    rfl
  have running := orderly.running queue task
  have typed : job.IsTyped := orderly.jobs job (queue ▸ List.mem_cons_self)
  rw [turned, turnedBare]
  cases job with
  | start j app =>
    obtain rfl : j = i := Option.some.inj task
    have request := orderly.requests j app (queue ▸ List.mem_cons_self)
    exact (running.start typed request).symm
  | resume j app =>
    obtain rfl : j = i := Option.some.inj task
    exact (running.advance typed).symm
  | emit number event context => cases task

/-- A turn is one that there is without layers, or nobody notices it. -/
theorem turn (orderly : w.Orderly) :
    w.turn.Orderly ∧ (w.turn.bare = w.bare ∨ w.turn.bare = w.bare.turn) := by
  cases queue : w.queue with
  | nil =>
    have still : w.turn = w := by rw [World.turn, queue]
    rw [still]
    exact ⟨orderly, .inl rfl⟩
  | cons job rest =>
    cases task : job.exchange? with
    | none =>
      cases job with
      | start j app => cases task
      | resume j app => cases task
      | emit number event context =>
        obtain ⟨kept, -, same⟩ := orderly.turn_emit queue
        exact ⟨kept, .inl same⟩
    | some j =>
      obtain ⟨kept, same⟩ := orderly.turn_task queue task
      exact ⟨kept, .inr same⟩

/-- The next turn that there is without layers comes after some turns. -/
lemma exists_turns_turn (orderly : w.Orderly) :
    ∃ n, (w.turns n).Orderly ∧ (w.turns n).bare = w.bare.turn := by
  obtain ⟨jobs, queue⟩ : ∃ jobs, w.queue = jobs := ⟨_, rfl⟩
  induction jobs generalizing w with
  | nil =>
    have still : w.bare.turn = w.bare := by simp [World.turn, bare, queue]
    exact ⟨0, orderly, still.symm⟩
  | cons job rest ih =>
    cases task : job.exchange? with
    | none =>
      cases job with
      | start j app => cases task
      | resume j app => cases task
      | emit number event context =>
        obtain ⟨kept, left, same⟩ := orderly.turn_emit queue
        obtain ⟨n, later, next⟩ := ih kept left
        exact ⟨n + 1, later, next.trans (by rw [same])⟩
    | some j => exact ⟨1, orderly.turn_task queue task⟩

/-- What is done in some turns is done without layers in no more of them. -/
theorem exists_bare_turns (orderly : w.Orderly) (n : Nat) :
    ∃ k ≤ n, (w.turns n).bare = w.bare.turns k := by
  induction n generalizing w with
  | zero => exact ⟨0, Nat.le_refl 0, rfl⟩
  | succ n ih =>
    obtain ⟨kept, same⟩ := orderly.turn
    obtain ⟨k, few, later⟩ := ih kept
    rcases same with still | next
    · exact ⟨k, by omega, by rw [turns, later, still]⟩
    · exact ⟨k + 1, by omega, by rw [turns, later, next, turns]⟩

/-- What is done without layers is done behind them after some turns. -/
theorem exists_turns (orderly : w.Orderly) (k : Nat) :
    ∃ n, (w.turns n).bare = w.bare.turns k := by
  induction k generalizing w with
  | zero => exact ⟨0, rfl⟩
  | succ k ih =>
    obtain ⟨m, kept, next⟩ := orderly.exists_turns_turn
    obtain ⟨n, later⟩ := ih kept
    exact ⟨m + n, by rw [turns_add, later, next, turns]⟩

end Orderly

lemma orderly_turns (orderly : w.Orderly) (n : Nat) : (w.turns n).Orderly := by
  induction n generalizing w with
  | zero => exact orderly
  | succ n ih => exact ih orderly.turn.1

/-! ### One exchange -/

/-- An exchange that is about to start. -/
def starting (layers : List Layer) (sinks : List Sink) (network : Network) (clock : Clock)
    (server : Server) (scope : Scope) (app : App) : World where
  layers
  sinks
  network
  clock
  conversations := [{ server, scope }]
  queue := [.start 0 app]

/-- An exchange behind steady layers, of a well-formed application and request. -/
lemma orderly_starting {layers : List Layer} (steady : ∀ layer ∈ layers, layer.Steady)
    {server : Server}
    (incoming : ∀ before, ∃ type, (server.incoming before).get? "type" = some type)
    {scope : Scope} (request : scope.IsRequest) {app : App} (typed : app.IsTyped)
    (sinks : List Sink) (network : Network) (clock : Clock) :
    (starting layers sinks network clock server scope app).Orderly := by
  refine ⟨steady, ?_, ?_, ?_, List.pairwise_singleton _ 0⟩
  · intro c isIn
    obtain rfl := List.mem_singleton.mp isIn
    exact ⟨List.forall_mem_nil _, incoming⟩
  · intro job isIn
    obtain rfl := List.mem_singleton.mp isIn
    exact typed
  · intro i started isIn c found
    cases List.mem_singleton.mp isIn
    cases found
    exact request

/-- **One exchange behind one layer** that never fails, immediate or not, is the
exchange without it. Whatever the application and the server do, each turn
leaves what some turn leaves without the layer, and the other way round: the same
calls on the server with the same messages, the same ends of these, the same
messages that come in, the same end of the application, and until then the same
way for it to go on. An application that never ends is covered by all its
beginnings. -/
theorem transparent {layer : Layer} (steady : layer.Steady) {server : Server}
    (incoming : ∀ before, ∃ type, (server.incoming before).get? "type" = some type)
    {scope : Scope} (request : scope.IsRequest) {app : App} (typed : app.IsTyped)
    (sinks : List Sink) (network : Network) (clock : Clock) :
    (∀ n, ∃ k ≤ n, ((starting [layer] sinks network clock server scope app).turns n).bare =
        (starting [] [] {} clock server scope app).turns k) ∧
      ∀ k, ∃ n, ((starting [layer] sinks network clock server scope app).turns n).bare =
        (starting [] [] {} clock server scope app).turns k := by
  have orderly := orderly_starting (List.forall_mem_singleton.mpr steady) incoming request typed
    sinks network clock
  exact ⟨orderly.exists_bare_turns, orderly.exists_turns⟩

/-- A server that refuses the second message, and an application that sends it
again. -/
theorem transparent_refused_body :
    let layer : Layer := ⟨false, fun _ => .ok .null, fun _ => .ok "seen", "T"⟩
    let server := Server.ofLists [] [(2, .wrongType)]
    let scope : Scope := [("type", "http"), ("client", .tuple ["10.0.0.1", .int 80])]
    let head : Message := [("type", "http.response.start"), ("status", .int 200)]
    let body : Message := [("type", "http.response.body")]
    let app : App := .send head fun _ => .receive fun _ => .send body fun
      | .ok _ => .done (.ok ())
      | .error e => .tell (.caught e) (.pause (.send body fun result => .done result))
    let behind := starting [layer] [.recorder] {} {} server scope app
    let alone := starting [] [] {} {} server scope app
    (∃ k ≤ 3, (behind.turns 3).bare = alone.turns k) ∧
      (∃ n, (behind.turns n).bare = alone.turns 2) ∧
      (alone.turns 2).conversations.map (·.calls) =
        [[.send head, .receive, .send body, .send body]] := by
  intro layer server scope head body app behind alone
  have steady : layer.Steady := ⟨fun _ => ⟨_, rfl⟩, fun _ => ⟨_, rfl⟩⟩
  have incoming (before : List ServerCall) :
      ∃ type, (server.incoming before).get? "type" = some type := ⟨"http.disconnect", rfl⟩
  have request : scope.IsRequest :=
    ⟨_, rfl, fun _ => ⟨.inr ⟨_, .inr rfl⟩, [], rfl⟩⟩
  have headTyped : head.IsTyped := ⟨⟨_, rfl⟩, fun _ => ⟨⟨_, rfl⟩, [], rfl⟩⟩
  have bodyTyped : body.IsTyped := ⟨⟨_, rfl⟩, nofun⟩
  have again (result : Except Failure Unit) : App.IsTyped (match result with
      | .ok _ => .done (.ok ())
      | .error e => .tell (.caught e) (.pause (.send body fun result => .done result))) := by
    cases result with
    | ok _ => trivial
    | error e => exact ⟨bodyTyped, fun _ => trivial⟩
  have typed : app.IsTyped := ⟨headTyped, fun _ _ => ⟨bodyTyped, again⟩⟩
  obtain ⟨covered, covers⟩ := transparent steady incoming request typed [.recorder] {} {}
  exact ⟨covered 3, covers 2, by decide⟩

end World

end AccessLog
