/-
Layers around one another.

* `World.Logged`: a well-formed exchange of the type that is logged.
* `World.eventsBy`: the events of a numbered layer so far, at its sink or on their
  way to it.
* `World.Agree`: after some turns two worlds show the same of an exchange and of a
  layer of each.
* `World.alongside_turn`, `World.alongside_turns`, `World.exists_alongside_turns`: each
  layer enters as it would alone, and goes through the course of the exchange.
* `World.exists_views_untimed`: other readings of the clocks change nothing else of
  what the layer is shown.
* `World.exists_agree`, `World.exists_agree_rest`: with the same readings a layer is
  after all turns where it is in another stack, and at the end.
* `World.alone_in_stack`: **layers compose**: the exchange stays what it is, each
  layer makes one attempt, and its record is the one that it would make alone.
* `World.stopped_ill_formed`: what is not well-formed stops behind layers only.
-/
import AccessLog.Proofs.Exchange.Course
import AccessLog.Proofs.Exchange.Untimed

namespace AccessLog

namespace World

/-- A well-formed exchange of the type that is logged. -/
structure Logged (server : Server) (scope : Scope) (app : App) : Prop where
  incoming : ∀ before, ∃ type, (server.incoming before).get? "type" = some type
  request : scope.IsRequest
  isHttp : (scope.value "type").same httpType = true
  typed : app.IsTyped

/-- The events of a numbered layer after some turns: those that went to its sink,
then those that wait. -/
def eventsBy (number n : Nat) (w : World) : List Emission :=
  handed number n w ++ (w.turns n).queuedBy number

/-- After some turns two worlds show the same exchange, and the same attempts and
events of a layer of each. -/
structure Agree (number n : Nat) (w : World) (other m : Nat) (v : World) : Prop where
  bare : (w.turns n).bare = (v.turns m).bare
  attempts : (w.turns n).attemptsBy number = (v.turns m).attemptsBy other
  events : w.eventsBy number n = v.eventsBy other m

lemma Agree.symm {w v : World} {number n other m : Nat} (agree : Agree number n w other m v) :
    Agree other m v number n w :=
  ⟨agree.bare.symm, agree.attempts.symm, agree.events.symm⟩

/-! ### The entry -/

section Entry

variable {w : World} {i number : Nat} {c : Conversation} {layer : Layer} {x₀ : Exchange}

/-- The layers under their numbers. -/
def numbered (layers : List Layer) : List (Nat × Layer) :=
  layers.zipIdx.map fun (l, k) => (k, l)

lemma mem_numbered {layers : List Layer} :
    (number, layer) ∈ numbered layers ↔ layers[number]? = some layer := by
  simp [numbered, List.mem_zipIdx_iff_getElem?]

/-- Each number stands for one layer. -/
lemma nodup_numbered (layers : List Layer) : ((numbered layers).map (·.1)).Nodup := by
  have numbers : (numbered layers).map (·.1) = List.range' 0 layers.length := by
    rw [numbered, List.map_map, ← List.zipIdx_map_snd 0 layers]
    rfl
  rw [numbers]
  exact List.nodup_range'

/-- A request of the type that is logged is well-formed. -/
lemma isTyped_of_request {scope : Scope} (request : scope.IsRequest)
    (isHttp : (scope.value "type").same httpType = true) : scope.IsTyped := by
  obtain ⟨type, isType, typed⟩ := request
  rw [Scope.value, isType] at isHttp
  exact typed isHttp

/-- Such a request is taken up by all layers. -/
lemma layersFor_of_request {scope : Scope} (request : scope.IsRequest)
    (isHttp : (scope.value "type").same httpType = true) (filled : w.layers ≠ []) :
    w.layersFor scope = .ok (numbered w.layers) := by
  obtain ⟨type, isType, -⟩ := request
  rw [Scope.value, isType] at isHttp
  have need : scope.need "type" = .ok type := by rw [Scope.need, isType]
  rw [layersFor, if_neg (by simpa using filled), need]
  exact congrArg Except.ok (if_pos isHttp)

/-- A layer that has just taken up the first request. -/
lemma alongside_enter {d : Conversation} {notes : List Noted} (found : w.conversation? i = some c)
    (unseen : w.seen = []) (unqueued : w.queue = [])
    (entered : Exchange.enter layer c.scope w.clock = .ok (x₀, .ok ()))
    (has : Stack.Has number layer x₀ d.frames)
    (noted : Stack.notedBy number notes = x₀.attempts.map ((layer.eventType, ·))) :
    Alongside i number layer x₀ [] [] ((w.note i notes).update i d) := by
  obtain ⟨events, queue, sent⟩ := exists_queue_note w i notes
  have there : ((w.note i notes).update i d).conversation? i = some d :=
    conversation?_update (w := w.note i notes) found d
  refine ⟨Exchange.phased_enter entered, ⟨d, there, has⟩, ?_, ?_, ?_, ?_⟩
  · have before : w.attemptsBy number = [] := by rw [attemptsBy, unseen, List.filterMap_nil]
    change (w.note i notes).attemptsBy number = _
    rw [attemptsBy_note, before, noted, List.map_map]
    exact List.map_id _
  · have before : w.queuedBy number = [] := by rw [queuedBy, unqueued, List.filterMap_nil]
    change [] ++ (w.note i notes).queuedBy number = _
    rw [queuedBy_note, before, noted, List.filterMap_map]
    rfl
  · intro outcome isIn
    rw [outcomes_update, outcomes_note, outcomes, unseen] at isIn
    exact absurd isIn List.not_mem_nil
  · intro job isIn
    have isIn : job ∈ (w.note i notes).queue := isIn
    rw [queue, unqueued] at isIn
    obtain ⟨_, _, _, rfl⟩ := sent job isIn
    intro j task
    cases task

end Entry

/-! ### One exchange -/

section Starting

variable {layers : List Layer} {server : Server} {scope : Scope} {app : App} {number : Nat}
  {layer : Layer} {clock : Clock} {x₀ : Exchange}

/-- Each of some steady layers takes up the request. -/
lemma Logged.exists_enter (logged : Logged server scope app)
    (steady : ∀ layer ∈ layers, layer.Steady) (known : layers[number]? = some layer)
    (clock : Clock) : ∃ x, Exchange.enter layer scope clock = .ok (x, .ok ()) :=
  Exchange.exists_enter_of_steady (steady layer (List.mem_of_getElem? known))
    (isTyped_of_request logged.request logged.isHttp) clock

/-- In its first turn each layer takes up the request as it would alone, and goes
through the course of the exchange. -/
lemma alongside_turn (steady : ∀ layer ∈ layers, layer.Steady) (logged : Logged server scope app)
    (known : layers[number]? = some layer)
    (entered : Exchange.enter layer scope clock = .ok (x₀, .ok ()))
    (sinks : List Sink) (network : Network) :
    Alongside 0 number layer x₀ [] (starting [] [] {} clock server scope app).courseOfTurn
      (starting layers sinks network clock server scope app).turn := by
  have orderly := orderly_starting steady logged.incoming logged.request logged.typed sinks network
    clock
  let c : Conversation := { server, scope }
  let w : World := { starting layers sinks network clock server scope app with queue := [] }
  have running : w.Running 0 :=
    orderly.running (show (starting ..).queue = [Job.start 0 app] from rfl) rfl
  have found : w.conversation? 0 = some c := rfl
  have isChosen : w.layersFor c.scope = .ok (numbered layers) :=
    layersFor_of_request logged.request logged.isHttp
      (List.ne_nil_of_mem (List.mem_of_getElem? known))
  obtain ⟨kept, began⟩ := begin_steady found steady logged.request app isChosen
  have steadyNumbered (l : Nat × Layer) (isIn : l ∈ numbered layers) : l.2.Steady :=
    steady l.2 (List.mem_of_getElem? (mem_numbered.mp isIn))
  obtain ⟨x, alone, has, noted⟩ :=
    @Stack.exists_has_enter number layer [] c.scope w.clock c.context [] _
      (isTyped_of_request logged.request logged.isHttp) steadyNumbered (nodup_numbered layers)
      (mem_numbered.mpr known) (List.forall_mem_nil _)
  obtain rfl : x₀ = x := (Prod.mk.inj (Except.ok.inj (entered.symm.trans alone))).1
  generalize Stack.enter c.scope w.clock [] [] c.context (numbered layers) = entry
    at kept began has noted
  have within := (running.note 0 entry.notes).update (c := { c with
    frames := entry.frames, failed := entry.failed, context := entry.context })
    ⟨kept, logged.incoming⟩
  have after := (alongside_enter found rfl rfl alone has noted).advance within logged.typed
  rw [bare_enter found, ← began] at after
  exact after

/-- The turns behind layers and those without them, of which each layer goes
through the course. -/
lemma alongside_turns (steady : ∀ layer ∈ layers, layer.Steady) (logged : Logged server scope app)
    (known : layers[number]? = some layer)
    (entered : Exchange.enter layer scope clock = .ok (x₀, .ok ()))
    (sinks : List Sink) (network : Network) :
    let stack := starting layers sinks network clock server scope app
    let without := starting [] [] {} clock server scope app
    (∀ n, ∃ k, (stack.turns (n + 1)).bare = without.turns (k + 1) ∧
      Alongside 0 number layer x₀ (handed number (n + 1) stack) (courseOfTurns (k + 1) without)
        (stack.turns (n + 1))) ∧
      ∀ k, ∃ n, (stack.turns (n + 1)).bare = without.turns (k + 1) ∧
        Alongside 0 number layer x₀ (handed number (n + 1) stack) (courseOfTurns (k + 1) without)
          (stack.turns (n + 1)) := by
  intro stack without
  have first := alongside_turn steady logged known entered sinks network
  have orderly : stack.Orderly := orderly_starting steady logged.incoming logged.request
    logged.typed sinks network clock
  obtain ⟨kept, same⟩ : stack.turn.Orderly ∧ stack.turn.bare = without.turn :=
    orderly.turn_task (show stack.queue = [.start 0 app] from rfl) rfl
  refine ⟨fun n => ?_, fun k => ?_⟩
  · obtain ⟨k, -, later, reached⟩ := first.exists_courseOfTurns kept n
    rw [same] at later reached
    exact ⟨k, later, reached⟩
  · obtain ⟨n, later, reached⟩ := first.exists_turns_courseOfTurns kept k
    rw [same] at later reached
    exact ⟨n, later, reached⟩

/-- When nothing is left to be done without layers, they come to rest, and each
layer has gone through the course. -/
lemma exists_alongside_rest (steady : ∀ layer ∈ layers, layer.Steady)
    (logged : Logged server scope app) (known : layers[number]? = some layer)
    (entered : Exchange.enter layer scope clock = .ok (x₀, .ok ()))
    (sinks : List Sink) (network : Network) {k : Nat}
    (done : ((starting [] [] {} clock server scope app).turns (k + 1)).queue = []) :
    let stack := starting layers sinks network clock server scope app
    let without := starting [] [] {} clock server scope app
    ∃ n, (stack.turns n).queue = [] ∧ (stack.turns n).bare = without.turns (k + 1) ∧
      Alongside 0 number layer x₀ (handed number n stack) (courseOfTurns (k + 1) without)
        (stack.turns n) := by
  intro stack without
  have orderly : stack.Orderly := orderly_starting steady logged.incoming logged.request
    logged.typed sinks network clock
  obtain ⟨n, bare, here⟩ := (alongside_turns steady logged known entered sinks network).2 k
  obtain ⟨m, still, same, there⟩ := here.exists_turns_rest orderly (bare ▸ done)
  exact ⟨m, still, same.trans bare, there⟩

/-- Each layer takes up the request, and after any turns has gone through the course of the
exchange. -/
lemma exists_alongside_turns (steady : ∀ layer ∈ layers, layer.Steady)
    (logged : Logged server scope app) (known : layers[number]? = some layer)
    (sinks : List Sink) (network : Network) (clock : Clock) (n : Nat) :
    let stack := starting layers sinks network clock server scope app
    let without := starting [] [] {} clock server scope app
    ∃ x₀ k, Exchange.enter layer scope clock = .ok (x₀, .ok ()) ∧
      (stack.turns (n + 1)).bare = without.turns (k + 1) ∧
      Alongside 0 number layer x₀ (handed number (n + 1) stack) (courseOfTurns (k + 1) without)
        (stack.turns (n + 1)) := by
  intro stack without
  obtain ⟨x₀, entered⟩ := logged.exists_enter steady known clock
  obtain ⟨k, bare, here⟩ := (alongside_turns steady logged known entered sinks network).1 n
  exact ⟨x₀, k, entered, bare, here⟩

/-- After any turns a layer has made one attempt at most, and one if the exchange
has ended, and its events are those of its attempts. -/
lemma length_attemptsBy (steady : ∀ layer ∈ layers, layer.Steady)
    (logged : Logged server scope app) (known : layers[number]? = some layer)
    (sinks : List Sink) (network : Network) (clock : Clock) (n : Nat) :
    let stack := starting layers sinks network clock server scope app
    ((stack.turns n).attemptsBy number).length ≤ 1 ∧
      (∀ outcome, (0, outcome) ∈ (stack.turns n).outcomes →
        ((stack.turns n).attemptsBy number).length = 1) ∧
      stack.eventsBy number n =
        ((stack.turns n).attemptsBy number).filterMap (Attempt.emission? layer.eventType) := by
  intro stack
  cases n with
  | zero => exact ⟨Nat.zero_le 1, fun outcome isIn => absurd isIn List.not_mem_nil, rfl⟩
  | succ n =>
    obtain ⟨x₀, k, entered, -, here⟩ :=
      exists_alongside_turns steady logged known sinks network clock n
    obtain ⟨once, last⟩ := Exchange.length_attempts_run entered
      (courseOfTurns (k + 1) (starting [] [] {} clock server scope app))
    rw [here.attempts]
    exact ⟨once, fun outcome isIn => last (here.ended outcome isIn), here.events⟩

/-- Whatever else the clocks had read, a layer alone would have been shown the same
apart from their readings. -/
lemma exists_views_untimed (steady : ∀ layer ∈ layers, layer.Steady)
    (logged : Logged server scope app) (known : layers[number]? = some layer)
    (sinks : List Sink) (network : Network) (clock : Clock) (n : Nat) :
    let stack := starting layers sinks network clock server scope app
    let without := starting [] [] {} clock server scope app
    ∃ k, (stack.turns (n + 1)).bare = without.turns (k + 1) ∧
      ∀ clock' x result moments, Exchange.enter layer scope clock' = .ok (x, result) →
        Exchange.untimed moments = Exchange.untimed (courseOfTurns (k + 1) without) →
        (Exchange.run layer x moments).attempts.map (·.view.untimed) =
          ((stack.turns (n + 1)).attemptsBy number).map (·.view.untimed) := by
  intro stack without
  obtain ⟨x₀, k, entered, bare, here⟩ :=
    exists_alongside_turns steady logged known sinks network clock n
  refine ⟨k, bare, fun clock' x result moments entered' same => ?_⟩
  rw [here.attempts]
  exact Exchange.views_run entered' entered same

/-! ### The same layer in two stacks -/

/-- Layers that have entered alike and gone through the same course agree. -/
lemma Alongside.agree {w v : World} {n m other : Nat} {moments : List Exchange.Moment}
    (a : Alongside 0 number layer x₀ (handed number n w) moments (w.turns n))
    (b : Alongside 0 other layer x₀ (handed other m v) moments (v.turns m))
    (bare : (w.turns n).bare = (v.turns m).bare) : Agree number n w other m v :=
  ⟨bare, a.attempts.trans b.attempts.symm, a.events.trans b.events.symm⟩

variable {others : List Layer} {other : Nat}

/-- After any turns of one stack there are turns of the other after which the
layer agrees with itself. -/
lemma exists_agree (steady : ∀ layer ∈ layers, layer.Steady)
    (steadyOthers : ∀ layer ∈ others, layer.Steady) (logged : Logged server scope app)
    (known : layers[number]? = some layer) (knownOther : others[other]? = some layer)
    (sinks sinks' : List Sink) (network network' : Network) (clock : Clock) (n : Nat) :
    ∃ m, Agree number n (starting layers sinks network clock server scope app)
      other m (starting others sinks' network' clock server scope app) := by
  cases n with
  | zero => exact ⟨0, rfl, rfl, rfl⟩
  | succ n =>
    obtain ⟨x₀, entered⟩ := logged.exists_enter steady known clock
    obtain ⟨k, bare, here⟩ := (alongside_turns steady logged known entered sinks network).1 n
    obtain ⟨m, bareOther, there⟩ :=
      (alongside_turns steadyOthers logged knownOther entered sinks' network').2 k
    exact ⟨m + 1, here.agree there (bare.trans bareOther.symm)⟩

/-- When nothing is left to be done without layers, the layer has handed over the
same events in both stacks. -/
lemma exists_agree_rest (steady : ∀ layer ∈ layers, layer.Steady)
    (steadyOthers : ∀ layer ∈ others, layer.Steady) (logged : Logged server scope app)
    (known : layers[number]? = some layer) (knownOther : others[other]? = some layer)
    (sinks sinks' : List Sink) (network network' : Network) {k : Nat}
    (done : ((starting [] [] {} clock server scope app).turns k).queue = []) :
    let stack := starting layers sinks network clock server scope app
    let stack' := starting others sinks' network' clock server scope app
    ∃ n m, (stack.turns n).queue = [] ∧ (stack'.turns m).queue = [] ∧
      handed number n stack = handed other m stack' ∧ Agree number n stack other m stack' := by
  intro stack stack'
  cases k with
  | zero => cases done
  | succ k =>
    obtain ⟨x₀, entered⟩ := logged.exists_enter steady known clock
    obtain ⟨n, rest, bare, here⟩ :=
      exists_alongside_rest steady logged known entered sinks network done
    obtain ⟨m, rest', bare', there⟩ :=
      exists_alongside_rest steadyOthers logged knownOther entered sinks' network' done
    have agree : Agree number n stack other m stack' := here.agree there (bare.trans bare'.symm)
    have events := agree.events
    rw [eventsBy, eventsBy, queuedBy, queuedBy, rest, rest', List.filterMap_nil,
      List.filterMap_nil, List.append_nil, List.append_nil] at events
    exact ⟨n, m, rest, rest', events, agree⟩

/-- **Layers compose.** Whatever steady layers there are around one another,
immediate or not, and whatever the application and the server do, each turn
leaves what some turn leaves without layers, and the other way round. Each layer
makes one attempt by the end of the exchange and none besides, and its events are
those of its attempt. This is made on the view that the layer would be shown alone,
apart from the readings of the clocks. If these are the same, so are attempt and
events at each point of the exchange, and when all is done, the layer has handed
over the same. -/
theorem alone_in_stack (steady : ∀ layer ∈ layers, layer.Steady)
    (incoming : ∀ before, ∃ type, (server.incoming before).get? "type" = some type)
    (request : scope.IsRequest) (typed : app.IsTyped) (sinks : List Sink) (network : Network)
    (clock : Clock) :
    let stack := starting layers sinks network clock server scope app
    let without := starting [] [] {} clock server scope app
    (∀ n, ∃ k ≤ n, (stack.turns n).bare = without.turns k) ∧
      (∀ k, ∃ n, (stack.turns n).bare = without.turns k) ∧
      ((scope.value "type").same httpType = true →
        ∀ number layer, layers[number]? = some layer →
          (∀ n,
            ((stack.turns n).attemptsBy number).length ≤ 1 ∧
            (∀ outcome, (0, outcome) ∈ (stack.turns n).outcomes →
              ((stack.turns n).attemptsBy number).length = 1) ∧
            stack.eventsBy number n =
              ((stack.turns n).attemptsBy number).filterMap
                (Attempt.emission? layer.eventType)) ∧
          (∀ n, ∃ k, (stack.turns (n + 1)).bare = without.turns (k + 1) ∧
            ∀ clock' x result moments, Exchange.enter layer scope clock' = .ok (x, result) →
              Exchange.untimed moments = Exchange.untimed (courseOfTurns (k + 1) without) →
              (Exchange.run layer x moments).attempts.map (·.view.untimed) =
                ((stack.turns (n + 1)).attemptsBy number).map (·.view.untimed)) ∧
          ∀ sinks' network',
            let alone := starting [layer] sinks' network' clock server scope app
            (∀ n, ∃ m, Agree number n stack 0 m alone) ∧
            (∀ m, ∃ n, Agree number n stack 0 m alone) ∧
            ∀ k, (without.turns k).queue = [] →
              ∃ n m, (stack.turns n).queue = [] ∧ (alone.turns m).queue = [] ∧
                handed number n stack = handed 0 m alone ∧ Agree number n stack 0 m alone) := by
  intro stack without
  have orderly : stack.Orderly :=
    orderly_starting steady incoming request typed sinks network clock
  refine ⟨orderly.exists_bare_turns, orderly.exists_turns, fun isHttp number layer known => ?_⟩
  have logged : Logged server scope app := ⟨incoming, request, isHttp, typed⟩
  refine ⟨length_attemptsBy steady logged known sinks network clock,
    exists_views_untimed steady logged known sinks network clock, fun sinks' network' => ?_⟩
  have own : ∀ l ∈ [layer], l.Steady :=
    List.forall_mem_singleton.mpr (steady layer (List.mem_of_getElem? known))
  have only : [layer][0]? = some layer := rfl
  refine ⟨fun n => ?_, fun m => ?_, fun k done => ?_⟩
  · exact exists_agree steady own logged known only sinks sinks' network network' clock n
  · obtain ⟨n, agree⟩ :=
      exists_agree own steady logged only known sinks' sinks network' network clock m
    exact ⟨n, agree.symm⟩
  · exact exists_agree_rest steady own logged known only sinks sinks' network network' done

end Starting

/-- An immediate layer around another, an application that changes the path of the
scope they share, and a server that refuses the first message: the inner layer
logs the changed path, as it would alone. -/
theorem alone_in_stack_changed_path :
    let path (view : View) : Except Failure Value := .ok (view.scope.value "path")
    let outer : Layer := ⟨true, fun _ => .ok .null, path, "Outer"⟩
    let inner : Layer := ⟨false, fun _ => .ok .null, path, "Inner"⟩
    let server := Server.ofLists [] [(1, .wrongType)]
    let scope : Scope := [("type", "http"), ("path", "/a")]
    let head : Message := [("type", "http.response.start"), ("status", .int 200)]
    let body : Message := [("type", "http.response.body")]
    let app : App := .send head fun _ => .edit (fun _ => [("type", "http"), ("path", "/b")])
      (.send body fun result => .done result)
    let stack := starting [outer, inner] [.recorder, .recorder] {} {} server scope app
    let alone := starting [inner] [.recorder] {} {} server scope app
    (∃ m, Agree 1 1 stack 0 m alone) ∧
      (∃ n m, (stack.turns n).queue = [] ∧ (alone.turns m).queue = [] ∧
        handed 1 n stack = handed 0 m alone) ∧
      stack.eventsBy 0 1 = [⟨"Outer", "/a"⟩] ∧ stack.eventsBy 1 1 = [⟨"Inner", "/b"⟩] := by
  intro path outer inner server scope head body app stack alone
  have steady : ∀ layer ∈ [outer, inner], layer.Steady :=
    List.forall_mem_cons.mpr ⟨⟨fun _ => ⟨_, rfl⟩, fun _ => ⟨_, rfl⟩⟩,
      List.forall_mem_singleton.mpr ⟨fun _ => ⟨_, rfl⟩, fun _ => ⟨_, rfl⟩⟩⟩
  have incoming (before : List ServerCall) :
      ∃ type, (server.incoming before).get? "type" = some type := ⟨"http.disconnect", rfl⟩
  have request : scope.IsRequest :=
    ⟨_, rfl, fun _ => ⟨.inl rfl, [], rfl⟩⟩
  have headTyped : head.IsTyped := ⟨⟨_, rfl⟩, fun _ => ⟨⟨_, rfl⟩, [], rfl⟩⟩
  have bodyTyped : body.IsTyped := ⟨⟨_, rfl⟩, nofun⟩
  have typed : app.IsTyped := ⟨headTyped, fun _ => ⟨bodyTyped, fun _ => trivial⟩⟩
  obtain ⟨-, -, composed⟩ := alone_in_stack steady incoming request typed
    [.recorder, .recorder] {} {}
  obtain ⟨-, -, single⟩ := composed rfl 1 inner rfl
  obtain ⟨covered, -, rest⟩ := single [.recorder] {}
  obtain ⟨n, m, still, still', same, -⟩ := rest 1 rfl
  exact ⟨covered 1, ⟨n, m, still, still', same⟩, by decide +kernel, by decide +kernel⟩

/-- What is not well-formed stops behind two layers, and would not without them: a
message without a type, a start message without a status or with headers that are
no list, what comes in without a type, and a scope without a type, with a peer
that is no pair or a query that is no bytes. -/
theorem stopped_ill_formed :
    let layer : Layer := ⟨false, fun _ => .ok .null, fun _ => .ok "seen", "T"⟩
    let http : Scope := [("type", "http")]
    let server := Server.ofLists [] []
    let send (m : Message) : App := .send m fun result => .done result
    let receive : App := .receive fun result => .done (result.map fun _ => ())
    let idle : App := .done (.ok ())
    let exchanges : List (Server × Scope × App) := [
      (server, http, send [("status", .int 200)]),
      (server, http, send [("type", "http.response.start")]),
      (server, http, send [("type", "http.response.start"), ("status", .int 200),
        ("headers", .int 1)]),
      (Server.ofLists [[("body", .bytes [])]] [], http, receive),
      (server, [], idle),
      (server, [("type", "http"), ("client", .int 1)], idle),
      (server, [("type", "http"), ("query_string", "a=1")], idle)]
    exchanges.map (fun (server, scope, app) =>
        ((starting [layer, layer] [.recorder, .recorder] {} {} server scope app).turns 3).outcomes) =
      [.missingKey "type", .missingKey "status", .wrongType, .missingKey "type",
        .missingKey "type", .wrongType, .missingAttribute].map (fun e => [(0, .error e)]) ∧
      exchanges.map (fun (server, scope, app) =>
        ((starting [] [] {} {} server scope app).turns 3).outcomes) =
      exchanges.map fun _ => [(0, .ok ())] := by
  decide +kernel

end World

end AccessLog
