/-
The records of many exchanges through one layer.

* `Account`, `World.Sole.account_step`: the state of the layer around one
  exchange, and what that exchange's own steps make of it.
* `World.Sole.account_trace`: the steps of others change nothing about it.
* `World.Trace.alone`: the steps of one exchange can be done without the others.
* `World.records_in_order`: **no record is lost, doubled, out of order or mixed
  up** in any interleaving.
-/
import AccessLog.Proofs.Exchange.Ledger

namespace AccessLog

/-- A layer notes the attempts that it has made in an act. -/
lemma Frame.attempts_act (f : Frame) (context : Context)
    (g : Exchange → Exchange × Except Failure Unit) :
    (f.act context g).2.1.map (·.attempt) =
      (g f.exchange).1.attempts.drop f.exchange.attempts.length := by
  simp [Frame.act, Function.comp_def]

/-- The layer around an exchange, once it has taken it up, and all attempts in
the exchange so far. -/
structure Account where
  exchange : Option Exchange
  attempts : List Attempt

/-- What a step of an exchange makes of them without all other exchanges. -/
def Account.after (layer : Layer) (a : Account) : World.Act → Account
  | .entered _ scope clock =>
    match World.layersFor { layers := [layer], sinks := [] } scope with
    | .error _ => a
    | .ok layers =>
      let entry := Stack.enter scope clock [] [] [] layers
      ⟨entry.frames.head?.map (·.exchange), a.attempts ++ entry.notes.map (·.attempt)⟩
  | .happened _ _ scope clock h =>
    match a.exchange with
    | none => a
    | some x =>
      let y := (Exchange.step layer scope clock x h).1
      ⟨some y, a.attempts ++ y.attempts.drop x.attempts.length⟩
  | .handed .. => a

namespace World

variable {layer : Layer} {w v u w₀ : World} {i : Nat} {c : Conversation} {act : Option Act}

/-! ### One exchange among many -/

/-- The layer around an exchange, and its attempts so far. -/
def account (w : World) (i : Nat) : Account :=
  ⟨(w.frames[i]?.bind List.head?).map (·.exchange), w.attemptsOf i⟩

/-- A step of another exchange, or of none. -/
lemma Act.filter_toList (other : act.bind Act.exchange? ≠ some i) :
    act.toList.filter (·.exchange? = some i) = [] := by
  cases act with
  | none => rfl
  | some a => simpa using other

/-- The steps of others change nothing about an exchange. -/
lemma Step.other (step : Step w act v) (other : act.bind Act.exchange? ≠ some i) :
    v.frames[i]? = w.frames[i]? ∧ v.attemptsOf i = w.attemptsOf i := by
  cases step with
  | quiet same => exact ⟨by rw [same.frames], same.attemptsOf i⟩
  | @enter j c layers entry found chosen entered =>
    have apart : j ≠ i := fun same => other (congrArg some same)
    exact ⟨by rw [frames_update, frames_note, List.getElem?_set_ne apart],
      attemptsOf_note_of_ne apart w _⟩
  | @happen j c inner outer f after context h notes result found frames acted =>
    have apart : j ≠ i := fun same => other (congrArg some same)
    exact ⟨by rw [frames_update, frames_note, List.getElem?_set_ne apart],
      attemptsOf_note_of_ne apart w _⟩
  | @emit number event context rest queue =>
    exact ⟨by rw [frames_emit]; rfl, attemptsOf_emit _ i number event context⟩

/-- The layers around an exchange after a change of it. -/
lemma frames_getElem?_update (found : w.conversation? i = some c) (notes : List Noted)
    (d : Conversation) : ((w.note i notes).update i d).frames[i]? = some d.frames := by
  obtain ⟨inside, -⟩ := List.getElem?_eq_some_iff.mp (frames_getElem? found)
  rw [frames_update, frames_note, List.getElem?_set_self inside]

/-- An exchange's own steps do with it what they would do without the others. -/
lemma Sole.account_step (sole : w.Sole layer) {act : Act} (step : Step w (some act) v)
    (own : act.exchange? = some i) : v.account i = (w.account i).after layer act := by
  cases step with
  | @enter j c layers entry found chosen entered =>
    obtain rfl : j = i := Option.some.inj own
    have alone : World.layersFor { layers := [layer], sinks := [] } c.scope = .ok layers := by
      rw [← chosen, layersFor, layersFor, sole.layers]
    obtain ⟨-, -, frames, notes⟩ := enter_sole (sole.chosen chosen) c.scope w.clock c.context
    rw [entered] at frames notes
    have head : entry.frames.head?.map (·.exchange) =
        (Stack.enter c.scope w.clock [] [] [] layers).frames.head?.map (·.exchange) := by
      rw [← List.head?_map, frames, List.head?_map]
    simp only [account, Account.after, alone]
    rw [frames_getElem?_update found]
    exact congrArg₂ Account.mk head ((attemptsOf_note_self w j entry.notes).trans (by rw [notes]))
  | @happen j c inner outer f after context h notes result found frames acted =>
    obtain rfl : j = i := Option.some.inj own
    obtain ⟨rfl, rfl, x, before, rfl⟩ := sole.frame found frames
    cases acted
    have here : (w.frames[j]?.bind List.head?).map (·.exchange) = some x := by
      rw [frames_getElem? found, frames]
      rfl
    simp only [account, Account.after, here]
    rw [frames_getElem?_update found]
    refine congrArg₂ Account.mk rfl ((attemptsOf_note_self w j _).trans ?_)
    exact congrArg (w.attemptsOf j ++ ·) (Frame.attempts_act ⟨0, layer, x, before⟩ context
      fun x => Exchange.step layer c.scope w.clock x h)
  | @emit number event context rest queue => cases own

/-- An exchange has made what its own steps make of it. -/
lemma Sole.account_trace {acts : List Act} (sole : w.Sole layer) (trace : Trace w acts v)
    (i : Nat) :
    v.account i =
      (acts.filter (·.exchange? = some i)).foldl (Account.after layer) (w.account i) := by
  induction trace with
  | start => rfl
  | @next acts v u act trace step ih =>
    have kept := (sole.trace trace).1
    rw [List.filter_append, List.foldl_append, ← ih]
    by_cases own : act.bind Act.exchange? = some i
    · obtain ⟨a, rfl, mine⟩ := Option.bind_eq_some_iff.mp own
      simp [kept.account_step step mine, mine]
    · obtain ⟨frames, attempts⟩ := step.other own
      rw [Act.filter_toList own, List.foldl_nil, account, frames, attempts, account]

/-- A step of an exchange can be done wherever its layers are in the same
state: scope and clock can be as they were then. -/
lemma Step.again {a : Act} (step : Step v (some a) u) (own : a.exchange? = some i)
    (layers : w.layers = v.layers) (stack : w.frames[i]? = v.frames[i]?) :
    ∃ u', Trace w [a] u' ∧ u'.layers = u.layers ∧ u'.frames[i]? = u.frames[i]? := by
  -- what the layers do not read between their steps is put back first
  have ready {c : Conversation} (found : v.conversation? i = some c) :
      let w' := World.update { w with clock := v.clock } i c
      Trace w [] w' ∧ w'.conversation? i = some c := by
    rw [frames_getElem? found, frames, List.getElem?_map, Option.map_eq_some_iff] at stack
    obtain ⟨d, isThere, same⟩ := stack
    have later : w.SameLog { w with clock := v.clock } := ⟨rfl, rfl, rfl, rfl, rfl, rfl⟩
    have put := sameLog_update (w := { w with clock := v.clock }) isThere same.symm
    exact ⟨(Step.quiet (later.trans put)).trace,
      conversation?_update (w := { w with clock := v.clock }) isThere c⟩
  cases step with
  | @enter j c chosen entry found known entered =>
    obtain rfl : j = i := Option.some.inj own
    obtain ⟨before, found'⟩ := ready found
    have known' :
        layersFor (World.update { w with clock := v.clock } j c) c.scope = .ok chosen := by
      rw [← known, layersFor, layersFor, ← layers]
      rfl
    refine ⟨_, .next before (.enter found' known' entered), layers, ?_⟩
    rw [frames_getElem?_update found, frames_getElem?_update found']
  | @happen j c inner outer f after context h notes result found frames acted =>
    obtain rfl : j = i := Option.some.inj own
    obtain ⟨before, found'⟩ := ready found
    refine ⟨_, .next before (.happen found' frames acted), layers, ?_⟩
    rw [frames_getElem?_update found, frames_getElem?_update found']
  | emit queue => cases own

lemma Step.layers (step : Step w act v) : v.layers = w.layers := by
  cases step with
  | quiet same => exact same.layers
  | enter found chosen entered => rfl
  | happen found frames acted => rfl
  | emit queue => rw [layers_emit]

/-- The steps of an exchange can be done without those of all others. -/
lemma Trace.alone {acts : List Act} (trace : Trace w acts v) (i : Nat) :
    ∃ u, Trace w (acts.filter (·.exchange? = some i)) u ∧ u.layers = v.layers ∧
      u.frames[i]? = v.frames[i]? := by
  induction trace with
  | start => exact ⟨w, .start, rfl, rfl⟩
  | @next acts v u act trace step ih =>
    obtain ⟨v', alone, layers, stack⟩ := ih
    rw [List.filter_append]
    by_cases own : act.bind Act.exchange? = some i
    · obtain ⟨a, rfl, mine⟩ := Option.bind_eq_some_iff.mp own
      obtain ⟨u', next, layers, stack⟩ := step.again mine layers stack
      have one : (some a).toList.filter (·.exchange? = some i) = [a] := by simp [mine]
      rw [one]
      exact ⟨u', alone.append next, layers, stack⟩
    · rw [Act.filter_toList own, List.append_nil]
      exact ⟨v', alone, layers.trans step.layers.symm, stack.trans (step.other own).1.symm⟩

/-! ### All exchanges -/

/-- **No record is lost, doubled, out of order or mixed up**, whatever the order
in which any number of exchanges through one layer take their steps:

* the events that have gone to the sink, followed by those that wait, are those
  of the records of all attempts, in the order of the attempts, and a recorder
  has kept what has gone to it;
* all of them have the type of the layer;
* a step sends the first event that waits, or makes attempts whose events wait
  behind all others, but not both;
* the turns of the loop are made of such steps, and a turn that sends an event
  makes no attempt;
* each exchange attempts what it attempts with its own steps alone, on the same
  clocks. -/
theorem records_in_order (fresh : w₀.Fresh layer) {acts : List Act} (trace : Trace w₀ acts w) :
    acts.filterMap Act.event? ++ w.queued =
        w.attempts.filterMap (Attempt.emission? layer.eventType) ∧
      (w₀.sinks = [.recorder] → w.emitted = acts.filterMap Act.event?) ∧
      (∀ event ∈ acts.filterMap Act.event? ++ w.queued, event.type = .text layer.eventType) ∧
      (∀ act v, Step w act v → Delivers layer w act v) ∧
      (∀ n, ∃ before later, Trace w before (w.turns n) ∧ Trace (w.turns n) later (w.turns n).turn ∧
        (later.filterMap Act.event? = [] ∨ (w.turns n).turn.attempts = (w.turns n).attempts)) ∧
      ∀ i, (∃ v, Trace w₀ (acts.filter (·.exchange? = some i)) v) ∧
        ∀ v, Trace w₀ (acts.filter (·.exchange? = some i)) v → v.attemptsOf i = w.attemptsOf i := by
  obtain ⟨sole, made, attempts, events⟩ := fresh.sole.trace trace
  rw [fresh.attempts, List.nil_append] at attempts
  rw [fresh.queued, List.nil_append, ← attempts] at events
  refine ⟨events, fun recorder => ?_, fun event isIn => ?_, fun act v step => (sole.step step).2,
    fun n => ?_, fun i => ⟨?_, fun v alone => ?_⟩⟩
  · have kept := (fresh.sole.emitted_trace recorder trace).2
    rwa [fresh.emitted] at kept
  · rw [events] at isIn
    obtain ⟨a, -, made⟩ := List.mem_filterMap.mp isIn
    obtain ⟨record, -, rfl⟩ := Option.map_eq_some_iff.mp made
    rfl
  · obtain ⟨before, reached⟩ := w.exists_trace_turns n
    obtain ⟨later, next, apart⟩ := (sole.trace reached).1.turn
    exact ⟨before, later, reached, next, apart⟩
  · obtain ⟨v, alone, -⟩ := trace.alone i
    exact ⟨v, alone⟩
  · have among := fresh.sole.account_trace trace i
    have without := fresh.sole.account_trace alone i
    rw [List.filter_filter] at without
    simp only [Bool.and_self] at without
    exact congrArg Account.attempts (without.trans among.symm)

/-- Two exchanges of which the second completes first: after four turns its event
has gone to the sink, and the other waits. -/
theorem records_in_order_two_exchanges :
    let layer : Layer := ⟨false, fun _ => .ok .null, fun view => .ok (view.scope.value "path"), "T"⟩
    let scope (path : Value) : Scope :=
      [("type", "http"), ("client", .tuple ["10.0.0.1", .int 80]), ("path", path)]
    let server := Server.ofLists [] []
    let body : Message := [("type", "http.response.body")]
    let app : App := .send body fun result => .done result
    let w₀ : World := {
      layers := [layer]
      sinks := [.recorder]
      conversations := [{ server, scope := scope "/slow" }, { server, scope := scope "/fast" }]
      queue := [.start 0 (.pause app), .start 1 app] }
    w₀.Fresh layer ∧ ∃ acts, Trace w₀ acts (w₀.turns 4) ∧
      acts.filterMap Act.event? ++ (w₀.turns 4).queued =
        (w₀.turns 4).attempts.filterMap (Attempt.emission? layer.eventType) ∧
      (w₀.turns 4).emitted = [⟨"T", "/fast"⟩] ∧ (w₀.turns 4).queued = [⟨"T", "/slow"⟩] := by
  intro layer scope server body app w₀
  have fresh : w₀.Fresh layer :=
    ⟨rfl, List.forall_mem_cons.mpr ⟨rfl, List.forall_mem_singleton.mpr rfl⟩, rfl, rfl⟩
  obtain ⟨acts, trace⟩ := w₀.exists_trace_turns 4
  exact ⟨fresh, acts, trace, (records_in_order fresh trace).1, by decide +kernel, by decide +kernel⟩

end World

end AccessLog
