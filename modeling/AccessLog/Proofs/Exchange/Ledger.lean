/-
Attempts and events through one layer.

* `World.attempts`, `World.attemptsOf`, `World.queued`, `World.emitted`: the
  attempts so far, those of one exchange, the events that wait and those that
  were kept.
* `World.Sole`: all exchanges go through one layer.
* `World.Delivers`, `World.Sole.step`: a step sends the first event that waits,
  or makes attempts and queues the events of their records behind all others.
* `World.Sole.trace`: what that means for any number of steps.
* `World.Sole.turn`: a turn of the loop that sends an event makes no attempt.
* `World.Fresh`: the loop before all requests.
-/
import Mathlib.Data.List.Basic
import AccessLog.Proofs.Exchange.Trace

namespace AccessLog

/-- The attempt that is seen. -/
def Occurrence.attempt? : Occurrence → Option Attempt
  | .attempted _ _ a => some a
  | _ => none

/-- The attempt that is seen in an exchange. -/
def Occurrence.attemptOf? (i : Nat) : Occurrence → Option Attempt
  | .attempted j _ a => if j = i then some a else none
  | _ => none

/-- The event that a sink keeps. -/
def Occurrence.event? : Occurrence → Option Emission
  | .emitted _ event => some event
  | _ => none

/-- The event that a job sends. -/
def Job.event? : Job → Option Emission
  | .emit _ event _ => some event
  | _ => none

/-- Other occurrences are neither attempts nor events. -/
lemma Occurrence.attempt?_of_unlogged {o : Occurrence} (unlogged : o.isLogged = false) :
    o.attempt? = none := by
  cases o <;> first | rfl | cases unlogged

lemma Occurrence.attemptOf?_of_unlogged {o : Occurrence} (i : Nat) (unlogged : o.isLogged = false) :
    o.attemptOf? i = none := by
  cases o <;> first | rfl | cases unlogged

lemma Occurrence.event?_of_unlogged {o : Occurrence} (unlogged : o.isLogged = false) :
    o.event? = none := by
  cases o <;> first | rfl | cases unlogged

/-- An attempt of a numbered layer. -/
def Noted.By (number : Nat) (layer : Layer) (n : Noted) : Prop :=
  n.number = number ∧ n.eventType = layer.eventType

/-- What a layer notes are its own attempts. -/
lemma Frame.own_act (f : Frame) (context : Context)
    (g : Exchange → Exchange × Except Failure Unit) :
    ∀ n ∈ (f.act context g).2.1, n.By f.number f.layer := by
  intro n isNote
  obtain ⟨a, -, rfl⟩ := List.mem_map.mp isNote
  exact ⟨rfl, rfl⟩

namespace World

/-- All attempts so far. -/
def attempts (w : World) : List Attempt :=
  w.seen.filterMap Occurrence.attempt?

/-- The attempts of an exchange so far. -/
def attemptsOf (w : World) (i : Nat) : List Attempt :=
  w.seen.filterMap (Occurrence.attemptOf? i)

/-- The events that sinks have kept. -/
def emitted (w : World) : List Emission :=
  w.seen.filterMap Occurrence.event?

/-- The events that wait for their turn. -/
def queued (w : World) : List Emission :=
  w.sending.filterMap Job.event?

variable {layer : Layer} {w v u w₀ : World} {i : Nat} {c : Conversation} {act : Option Act}

/-! ### What changes of a world make of them -/

/-- The event of one step. -/
lemma Act.events_toList (act : Option Act) :
    act.toList.filterMap Act.event? = (act.bind Act.event?).toList := by
  cases act with
  | none => rfl
  | some a => cases a <;> rfl

/-- What is read off attempts and events alone is the same after a change that
no layer takes part in. -/
lemma SameLog.filterMap_seen {α : Type} (same : w.SameLog v) {f : Occurrence → Option α}
    (logged : ∀ o, o.isLogged = false → f o = none) :
    v.seen.filterMap f = w.seen.filterMap f := by
  have only (l : List Occurrence) : (l.filter Occurrence.isLogged).filterMap f = l.filterMap f := by
    rw [List.filterMap_filter]
    refine List.filterMap_congr fun o _ => ?_
    cases kind : o.isLogged with
    | true => rfl
    | false => exact (logged o kind).symm
  rw [← only v.seen, same.seen, only]

lemma SameLog.attempts (same : w.SameLog v) : v.attempts = w.attempts :=
  same.filterMap_seen fun _ => Occurrence.attempt?_of_unlogged

lemma SameLog.attemptsOf (same : w.SameLog v) (i : Nat) : v.attemptsOf i = w.attemptsOf i :=
  same.filterMap_seen fun _ => Occurrence.attemptOf?_of_unlogged i

lemma SameLog.emitted (same : w.SameLog v) : v.emitted = w.emitted :=
  same.filterMap_seen fun _ => Occurrence.event?_of_unlogged

lemma SameLog.queued (same : w.SameLog v) : v.queued = w.queued := by
  rw [World.queued, World.queued, same.sending]

@[simp] lemma attempts_note (w : World) (i : Nat) (notes : List Noted) :
    (w.note i notes).attempts = w.attempts ++ notes.map (·.attempt) := by
  simp [attempts, note, Occurrence.attempt?, Function.comp_def]

lemma attemptsOf_note_self (w : World) (i : Nat) (notes : List Noted) :
    (w.note i notes).attemptsOf i = w.attemptsOf i ++ notes.map (·.attempt) := by
  simp [attemptsOf, note, Occurrence.attemptOf?, Function.comp_def]

/-- Attempts in another exchange are none of this one. -/
lemma attemptsOf_note_of_ne {j : Nat} (other : j ≠ i) (w : World) (notes : List Noted) :
    (w.note j notes).attemptsOf i = w.attemptsOf i := by
  simp [attemptsOf, note, Occurrence.attemptOf?, other]

@[simp] lemma emitted_note (w : World) (i : Nat) (notes : List Noted) :
    (w.note i notes).emitted = w.emitted := by
  simp [emitted, note, Occurrence.event?]

lemma sending_note (w : World) (i : Nat) (notes : List Noted) :
    (w.note i notes).sending = w.sending ++ notes.filterMap fun n =>
      (n.attempt.emission? n.eventType).map fun e => .emit n.number e n.context := by
  rw [sending, note, List.filter_append, sending, List.append_cancel_left_eq]
  rw [List.filter_eq_self]
  intro job isIn
  obtain ⟨n, -, made⟩ := List.mem_filterMap.mp isIn
  obtain ⟨e, -, rfl⟩ := Option.map_eq_some_iff.mp made
  rfl

/-- Records become events of the type of their layer, in the same order. -/
lemma queued_note {type : Text} {notes : List Noted} (typed : ∀ n ∈ notes, n.eventType = type)
    (w : World) (i : Nat) :
    (w.note i notes).queued =
      w.queued ++ (notes.map (·.attempt)).filterMap (Attempt.emission? type) := by
  rw [queued, sending_note, List.filterMap_append, queued, List.filterMap_filterMap,
    List.filterMap_map]
  congr 1
  refine List.filterMap_congr fun n isIn => ?_
  rw [typed n isIn]
  cases made : n.attempt.emission? type <;> simp [made, Job.event?]

/-- A recorder keeps the event. -/
lemma emit_recorder (recorder : w.sinks = [.recorder]) (event : Emission) (context : Context) :
    w.emit 0 event context = w.see (.emitted 0 event) := by
  simp [emit, recorder]

/-- Sending an event is no attempt. -/
lemma filterMap_seen_emit {α : Type} {f : Occurrence → Option α}
    (unsent : ∀ number event, f (.emitted number event) = none) (unlost : ∀ e, f (.lost e) = none)
    (w : World) (number : Nat) (event : Emission) (context : Context) :
    (w.emit number event context).seen.filterMap f = w.seen.filterMap f := by
  rw [emit]
  split
  · rfl
  · simp [see, unsent]
  · dsimp only
    split
    · rfl
    · simp [see, unlost]

lemma attempts_emit (w : World) (number : Nat) (event : Emission) (context : Context) :
    (w.emit number event context).attempts = w.attempts :=
  filterMap_seen_emit (fun _ _ => rfl) (fun _ => rfl) w number event context

lemma attemptsOf_emit (w : World) (i number : Nat) (event : Emission) (context : Context) :
    (w.emit number event context).attemptsOf i = w.attemptsOf i :=
  filterMap_seen_emit (fun _ _ => rfl) (fun _ => rfl) w number event context

/-- An event that goes to its sink was the first that waited. -/
lemma sending_of_queue {number : Nat} {event : Emission} {context : Context} {rest : List Job}
    (queue : w.queue = .emit number event context :: rest) :
    w.sending = .emit number event context ::
      (World.emit { w with queue := rest } number event context).sending := by
  rw [sending_emit, sending, sending, queue]
  rfl

/-! ### One layer -/

/-- All exchanges go through one layer, and only its events wait. -/
structure Sole (layer : Layer) (w : World) : Prop where
  layers : w.layers = [layer]
  frames : ∀ frames ∈ w.frames, frames = [] ∨ ∃ x before, frames = [⟨0, layer, x, before⟩]
  jobs : ∀ number event context, .emit number event context ∈ w.sending → number = 0

/-- Either no layer takes up a request, or the only one. -/
lemma Sole.chosen (sole : w.Sole layer) {scope : Scope} {layers : List (Nat × Layer)}
    (chosen : w.layersFor scope = .ok layers) : layers = [] ∨ layers = [(0, layer)] := by
  rw [layersFor, sole.layers] at chosen
  cases type : scope.need "type" with
  | error e =>
    rw [type] at chosen
    cases chosen
  | ok type' =>
    rw [type] at chosen
    cases chosen
    split
    · exact .inr rfl
    · exact .inl rfl

/-- What the only layer makes of a request at its entry. -/
lemma enter_sole {layers : List (Nat × Layer)} (chosen : layers = [] ∨ layers = [(0, layer)])
    (scope : Scope) (clock : Clock) (context : Context) :
    let entry := Stack.enter scope clock [] [] context layers
    let alone := Stack.enter scope clock [] [] [] layers
    (entry.frames = [] ∨ ∃ x before, entry.frames = [⟨0, layer, x, before⟩]) ∧
      (∀ n ∈ entry.notes, n.By 0 layer) ∧
      entry.frames.map (·.exchange) = alone.frames.map (·.exchange) ∧
      entry.notes.map (·.attempt) = alone.notes.map (·.attempt) := by
  rcases chosen with rfl | rfl
  · exact ⟨.inl rfl, List.forall_mem_nil _, rfl, rfl⟩
  · simp only [Stack.enter]
    rcases Exchange.enter layer scope clock with e | ⟨x, e | _⟩
    · exact ⟨.inl rfl, List.forall_mem_nil _, rfl, rfl⟩
    · exact ⟨.inl rfl, by simp [Noted.By], rfl, by simp⟩
    · exact ⟨.inr ⟨x, context, rfl⟩, by simp [Noted.By], rfl, by simp⟩

/-- The only layer is the one to which something happens. -/
lemma Sole.frame (sole : w.Sole layer) (found : w.conversation? i = some c)
    {inner outer : List Frame} {f : Frame} (frames : c.frames = inner ++ f :: outer) :
    inner = [] ∧ outer = [] ∧ ∃ x before, f = ⟨0, layer, x, before⟩ := by
  have known : c.frames ∈ w.frames := List.mem_of_getElem? (frames_getElem? found)
  rcases sole.frames _ known with empty | ⟨x, before, one⟩
  · simp [empty] at frames
  · rw [one] at frames
    obtain ⟨rfl, same⟩ | ⟨rest, rfl, nothing⟩ := List.cons_eq_append_iff.mp frames
    · cases same
      exact ⟨rfl, rfl, x, before, rfl⟩
    · simp at nothing

/-- Attempts of the only layer queue only its events. -/
lemma Sole.note_update (sole : w.Sole layer) {notes : List Noted}
    (own : ∀ n ∈ notes, n.By 0 layer) {d : Conversation}
    (frames : d.frames = [] ∨ ∃ x before, d.frames = [⟨0, layer, x, before⟩]) :
    ((w.note i notes).update i d).Sole layer := by
  refine ⟨sole.layers, fun stack isIn => ?_, fun number event context isIn => ?_⟩
  · rw [frames_update, frames_note] at isIn
    rcases List.mem_or_eq_of_mem_set isIn with old | rfl
    · exact sole.frames stack old
    · exact frames
  · have isIn : .emit number event context ∈ (w.note i notes).sending := isIn
    rw [sending_note, List.mem_append, List.mem_filterMap] at isIn
    rcases isIn with old | ⟨n, isNote, made⟩
    · exact sole.jobs number event context old
    · obtain ⟨e, -, same⟩ := Option.map_eq_some_iff.mp made
      cases same
      exact (own n isNote).1

/-- What a step means for the events: the first one that waits goes to its
sink, or attempts are made and the events of their records wait behind all
others. -/
def Delivers (layer : Layer) (w : World) (act : Option Act) (v : World) : Prop :=
  (∃ event, act = some (.handed 0 event) ∧ w.queued = event :: v.queued ∧
    v.attempts = w.attempts) ∨
  (act.bind Act.event? = none ∧ ∃ made, v.attempts = w.attempts ++ made ∧
    v.queued = w.queued ++ made.filterMap (Attempt.emission? layer.eventType))

/-- Attempts of the only layer, in a step that sends no event. -/
lemma Sole.delivers_note {notes : List Noted}
    (own : ∀ n ∈ notes, n.By 0 layer) (w : World) (i : Nat)
    (d : Conversation) (unsent : act.bind Act.event? = none) :
    Delivers layer w act ((w.note i notes).update i d) :=
  .inr ⟨unsent, notes.map Noted.attempt, attempts_note w i notes,
    queued_note (fun n isNote => (own n isNote).2) w i⟩

/-- One step of exchanges through one layer. -/
theorem Sole.step (sole : w.Sole layer) (step : Step w act v) :
    v.Sole layer ∧ Delivers layer w act v := by
  cases step with
  | quiet same =>
    refine ⟨⟨same.layers.trans sole.layers, same.frames ▸ sole.frames,
      same.sending ▸ sole.jobs⟩, .inr ⟨rfl, [], ?_, ?_⟩⟩
    · rw [same.attempts, List.append_nil]
    · rw [same.queued, List.filterMap_nil, List.append_nil]
  | @enter i c layers entry found chosen entered =>
    obtain ⟨frames, own, -⟩ := enter_sole (sole.chosen chosen) c.scope w.clock c.context
    rw [entered] at frames own
    exact ⟨sole.note_update own frames, delivers_note own w i _ rfl⟩
  | @happen i c inner outer f after context h notes result found frames acted =>
    obtain ⟨rfl, rfl, x, before, rfl⟩ := sole.frame found frames
    cases acted
    have own := Frame.own_act ⟨0, layer, x, before⟩ context fun x =>
      Exchange.step layer c.scope w.clock x h
    exact ⟨sole.note_update own (.inr ⟨_, before, rfl⟩), delivers_note own w i _ rfl⟩
  | @emit number event context rest queue =>
    have waiting := sending_of_queue queue
    have zero : number = 0 := sole.jobs number event context (waiting ▸ List.mem_cons_self)
    refine ⟨⟨?_, ?_, fun k e ctx isIn => ?_⟩, .inl ⟨event, by rw [zero], ?_, ?_⟩⟩
    · rw [layers_emit]
      exact sole.layers
    · rw [frames_emit]
      exact sole.frames
    · exact sole.jobs k e ctx (waiting ▸ List.mem_cons_of_mem _ isIn)
    · rw [queued, waiting]
      rfl
    · exact attempts_emit _ number event context

/-- A recorder has kept what went to it. -/
lemma Sole.emitted_step (sole : w.Sole layer) (recorder : w.sinks = [.recorder])
    (step : Step w act v) :
    v.sinks = [.recorder] ∧ v.emitted = w.emitted ++ (act.bind Act.event?).toList := by
  cases step with
  | quiet same => exact ⟨same.sinks.trans recorder, by simp [same.emitted]⟩
  | @enter i c layers entry found chosen entered =>
    exact ⟨recorder, (emitted_note w i _).trans (List.append_nil _).symm⟩
  | @happen i c inner outer f after context h notes result found frames acted =>
    exact ⟨recorder, (emitted_note w i _).trans (List.append_nil _).symm⟩
  | @emit number event context rest queue =>
    have zero : number = 0 :=
      sole.jobs number event context (sending_of_queue queue ▸ List.mem_cons_self)
    rw [zero, emit_recorder (w := { w with queue := rest }) recorder]
    exact ⟨recorder, by simp [emitted, see, Occurrence.event?, Act.event?]⟩

/-- What goes to sinks and what waits for it are the events of all attempts, in
the same order. -/
lemma Sole.trace {acts : List Act} (sole : w.Sole layer) (trace : Trace w acts v) :
    v.Sole layer ∧ ∃ made, v.attempts = w.attempts ++ made ∧
      acts.filterMap Act.event? ++ v.queued =
        w.queued ++ made.filterMap (Attempt.emission? layer.eventType) := by
  induction trace with
  | start => exact ⟨sole, [], by simp⟩
  | @next acts v u act trace step ih =>
    obtain ⟨kept, made, attempts, events⟩ := ih
    obtain ⟨still, ⟨event, rfl, first, same⟩ | ⟨unsent, new, more, behind⟩⟩ := kept.step step
    · refine ⟨still, made, same.trans attempts, ?_⟩
      rw [← events, first]
      simp [Act.event?]
    · refine ⟨still, made ++ new, by rw [more, attempts, List.append_assoc], ?_⟩
      rw [List.filterMap_append, Act.events_toList, unsent, Option.toList_none, List.append_nil,
        behind, ← List.append_assoc, events, List.filterMap_append, List.append_assoc]

/-! ### From the start -/

/-- The loop before all requests: one layer, and nothing is logged. -/
structure Fresh (layer : Layer) (w : World) : Prop where
  layers : w.layers = [layer]
  frames : ∀ frames ∈ w.frames, frames = []
  sending : w.sending = []
  seen : w.seen.filter Occurrence.isLogged = []

namespace Fresh

lemma sole (fresh : w.Fresh layer) : w.Sole layer :=
  ⟨fresh.layers, fun frames isIn => .inl (fresh.frames frames isIn),
    fun _ _ _ isIn => absurd (fresh.sending ▸ isIn) List.not_mem_nil⟩

lemma queued (fresh : w.Fresh layer) : w.queued = [] := by
  rw [World.queued, fresh.sending, List.filterMap_nil]

/-- Nothing was seen of attempts or events. -/
lemma filterMap_seen (fresh : w.Fresh layer) {α : Type} {f : Occurrence → Option α}
    (logged : ∀ o, o.isLogged = false → f o = none) : w.seen.filterMap f = [] := by
  rw [List.filterMap_eq_nil_iff]
  intro o isIn
  have unlogged := List.filter_eq_nil_iff.mp fresh.seen o isIn
  exact logged o (by simpa using unlogged)

lemma attempts (fresh : w.Fresh layer) : w.attempts = [] :=
  fresh.filterMap_seen fun _ => Occurrence.attempt?_of_unlogged

lemma emitted (fresh : w.Fresh layer) : w.emitted = [] :=
  fresh.filterMap_seen fun _ => Occurrence.event?_of_unlogged

end Fresh

/-- A recorder has kept all that went to it, in the same order. -/
lemma Sole.emitted_trace {acts : List Act} (sole : w.Sole layer) (recorder : w.sinks = [.recorder])
    (trace : Trace w acts v) :
    v.sinks = [.recorder] ∧ v.emitted = w.emitted ++ acts.filterMap Act.event? := by
  induction trace with
  | start => exact ⟨recorder, by simp⟩
  | @next acts v u act trace step ih =>
    obtain ⟨still, kept⟩ := ih
    obtain ⟨after, more⟩ := (sole.trace trace).1.emitted_step still step
    refine ⟨after, ?_⟩
    rw [more, kept, List.filterMap_append, List.append_assoc]
    rw [Act.events_toList]

/-- What is emitted in a turn was not rendered in it. -/
lemma Sole.turn (sole : w.Sole layer) :
    ∃ later, Trace w later w.turn ∧
      (later.filterMap Act.event? = [] ∨ w.turn.attempts = w.attempts) := by
  rcases w.turn_cases with ⟨i, later, trace, own⟩ | ⟨number, event, step⟩
  · refine ⟨later, trace, .inl (List.filterMap_eq_nil_iff.mpr fun act isIn => ?_)⟩
    have mine := own act isIn
    cases act with
    | entered _ _ _ => rfl
    | happened _ _ _ _ _ => rfl
    | handed _ _ => cases mine
  · rcases (sole.step step).2 with ⟨_, -, -, same⟩ | ⟨unsent, -⟩
    · exact ⟨_, step.trace, .inr same⟩
    · cases unsent

end World

end AccessLog
