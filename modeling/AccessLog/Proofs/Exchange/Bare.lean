/-
Exchanges without their layers.

* `World.bare`: what is left of all exchanges if nothing is logged: the calls on
  the servers and what came of them, the scopes, the clocks and the applications
  that are yet to go on.
* `World.bare_note`, `World.bare_see`, `World.bare_update`: what the small
  changes of a world leave of it.
* `World.send_bare`, `World.receive_bare`, `World.finish_bare`,
  `World.begin_bare`: what an exchange without layers does.
* `World.bare_send`, `World.bare_receive`, `World.bare_finish`,
  `World.bare_tell`, `World.bare_emit`: steady layers change nothing of what is
  left.
-/
import AccessLog.Proofs.Exchange.Steady

namespace AccessLog

/-! ### What is left without layers -/

/-- An exchange without its layers. -/
def Conversation.bare (c : Conversation) : Conversation :=
  { c with frames := [], failed := [], context := [] }

/-- What is seen of an exchange without layers. -/
def Occurrence.bare? : Occurrence → Option Occurrence
  | .attempted .. => none
  | .emitted .. => none
  | .lost _ => none
  | .inContext i _ => some (.inContext i [])
  | .ended i outcome _ => some (.ended i outcome [])
  | o => some o

/-- What is told by applications, without the context of layers. -/
def Told.bare? : Told → Option Told
  | .notice .. => none
  | .line call _ => some (.line call [])

/-- The exchange of a job, unless it sends an event. -/
def Job.exchange? : Job → Option Nat
  | .start i _ => some i
  | .resume i _ => some i
  | .emit .. => none

namespace World

/-- What is left of all exchanges if there are no layers. -/
def bare (w : World) : World where
  layers := []
  sinks := []
  clock := w.clock
  conversations := w.conversations.map Conversation.bare
  queue := w.queue.filter (·.exchange?.isSome)
  seen := w.seen.filterMap Occurrence.bare?
  told := w.told.filterMap Told.bare?

variable {w : World} {i : Nat} {c : Conversation}

lemma conversation?_bare (w : World) (i : Nat) :
    w.bare.conversation? i = (w.conversation? i).map Conversation.bare := by
  simp [conversation?, bare]

/-- Attempts add no jobs but those that send their events. -/
lemma exists_queue_note (w : World) (i : Nat) (notes : List Noted) :
    ∃ events, (w.note i notes).queue = w.queue ++ events ∧
      ∀ job ∈ events, ∃ number event context, job = .emit number event context := by
  refine ⟨_, rfl, fun job isIn => ?_⟩
  obtain ⟨n, -, made⟩ := List.mem_filterMap.mp isIn
  obtain ⟨e, -, rfl⟩ := Option.map_eq_some_iff.mp made
  exact ⟨_, _, _, rfl⟩

/-- Attempts and events are no part of it. -/
@[simp] lemma bare_note (w : World) (i : Nat) (notes : List Noted) :
    (w.note i notes).bare = w.bare := by
  obtain ⟨events, queue, sent⟩ := exists_queue_note w i notes
  have unseen : (notes.map fun n => Occurrence.attempted i n.number n.attempt).filterMap
      Occurrence.bare? = [] := by simp [Occurrence.bare?]
  have unqueued : events.filter (·.exchange?.isSome) = [] := by
    rw [List.filter_eq_nil_iff]
    intro job isIn
    obtain ⟨_, _, _, rfl⟩ := sent job isIn
    simp [Job.exchange?]
  rw [bare, queue]
  simp only [bare, note, List.filterMap_append, List.filter_append, unseen, unqueued,
    List.append_nil]

lemma bare_see (w : World) (o : Occurrence) :
    (w.see o).bare = { w.bare with seen := w.bare.seen ++ o.bare?.toList } := by
  cases left : o.bare? <;> simp [bare, see, left]

@[simp] lemma bare_update (w : World) (i : Nat) (c : Conversation) :
    (w.update i c).bare = w.bare.update i c.bare := by
  simp [bare, update, List.map_set]

@[simp] lemma note_nil (w : World) (i : Nat) : w.note i [] = w := by
  simp [note]

/-- Nothing changes if an exchange stays as it is. -/
lemma update_self (found : w.conversation? i = some c) : w.update i c = w := by
  obtain ⟨inside, rfl⟩ := List.getElem?_eq_some_iff.mp found
  simp [update]

/-- Layers that have taken up a request are no part of it either. -/
lemma bare_enter (found : w.conversation? i = some c) (notes : List Noted)
    (frames failed : List Frame) (context : Context) :
    ((w.note i notes).update i { c with frames, failed, context }).bare = w.bare := by
  have alone : w.bare.conversation? i = some c.bare := by rw [conversation?_bare, found]; rfl
  rw [bare_update, bare_note]
  exact update_self alone

/-! ### Exchanges without layers -/

/-- A message goes to the server at once. -/
lemma send_bare (w : World) (i : Nat) (c : Conversation) (m : Message) :
    w.send i c.bare m = match c.server.take c.calls m with
      | .error e => ((w.see (.refused i)).update i
          { c.bare with calls := c.calls ++ [.send m] }, .error e)
      | .ok () => ((w.see (.accepted i m)).update i
          { c.bare with calls := c.calls ++ [.send m] }, .ok ()) := by
  cases taken : c.server.take c.calls m with
  | error e => simp [send, Conversation.bare, Stack.outward, taken]
  | ok _ => simp [send, Conversation.bare, Stack.outward, Stack.inward, taken]

/-- A message comes from the server at once. -/
lemma receive_bare (w : World) (i : Nat) (c : Conversation) :
    w.receive i c.bare =
      ((w.update i { c.bare with calls := c.calls ++ [.receive] }).see
        (.received i (c.server.incoming c.calls)), .ok (c.server.incoming c.calls)) := by
  simp only [receive, Conversation.bare, Stack.inward, note_nil]

/-- The outcome is that of the application. -/
lemma finish_bare (w : World) (i : Nat) (c : Conversation) (outcome : Except Failure Unit) :
    w.finish i c.bare outcome = (w.update i c.bare).see (.ended i outcome []) := by
  simp only [finish, Conversation.bare, Stack.unwind, note_nil]

/-- Without layers the application starts at once. -/
lemma begin_bare (w : World) {i : Nat} {c : Conversation} (found : w.conversation? i = some c)
    (app : App) : w.bare.begin i app = advance i app w.bare := by
  have alone : w.bare.conversation? i = some c.bare := by rw [conversation?_bare, found]; rfl
  have same : w.bare.update i c.bare = w.bare := update_self alone
  simp only [begin, alone, layersFor, show w.bare.layers = [] from rfl, List.isEmpty_nil, if_true,
    Stack.enter, note_nil]
  exact congrArg (advance i app) same

/-! ### What steady layers leave as it is -/

/-- A message goes out and comes to the same end. -/
lemma bare_send (steady : c.Steady) {m : Message} (typed : m.IsTyped) (w : World) (i : Nat) :
    w.bare.send i c.bare m = ((w.send i c m).1.bare, (w.send i c m).2) := by
  obtain ⟨frames, notes, more, -, sent⟩ := @exists_send w c steady m typed i
  rw [sent, send_bare]
  cases c.server.take c.calls m with
  | error e =>
    simp only [bare_update, bare_see, bare_note]
    rfl
  | ok _ =>
    simp only [bare_update, bare_see, bare_note]
    rfl

/-- The same message comes in. -/
lemma bare_receive (steady : c.Steady) (w : World) (i : Nat) :
    w.bare.receive i c.bare = ((w.receive i c).1.bare, (w.receive i c).2) := by
  obtain ⟨frames, notes, -, received⟩ := @exists_receive w c steady i
  rw [received, receive_bare]
  simp only [bare_update, bare_see, bare_note]
  rfl

/-- The exchange ends in the same way. -/
lemma bare_finish (steady : c.Steady) (w : World) (i : Nat) (outcome : Except Failure Unit) :
    (w.finish i c outcome).bare = w.bare.finish i c.bare outcome := by
  obtain ⟨frames, notes, context, -, finished⟩ := @exists_finish w c steady i outcome
  rw [finished, finish_bare]
  simp only [bare_update, bare_see, bare_note]
  rfl

/-- An application lets the same be known, but for the context of its layers. -/
lemma bare_tell (w : World) (i : Nat) (c : Conversation) (what : Telling) :
    (w.tell i c what).bare = w.bare.tell i c.bare what := by
  cases what with
  | caught e => exact bare_see w _
  | context => exact bare_see w _
  | line call =>
    simp only [tell, bare, List.filterMap_append]
    rfl

/-- Sending an event changes sinks and network, and tells no more than notices. -/
lemma exists_emit (w : World) (number : Nat) (event : Emission) (context : Context) :
    ∃ sinks network seen told, w.emit number event context =
        { w with sinks, network, seen := w.seen ++ seen, told := w.told ++ told } ∧
      seen.filterMap Occurrence.bare? = [] ∧ told.filterMap Told.bare? = [] := by
  cases sink : w.sinks[number]? with
  | none => exact ⟨w.sinks, w.network, [], [], by simp [emit, sink], rfl, rfl⟩
  | some kind =>
    cases kind with
    | recorder =>
      exact ⟨w.sinks, w.network, [.emitted number event], [], by simp [emit, sink, see], rfl, rfl⟩
    | datagrams e =>
      rcases made : e.emit w.network event with ⟨emitter, network, notices, result⟩
      have untold : (notices.map fun n => Told.notice n context).filterMap Told.bare? = [] := by
        simp [Told.bare?]
      cases result with
      | ok _ =>
        exact ⟨w.sinks.set number (.datagrams emitter), network, [], _,
          by simp [emit, sink, made], rfl, untold⟩
      | error fault =>
        exact ⟨w.sinks.set number (.datagrams emitter), network, [.lost fault], _,
          by simp [emit, sink, made, see], rfl, untold⟩

/-- Sending an event is no part of any exchange. -/
lemma bare_emit (w : World) (number : Nat) (event : Emission) (context : Context) :
    (w.emit number event context).bare = w.bare := by
  obtain ⟨sinks, network, seen, told, emitted, unseen, untold⟩ := exists_emit w number event context
  rw [emitted]
  simp only [bare, List.filterMap_append, unseen, untold, List.append_nil]

end World

end AccessLog
