/-
Layers that never fail, and what they make of well-formed exchanges.

* `Layer.Steady`: neither the skip policy nor the renderer ever fails.
* `Message.IsTyped`: a type, and for a start message status and headers.
* `Exchange.sending_ok`, `Exchange.sent_ok`, `Exchange.received_ok`,
  `Exchange.ended_ok`, `Exchange.exists_enter_of_steady`: then a layer lets
  everything pass.
* `Stack.outward_steady`, `Stack.inward_steady`, `Stack.exists_unwind`,
  `Stack.enter_ok`: the same for layers around one another, each of which acts
  and notes its attempts.
* `Conversation.Steady`, `Scope.IsRequest`: an exchange behind such layers, and
  what its scope must be.
* `World.send_steady`, `World.receive_steady`, `World.exists_finish_steady`,
  `World.exists_begin`: all that such an exchange does on the loop.
-/
import AccessLog.Proofs.Exchange.Completion
import AccessLog.Exchange.Loop

namespace AccessLog

/-- Neither the skip policy nor the renderer ever fails. -/
structure Layer.Steady (layer : Layer) : Prop where
  skip : ∀ view, ∃ v, layer.skip view = .ok v
  render : ∀ view, ∃ v, layer.render view = .ok v

/-- A message has a type, and a start message has a status and headers. -/
structure Message.IsTyped (m : Message) : Prop where
  type : ∃ type, m.get? "type" = some type
  start : m.messageKind = .ok .start →
    (∃ status, m.get? "status" = some status) ∧ ∃ headers, m.headers = .ok headers

/-- A message with a type is of some kind. -/
lemma Message.exists_messageKind {m : Message} (typed : ∃ type, m.get? "type" = some type) :
    ∃ kind, m.messageKind = .ok kind := by
  obtain ⟨type, isType⟩ := typed
  exact ⟨.ofValue type, by rw [messageKind, kind, isType]; rfl⟩

/-- An attempt of a steady layer succeeds. -/
lemma Layer.Steady.attempt {layer : Layer} (steady : layer.Steady) (view : View) :
    (layer.attempt view).result = .ok () := by
  obtain ⟨skipped, skip⟩ := steady.skip view
  obtain ⟨record, render⟩ := steady.render view
  rw [Layer.attempt, skip]
  cases truthy : skipped.truthy with
  | true => simp [Attempt.result, truthy]
  | false => simp [Attempt.result, truthy, render]

/-- If no listener fails, a delivery does not. -/
lemma deliver_ok {α σ ε : Type} {call : α → σ → σ × Except ε Unit}
    (ok : ∀ a state, (call a state).2 = .ok ()) (listeners : List α) (state : σ) :
    (deliver call listeners state).2 = .ok () := by
  induction listeners generalizing state with
  | nil => rfl
  | cons a rest ih =>
    have here := ok a state
    rw [deliver]
    split
    · exact ih _
    · next failed => simp [failed] at here

namespace Exchange

/-! ### One layer -/

variable {layer : Layer} {scope : Scope} {clock : Clock}

lemma record_ok (steady : layer.Steady) (x : Exchange) :
    (record layer scope clock x).2 = .ok () :=
  steady.attempt _

lemma complete_ok (steady : layer.Steady) (x : Exchange) :
    (complete layer scope clock x).2 = .ok () := by
  rw [complete]
  split
  · rfl
  · exact record_ok steady _

lemma signal_ok (steady : layer.Steady) (s : Signal) (x : Exchange) :
    (signal layer scope clock s x).2 = .ok () :=
  deliver_ok (fun _ => complete_ok steady) _ _

/-- A well-formed message may go out. -/
lemma sending_ok {m : Message} (typed : m.IsTyped) (x : Exchange) :
    (sending m x).2 = .ok () := by
  obtain ⟨kind, isKind⟩ := Message.exists_messageKind typed.type
  rw [sending, isKind]
  cases kind with
  | start =>
    obtain ⟨⟨status, hasStatus⟩, headers, hasHeaders⟩ := typed.start isKind
    simp only [Reply.stage, hasStatus, hasHeaders]
  | body => rfl
  | pathSend => rfl
  | disconnect => rfl
  | other => rfl

lemma sent_ok (steady : layer.Steady) {m : Message} (typed : m.IsTyped) (x : Exchange) :
    (sent layer scope clock m x).2 = .ok () := by
  obtain ⟨kind, isKind⟩ := Message.exists_messageKind typed.type
  rw [sent, isKind]
  cases kind with
  | start => rfl
  | body =>
    by_cases more : m.moreBody
    · simp only [more, if_true]
    · simp only [more, Bool.false_eq_true, if_false]
      exact signal_ok steady _ _
  | pathSend => exact signal_ok steady _ _
  | disconnect => rfl
  | other => rfl

/-- What comes in needs no more than a type. -/
lemma received_ok (steady : layer.Steady) {m : Message}
    (typed : ∃ type, m.get? "type" = some type) (x : Exchange) :
    (received layer scope clock m x).2 = .ok () := by
  obtain ⟨kind, isKind⟩ := Message.exists_messageKind typed
  rw [received, isKind]
  cases kind with
  | disconnect => exact signal_ok steady _ _
  | start => rfl
  | body => rfl
  | pathSend => rfl
  | other => rfl

lemma ended_ok (steady : layer.Steady) (x : Exchange) :
    (ended layer scope clock x).2 = .ok () := by
  have closed : (signal layer scope clock .close x).2 = .ok () := signal_ok steady _ _
  rw [ended]
  by_cases done : x.response.reply.finished
  · simp only [done, if_true]
  · simp only [done, Bool.false_eq_true, if_false, closed]

/-- A steady layer takes up any request with a well-formed scope. -/
lemma exists_enter_of_steady (steady : layer.Steady) (typed : scope.IsTyped) (clock : Clock) :
    ∃ x, enter layer scope clock = .ok (x, .ok ()) := by
  obtain ⟨capture, taken⟩ := typed.exists_capture clock
  cases mode : layer.immediate with
  | true =>
    refine ⟨(record layer scope clock { capture }).1, ?_⟩
    rw [enter_immediate taken mode, ← record_ok steady { capture }]
  | false => exact ⟨_, enter_waiting taken mode⟩

end Exchange

/-! ### Layers around one another -/

/-- A frame after an act that lets everything pass. -/
def Frame.acted (g : Layer → Exchange → Exchange × Except Failure Unit) (f : Frame) : Frame :=
  { f with exchange := (g f.layer f.exchange).1 }

/-- Whose attempt it is, of which type its event is, and the attempt. -/
def Noted.made (n : Noted) : Nat × Text × Attempt :=
  (n.number, n.eventType, n.attempt)

/-- What a frame notes are the attempts that its layer makes in the act. -/
lemma Frame.made_act (f : Frame) (context : Context)
    (g : Exchange → Exchange × Except Failure Unit) :
    (f.act context g).2.1.map Noted.made =
      ((g f.exchange).1.attempts.drop f.exchange.attempts.length).map
        ((f.number, f.layer.eventType, ·)) := by
  rw [act, List.map_map]
  rfl

/-- No layer of a stack ever fails. -/
def Stack.Steady (frames : List Frame) : Prop :=
  ∀ f ∈ frames, f.layer.Steady

namespace Stack

/-- The attempts that are noted if all frames act one after the other. -/
def noted (context : Context) (g : Layer → Exchange → Exchange × Except Failure Unit)
    (frames : List Frame) : List Noted :=
  frames.flatMap fun f => (f.act context (g f.layer)).2.1

variable {context : Context} {g : Layer → Exchange → Exchange × Except Failure Unit}
  {frames : List Frame}

lemma steady_cons {f : Frame} {outer : List Frame} :
    Steady (f :: outer) ↔ f.layer.Steady ∧ Steady outer :=
  List.forall_mem_cons

/-- An act leaves the layers as they are. -/
lemma Steady.acted (steady : Steady frames)
    (g : Layer → Exchange → Exchange × Except Failure Unit) :
    Steady (frames.map (Frame.acted g)) := by
  intro f isIn
  obtain ⟨before, known, rfl⟩ := List.mem_map.mp isIn
  exact steady before known

/-- If an act fails in no steady layer, it succeeds in all of them on the way
out. -/
lemma outward_steady (steady : Steady frames)
    (ok : ∀ layer : Layer, layer.Steady → ∀ x, (g layer x).2 = .ok ()) :
    outward context g frames = (frames.map (Frame.acted g), noted context g frames, .ok ()) := by
  induction frames with
  | nil => rfl
  | cons f outer ih =>
    obtain ⟨first, others⟩ := steady_cons.mp steady
    have here := ok f.layer first f.exchange
    simp only [outward, Frame.act, here, ih others]
    rfl

/-- The same on the way in. -/
lemma inward_steady (steady : Steady frames)
    (ok : ∀ layer : Layer, layer.Steady → ∀ x, (g layer x).2 = .ok ()) :
    inward context g frames =
      (frames.map (Frame.acted g), noted context g frames.reverse, .ok ()) := by
  induction frames with
  | nil => rfl
  | cons f outer ih =>
    obtain ⟨first, others⟩ := steady_cons.mp steady
    have here := ok f.layer first f.exchange
    have last : noted context g (f :: outer).reverse =
        noted context g outer.reverse ++ (f.act context (g f.layer)).2.1 := by
      rw [noted, noted, List.reverse_cons, List.flatMap_append, List.flatMap_singleton]
    rw [last]
    simp only [inward, ih others, Frame.act, here]
    rfl

/-- Steady layers leave the outcome of the application as it is, and each acts
as it would in any context. -/
lemma exists_unwind (steady : Steady frames) (scope : Scope) (clock : Clock)
    (outcome : Except Failure Unit) :
    ∃ notes left, unwind scope clock context outcome frames =
        (frames.map (Frame.acted fun layer => Exchange.ended layer scope clock), notes, outcome,
          left) ∧
      notes.map Noted.made =
        (noted [] (fun layer => Exchange.ended layer scope clock) frames).map Noted.made := by
  induction frames generalizing context with
  | nil => exact ⟨[], context, rfl, rfl⟩
  | cons f outer ih =>
    obtain ⟨first, others⟩ := steady_cons.mp steady
    have here : (Exchange.ended f.layer scope clock f.exchange).2 = .ok () :=
      Exchange.ended_ok first f.exchange
    obtain ⟨notes, left, done, made⟩ := @ih (context.leave f.before) others
    refine ⟨(f.act context (Exchange.ended f.layer scope clock)).2.1 ++ notes, left, ?_, ?_⟩
    · simp only [unwind, Frame.act, here, done]
      rfl
    · rw [List.map_append, made, noted, noted, List.flatMap_cons, List.map_append,
        Frame.made_act, Frame.made_act]

/-- Steady layers, if there are any, take up any request with a well-formed
scope. -/
lemma enter_ok {layers : List (Nat × Layer)} {scope : Scope}
    (typed : layers ≠ [] → scope.IsTyped) (steadyLayers : ∀ layer ∈ layers, layer.2.Steady)
    (steady : Steady frames) (clock : Clock) (notes : List Noted) :
    Steady (enter scope clock frames notes context layers).frames ∧
      (enter scope clock frames notes context layers).result = .ok () := by
  induction layers generalizing frames notes context with
  | nil => exact ⟨steady, rfl⟩
  | cons layer inner ih =>
    obtain ⟨first, others⟩ := List.forall_mem_cons.mp steadyLayers
    have typed := typed (List.cons_ne_nil _ _)
    obtain ⟨x, entered⟩ := Exchange.exists_enter_of_steady first typed clock
    simp only [enter, entered]
    exact ih (fun _ => typed) others (steady_cons.mpr ⟨first, steady⟩) _

end Stack

/-! ### Exchanges on a loop -/

/-- No layer around an exchange ever fails, and whatever its server hands over
has a type. -/
structure Conversation.Steady (c : Conversation) : Prop where
  frames : Stack.Steady c.frames
  incoming : ∀ before, ∃ type, (c.server.incoming before).get? "type" = some type

/-- A scope has a type, and that of a logged exchange is well-formed. -/
def Scope.IsRequest (scope : Scope) : Prop :=
  ∃ type, scope.get? "type" = some type ∧ (type.same World.httpType = true → scope.IsTyped)

namespace World

variable {w : World} {c : Conversation}

/-- A well-formed message passes all layers; whether the server takes it is
what the application learns. -/
lemma send_steady (steady : c.Steady) {m : Message} (typed : m.IsTyped) (i : Nat) :
    let out := c.frames.map (Frame.acted fun _ => Exchange.sending m)
    let back := fun layer => Exchange.sent layer c.scope w.clock m
    let notes := Stack.noted c.context (fun _ => Exchange.sending m) c.frames
    w.send i c m = match c.server.take c.calls m with
      | .error e => (((w.note i notes).see (.refused i)).update i
          { c with frames := out, calls := c.calls ++ [.send m] }, .error e)
      | .ok () =>
        ((((w.note i notes).see (.accepted i m)).note i
          (Stack.noted c.context back out.reverse)).update i
          { c with frames := out.map (Frame.acted back), calls := c.calls ++ [.send m] },
          .ok ()) := by
  intro out back notes
  have passed := @Stack.outward_steady c.context (fun _ => Exchange.sending m) c.frames
    steady.frames fun _ _ => Exchange.sending_ok typed
  have told := @Stack.inward_steady c.context back out (steady.frames.acted _)
    fun _ steady => Exchange.sent_ok steady typed
  rw [send, passed]
  cases taken : c.server.take c.calls m with
  | error e => simp only [taken, out, notes]
  | ok _ =>
    have clock : (w.note i notes).clock = w.clock := rfl
    simp only [taken]
    rw [clock, told]

lemma exists_send (steady : c.Steady) {m : Message} (typed : m.IsTyped) (i : Nat) :
    ∃ frames notes more, Stack.Steady frames ∧ w.send i c m =
      match c.server.take c.calls m with
      | .error e => (((w.note i notes).see (.refused i)).update i
          { c with frames, calls := c.calls ++ [.send m] }, .error e)
      | .ok () => ((((w.note i notes).see (.accepted i m)).note i more).update i
          { c with frames, calls := c.calls ++ [.send m] }, .ok ()) := by
  rw [send_steady steady typed i]
  cases c.server.take c.calls m with
  | error e => exact ⟨_, _, [], steady.frames.acted _, rfl⟩
  | ok _ => exact ⟨_, _, _, (steady.frames.acted _).acted _, rfl⟩

/-- What the server hands over passes all layers. -/
lemma receive_steady (steady : c.Steady) (i : Nat) :
    let m := c.server.incoming c.calls
    let back := fun layer => Exchange.received layer c.scope w.clock m
    w.receive i c =
      (((w.note i (Stack.noted c.context back c.frames.reverse)).update i
        { c with frames := c.frames.map (Frame.acted back), calls := c.calls ++ [.receive] }).see
        (.received i m), .ok m) := by
  intro m back
  have told := @Stack.inward_steady c.context back c.frames steady.frames
    fun _ layer => Exchange.received_ok layer (steady.incoming _)
  rw [receive, told]

lemma exists_receive (steady : c.Steady) (i : Nat) :
    ∃ frames notes, Stack.Steady frames ∧ w.receive i c =
      (((w.note i notes).update i { c with frames, calls := c.calls ++ [.receive] }).see
        (.received i (c.server.incoming c.calls)), .ok (c.server.incoming c.calls)) :=
  ⟨_, _, steady.frames.acted _, receive_steady steady i⟩

/-- The layers leave the outcome of the application as it is. -/
lemma exists_finish_steady (steady : c.Steady) (i : Nat) (outcome : Except Failure Unit) :
    let last := fun layer => Exchange.ended layer c.scope w.clock
    ∃ notes context, w.finish i c outcome =
        ((w.note i notes).update i { c with frames := c.frames.map (Frame.acted last), context }).see
          (.ended i outcome context) ∧
      notes.map Noted.made = (Stack.noted [] last c.frames).map Noted.made := by
  intro last
  obtain ⟨notes, context, done, made⟩ :=
    @Stack.exists_unwind c.context c.frames steady.frames c.scope w.clock outcome
  exact ⟨notes, context, by rw [finish, done], made⟩

lemma exists_finish (steady : c.Steady) (i : Nat) (outcome : Except Failure Unit) :
    ∃ frames notes context, Stack.Steady frames ∧ w.finish i c outcome =
      ((w.note i notes).update i { c with frames, context }).see (.ended i outcome context) := by
  obtain ⟨notes, context, finished, -⟩ := exists_finish_steady steady i outcome
  exact ⟨_, notes, context, steady.frames.acted _, finished⟩

/-- Steady layers, if any, take up a request; it is well-formed then. -/
lemma exists_layersFor (layers : ∀ layer ∈ w.layers, layer.Steady) {scope : Scope}
    (request : scope.IsRequest) :
    ∃ chosen, w.layersFor scope = .ok chosen ∧ (∀ layer ∈ chosen, layer.2.Steady) ∧
      (chosen ≠ [] → scope.IsTyped) := by
  obtain ⟨type, isType, typed⟩ := request
  rw [layersFor]
  by_cases empty : w.layers.isEmpty
  · exact ⟨[], by rw [if_pos empty], List.forall_mem_nil _, fun h => absurd rfl h⟩
  have need : scope.need "type" = .ok type := by rw [Scope.need, isType]
  rw [if_neg empty, need]
  by_cases http : type.same httpType = true
  · refine ⟨_, by simp only [bind, Except.bind, http, if_true]; rfl, fun layer isIn => ?_,
      fun _ => typed http⟩
    obtain ⟨⟨l, k⟩, numbered, rfl⟩ := List.mem_map.mp isIn
    have known : (l, k).1 ∈ w.layers := List.fst_mem_of_mem_zipIdx numbered
    exact layers l known
  · exact ⟨[], by simp [http, bind, Except.bind, pure, Except.pure], List.forall_mem_nil _,
      fun h => absurd rfl h⟩

/-- A request passes all layers, and its application starts. -/
lemma begin_steady {i : Nat} (found : w.conversation? i = some c)
    (layers : ∀ layer ∈ w.layers, layer.Steady) (request : c.scope.IsRequest) (app : App)
    {chosen : List (Nat × Layer)} (isChosen : w.layersFor c.scope = .ok chosen) :
    let entry := Stack.enter c.scope w.clock [] [] c.context chosen
    Stack.Steady entry.frames ∧ w.begin i app = advance i app ((w.note i entry.notes).update i
      { c with frames := entry.frames, failed := entry.failed, context := entry.context }) := by
  intro entry
  obtain ⟨same, isSame, steady, typed⟩ := exists_layersFor layers request
  obtain rfl : chosen = same := Except.ok.inj (isChosen.symm.trans isSame)
  obtain ⟨kept, passed⟩ := @Stack.enter_ok c.context [] chosen c.scope typed steady
    (List.forall_mem_nil _) w.clock []
  refine ⟨kept, ?_⟩
  simp only [begin, found, isChosen]
  rw [passed]

lemma exists_begin {i : Nat} (found : w.conversation? i = some c)
    (layers : ∀ layer ∈ w.layers, layer.Steady) (request : c.scope.IsRequest) (app : App) :
    ∃ frames failed notes context, Stack.Steady frames ∧ w.begin i app =
      advance i app ((w.note i notes).update i { c with frames, failed, context }) := by
  obtain ⟨chosen, isChosen, -, -⟩ := exists_layersFor layers request
  obtain ⟨kept, began⟩ := begin_steady found layers request app isChosen
  exact ⟨_, _, _, _, kept, began⟩

end World

end AccessLog
