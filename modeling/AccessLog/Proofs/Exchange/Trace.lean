/-
Exchanges on one loop, step by step.

* `World.SameLog`: a change that no layer takes part in.
* `World.Act`: a step that concerns the log: layers take up a request, something
  happens to one of them, or an event goes to its sink.
* `World.Step`, `World.Trace`: the steps in any order, those of one exchange
  between those of others.
* `World.Does`: some steps of one exchange.
* `World.Move`, `World.Moves`: steps of one exchange that are taken in one context.
* `World.moves_outward`, `World.moves_inward`, `World.does_unwind`: layers around
  one another act one after the other.
* `World.moves_send`, `World.moves_receive`, `World.does_finish`: all that an
  exchange does are such steps.
* `World.pursue`, `World.advance_eq`: an application up to its end, and what its
  layers make of that.
* `World.pursued_pursue`, `World.does_pursue`, `World.does_advance`: so is all that
  an application does.
* `World.turn_cases`, `World.exists_trace_turns`: a turn of the loop belongs to
  one exchange, or sends one event.
-/
import Mathlib.Logic.Relation
import AccessLog.Proofs.Exchange.Transparency

namespace AccessLog

/-- An attempt or an event. -/
def Occurrence.isLogged : Occurrence → Bool
  | .attempted .. => true
  | .emitted .. => true
  | _ => false

namespace World

/-- A step that concerns the log. -/
inductive Act where
  /-- A request comes to the layers. -/
  | entered (exchange : Nat) (scope : Scope) (clock : Clock)
  /-- Something happens to a numbered layer. -/
  | happened (exchange number : Nat) (scope : Scope) (clock : Clock) (h : Exchange.Happening)
  /-- An event goes to the sink of a numbered layer. -/
  | handed (number : Nat) (event : Emission)

namespace Act

/-- The exchange of a step. -/
def exchange? : Act → Option Nat
  | entered i .. => some i
  | happened i .. => some i
  | handed .. => none

/-- The event that goes to a sink. -/
def event? : Act → Option Emission
  | handed _ event => some event
  | _ => none

end Act

/-- The layers around each exchange. -/
def frames (w : World) : List (List Frame) :=
  w.conversations.map (·.frames)

/-- The jobs that send events. -/
def sending (w : World) : List Job :=
  w.queue.filter (·.exchange?.isNone)

/-- The jobs of applications. -/
def errands (w : World) : List Job :=
  w.queue.filter (·.exchange?.isSome)

/-- The contexts that exchanges run in. -/
def contexts (w : World) : List Context :=
  w.conversations.map (·.context)

/-- A change that no layer takes part in: calls on servers, changes of scopes
and clocks, lines, and jobs of applications. -/
structure SameLog (w v : World) : Prop where
  layers : v.layers = w.layers
  sinks : v.sinks = w.sinks
  network : v.network = w.network
  frames : v.frames = w.frames
  sending : v.sending = w.sending
  seen : v.seen.filter Occurrence.isLogged = w.seen.filter Occurrence.isLogged

/-- One step. A message may go out in several of them, since other exchanges may
have their turns while the server is at work. -/
inductive Step : World → Option Act → World → Prop
  /-- Nothing of it concerns the log. -/
  | quiet {w v : World} (same : w.SameLog v) : Step w none v
  /-- The layers take up a request, or fail to. -/
  | enter {w : World} {i : Nat} {c : Conversation} {layers : List (Nat × Layer)}
      {entry : Stack.Entry} (found : w.conversation? i = some c)
      (chosen : w.layersFor c.scope = .ok layers)
      (entered : Stack.enter c.scope w.clock [] [] c.context layers = entry) :
      Step w (some (.entered i c.scope w.clock)) ((w.note i entry.notes).update i
        { c with frames := entry.frames, failed := entry.failed, context := entry.context })
  /-- Something happens to one layer, whatever has happened to it before. -/
  | happen {w : World} {i : Nat} {c : Conversation} {inner outer : List Frame}
      {f after : Frame} {context : Context} {h : Exchange.Happening} {notes : List Noted}
      {result : Except Failure Unit} (found : w.conversation? i = some c)
      (frames : c.frames = inner ++ f :: outer)
      (acted : f.act context (fun x => Exchange.step f.layer c.scope w.clock x h) =
        (after, notes, result)) :
      Step w (some (.happened i f.number c.scope w.clock h)) ((w.note i notes).update i
        { c with frames := inner ++ after :: outer })
  /-- The first job sends its event. -/
  | emit {w : World} {number : Nat} {event : Emission} {context : Context} {rest : List Job}
      (queue : w.queue = .emit number event context :: rest) :
      Step w (some (.handed number event))
        (World.emit { w with queue := rest } number event context)

/-- Any number of steps, with those that concern the log. -/
inductive Trace (w : World) : List Act → World → Prop
  | start : Trace w [] w
  | next {acts : List Act} {v u : World} {act : Option Act} (trace : Trace w acts v)
      (step : Step v act u) : Trace w (acts ++ act.toList) u

/-- Some steps of one exchange. -/
def Does (i : Nat) (w v : World) : Prop :=
  ∃ acts, Trace w acts v ∧ ∀ act ∈ acts, act.exchange? = some i

/-- A step of one exchange that is taken in a context. No application gets or
loses its turn by it, and none runs in another context after it. -/
inductive Move (i : Nat) (context : Context) : World → World → Prop
  /-- No layer takes part. -/
  | quiet {w v : World} (same : w.SameLog v) (contexts : v.contexts = w.contexts)
      (errands : v.errands = w.errands) : Move i context w v
  /-- Something happens to one layer, which notes its attempts in the context. -/
  | act {w : World} {c : Conversation} {inner outer : List Frame} {f after : Frame}
      {h : Exchange.Happening} {notes : List Noted} {result : Except Failure Unit}
      (found : w.conversation? i = some c) (frames : c.frames = inner ++ f :: outer)
      (acted : f.act context (fun x => Exchange.step f.layer c.scope w.clock x h) =
        (after, notes, result)) :
      Move i context w ((w.note i notes).update i { c with frames := inner ++ after :: outer })

/-- Some steps of one exchange in one context. -/
abbrev Moves (i : Nat) (context : Context) : World → World → Prop :=
  Relation.ReflTransGen (Move i context)

variable {w v u : World} {i : Nat} {c : Conversation}

lemma Step.trace {act : Option Act} (step : Step w act v) : Trace w act.toList v :=
  .next .start step

lemma Trace.append {first second : List Act} (before : Trace w first v)
    (after : Trace v second u) : Trace w (first ++ second) u := by
  induction after with
  | start => rwa [List.append_nil]
  | next trace step ih =>
    rw [← List.append_assoc]
    exact .next ih step

namespace Does

lemma refl (i : Nat) (w : World) : Does i w w :=
  ⟨[], .start, List.forall_mem_nil _⟩

lemma trans (before : Does i w v) (after : Does i v u) : Does i w u := by
  obtain ⟨first, reached, own⟩ := before
  obtain ⟨second, went, also⟩ := after
  exact ⟨first ++ second, reached.append went, List.forall_mem_append.mpr ⟨own, also⟩⟩

lemma step {act : Act} (step : Step w (some act) v) (own : act.exchange? = some i) :
    Does i w v :=
  ⟨[act], step.trace, List.forall_mem_singleton.mpr own⟩

lemma quiet (same : w.SameLog v) : Does i w v :=
  ⟨[], (Step.quiet same).trace, List.forall_mem_nil _⟩

end Does

/-! ### Small changes -/

lemma sameLog_see (w : World) {o : Occurrence} (unlogged : o.isLogged = false) :
    w.SameLog (w.see o) :=
  ⟨rfl, rfl, rfl, rfl, rfl, by simp [see, unlogged]⟩

/-- An exchange may change as long as the layers around it do not. -/
lemma sameLog_update (found : w.conversation? i = some c) {d : Conversation}
    (same : d.frames = c.frames) : w.SameLog (w.update i d) := by
  refine ⟨rfl, rfl, rfl, ?_, rfl, rfl⟩
  calc (w.update i d).frames = (w.update i c).frames := by
        simp only [frames, update, List.map_set, same]
    _ = w.frames := by rw [update_self found]

@[simp] lemma frames_update (w : World) (i : Nat) (c : Conversation) :
    (w.update i c).frames = w.frames.set i c.frames :=
  List.map_set

@[simp] lemma frames_note (w : World) (i : Nat) (notes : List Noted) :
    (w.note i notes).frames = w.frames :=
  rfl

/-! Sending an event is no part of any exchange. -/

@[simp] lemma layers_emit (w : World) (number : Nat) (event : Emission) (context : Context) :
    (w.emit number event context).layers = w.layers := by
  obtain ⟨_, _, _, _, sent, -, -⟩ := exists_emit w number event context
  rw [sent]

@[simp] lemma frames_emit (w : World) (number : Nat) (event : Emission) (context : Context) :
    (w.emit number event context).frames = w.frames := by
  obtain ⟨_, _, _, _, sent, -, -⟩ := exists_emit w number event context
  rw [sent, frames, frames]

@[simp] lemma sending_emit (w : World) (number : Nat) (event : Emission) (context : Context) :
    (w.emit number event context).sending = w.sending := by
  obtain ⟨_, _, _, _, sent, -, -⟩ := exists_emit w number event context
  rw [sent, sending, sending]

/-- The layers around an exchange. -/
lemma frames_getElem? (found : w.conversation? i = some c) : w.frames[i]? = some c.frames := by
  rw [frames, List.getElem?_map]
  exact congrArg _ found

lemma SameLog.trans (first : w.SameLog v) (second : v.SameLog u) : w.SameLog u :=
  ⟨second.layers.trans first.layers, second.sinks.trans first.sinks,
    second.network.trans first.network, second.frames.trans first.frames,
    second.sending.trans first.sending, second.seen.trans first.seen⟩

lemma conversation?_update (found : w.conversation? i = some c) (d : Conversation) :
    (w.update i d).conversation? i = some d := by
  obtain ⟨inside, -⟩ := List.getElem?_eq_some_iff.mp found
  exact List.getElem?_set_self inside

@[simp] lemma update_update (w : World) (i : Nat) (c d : Conversation) :
    (w.update i c).update i d = w.update i d := by
  simp [update, List.set_set]

lemma note_note (w : World) (i : Nat) (first second : List Noted) :
    (w.note i first).note i second = w.note i (first ++ second) := by
  simp [note]

/-- Attempts between two changes of one exchange. -/
lemma update_note_update (w : World) (i : Nat) (notes : List Noted) (c d : Conversation) :
    ((w.update i c).note i notes).update i d = (w.note i notes).update i d :=
  update_update (w.note i notes) i c d

lemma contexts_update (found : w.conversation? i = some c) {d : Conversation}
    (same : d.context = c.context) : (w.update i d).contexts = w.contexts := by
  calc (w.update i d).contexts = (w.update i c).contexts := by
        simp only [contexts, update, List.map_set, same]
    _ = w.contexts := by rw [update_self found]

/-- Attempts give no application a turn. -/
@[simp] lemma errands_note (w : World) (i : Nat) (notes : List Noted) :
    (w.note i notes).errands = w.errands := by
  have same := congrArg World.queue (bare_note w i notes)
  exact same

/-! ### Steps in one context -/

namespace Move

variable {context : Context}

lemma does (move : Move i context w v) : Does i w v := by
  cases move with
  | quiet same _ _ => exact .quiet same
  | act found frames acted => exact .step (.happen found frames acted) rfl

lemma contexts (move : Move i context w v) : v.contexts = w.contexts := by
  cases move with
  | quiet _ contexts _ => exact contexts
  | act found _ _ => exact contexts_update (w := w.note i _) found rfl

lemma errands (move : Move i context w v) : v.errands = w.errands := by
  cases move with
  | quiet _ _ errands => exact errands
  | act _ _ _ => exact errands_note w i _

lemma see (w : World) {o : Occurrence} (unlogged : o.isLogged = false) :
    Move i context w (w.see o) :=
  .quiet (sameLog_see w unlogged) rfl rfl

lemma update (found : w.conversation? i = some c) {d : Conversation} (frames : d.frames = c.frames)
    (same : d.context = c.context) : Move i context w (w.update i d) :=
  .quiet (sameLog_update found frames) (contexts_update found same) rfl

end Move

namespace Moves

variable {context : Context}

lemma does (moves : Moves i context w v) : Does i w v := by
  induction moves with
  | refl => exact .refl i w
  | tail _ move ih => exact ih.trans move.does

lemma contexts (moves : Moves i context w v) : v.contexts = w.contexts := by
  induction moves with
  | refl => rfl
  | tail _ move ih => exact move.contexts.trans ih

lemma errands (moves : Moves i context w v) : v.errands = w.errands := by
  induction moves with
  | refl => rfl
  | tail _ move ih => exact move.errands.trans ih

/-- An exchange is still in the context that it was in. -/
lemma runsIn (moves : Moves i context w v)
    (runs : ∀ c, w.conversation? i = some c → c.context = context) :
    ∀ c, v.conversation? i = some c → c.context = context := by
  intro c found
  have known : w.contexts[i]? = some c.context := by
    rw [← moves.contexts, World.contexts, List.getElem?_map]
    exact congrArg _ found
  rw [World.contexts, List.getElem?_map, Option.map_eq_some_iff] at known
  obtain ⟨d, before, same⟩ := known
  exact same ▸ runs d before

end Moves

/-! ### Layers around one another -/

/-- On the way out something happens to the layers of an exchange, up to the
first that fails. -/
lemma moves_outward {context : Context} {h : Exchange.Happening} {outer : List Frame}
    (found : w.conversation? i = some c) (inner : List Frame) (frames : c.frames = inner ++ outer)
    {after : List Frame} {notes : List Noted} {result : Except Failure Unit}
    (passed : Stack.outward context (fun layer x => Exchange.step layer c.scope w.clock x h) outer =
      (after, notes, result)) :
    Moves i context w ((w.note i notes).update i { c with frames := inner ++ after }) := by
  induction outer generalizing w c inner after notes result with
  | nil =>
    cases passed
    rw [note_nil, ← frames, update_self found]
  | cons f outer ih =>
    rw [Stack.outward] at passed
    rcases acted : f.act context (fun x => Exchange.step f.layer c.scope w.clock x h) with
      ⟨next, first, failed | _⟩
    · simp only [acted] at passed
      cases passed
      exact .single (.act found frames acted)
    · simp only [acted] at passed
      rcases rest : Stack.outward context
        (fun layer x => Exchange.step layer c.scope w.clock x h) outer with ⟨others, more, final⟩
      rw [rest] at passed
      cases passed
      -- the layer that has acted joins those on the inner side
      have later := ih (w := (w.note i first).update i { c with frames := inner ++ next :: outer })
        (conversation?_update found _) (inner ++ [next]) (by simp) rest
      rw [update_note_update, note_note, List.append_assoc, List.singleton_append] at later
      exact .head (.act found frames acted) later

/-- The same on the way in. -/
lemma moves_inward {context : Context} {h : Exchange.Happening} {outer : List Frame}
    (found : w.conversation? i = some c) (inner : List Frame) (frames : c.frames = inner ++ outer)
    {after : List Frame} {notes : List Noted} {result : Except Failure Unit}
    (passed : Stack.inward context (fun layer x => Exchange.step layer c.scope w.clock x h) outer =
      (after, notes, result)) :
    Moves i context w ((w.note i notes).update i { c with frames := inner ++ after }) := by
  induction outer generalizing inner after notes result with
  | nil =>
    cases passed
    rw [note_nil, ← frames, update_self found]
  | cons f outer ih =>
    rw [Stack.inward] at passed
    rcases rest : Stack.inward context
      (fun layer x => Exchange.step layer c.scope w.clock x h) outer with
      ⟨others, first, failed | _⟩
    · simp only [rest] at passed
      cases passed
      simpa using ih (inner ++ [f]) (by simp [frames]) rest
    · simp only [rest] at passed
      rcases acted : f.act context (fun x => Exchange.step f.layer c.scope w.clock x h) with
        ⟨next, more, final⟩
      simp only [acted] at passed
      cases passed
      have earlier := ih (inner ++ [f]) (by simp [frames]) rest
      rw [List.append_assoc, List.singleton_append] at earlier
      have later : Move i context _ _ := .act (w := (w.note i first).update i
        { c with frames := inner ++ f :: others }) (conversation?_update found _) rfl acted
      rw [update_note_update, note_note] at later
      exact earlier.tail later

/-- Once the application is done, so are the layers of its exchange. -/
lemma does_unwind {context : Context} {outcome : Except Failure Unit} {outer : List Frame}
    (found : w.conversation? i = some c) (inner : List Frame) (frames : c.frames = inner ++ outer)
    {after : List Frame} {notes : List Noted} {final : Except Failure Unit} {left : Context}
    (done : Stack.unwind c.scope w.clock context outcome outer = (after, notes, final, left)) :
    Does i w ((w.note i notes).update i { c with frames := inner ++ after }) := by
  induction outer generalizing w c inner after notes context outcome with
  | nil =>
    cases done
    rw [note_nil, ← frames, update_self found]
    exact .refl i w
  | cons f outer ih =>
    rw [Stack.unwind] at done
    rcases acted : f.act context (Exchange.ended f.layer c.scope w.clock) with
      ⟨next, first, result⟩
    simp only [acted] at done
    generalize rest : Stack.unwind c.scope w.clock _ _ outer = inside at done
    obtain ⟨others, more, final', left'⟩ := inside
    cases done
    have later := ih (w := (w.note i first).update i { c with frames := inner ++ next :: outer })
      (conversation?_update found _) (inner ++ [next]) (by simp) rest
    rw [update_note_update, note_note, List.append_assoc, List.singleton_append] at later
    exact Does.trans (.step (.happen (h := .ended) found frames acted) rfl) later

/-! ### Exchanges -/

/-- A message goes out. -/
lemma moves_send (found : w.conversation? i = some c) (m : Message) :
    Moves i c.context w (w.send i c m).1 := by
  rw [send]
  rcases out : Stack.outward c.context (fun _ => Exchange.sending m) c.frames with
    ⟨frames, notes, failed | _⟩
  · exact moves_outward (h := .sending m) found [] rfl out
  · have before : Moves i c.context w ((w.note i notes).update i { c with frames }) :=
      moves_outward (h := .sending m) found [] rfl out
    have there := conversation?_update (w := w.note i notes) found { c with frames }
    have asked : Move i c.context _ _ :=
      .update there (d := { c with frames, calls := c.calls ++ [.send m] }) rfl rfl
    rw [update_update] at asked
    dsimp only
    cases taken : c.server.take c.calls m with
    | error e => exact (before.tail asked).tail (.see _ rfl)
    | ok _ =>
      dsimp only
      rcases back : Stack.inward c.context
        (fun layer => Exchange.sent layer c.scope (w.note i notes).clock m) frames with
        ⟨after, more, result⟩
      have later := moves_inward (h := .sent m)
        (conversation?_update (w := (w.note i notes).see (.accepted i m)) found
          { c with frames, calls := c.calls ++ [.send m] }) [] rfl back
      rw [update_note_update] at later
      exact ((before.tail asked).tail (.see _ (o := .accepted i m) rfl)).trans later

/-- A message comes in. -/
lemma moves_receive (found : w.conversation? i = some c) :
    Moves i c.context w (w.receive i c).1 := by
  rw [receive]
  dsimp only
  rcases passed : Stack.inward c.context
    (fun layer => Exchange.received layer c.scope w.clock (c.server.incoming c.calls)) c.frames with
    ⟨frames, notes, result⟩
  have before := moves_inward (h := .received _) found [] rfl passed
  have asked : Move i c.context _ _ := .update
    (conversation?_update (w := w.note i notes) found { c with frames })
    (d := { c with frames, calls := c.calls ++ [.receive] }) rfl rfl
  rw [update_update] at asked
  cases result with
  | error e => exact before.tail asked
  | ok _ => exact (before.tail asked).tail (.see _ rfl)

/-- The application is done. -/
lemma does_finish (found : w.conversation? i = some c) (outcome : Except Failure Unit) :
    Does i w (w.finish i c outcome) := by
  rw [finish]
  rcases done : Stack.unwind c.scope w.clock c.context outcome c.frames with
    ⟨frames, notes, final, context⟩
  have before := does_unwind found [] rfl done
  have left := sameLog_update
    (conversation?_update (w := w.note i notes) found { c with frames })
    (d := { c with frames, context }) rfl
  rw [update_update] at left
  exact before.trans (.quiet (left.trans (sameLog_see _ rfl)))

/-- Whatever an application lets be known is not logged. -/
lemma sameLog_tell (w : World) (i : Nat) (c : Conversation) (what : Telling) :
    w.SameLog (w.tell i c what) := by
  cases what with
  | caught e => exact sameLog_see w rfl
  | context => exact sameLog_see w rfl
  | line call => exact ⟨rfl, rfl, rfl, rfl, rfl, rfl⟩

/-- An application runs up to its next pause or its end, of which its layers
have yet to learn; the outcome is its own. -/
def pursue (i : Nat) : App → World → World × Option (Except Failure Unit)
  | .done outcome, w => (w, some outcome)
  | .send m next, w =>
    match w.conversation? i with
    | some c => let (w, result) := w.send i c m; pursue i (next result) w
    | none => (w, none)
  | .receive next, w =>
    match w.conversation? i with
    | some c => let (w, result) := w.receive i c; pursue i (next result) w
    | none => (w, none)
  | .edit change next, w =>
    match w.conversation? i with
    | some c => pursue i next (w.update i { c with scope := change c.scope })
    | none => (w, none)
  | .elapse nanos next, w =>
    pursue i next { w with clock := { w.clock with ticks := w.clock.ticks + nanos } }
  | .pause next, w => ({ w with queue := w.queue ++ [.resume i next] }, none)
  | .tell what next, w =>
    match w.conversation? i with
    | some c => pursue i next (w.tell i c what)
    | none => (w, none)

/-- The layers learn of the outcome of the application. -/
def conclude (i : Nat) : World × Option (Except Failure Unit) → World
  | (w, none) => w
  | (w, some outcome) =>
    match w.conversation? i with
    | some c => w.finish i c outcome
    | none => w

/-- An application runs up to its end before its layers learn of it. -/
theorem advance_eq (app : App) (w : World) : advance i app w = conclude i (pursue i app w) := by
  induction app generalizing w with
  | done outcome => rfl
  | send m next ih =>
    rw [advance, pursue]
    cases w.conversation? i with
    | none => rfl
    | some c => exact ih _ _
  | receive next ih =>
    rw [advance, pursue]
    cases w.conversation? i with
    | none => rfl
    | some c => exact ih _ _
  | edit change next ih =>
    rw [advance, pursue]
    cases w.conversation? i with
    | none => rfl
    | some c => exact ih _
  | elapse nanos next ih => exact ih _
  | pause next => rfl
  | tell what next ih =>
    rw [advance, pursue]
    cases w.conversation? i with
    | none => rfl
    | some c => exact ih _

/-- What some steps of an exchange in one context have led to: an application has
come to its end, or it waits for its next turn. -/
def Pursued (i : Nat) (context : Context) (w : World)
    (ran : World × Option (Except Failure Unit)) : Prop :=
  ∃ v, Moves i context w v ∧ ((∃ outcome, ran = (v, outcome)) ∨
    ∃ next, ran = ({ v with queue := v.queue ++ [.resume i next] }, none))

/-- Nothing is left to do. -/
lemma pursued_self (i : Nat) (context : Context) (w : World)
    (outcome : Option (Except Failure Unit)) : Pursued i context w (w, outcome) :=
  ⟨w, .refl, .inl ⟨outcome, rfl⟩⟩

lemma Moves.pursued {context : Context} {ran : World × Option (Except Failure Unit)}
    (first : Moves i context w v) (rest : Pursued i context v ran) : Pursued i context w ran := by
  obtain ⟨u, second, ended⟩ := rest
  exact ⟨u, first.trans second, ended⟩

/-- What an application does up to its next pause or its end are steps of its
exchange in the context that the exchange runs in. -/
theorem pursued_pursue (app : App) {w : World} {context : Context}
    (runs : ∀ c, w.conversation? i = some c → c.context = context) :
    Pursued i context w (pursue i app w) := by
  induction app generalizing w with
  | done outcome => exact pursued_self i context w _
  | send m next ih =>
    rw [pursue]
    split
    · next c found =>
      have first := runs c found ▸ moves_send found m
      exact first.pursued (ih _ (first.runsIn runs))
    · exact pursued_self i context w _
  | receive next ih =>
    rw [pursue]
    split
    · next c found =>
      have first := runs c found ▸ moves_receive found
      exact first.pursued (ih _ (first.runsIn runs))
    · exact pursued_self i context w _
  | edit change next ih =>
    rw [pursue]
    split
    · next c found =>
      have first : Moves i context w (w.update i { c with scope := change c.scope }) :=
        .single (.update found rfl rfl)
      exact first.pursued (ih (first.runsIn runs))
    · exact pursued_self i context w _
  | elapse nanos next ih =>
    have first : Moves i context w
        { w with clock := { w.clock with ticks := w.clock.ticks + nanos } } :=
      .single (.quiet ⟨rfl, rfl, rfl, rfl, rfl, rfl⟩ rfl rfl)
    rw [pursue]
    exact first.pursued (ih (first.runsIn runs))
  | pause next => exact ⟨w, .refl, .inr ⟨next, rfl⟩⟩
  | tell what next ih =>
    rw [pursue]
    split
    · next c found =>
      have first : Moves i context w (w.tell i c what) :=
        .single (.quiet (sameLog_tell w i c what) (by cases what <;> rfl) (by cases what <;> rfl))
      exact first.pursued (ih (first.runsIn runs))
    · exact pursued_self i context w _

/-- An application that waits for its next turn does nothing else. -/
lemma sameLog_pause (w : World) (i : Nat) (next : App) :
    w.SameLog { w with queue := w.queue ++ [.resume i next] } :=
  ⟨rfl, rfl, rfl, rfl, by simp [sending, Job.exchange?], rfl⟩

lemma errands_pause (w : World) (i : Nat) (next : App) :
    errands { w with queue := w.queue ++ [.resume i next] } = w.errands ++ [.resume i next] := by
  simp [errands, Job.exchange?]

/-- Up to its next pause or its end an application takes steps of its exchange. -/
theorem does_pursue (app : App) (w : World) : Does i w (pursue i app w).1 := by
  obtain ⟨context, runs⟩ : ∃ context, ∀ c, w.conversation? i = some c → c.context = context := by
    cases w.conversation? i with
    | none => exact ⟨[], fun c found => by cases found⟩
    | some c => exact ⟨c.context, fun d same => by cases same; rfl⟩
  obtain ⟨v, moves, ⟨outcome, ran⟩ | ⟨next, ran⟩⟩ := pursued_pursue app runs
  · rw [ran]
    exact moves.does
  · rw [ran]
    exact moves.does.trans (.quiet (sameLog_pause v i next))

/-- So it does at its end. -/
theorem does_advance (app : App) (w : World) : Does i w (advance i app w) := by
  rw [advance_eq]
  have before : Does i w (pursue i app w).1 := does_pursue app w
  generalize pursue i app w = ran at before ⊢
  obtain ⟨v, none | outcome⟩ := ran
  · exact before
  · rw [conclude]
    split
    · next c found => exact before.trans (does_finish found outcome)
    · exact before

/-- A request enters the layers, and its application starts. -/
theorem does_begin (w : World) (i : Nat) (app : App) : Does i w (w.begin i app) := by
  rw [begin]
  split
  · exact .refl i w
  · next c found =>
    split
    · exact .quiet (sameLog_see w rfl)
    · next layers chosen =>
      have entered : Does i w _ := .step (.enter found chosen rfl) rfl
      dsimp only
      split
      · exact entered.trans (does_advance app _)
      · exact entered.trans (does_finish (conversation?_update (w := w.note i _) found _) _)

/-! ### What all layers keep -/

section Kept

variable {P : Layer → Exchange → Prop}

/-- What every layer has at its entry, all layers around an exchange have then. -/
lemma forall_enter (enter : ∀ {layer scope clock x result},
      Exchange.enter layer scope clock = .ok (x, result) → P layer x)
    {scope : Scope} {clock : Clock} {context : Context} {frames : List Frame}
    {notes : List Noted} {layers : List (Nat × Layer)}
    (before : ∀ f ∈ frames, P f.layer f.exchange) :
    ∀ f ∈ (Stack.enter scope clock frames notes context layers).frames, P f.layer f.exchange := by
  induction layers generalizing frames notes context with
  | nil => exact before
  | cons layer inner ih =>
    rw [Stack.enter]
    rcases entered : Exchange.enter layer.2 scope clock with e | ⟨x, e | _⟩
    · exact before
    · exact before
    · exact ih (List.forall_mem_cons.mpr ⟨enter entered, before⟩)

/-- What every layer has at its entry and keeps in all that happens to it, all
layers have in all orders of steps. -/
theorem Trace.forall_frames (enter : ∀ {layer scope clock x result},
      Exchange.enter layer scope clock = .ok (x, result) → P layer x)
    (step : ∀ {layer x} scope clock h, P layer x → P layer (Exchange.step layer scope clock x h).1)
    {acts : List Act} (trace : Trace w acts v)
    (start : ∀ frames ∈ w.frames, ∀ f ∈ frames, P f.layer f.exchange) :
    ∀ frames ∈ v.frames, ∀ f ∈ frames, P f.layer f.exchange := by
  induction trace with
  | start => exact start
  | @next acts v u act trace one ih =>
    cases one with
    | quiet same => exact same.frames ▸ ih
    | @enter i c layers entry found chosen entered =>
      intro frames isIn
      rw [frames_update, frames_note] at isIn
      rcases List.mem_or_eq_of_mem_set isIn with old | rfl
      · exact ih frames old
      · rw [← entered]
        exact forall_enter enter (List.forall_mem_nil _)
    | @happen i c inner outer f after context h notes result found frames acted =>
      intro stack isIn
      rw [frames_update, frames_note] at isIn
      rcases List.mem_or_eq_of_mem_set isIn with old | rfl
      · exact ih stack old
      · have known := ih c.frames (List.mem_of_getElem? (frames_getElem? found))
        rw [frames, List.forall_mem_append, List.forall_mem_cons] at known
        obtain ⟨inside, here, outside⟩ := known
        cases acted
        exact List.forall_mem_append.mpr
          ⟨inside, List.forall_mem_cons.mpr ⟨step _ _ h here, outside⟩⟩
    | @emit number event context rest queue =>
      rw [frames_emit]
      exact ih

end Kept

/-! ### The loop -/

/-- A turn of the loop belongs to one exchange, or an event goes to its sink in
it and nothing else happens. -/
theorem turn_cases (w : World) :
    (∃ i, Does i w w.turn) ∨ ∃ number event, Step w (some (.handed number event)) w.turn := by
  cases queue : w.queue with
  | nil =>
    rw [turn, queue]
    exact .inl ⟨0, .refl 0 w⟩
  | cons job rest =>
    have taken (i : Nat) (task : job.exchange? = some i) : Does i w { w with queue := rest } :=
      .quiet ⟨rfl, rfl, rfl, rfl, by simp [sending, queue, task], rfl⟩
    rw [turn, queue]
    cases job with
    | start i app => exact .inl ⟨i, (taken i rfl).trans (does_begin _ i app)⟩
    | resume i app => exact .inl ⟨i, (taken i rfl).trans (does_advance app _)⟩
    | emit number event context => exact .inr ⟨number, event, .emit queue⟩

/-- Whatever is done in some turns is done in such steps. -/
theorem exists_trace_turns (w : World) (n : Nat) : ∃ acts, Trace w acts (w.turns n) := by
  induction n generalizing w with
  | zero => exact ⟨[], .start⟩
  | succ n ih =>
    obtain ⟨later, rest⟩ := ih w.turn
    rcases w.turn_cases with ⟨i, acts, first, -⟩ | ⟨number, event, first⟩
    · exact ⟨acts ++ later, first.append rest⟩
    · exact ⟨_, first.trace.append rest⟩

end World

end AccessLog
