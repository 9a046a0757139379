/-
One layer among others.

* `Stack.Has`: a layer around an exchange, the only one of its number.
* `Stack.Has.acted`, `Stack.Has.notedBy_noted`: in an act of all layers it does what it
  would do alone, and the attempts of its number are its own.
* `Stack.exists_has_enter`: so it is at the entry of a request.
* `World.attemptsBy`, `World.queuedBy`: the attempts of a numbered layer so far,
  and its events that wait.
* `World.Alongside`: a layer to which some moments have happened, whatever layers
  there are around it or inside it.
* `World.Alongside.send`, `World.Alongside.receive`, `World.Alongside.finish`:
  what the exchange does happens to every such layer.
-/
import AccessLog.Proofs.Exchange.Outcome

namespace AccessLog

/-- Type and attempt, if the attempt is that of a numbered layer. -/
def Noted.by? (number : Nat) (n : Noted) : Option (Text × Attempt) :=
  if n.number = number then some (n.eventType, n.attempt) else none

/-- The attempt that is seen of a numbered layer. -/
def Occurrence.attemptBy? (number : Nat) : Occurrence → Option Attempt
  | .attempted _ k a => if k = number then some a else none
  | _ => none

/-- The event of a numbered layer that a job sends. -/
def Job.eventBy? (number : Nat) : Job → Option Emission
  | .emit k event _ => if k = number then some event else none
  | _ => none

/-! ### A layer in a stack -/

namespace Stack

variable {number : Nat} {layer : Layer} {x : Exchange} {frames : List Frame}

/-- Among the layers of a stack there is one with a number that no other has. -/
def Has (number : Nat) (layer : Layer) (x : Exchange) (frames : List Frame) : Prop :=
  ∃ inner before outer, frames = inner ++ ⟨number, layer, x, before⟩ :: outer ∧
    ∀ f ∈ inner ++ outer, f.number ≠ number

/-- The attempts that a numbered layer has made. -/
def notedBy (number : Nat) (notes : List Noted) : List (Text × Attempt) :=
  notes.filterMap (Noted.by? number)

lemma notedBy_append (number : Nat) (first second : List Noted) :
    notedBy number (first ++ second) = notedBy number first ++ notedBy number second :=
  List.filterMap_append

/-- Whose attempts they are can be read without their contexts. -/
lemma notedBy_congr {notes others : List Noted}
    (same : notes.map Noted.made = others.map Noted.made) (number : Nat) :
    notedBy number notes = notedBy number others := by
  have read (l : List Noted) : notedBy number l = (l.map Noted.made).filterMap
      fun n => if n.1 = number then some n.2 else none := by
    rw [List.filterMap_map]
    rfl
  rw [read, same, ← read]

/-- Attempts as they are noted under the number and the type of a layer. -/
lemma notedBy_self (number : Nat) (type : Text) (context : Context) (made : List Attempt) :
    notedBy number (made.map fun a => ⟨number, type, a, context⟩) = made.map ((type, ·)) := by
  simp [notedBy, Noted.by?, List.filterMap_map, Function.comp_def]

lemma notedBy_other {k : Nat} (other : k ≠ number) (type : Text) (context : Context)
    (made : List Attempt) :
    notedBy number (made.map fun a => ⟨k, type, a, context⟩) = [] := by
  simp [notedBy, Noted.by?, List.filterMap_map, Function.comp_def, other]

/-- Other layers note nothing under the number. -/
lemma notedBy_noted_of_ne (others : ∀ f ∈ frames, f.number ≠ number) (context : Context)
    (g : Layer → Exchange → Exchange × Except Failure Unit) :
    notedBy number (noted context g frames) = [] := by
  induction frames with
  | nil => rfl
  | cons f outer ih =>
    obtain ⟨other, rest⟩ := List.forall_mem_cons.mp others
    have first : notedBy number (f.act context (g f.layer)).2.1 = [] :=
      notedBy_other other f.layer.eventType context _
    rw [noted, List.flatMap_cons, notedBy_append, first]
    exact ih rest

namespace Has

lemma reverse (has : Has number layer x frames) : Has number layer x frames.reverse := by
  obtain ⟨inner, before, outer, rfl, others⟩ := has
  refine ⟨outer.reverse, before, inner.reverse, by simp, fun f isIn => others f ?_⟩
  rw [List.mem_append, List.mem_reverse, List.mem_reverse] at isIn
  exact List.mem_append.mpr isIn.symm

/-- In an act of all layers each does what it would do alone. -/
lemma acted (has : Has number layer x frames)
    (g : Layer → Exchange → Exchange × Except Failure Unit) :
    Has number layer (g layer x).1 (frames.map (Frame.acted g)) := by
  obtain ⟨inner, before, outer, rfl, others⟩ := has
  refine ⟨inner.map (Frame.acted g), before, outer.map (Frame.acted g), by simp [Frame.acted],
    fun f isIn => ?_⟩
  rw [← List.map_append] at isIn
  obtain ⟨f', known, rfl⟩ := List.mem_map.mp isIn
  exact others f' known

/-- The attempts of its number are those that it makes. -/
lemma notedBy_noted (has : Has number layer x frames) (context : Context)
    (g : Layer → Exchange → Exchange × Except Failure Unit) :
    notedBy number (noted context g frames) =
      ((g layer x).1.attempts.drop x.attempts.length).map ((layer.eventType, ·)) := by
  obtain ⟨inner, before, outer, rfl, others⟩ := has
  rw [List.forall_mem_append] at others
  have apart : noted context g (inner ++ ⟨number, layer, x, before⟩ :: outer) =
      noted context g inner ++ ((Frame.act ⟨number, layer, x, before⟩ context (g layer)).2.1 ++
        noted context g outer) := by
    rw [noted, List.flatMap_append, List.flatMap_cons]
    rfl
  rw [apart, notedBy_append, notedBy_append, notedBy_noted_of_ne others.1,
    notedBy_noted_of_ne others.2, List.nil_append, List.append_nil]
  exact notedBy_self number layer.eventType context _

end Has

/-! ### The entry of a request -/

/-- Layers that enter after it change nothing about a layer. -/
lemma has_enter_of_ne {scope : Scope} {clock : Clock} {context : Context} {notes : List Noted}
    {layers : List (Nat × Layer)} (others : ∀ other ∈ layers, other.1 ≠ number)
    (has : Has number layer x frames) :
    Has number layer x (enter scope clock frames notes context layers).frames ∧
      notedBy number (enter scope clock frames notes context layers).notes =
        notedBy number notes := by
  induction layers generalizing frames notes context with
  | nil => exact ⟨has, rfl⟩
  | cons other inner ih =>
    obtain ⟨k, l⟩ := other
    obtain ⟨apart, rest⟩ := List.forall_mem_cons.mp others
    have unnoted (y : Exchange) : notedBy number (notes ++ y.attempts.map fun a =>
        ⟨k, l.eventType, a, context.enter scope⟩) = notedBy number notes := by
      rw [notedBy_append, notedBy_other apart, List.append_nil]
    rw [enter]
    rcases Exchange.enter l scope clock with e | ⟨y, e | _⟩
    · exact ⟨has, rfl⟩
    · exact ⟨has, unnoted y⟩
    · obtain ⟨inside, before, outside, rfl, apart'⟩ := has
      have still : Has number layer x
          (⟨k, l, y, context⟩ :: (inside ++ ⟨number, layer, x, before⟩ :: outside)) :=
        ⟨⟨k, l, y, context⟩ :: inside, before, outside, rfl,
          List.forall_mem_cons.mpr ⟨apart, apart'⟩⟩
      obtain ⟨has, noted⟩ := ih rest still
      exact ⟨has, noted.trans (unnoted y)⟩

/-- Each of some steady layers with numbers of their own enters as it would
alone. -/
lemma exists_has_enter {scope : Scope} {clock : Clock} {context : Context} {notes : List Noted}
    {layers : List (Nat × Layer)} (typed : scope.IsTyped)
    (steady : ∀ layer ∈ layers, layer.2.Steady) (nodup : (layers.map (·.1)).Nodup)
    (known : (number, layer) ∈ layers) (others : ∀ f ∈ frames, f.number ∉ layers.map (·.1)) :
    ∃ x, Exchange.enter layer scope clock = .ok (x, .ok ()) ∧
      Has number layer x (enter scope clock frames notes context layers).frames ∧
      notedBy number (enter scope clock frames notes context layers).notes =
        notedBy number notes ++ x.attempts.map ((layer.eventType, ·)) := by
  induction layers generalizing frames notes context with
  | nil => exact absurd known List.not_mem_nil
  | cons other inner ih =>
    obtain ⟨k, l⟩ := other
    obtain ⟨first, rest⟩ := List.forall_mem_cons.mp steady
    obtain ⟨apart, nodup⟩ := List.nodup_cons.mp nodup
    obtain ⟨y, entered⟩ := Exchange.exists_enter_of_steady first typed clock
    simp only [enter, entered]
    rcases List.mem_cons.mp known with same | later
    · cases same
      have fresh : ∀ f ∈ ([] : List Frame) ++ frames, f.number ≠ number :=
        fun f isIn same => others f isIn (same ▸ List.mem_cons_self)
      have inside (other : Nat × Layer) (isIn : other ∈ inner) : other.1 ≠ number := by
        rintro rfl
        exact apart (List.mem_map.mpr ⟨other, isIn, rfl⟩)
      have here : Has number layer y (⟨number, layer, y, context⟩ :: frames) :=
        ⟨[], context, frames, rfl, fresh⟩
      obtain ⟨has, noted⟩ := has_enter_of_ne inside here
      refine ⟨y, entered, has, noted.trans ?_⟩
      rw [notedBy_append, notedBy_self]
    · have member : number ∈ inner.map (·.1) := List.mem_map_of_mem later
      have other : k ≠ number := fun same => apart (same ▸ member)
      have fresh : ∀ f ∈ (⟨k, l, y, context⟩ :: frames : List Frame),
          f.number ∉ inner.map (·.1) :=
        List.forall_mem_cons.mpr ⟨apart, fun f isIn inside =>
          others f isIn (List.mem_cons_of_mem k inside)⟩
      obtain ⟨x, alone, has, noted⟩ := ih rest nodup later fresh
      refine ⟨x, alone, has, noted.trans ?_⟩
      rw [notedBy_append, notedBy_other other, List.append_nil]

end Stack

namespace Exchange

variable {layer : Layer} {x : Exchange}

lemma Phased.run (phased : Phased layer x) (moments : List Moment) :
    Phased layer (Exchange.run layer x moments) := by
  induction moments generalizing x with
  | nil => exact phased
  | cons moment rest ih => exact ih (phased.step _ _ _)

/-- A happening adds its attempts to those before. -/
lemma Phased.attempts_step (phased : Phased layer x) (scope : Scope) (clock : Clock)
    (h : Happening) :
    (Exchange.step layer scope clock x h).1.attempts =
      x.attempts ++ (Exchange.step layer scope clock x h).1.attempts.drop x.attempts.length := by
  rcases phased with ⟨-, listening⟩ | silent
  · rw [listening.attempts]
    rfl
  · have same : (Exchange.step layer scope clock x h).1.attempts = x.attempts := by
      rw [silent.step]
      rfl
    rw [same, List.drop_length, List.append_nil]

end Exchange

/-! ### A layer on the loop -/

namespace World

/-- The attempts of a numbered layer so far. -/
def attemptsBy (w : World) (number : Nat) : List Attempt :=
  w.seen.filterMap (Occurrence.attemptBy? number)

/-- The events of a numbered layer that wait for their turn. -/
def queuedBy (w : World) (number : Nat) : List Emission :=
  w.queue.filterMap (Job.eventBy? number)

variable {w : World} {i number : Nat} {c d : Conversation} {layer : Layer}

lemma attemptsBy_note (w : World) (i number : Nat) (notes : List Noted) :
    (w.note i notes).attemptsBy number =
      w.attemptsBy number ++ (Stack.notedBy number notes).map (·.2) := by
  rw [attemptsBy, note, List.filterMap_append, List.filterMap_map, Stack.notedBy,
    List.map_filterMap, attemptsBy]
  congr 1
  refine List.filterMap_congr fun n _ => ?_
  by_cases own : n.number = number <;> simp [Occurrence.attemptBy?, Noted.by?, own]

/-- The records of a layer become its events. -/
lemma queuedBy_note (w : World) (i number : Nat) (notes : List Noted) :
    (w.note i notes).queuedBy number =
      w.queuedBy number ++ (Stack.notedBy number notes).filterMap fun n => n.2.emission? n.1 := by
  rw [queuedBy, note, List.filterMap_append, List.filterMap_filterMap, Stack.notedBy,
    List.filterMap_filterMap, queuedBy]
  congr 1
  refine List.filterMap_congr fun n _ => ?_
  by_cases own : n.number = number
  · cases made : n.attempt.emission? n.eventType <;> simp [Noted.by?, Job.eventBy?, own, made]
  · cases n.attempt.emission? n.eventType <;> simp [Noted.by?, Job.eventBy?, own]

@[simp] lemma outcomes_note (w : World) (i : Nat) (notes : List Noted) :
    (w.note i notes).outcomes = w.outcomes := by
  simp [outcomes, note, Occurrence.outcome?]

@[simp] lemma outcomes_update (w : World) (i : Nat) (c : Conversation) :
    (w.update i c).outcomes = w.outcomes :=
  rfl

/-- A numbered layer around an exchange, after some moments, with what it has
attempted and the events of that: those gone so far and those that wait. It does
not matter which layers there are around it or inside it. -/
structure Alongside (i number : Nat) (layer : Layer) (x₀ : Exchange) (gone : List Emission)
    (moments : List Exchange.Moment) (w : World) : Prop where
  phased : Exchange.Phased layer x₀
  frame : ∃ c, w.conversation? i = some c ∧
    Stack.Has number layer (Exchange.run layer x₀ moments) c.frames
  attempts : w.attemptsBy number = (Exchange.run layer x₀ moments).attempts
  events : gone ++ w.queuedBy number =
    (Exchange.run layer x₀ moments).attempts.filterMap (Attempt.emission? layer.eventType)
  ended : ∀ outcome, (i, outcome) ∈ w.outcomes → ∃ moment ∈ moments, moment.2.2 = .ended
  jobs : ∀ job ∈ w.queue, ∀ j, job.exchange? = some j → j = i ∧ ∃ app, job = .resume i app

namespace Alongside

variable {x₀ : Exchange} {gone : List Emission} {moments : List Exchange.Moment}

/-- Something happens to all layers of the exchange. -/
lemma happen (a : Alongside i number layer x₀ gone moments w) (found : w.conversation? i = some c)
    {scope : Scope} {clock : Clock} {h : Exchange.Happening} {notes : List Noted}
    (frames : d.frames =
      c.frames.map (Frame.acted fun layer x => Exchange.step layer scope clock x h))
    (noted : ∀ {x}, Stack.Has number layer x c.frames → Stack.notedBy number notes =
      ((Exchange.step layer scope clock x h).1.attempts.drop x.attempts.length).map
        ((layer.eventType, ·))) :
    Alongside i number layer x₀ gone (moments ++ [(scope, clock, h)])
      ((w.note i notes).update i d) := by
  obtain ⟨c', found', has⟩ := a.frame
  obtain rfl : c = c' := Option.some.inj (found.symm.trans found')
  have after : Exchange.run layer x₀ (moments ++ [(scope, clock, h)]) =
      (Exchange.step layer scope clock (Exchange.run layer x₀ moments) h).1 :=
    Exchange.run_append layer x₀ moments _
  have made := (a.phased.run moments).attempts_step scope clock h
  have noted := noted has
  generalize List.drop _ _ = new at made noted
  refine ⟨a.phased, ⟨d, conversation?_update (w := w.note i notes) found d, ?_⟩, ?_, ?_, ?_, ?_⟩
  · rw [after, frames]
    exact has.acted _
  · change (w.note i notes).attemptsBy number = _
    rw [attemptsBy_note, noted, a.attempts, after, made, List.map_map]
    exact congrArg _ (List.map_id _)
  · change gone ++ (w.note i notes).queuedBy number = _
    rw [queuedBy_note, noted, ← List.append_assoc, a.events, after, made, List.filterMap_append,
      List.filterMap_map]
    rfl
  · intro outcome isIn
    obtain ⟨moment, known, last⟩ := a.ended outcome (by simpa using isIn)
    exact ⟨moment, List.mem_append_left _ known, last⟩
  · intro job isIn
    obtain ⟨events, queue, sent⟩ := exists_queue_note w i notes
    have isIn : job ∈ (w.note i notes).queue := isIn
    rw [queue, List.mem_append] at isIn
    rcases isIn with old | new
    · exact a.jobs job old
    · obtain ⟨_, _, _, rfl⟩ := sent job new
      intro j task
      cases task

/-- What is neither an attempt nor an end of the exchange changes nothing. -/
lemma see (a : Alongside i number layer x₀ gone moments w) {o : Occurrence}
    (unlogged : o.isLogged = false) (going : o.outcome? = none) :
    Alongside i number layer x₀ gone moments (w.see o) := by
  have attempts : o.attemptBy? number = none := by
    cases o <;> first | rfl | cases unlogged
  refine ⟨a.phased, a.frame, ?_, a.events, ?_, a.jobs⟩
  · rw [← a.attempts]
    simp [attemptsBy, World.see, attempts]
  · intro outcome isIn
    exact a.ended outcome (by simpa [outcomes, World.see, going] using isIn)

/-- So does a change of the exchange that leaves its layers as they are. -/
lemma update (a : Alongside i number layer x₀ gone moments w) (found : w.conversation? i = some c)
    (same : d.frames = c.frames) : Alongside i number layer x₀ gone moments (w.update i d) := by
  obtain ⟨c', found', has⟩ := a.frame
  obtain rfl : c = c' := Option.some.inj (found.symm.trans found')
  exact ⟨a.phased, ⟨d, conversation?_update found d, same ▸ has⟩, a.attempts, a.events, a.ended,
    a.jobs⟩

end Alongside

/-- What happens to the layers when a message goes out. -/
def transmission (c : Conversation) (clock : Clock) (m : Message) : List Exchange.Moment :=
  (c.scope, clock, .sending m) ::
    match c.server.take c.calls m with
    | .ok () => [(c.scope, clock, .sent m)]
    | .error _ => []

namespace Alongside

variable {x₀ : Exchange} {gone : List Emission} {moments : List Exchange.Moment}

/-- A message goes out. -/
lemma send (a : Alongside i number layer x₀ gone moments w) (found : w.conversation? i = some c)
    (steady : c.Steady) {m : Message} (typed : m.IsTyped) :
    Alongside i number layer x₀ gone (moments ++ transmission c w.clock m) (w.send i c m).1 := by
  have sent := send_steady (w := w) steady typed i
  have out : Alongside i number layer x₀ gone (moments ++ [(c.scope, w.clock, .sending m)])
      ((w.note i (Stack.noted c.context (fun _ => Exchange.sending m) c.frames)).update i
        { c with
          frames := c.frames.map (Frame.acted fun _ => Exchange.sending m)
          calls := c.calls ++ [.send m] }) :=
    a.happen found rfl fun has => has.notedBy_noted _ _
  rw [transmission]
  cases taken : c.server.take c.calls m with
  | error e =>
    simp only [taken] at sent
    rw [sent]
    exact out.see rfl rfl
  | ok _ =>
    simp only [taken] at sent
    rw [sent, List.append_cons, ← update_note_update _ i _
      { c with
        frames := c.frames.map (Frame.acted fun _ => Exchange.sending m)
        calls := c.calls ++ [.send m] }]
    have accepted := out.see (o := .accepted i m) rfl rfl
    exact accepted.happen (conversation?_update (w := w.note i _) found _) rfl
      fun has => has.reverse.notedBy_noted _ _

/-- A message comes in. -/
lemma receive (a : Alongside i number layer x₀ gone moments w)
    (found : w.conversation? i = some c) (steady : c.Steady) :
    Alongside i number layer x₀ gone
      (moments ++ [(c.scope, w.clock, .received (c.server.incoming c.calls))])
      (w.receive i c).1 := by
  rw [receive_steady steady i]
  refine see ?_ rfl rfl
  exact a.happen found rfl fun has => has.reverse.notedBy_noted _ _

/-- The application is done. -/
lemma finish (a : Alongside i number layer x₀ gone moments w)
    (found : w.conversation? i = some c) (steady : c.Steady) (outcome : Except Failure Unit) :
    Alongside i number layer x₀ gone (moments ++ [(c.scope, w.clock, .ended)])
      (w.finish i c outcome) := by
  obtain ⟨notes, context, finished, made⟩ := exists_finish_steady (w := w) steady i outcome
  rw [finished]
  have last : Alongside i number layer x₀ gone (moments ++ [(c.scope, w.clock, .ended)])
      ((w.note i notes).update i { c with
        frames := c.frames.map (Frame.acted fun layer => Exchange.ended layer c.scope w.clock)
        context }) :=
    a.happen found rfl fun has => (Stack.notedBy_congr made number).trans (has.notedBy_noted _ _)
  refine ⟨last.phased, last.frame, ?_, last.events, fun _ _ => ?_, last.jobs⟩
  · rw [← last.attempts]
    simp [attemptsBy, World.see, Occurrence.attemptBy?]
  · exact ⟨_, List.mem_append_right _ (List.mem_singleton_self _), rfl⟩

end Alongside

end World

end AccessLog
