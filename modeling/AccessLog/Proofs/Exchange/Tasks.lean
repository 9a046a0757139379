/-
Exchanges in the tasks of one loop.

* `Task`, `Duty`: a task has a context of its own, and takes an exchange through
  its layers, or helps the application of one, or neither.
* `Loop`, `Mark`: a loop with its tasks, and what has come to pass in it.
* `Loop.Step`, `Loop.Reaches`: the steps of all tasks in any order. A new task
  gets a copy of the context of the one that starts it, and an attempt keeps a
  copy for the lines of its event.
* `World.loop`, `World.IsReady`: a loop whose exchanges have a task each, before
  all requests.
* `Loop.Follows.exists_turn`, `World.IsReady.exists_reaches_turns`: the turns of
  such a loop are made of these steps.
-/
import Mathlib.Data.List.Basic
import AccessLog.Proofs.Exchange.Trace

namespace AccessLog

/-- What a task is at work on. -/
inductive Duty where
  /-- No exchange, or none any longer. -/
  | free
  /-- An exchange that it takes through the layers, from the entry to the end. -/
  | runs (exchange : Nat)
  /-- An exchange whose application has started it. -/
  | helps (exchange : Nat)

/-- The exchange that a task is at work on. -/
def Duty.exchange? : Duty → Option Nat
  | free => none
  | runs i => some i
  | helps i => some i

/-- A task of a loop. -/
structure Task where
  duty : Duty := .free
  context : Context

/-- An event that has gone to the sink of a numbered layer, with all that was
told in the meantime. -/
structure Delivery where
  number : Nat
  event : Emission
  lines : List Told

/-- What comes to pass in a loop. -/
inductive Mark where
  /-- A numbered task brings a request to the layers. -/
  | entered (task exchange : Nat) (scope : Scope) (before : Context)
  /-- The task is done with the exchange. -/
  | ended (task exchange : Nat) (after : Context)
  /-- An event has gone to its sink. -/
  | handed (delivery : Delivery)

/-- The event that has gone to its sink. -/
def Mark.delivery? : Mark → Option Delivery
  | handed delivery => some delivery
  | _ => none

/-- A loop with its tasks, and what has come to pass so far. -/
structure Loop where
  world : World
  tasks : List Task
  past : List Mark := []

namespace Loop

/-- No task has brought an exchange to the layers. -/
def IsNew (s : Loop) (i : Nat) : Prop :=
  ∀ k scope before, .entered k i scope before ∉ s.past

/-- One step of a task, or of the loop. -/
inductive Step (s : Loop) : Loop → Prop
  /-- No layer takes part. -/
  | quiet {w : World} (same : s.world.SameLog w) : Step s { s with world := w }
  /-- A task binds other values in its context; while it is at work on an exchange,
  it leaves method and path as they are bound. -/
  | bind {k : Nat} {task : Task} {context : Context} (there : s.tasks[k]? = some task)
      (kept : task.duty.exchange?.isSome → ∀ name ∈ [Context.methodName, Context.pathName],
        context.get? name = task.context.get? name) :
      Step s { s with tasks := s.tasks.set k { task with context } }
  /-- A task starts another, which gets a copy of its context, and may send and
  receive for the same exchange. -/
  | spawn {task : Task} {duty : Duty} (there : task ∈ s.tasks)
      (own : duty = .free ∨ ∃ i, task.duty.exchange? = some i ∧ duty = .helps i) :
      Step s { s with tasks := s.tasks ++ [⟨duty, task.context⟩] }
  /-- A task brings a request to its layers, which take it up or fail to. -/
  | enter {k i : Nat} {context : Context} {c : Conversation} {layers : List (Nat × Layer)}
      {entry : Stack.Entry} (there : s.tasks[k]? = some ⟨.free, context⟩) (new : s.IsNew i)
      (found : s.world.conversation? i = some c)
      (chosen : s.world.layersFor c.scope = .ok layers)
      (entered : Stack.enter c.scope s.world.clock [] [] context layers = entry) :
      Step s {
        world := (s.world.note i entry.notes).update i
          { c with frames := entry.frames, failed := entry.failed, context := entry.context }
        tasks := s.tasks.set k ⟨.runs i, entry.context⟩
        past := s.past ++ [.entered k i c.scope context] }
  /-- A task brings a request that no layer can tell the type of. -/
  | refuse {k i : Nat} {context : Context} {c : Conversation} {e : Failure}
      (there : s.tasks[k]? = some ⟨.free, context⟩) (new : s.IsNew i)
      (found : s.world.conversation? i = some c) (failed : s.world.layersFor c.scope = .error e) :
      Step s { s with
        world := s.world.see (.ended i (.error e) context)
        past := s.past ++ [.entered k i c.scope context, .ended k i context] }
  /-- A task takes a step of the exchange that it is at work on. -/
  | act {task : Task} {i : Nat} {w : World} (there : task ∈ s.tasks)
      (own : task.duty.exchange? = some i) (move : World.Move i task.context s.world w) :
      Step s { s with world := w }
  /-- The application is done in whatever way, and so are the layers. -/
  | finish {k i : Nat} {context left : Context} {c : Conversation}
      {outcome final : Except Failure Unit} {frames : List Frame} {notes : List Noted}
      (there : s.tasks[k]? = some ⟨.runs i, context⟩) (found : s.world.conversation? i = some c)
      (done : Stack.unwind c.scope s.world.clock context outcome c.frames =
        (frames, notes, final, left)) :
      Step s {
        world := ((s.world.note i notes).update i { c with frames, context := left }).see
          (.ended i final left)
        tasks := s.tasks.set k ⟨.free, left⟩
        past := s.past ++ [.ended k i left] }
  /-- The loop sends the first event that waits, in the context kept with it. -/
  | emit {number : Nat} {event : Emission} {context : Context} {rest : List Job}
      {lines : List Told} (queue : s.world.queue = .emit number event context :: rest)
      (told : (World.emit { s.world with queue := rest } number event context).told =
        s.world.told ++ lines) :
      Step s { s with
        world := World.emit { s.world with queue := rest } number event context
        past := s.past ++ [.handed ⟨number, event, lines⟩] }

/-- Any number of steps. -/
abbrev Reaches : Loop → Loop → Prop :=
  Relation.ReflTransGen Step

end Loop

namespace World

/-- All that is told while an event goes to its sink is told in the context kept
with it. -/
lemma exists_told_emit (w : World) (number : Nat) (event : Emission) (context : Context) :
    ∃ notices : List Notice,
      (w.emit number event context).told = w.told ++ notices.map fun n => .notice n context := by
  rw [emit]
  split
  · exact ⟨[], (List.append_nil _).symm⟩
  · exact ⟨[], (List.append_nil _).symm⟩
  · next e _ =>
    refine ⟨(e.emit w.network event).notices, ?_⟩
    dsimp only
    split <;> rfl

/-- The loop with a task for each exchange. -/
def loop (w : World) : Loop where
  world := w
  tasks := w.conversations.map fun c => ⟨.free, c.context⟩

/-- Nothing waits but some exchanges, each for its start. -/
structure IsReady (w : World) : Prop where
  starts : ∀ job ∈ w.queue, ∃ i app, job = .start i app ∧ i < w.conversations.length
  once : w.waiting.Nodup

@[simp] lemma contexts_note (w : World) (i : Nat) (notes : List Noted) :
    (w.note i notes).contexts = w.contexts :=
  rfl

@[simp] lemma contexts_set (w : World) (i : Nat) (c : Conversation) :
    (w.update i c).contexts = w.contexts.set i c.context :=
  List.map_set

/-- The exchanges that wait are those of the jobs of applications. -/
lemma waiting_eq (w : World) : w.waiting = w.errands.filterMap Job.exchange? := by
  rw [waiting, errands, List.filterMap_filter]
  refine List.filterMap_congr fun job _ => ?_
  cases job <;> rfl

end World

/-! ### The turns of a loop -/

namespace Loop

open World

variable {s s' s'' : Loop} {i : Nat} {context : Context}

/-- Steps of one exchange in the context of a task that is at work on it. -/
lemma reaches_moves (task : Task) {w : World} (there : task ∈ s.tasks)
    (own : task.duty.exchange? = some i) (moves : Moves i task.context s.world w) :
    s.Reaches { s with world := w } := by
  induction moves with
  | refl => exact .refl
  | tail _ move ih => exact ih.tail (.act (s := { s with world := _ }) there own move)

/-- A job finds its task as the job before has left it. -/
def Expects (s : Loop) : Job → Prop
  | .start i _ => s.IsNew i ∧ ∃ context, s.tasks[i]? = some ⟨.free, context⟩
  | .resume i _ => ∃ context, s.tasks[i]? = some ⟨.runs i, context⟩
  | .emit .. => True

/-- Each exchange has a task and no more than one job. -/
structure Follows (s : Loop) : Prop where
  contexts : s.tasks.map (·.context) = s.world.contexts
  once : s.world.waiting.Nodup
  expected : ∀ job ∈ s.world.errands, s.Expects job

/-- What comes to pass in other exchanges makes an exchange no older. -/
lemma IsNew.append {k : Nat} (isNew : s.IsNew k) {marks : List Mark}
    (others : ∀ j scope before, .entered j k scope before ∉ marks) (w : World)
    (tasks : List Task) : IsNew ⟨w, tasks, s.past ++ marks⟩ k :=
  fun j scope before isIn => (List.mem_append.mp isIn).elim (isNew j scope before)
    (others j scope before)

/-- One exchange has had its turn, and may wait for the next. -/
structure Serves (i : Nat) (s s' : Loop) : Prop where
  reaches : s.Reaches s'
  contexts : s'.tasks.map (·.context) = s'.world.contexts
  tasks : ∀ k, k ≠ i → s'.tasks[k]? = s.tasks[k]?
  new : ∀ k, k ≠ i → s.IsNew k → s'.IsNew k
  errands : s'.world.errands = s.world.errands ∨ ∃ next context,
    s'.world.errands = s.world.errands ++ [.resume i next] ∧
      s'.tasks[i]? = some ⟨.runs i, context⟩

lemma Serves.trans (first : Serves i s s') (same : s'.world.errands = s.world.errands)
    (second : Serves i s' s'') : Serves i s s'' where
  reaches := first.reaches.trans second.reaches
  contexts := second.contexts
  tasks k other := (second.tasks k other).trans (first.tasks k other)
  new k other isNew := second.new k other (first.new k other isNew)
  errands := same ▸ second.errands

/-- The conversation of a task. -/
lemma exists_conversation {task : Task}
    (contexts : s.tasks.map (·.context) = s.world.contexts) (there : s.tasks[i]? = some task) :
    ∃ c, s.world.conversation? i = some c ∧ c.context = task.context := by
  have known : s.world.contexts[i]? = some task.context := by
    rw [← contexts, List.getElem?_map, there]
    rfl
  rw [World.contexts, List.getElem?_map, Option.map_eq_some_iff] at known
  exact known

/-- Tasks and exchanges change their contexts together. -/
lemma contexts_tasks_set (contexts : s.tasks.map (·.context) = s.world.contexts) (i : Nat)
    (task : Task) (notes : List Noted) {c : Conversation} (same : c.context = task.context) :
    (s.tasks.set i task).map (·.context) = ((s.world.note i notes).update i c).contexts := by
  rw [List.map_set, contexts, contexts_set, contexts_note, same]

/-- The task of an exchange ends it. -/
lemma exists_serves_finish (contexts : s.tasks.map (·.context) = s.world.contexts)
    (there : s.tasks[i]? = some ⟨.runs i, context⟩) {c : Conversation}
    (found : s.world.conversation? i = some c) (same : c.context = context)
    (outcome : Except Failure Unit) :
    ∃ s', Serves i s s' ∧ s'.world = s.world.finish i c outcome := by
  subst same
  rcases done : Stack.unwind c.scope s.world.clock c.context outcome c.frames with
    ⟨frames, notes, final, left⟩
  refine ⟨_, ⟨.single (.finish there found done), contexts_tasks_set contexts i _ notes rfl,
    fun k other => List.getElem?_set_ne other.symm, fun k _ isNew => isNew.append (by simp) _ _,
    .inl (errands_note s.world i notes)⟩, ?_⟩
  rw [World.finish, done]

/-- The task of an exchange goes on with its application. -/
lemma exists_serves_advance (contexts : s.tasks.map (·.context) = s.world.contexts)
    (there : s.tasks[i]? = some ⟨.runs i, context⟩) (app : App) :
    ∃ s', Serves i s s' ∧ s'.world = advance i app s.world := by
  have runs : ∀ c, s.world.conversation? i = some c → c.context = context := by
    intro c found
    obtain ⟨d, same, known⟩ := exists_conversation contexts there
    rw [found] at same
    cases same
    exact known
  obtain ⟨v, moves, ended⟩ := pursued_pursue app runs
  have kept : s.tasks.map (·.context) = v.contexts := contexts.trans moves.contexts.symm
  have reaches : s.Reaches { s with world := v } :=
    reaches_moves ⟨.runs i, context⟩ (List.mem_of_getElem? there) rfl moves
  have moved : Serves i s { s with world := v } :=
    ⟨reaches, kept, fun _ _ => rfl, fun _ _ isNew => isNew, .inl moves.errands⟩
  rw [advance_eq]
  rcases ended with ⟨none | outcome, ran⟩ | ⟨next, ran⟩
  · exact ⟨_, moved, by rw [ran, conclude]⟩
  · obtain ⟨c, found, same⟩ := exists_conversation (s := { s with world := v }) kept there
    obtain ⟨s', last, finished⟩ :=
      exists_serves_finish (s := { s with world := v }) kept there found same outcome
    refine ⟨s', moved.trans moves.errands last, ?_⟩
    rw [ran, conclude, found, finished]
  · have paused : Step { s with world := v } _ := .quiet (sameLog_pause v i next)
    refine ⟨_, ⟨reaches.tail paused, kept, fun _ _ => rfl, fun _ _ isNew => isNew,
      .inr ⟨next, context, ?_, there⟩⟩, by rw [ran, conclude]⟩
    rw [errands_pause, moves.errands]

/-- The task of an exchange brings it to its layers, and starts its application. -/
lemma exists_serves_begin (contexts : s.tasks.map (·.context) = s.world.contexts)
    (isNew : s.IsNew i) (there : s.tasks[i]? = some ⟨.free, context⟩) (app : App) :
    ∃ s', Serves i s s' ∧ s'.world = s.world.begin i app := by
  obtain ⟨c, found, rfl⟩ := exists_conversation contexts there
  rw [World.begin, found]
  dsimp only
  cases chosen : s.world.layersFor c.scope with
  | error e =>
    exact ⟨_, ⟨.single (.refuse there isNew found chosen), contexts, fun _ _ => rfl,
      fun k other new => new.append (by simp [other]) _ _, .inl rfl⟩, rfl⟩
  | ok layers =>
    dsimp only
    generalize entered : Stack.enter c.scope s.world.clock [] [] c.context layers = entry
    have step := Step.enter there isNew found chosen entered
    have inside : i < s.tasks.length := (List.getElem?_eq_some_iff.mp there).1
    have begun : Serves i s _ :=
      ⟨.single step, contexts_tasks_set contexts i _ entry.notes rfl,
        fun k other => List.getElem?_set_ne other.symm,
        fun k other new => new.append (by simp [other]) _ _,
        .inl (errands_note s.world i entry.notes)⟩
    have errands := errands_note s.world i entry.notes
    have now : (s.tasks.set i ⟨.runs i, entry.context⟩)[i]? = some ⟨.runs i, entry.context⟩ :=
      List.getElem?_set_self inside
    cases result : entry.result with
    | ok _ =>
      obtain ⟨s', rest, advanced⟩ := exists_serves_advance begun.contexts now app
      exact ⟨s', begun.trans errands rest, advanced⟩
    | error e =>
      have taken := conversation?_update (w := s.world.note i entry.notes) found
        { c with frames := entry.frames, failed := entry.failed, context := entry.context }
      obtain ⟨s', rest, finished⟩ :=
        exists_serves_finish begun.contexts now taken rfl (.error e)
      exact ⟨s', begun.trans errands rest, finished⟩

/-- Once an exchange has had its turn, all others find their tasks as they were. -/
lemma Follows.serves {w : World} {job : Job} (follows : s.Follows)
    (errands : s.world.errands = job :: w.errands) (own : job.exchange? = some i)
    (served : Serves i { s with world := w } s') : s'.Follows := by
  have waiting : i ∉ w.waiting ∧ w.waiting.Nodup := by
    have once := follows.once
    rw [waiting_eq, errands, List.filterMap_cons, own, ← waiting_eq] at once
    exact List.nodup_cons.mp once
  have others : ∀ job ∈ w.errands, s'.Expects job := by
    intro job isIn
    have before := follows.expected job (errands ▸ List.mem_cons_of_mem _ isIn)
    have apart (k : Nat) (task : job.exchange? = some k) : k ≠ i := by
      rintro rfl
      exact waiting.1 (waiting_eq w ▸ List.mem_filterMap.mpr ⟨job, isIn, task⟩)
    cases job with
    | start k app =>
      obtain ⟨isNew, context, there⟩ := before
      exact ⟨served.new k (apart k rfl) isNew, context,
        (served.tasks k (apart k rfl)).trans there⟩
    | resume k app =>
      obtain ⟨context, there⟩ := before
      exact ⟨context, (served.tasks k (apart k rfl)).trans there⟩
    | emit => trivial
  rcases served.errands with same | ⟨next, context, more, there⟩
  · refine ⟨served.contexts, ?_, fun job isIn => others job (same ▸ isIn)⟩
    rw [waiting_eq, same, ← waiting_eq]
    exact waiting.2
  · refine ⟨served.contexts, ?_, fun job isIn => ?_⟩
    · rw [waiting_eq, more, List.filterMap_append, ← waiting_eq]
      refine List.nodup_append.mpr ⟨waiting.2, List.pairwise_singleton _ i, ?_⟩
      intro k isIn j single same
      rw [same, List.mem_singleton.mp single] at isIn
      exact waiting.1 isIn
    · rw [more] at isIn
      rcases List.mem_append.mp isIn with old | new
      · exact others job old
      · rw [List.mem_singleton.mp new]
        exact ⟨context, there⟩

/-- A turn of the loop. -/
lemma Follows.exists_turn (follows : s.Follows) :
    ∃ s', s.Reaches s' ∧ s'.world = s.world.turn ∧ s'.Follows := by
  cases queue : s.world.queue with
  | nil => exact ⟨s, .refl, by rw [turn, queue], follows⟩
  | cons job rest =>
    rw [turn, queue]
    cases task : job.exchange? with
    | none =>
      cases job with
      | start i app => cases task
      | resume i app => cases task
      | emit number event context =>
        obtain ⟨notices, told⟩ :=
          exists_told_emit { s.world with queue := rest } number event context
        obtain ⟨sinks, network, seen, more, sent, -, -⟩ :=
          exists_emit { s.world with queue := rest } number event context
        have errands : (World.emit { s.world with queue := rest } number event context).errands =
            s.world.errands := by
          rw [sent, World.errands, World.errands, queue]
          rfl
        refine ⟨_, .single (.emit queue told), rfl, ?_, ?_, fun job isIn => ?_⟩
        · rw [sent]
          exact follows.contexts
        · rw [waiting_eq, errands, ← waiting_eq]
          exact follows.once
        · have before := follows.expected job (errands ▸ isIn)
          cases job with
          | start k app => exact ⟨before.1.append (by simp) _ _, before.2⟩
          | resume k app => exact before
          | emit => trivial
    | some i =>
      have errands : s.world.errands = job :: errands { s.world with queue := rest } := by
        rw [World.errands, World.errands, queue, List.filter_cons_of_pos (by rw [task]; rfl)]
      have taken : Step s { s with world := { s.world with queue := rest } } :=
        .quiet ⟨rfl, rfl, rfl, rfl, by simp [sending, queue, task], rfl⟩
      have expected := follows.expected job (errands ▸ List.mem_cons_self)
      have go {v : World}
          (served : ∃ s', Serves i { s with world := { s.world with queue := rest } } s' ∧
            s'.world = v) :
          ∃ s', s.Reaches s' ∧ s'.world = v ∧ s'.Follows := by
        obtain ⟨s', served, same⟩ := served
        exact ⟨s', .head taken served.reaches, same, follows.serves errands task served⟩
      cases job with
      | start j app =>
        cases task
        obtain ⟨isNew, context, there⟩ := expected
        exact go (exists_serves_begin (s := { s with world := { s.world with queue := rest } })
          follows.contexts isNew there app)
      | resume j app =>
        cases task
        obtain ⟨context, there⟩ := expected
        exact go (exists_serves_advance (s := { s with world := { s.world with queue := rest } })
          follows.contexts there app)
      | emit => cases task

end Loop

namespace World

/-- Before all requests each exchange waits for its start. -/
lemma IsReady.follows {w : World} (ready : w.IsReady) : w.loop.Follows := by
  refine ⟨?_, ready.once, fun job isIn => ?_⟩
  · rw [loop, contexts, List.map_map]
    rfl
  · obtain ⟨i, app, rfl, inside⟩ := ready.starts job ((List.mem_filter.mp isIn).1)
    refine ⟨fun _ _ _ isIn => absurd isIn List.not_mem_nil, w.conversations[i].context, ?_⟩
    simp [loop, inside]

/-- The turns of a loop are made of the steps of its tasks, and each exchange runs
in the context of its task. -/
theorem IsReady.exists_reaches_turns {w : World} (ready : w.IsReady) (n : Nat) :
    ∃ s, w.loop.Reaches s ∧ s.world = w.turns n ∧
      s.tasks.map (·.context) = (w.turns n).contexts := by
  have go (n : Nat) : ∀ s : Loop, s.Follows →
      ∃ s', s.Reaches s' ∧ s'.world = s.world.turns n ∧ s'.Follows := by
    induction n with
    | zero => exact fun s follows => ⟨s, .refl, rfl, follows⟩
    | succ n ih =>
      intro s follows
      obtain ⟨v, first, turned, still⟩ := follows.exists_turn
      obtain ⟨u, rest, last, kept⟩ := ih v still
      exact ⟨u, first.trans rest, by rw [last, turned, turns], kept⟩
  obtain ⟨s, reaches, same, follows⟩ := go n w.loop ready.follows
  exact ⟨s, reaches, same, same ▸ follows.contexts⟩

end World

end AccessLog
