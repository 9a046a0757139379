/-
The course of an exchange for the layers around it.

* `World.course`, `World.courseOfTurns`: what happens to every layer around an
  exchange, read off the exchange without layers.
* `World.isCourse_courseOfTurns`: in it the server takes only what was handed over
  to it.
* `World.handed`: the events of a numbered layer that went to its sink.
* `World.Alongside.advance`, `World.Alongside.turn_task`,
  `World.Alongside.turn_emit`: each layer goes through this course, whatever
  layers there are besides.
* `World.Alongside.exists_courseOfTurns`, `World.Alongside.exists_turns_courseOfTurns`:
  the turns behind layers and those without them, with the course of the layers.
-/
import AccessLog.Proofs.Exchange.Alongside
import AccessLog.Proofs.Exchange.Gating

namespace AccessLog

namespace World

/-! ### The course of an exchange -/

/-- What happens to the layers around an exchange while its application runs up
to its next pause or its end. It is read off the exchange without layers. -/
def course (i : Nat) : App → World → List Exchange.Moment
  | .done _, w =>
    match w.conversation? i with
    | some c => [(c.scope, w.clock, .ended)]
    | none => []
  | .send m next, w =>
    match w.conversation? i with
    | some c =>
      let (v, result) := w.send i c m
      transmission c w.clock m ++ course i (next result) v
    | none => []
  | .receive next, w =>
    match w.conversation? i with
    | some c =>
      let (v, result) := w.receive i c
      (c.scope, w.clock, .received (c.server.incoming c.calls)) :: course i (next result) v
    | none => []
  | .edit change next, w =>
    match w.conversation? i with
    | some c => course i next (w.update i { c with scope := change c.scope })
    | none => []
  | .elapse nanos next, w =>
    course i next { w with clock := { w.clock with ticks := w.clock.ticks + nanos } }
  | .pause _, _ => []
  | .tell what next, w =>
    match w.conversation? i with
    | some c => course i next (w.tell i c what)
    | none => []

/-- The same for the turn of the first job. -/
def courseOfTurn (w : World) : List Exchange.Moment :=
  match w.queue with
  | .start i app :: rest => course i app { w with queue := rest }
  | .resume i app :: rest => course i app { w with queue := rest }
  | _ => []

/-- The same for several turns. -/
def courseOfTurns : Nat → World → List Exchange.Moment
  | 0, _ => []
  | n + 1, w => w.courseOfTurn ++ courseOfTurns n w.turn

/-- The events of a numbered layer that go to its sink in some turns. -/
def handed (number : Nat) : Nat → World → List Emission
  | 0, _ => []
  | n + 1, w => (w.queue.head?.bind (Job.eventBy? number)).toList ++ handed number n w.turn

lemma courseOfTurns_add (m n : Nat) (w : World) :
    courseOfTurns (m + n) w = courseOfTurns m w ++ courseOfTurns n (w.turns m) := by
  induction m generalizing w with
  | zero => rw [Nat.zero_add, courseOfTurns, List.nil_append, turns]
  | succ m ih => rw [Nat.succ_add, courseOfTurns, courseOfTurns, ih, List.append_assoc, turns]

lemma handed_add (number m n : Nat) (w : World) :
    handed number (m + n) w = handed number m w ++ handed number n (w.turns m) := by
  induction m generalizing w with
  | zero => rw [Nat.zero_add, handed, List.nil_append, turns]
  | succ m ih => rw [Nat.succ_add, handed, handed, ih, List.append_assoc, turns]

lemma handed_succ (number n : Nat) (w : World) :
    handed number (n + 1) w = handed number 1 w ++ handed number n w.turn := by
  rw [Nat.add_comm, handed_add]
  rfl

/-! ### The server takes only what was handed over -/

lemma isCourse_transmission {m : Message} (typed : m.IsTyped) (c : Conversation) (clock : Clock) :
    Exchange.IsCourse [] (transmission c clock m) := by
  rw [transmission]
  cases c.server.take c.calls m with
  | ok _ => exact ⟨List.mem_cons_self, typed, trivial⟩
  | error e => trivial

/-- A well-formed application makes a course. -/
lemma isCourse_course {app : App} (typed : app.IsTyped) (i : Nat) (w : World) :
    Exchange.IsCourse [] (course i app w) := by
  induction app generalizing w with
  | done outcome =>
    rw [course]
    split <;> trivial
  | send m next ih =>
    rw [course]
    split
    · next c _ => exact (isCourse_transmission typed.1 c w.clock).append (ih _ (typed.2 _) _)
    · trivial
  | receive next ih =>
    rw [course]
    split
    · exact ih _ (typed _) _
    · trivial
  | edit change next ih =>
    rw [course]
    split
    · exact ih typed _
    · trivial
  | elapse nanos next ih => exact ih typed _
  | pause next => trivial
  | tell what next ih =>
    rw [course]
    split
    · exact ih typed _
    · trivial

/-- So do all turns on a loop of such applications. -/
theorem isCourse_courseOfTurns {w : World} (orderly : w.Orderly) (n : Nat) :
    Exchange.IsCourse [] (courseOfTurns n w) := by
  induction n generalizing w with
  | zero => trivial
  | succ n ih =>
    refine Exchange.IsCourse.append ?_ (ih orderly.turn.1)
    rw [courseOfTurn]
    split
    · next i app rest queue =>
      have typed : app.IsTyped := orderly.jobs (.start i app) (queue ▸ List.mem_cons_self)
      exact isCourse_course typed i _
    · next i app rest queue =>
      have typed : app.IsTyped := orderly.jobs (.resume i app) (queue ▸ List.mem_cons_self)
      exact isCourse_course typed i _
    · trivial

variable {w : World} {i number : Nat} {c : Conversation} {layer : Layer} {x₀ : Exchange}
  {gone : List Emission} {moments : List Exchange.Moment}

namespace Alongside

/-- What an application lets be known is not logged. -/
lemma tell (a : Alongside i number layer x₀ gone moments w) (c : Conversation)
    (what : Telling) : Alongside i number layer x₀ gone moments (w.tell i c what) := by
  cases what with
  | caught e => exact a.see rfl rfl
  | context => exact a.see rfl rfl
  | line call => exact ⟨a.phased, a.frame, a.attempts, a.events, a.ended, a.jobs⟩

/-- While the application runs the layer goes through the course of the
exchange. -/
theorem advance (running : w.Running i) {app : App} (typed : app.IsTyped)
    (a : Alongside i number layer x₀ gone moments w) :
    Alongside i number layer x₀ gone (moments ++ course i app w.bare) (World.advance i app w) := by
  induction app generalizing w moments with
  | done outcome =>
    obtain ⟨c, found, -⟩ := a.frame
    rw [World.advance, course, conversation?_bare, found]
    exact a.finish found (running.steady found) outcome
  | send m next ih =>
    obtain ⟨c, found, -⟩ := a.frame
    have steady := running.steady found
    have after := ih (w.send i c m).2 (running.send steady typed.1) (typed.2 _)
      (a.send found steady typed.1)
    rw [World.advance, course, conversation?_bare, found]
    dsimp only [Option.map_some]
    rw [bare_send steady typed.1]
    rw [List.append_assoc] at after
    exact after
  | receive next ih =>
    obtain ⟨c, found, -⟩ := a.frame
    have steady := running.steady found
    have after := ih (w.receive i c).2 (running.receive steady) (typed _) (a.receive found steady)
    rw [World.advance, course, conversation?_bare, found]
    dsimp only [Option.map_some]
    rw [bare_receive steady]
    rw [List.append_assoc] at after
    exact after
  | edit change next ih =>
    obtain ⟨c, found, -⟩ := a.frame
    have steady := running.steady found
    have changed : Running i (w.update i { c with scope := change c.scope }) :=
      running.update ⟨steady.frames, steady.incoming⟩
    have after := ih changed typed (a.update found (by rfl))
    rw [World.advance, course, conversation?_bare, found]
    rw [bare_update] at after
    exact after
  | elapse nanos next ih =>
    have later : Running i
        { w with clock := { w.clock with ticks := w.clock.ticks + nanos } } :=
      ⟨⟨running.layers, running.conversations, running.jobs, running.requests, running.once⟩,
        running.alone⟩
    exact ih later typed ⟨a.phased, a.frame, a.attempts, a.events, a.ended, a.jobs⟩
  | pause next =>
    rw [course, List.append_nil]
    refine ⟨a.phased, a.frame, a.attempts, ?_, a.ended, fun job isIn => ?_⟩
    · rw [← a.events, World.advance, queuedBy, List.filterMap_append]
      exact congrArg (gone ++ ·) (List.append_nil _)
    · rcases List.mem_append.mp isIn with old | new
      · exact a.jobs job old
      · obtain rfl := List.mem_singleton.mp new
        rintro j ⟨⟩
        exact ⟨rfl, next, rfl⟩
  | tell what next ih =>
    obtain ⟨c, found, -⟩ := a.frame
    have after := ih (running.tell c what) typed (a.tell c what)
    rw [World.advance, course, conversation?_bare, found]
    rw [bare_tell] at after
    exact after

/-! ### Turns -/

/-- A turn of the exchange is one that there is without layers. -/
lemma turn_task (orderly : w.Orderly) (a : Alongside i number layer x₀ gone moments w)
    {job : Job} {rest : List Job} (queue : w.queue = job :: rest) {j : Nat}
    (task : job.exchange? = some j) :
    Alongside i number layer x₀ (gone ++ handed number 1 w) (moments ++ w.bare.courseOfTurn)
      w.turn := by
  obtain ⟨rfl, app, rfl⟩ := a.jobs job (queue ▸ List.mem_cons_self) j task
  have typed : app.IsTyped := orderly.jobs (.resume j app) (queue ▸ List.mem_cons_self)
  have left : w.bare.queue = .resume j app :: (World.bare { w with queue := rest }).queue := by
    simp [bare, queue, Job.exchange?]
  have course : w.bare.courseOfTurn = course j app (World.bare { w with queue := rest }) := by
    rw [courseOfTurn, left]
    rfl
  have turned : w.turn = World.advance j app { w with queue := rest } := by
    rw [World.turn, queue]
    rfl
  have unhanded : handed number 1 w = [] := by
    simp [handed, queue, Job.eventBy?]
  have taken : Alongside j number layer x₀ gone moments { w with queue := rest } := by
    refine ⟨a.phased, a.frame, a.attempts, ?_, a.ended, fun job isIn => ?_⟩
    · rw [← a.events, queuedBy, queuedBy, queue]
      rfl
    · exact a.jobs job (queue ▸ List.mem_cons_of_mem _ isIn)
  rw [course, turned, unhanded, List.append_nil]
  exact taken.advance (orderly.running queue task) typed

/-- A turn that sends an event is no part of the course. -/
lemma turn_emit (a : Alongside i number layer x₀ gone moments w) {k : Nat} {event : Emission}
    {context : Context} {rest : List Job} (queue : w.queue = .emit k event context :: rest) :
    Alongside i number layer x₀ (gone ++ handed number 1 w) moments w.turn := by
  have turned : w.turn = World.emit { w with queue := rest } k event context := by
    rw [World.turn, queue]
    rfl
  obtain ⟨sinks, network, seen, told, emitted, -, -⟩ :=
    exists_emit { w with queue := rest } k event context
  have first : w.queuedBy number = handed number 1 w ++ w.turn.queuedBy number := by
    rw [turned, emitted, queuedBy, queue, handed, queue]
    by_cases own : k = number
    · simp [Job.eventBy?, own, handed, queuedBy]
    · simp [Job.eventBy?, own, handed, queuedBy]
  refine ⟨a.phased, ?_, ?_, ?_, ?_, ?_⟩
  · rw [turned, emitted]
    exact a.frame
  · rw [← a.attempts, turned]
    exact filterMap_seen_emit (fun _ _ => rfl) (fun _ => rfl) _ k event context
  · rw [← a.events, first, List.append_assoc]
  · have same : w.turn.outcomes = w.outcomes := by
      rw [turned]
      exact filterMap_seen_emit (fun _ _ => rfl) (fun _ => rfl) _ k event context
    exact same ▸ a.ended
  · rw [turned, emitted]
    exact fun job isIn => a.jobs job (queue ▸ List.mem_cons_of_mem _ isIn)

/-- Every turn of the exchange is one that there is without layers, and the
layer goes through its course. -/
lemma turn (orderly : w.Orderly) (a : Alongside i number layer x₀ gone moments w) :
    ∃ k ≤ 1, w.turn.bare = w.bare.turns k ∧
      Alongside i number layer x₀ (gone ++ handed number 1 w)
        (moments ++ courseOfTurns k w.bare) w.turn := by
  cases queue : w.queue with
  | nil =>
    have still : w.turn = w := by rw [World.turn, queue]
    have unhanded : handed number 1 w = [] := by simp [handed, queue]
    refine ⟨0, Nat.zero_le 1, by rw [still, turns], ?_⟩
    rw [still, unhanded, courseOfTurns, List.append_nil, List.append_nil]
    exact a
  | cons job rest =>
    cases task : job.exchange? with
    | some j =>
      refine ⟨1, Nat.le_refl 1, (orderly.turn_task queue task).2, ?_⟩
      rw [courseOfTurns, courseOfTurns, List.append_nil]
      exact a.turn_task orderly queue task
    | none =>
      cases job with
      | start j app => cases task
      | resume j app => cases task
      | emit k event context =>
        refine ⟨0, Nat.zero_le 1, (orderly.turn_emit queue).2.2, ?_⟩
        rw [courseOfTurns, List.append_nil]
        exact a.turn_emit queue

/-- What is done in some turns is done without layers in no more of them, and
the layer goes through its course. -/
theorem exists_courseOfTurns (orderly : w.Orderly)
    (a : Alongside i number layer x₀ gone moments w) (n : Nat) :
    ∃ k ≤ n, (w.turns n).bare = w.bare.turns k ∧
      Alongside i number layer x₀ (gone ++ handed number n w)
        (moments ++ courseOfTurns k w.bare) (w.turns n) := by
  induction n generalizing w gone moments with
  | zero =>
    refine ⟨0, Nat.le_refl 0, rfl, ?_⟩
    rw [handed, courseOfTurns, List.append_nil, List.append_nil]
    exact a
  | succ n ih =>
    obtain ⟨k, few, same, next⟩ := a.turn orderly
    obtain ⟨l, fewer, later, reached⟩ := ih orderly.turn.1 next
    rw [same, List.append_assoc, List.append_assoc, ← courseOfTurns_add, ← handed_succ] at reached
    exact ⟨k + l, by omega, by rw [turns, later, same, turns_add], reached⟩

/-- The next turn that there is without layers comes after some turns, and the
layer goes through its course. -/
lemma exists_turns_courseOfTurn (orderly : w.Orderly)
    (a : Alongside i number layer x₀ gone moments w) :
    ∃ n, (w.turns n).Orderly ∧ (w.turns n).bare = w.bare.turn ∧
      Alongside i number layer x₀ (gone ++ handed number n w) (moments ++ w.bare.courseOfTurn)
        (w.turns n) := by
  obtain ⟨jobs, queue⟩ : ∃ jobs, w.queue = jobs := ⟨_, rfl⟩
  induction jobs generalizing w gone with
  | nil =>
    have idle : w.bare.queue = [] := by simp [bare, queue]
    refine ⟨0, orderly, by rw [World.turn, idle]; rfl, ?_⟩
    rw [handed, courseOfTurn, idle, List.append_nil, List.append_nil]
    exact a
  | cons job rest ih =>
    cases task : job.exchange? with
    | some j =>
      obtain ⟨kept, same⟩ := orderly.turn_task queue task
      exact ⟨1, kept, same, a.turn_task orderly queue task⟩
    | none =>
      cases job with
      | start j app => cases task
      | resume j app => cases task
      | emit k event context =>
        obtain ⟨kept, left, same⟩ := orderly.turn_emit queue
        obtain ⟨n, later, next, reached⟩ := ih kept (a.turn_emit queue) left
        rw [same] at next
        rw [same, List.append_assoc, ← handed_succ] at reached
        exact ⟨n + 1, later, next, reached⟩

/-- What is done without layers is done behind them after some turns, and the
layer goes through its course. -/
theorem exists_turns_courseOfTurns (orderly : w.Orderly)
    (a : Alongside i number layer x₀ gone moments w) (k : Nat) :
    ∃ n, (w.turns n).bare = w.bare.turns k ∧
      Alongside i number layer x₀ (gone ++ handed number n w)
        (moments ++ courseOfTurns k w.bare) (w.turns n) := by
  induction k generalizing w gone moments with
  | zero =>
    refine ⟨0, rfl, ?_⟩
    rw [handed, courseOfTurns, List.append_nil, List.append_nil]
    exact a
  | succ k ih =>
    obtain ⟨m, kept, same, next⟩ := a.exists_turns_courseOfTurn orderly
    obtain ⟨n, later, reached⟩ := ih kept next
    refine ⟨m + n, ?_, ?_⟩
    · rw [turns_add, later, same, turns]
    · rw [turns_add, handed_add, courseOfTurns, ← List.append_assoc, ← List.append_assoc, ← same]
      exact reached

/-- When nothing is left to be done without layers, they come to rest after some
turns. -/
lemma exists_rest (orderly : w.Orderly) (a : Alongside i number layer x₀ gone moments w)
    (done : w.bare.queue = []) :
    ∃ n, (w.turns n).queue = [] ∧ (w.turns n).bare = w.bare ∧
      Alongside i number layer x₀ (gone ++ handed number n w) moments (w.turns n) := by
  obtain ⟨jobs, queue⟩ : ∃ jobs, w.queue = jobs := ⟨_, rfl⟩
  induction jobs generalizing w gone with
  | nil =>
    refine ⟨0, queue, rfl, ?_⟩
    rw [handed, List.append_nil]
    exact a
  | cons job rest ih =>
    cases job with
    | start j app => simp [bare, queue, Job.exchange?] at done
    | resume j app => simp [bare, queue, Job.exchange?] at done
    | emit k event context =>
      obtain ⟨kept, left, same⟩ := orderly.turn_emit queue
      obtain ⟨n, still, later, reached⟩ := ih kept (a.turn_emit queue) (same ▸ done) left
      rw [List.append_assoc, ← handed_succ] at reached
      exact ⟨n + 1, still, later.trans same, reached⟩

lemma exists_turns_rest (orderly : w.Orderly) {n : Nat}
    (a : Alongside i number layer x₀ (handed number n w) moments (w.turns n))
    (done : (w.turns n).bare.queue = []) :
    ∃ m, (w.turns m).queue = [] ∧ (w.turns m).bare = (w.turns n).bare ∧
      Alongside i number layer x₀ (handed number m w) moments (w.turns m) := by
  obtain ⟨m, still, same, reached⟩ := a.exists_rest (orderly_turns orderly n) done
  rw [← handed_add] at reached
  rw [← turns_add] at still same reached
  exact ⟨n + m, still, same, reached⟩

end Alongside

end World

end AccessLog
