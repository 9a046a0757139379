/-
The context of all lines and tasks of many exchanges.

* `World.records`, `World.Record`: the records so far, each with its exchange and
  the number of its layer.
* `World.befores`: what was bound before each layer around each exchange.
* `Delivery.Carries`: an event goes to its sink, and what is told meanwhile shows the
  request of its exchange.
* `World.Accounted`: the records so far are those of the events that have gone to
  their sinks and of those that wait, each in the context of its exchange.
* `Task.Holds`: what is bound in a task at work on an exchange.
* `Loop.Sound`: what holds in any interleaving; one lemma for each kind of step shows that the
  step keeps it, and `Loop.Sound.step` puts them together.
* `Loop.carried_and_released`: **every line of an event carries the method and the
  path of its exchange**, and **every exchange leaves its caller the bindings that it
  has found**, in any interleaving.
-/
import Mathlib.Data.List.Forall2
import AccessLog.Proofs.Exchange.Bindings
import AccessLog.Proofs.Exchange.Ledger
import AccessLog.Proofs.Exchange.Tasks

namespace AccessLog

/-- A record that a numbered layer has made in an exchange. -/
structure World.Record where
  exchange : Nat
  number : Nat
  value : Value

/-- The record of an attempt that is seen. -/
def Occurrence.record? : Occurrence → Option World.Record
  | .attempted i number a => a.record?.map (⟨i, number, ·⟩)
  | _ => none

lemma Occurrence.record?_of_unlogged {o : Occurrence} (unlogged : o.isLogged = false) :
    o.record? = none := by
  cases o <;> first | rfl | cases unlogged

namespace World

/-- All records so far. -/
def records (w : World) : List Record :=
  w.seen.filterMap Occurrence.record?

/-- What was bound before each layer around each exchange. -/
def befores (w : World) : List (List Context) :=
  w.frames.map fun frames => frames.map (·.before)

end World

/-- A task has brought an exchange to its layers, with its scope as it was then. -/
def Loop.Entered (past : List Mark) (i : Nat) (scope : Scope) : Prop :=
  ∃ k before, .entered k i scope before ∈ past

/-- The event of a record has gone to its sink, and all lines that were told in the
meantime show the request of its exchange as it was at its entry. -/
structure Delivery.Carries (past : List Mark) (r : World.Record) (d : Delivery) : Prop where
  number : d.number = r.number
  attributes : d.event.attributes = r.value
  lines : ∃ scope, Loop.Entered past r.exchange scope ∧ ∀ t ∈ d.lines, t.Carries scope

/-- The event of a record waits for its turn, and its context binds the request of its
exchange as it was at its entry. -/
inductive Job.Carries (past : List Mark) (r : World.Record) : Job → Prop
  | emit {event : Emission} {context : Context} {scope : Scope}
      (attributes : event.attributes = r.value) (entered : Loop.Entered past r.exchange scope)
      (binds : context.bound = scope.binds) : Carries past r (.emit r.number event context)

/-- What is bound in a numbered task: the request of the exchange that it is at work
on, above what was bound before. -/
def Task.Holds (past : List Mark) (befores : List (List Context)) (k : Nat) (task : Task) : Prop :=
  match task.duty with
  | .free => True
  | .runs i => ∃ scope before, .entered k i scope before ∈ past ∧
      Stack.Within scope before (befores[i]?.getD []) task.context
  | .helps i => ∃ scope, Loop.Entered past i scope ∧
      (befores[i]?.getD [] ≠ [] → task.context.bound = scope.binds)

/-! ### Records and events -/

namespace World

variable {w v : World} {i : Nat} {c : Conversation} {past later : List Mark}
  {deliveries : List Delivery}

/-- The records so far are those of the events that have gone to their sinks and then
of those that wait, in the same order. -/
def Accounted (past : List Mark) (deliveries : List Delivery) (w : World) : Prop :=
  ∃ sent waiting, w.records = sent ++ waiting ∧
    List.Forall₂ (Delivery.Carries past) sent deliveries ∧
    List.Forall₂ (Job.Carries past) waiting w.sending

lemma records_note (w : World) (i : Nat) (notes : List Noted) :
    (w.note i notes).records =
      w.records ++ notes.filterMap fun n => n.attempt.record?.map (⟨i, n.number, ·⟩) := by
  rw [records, note, List.filterMap_append, List.filterMap_map]
  rfl

namespace Accounted

lemma mono (accounted : Accounted past deliveries w) (more : past ⊆ later) :
    Accounted later deliveries w := by
  obtain ⟨sent, waiting, records, gone, wait⟩ := accounted
  have entered {i : Nat} {scope : Scope} :
      Loop.Entered past i scope → Loop.Entered later i scope :=
    fun ⟨k, before, isIn⟩ => ⟨k, before, more isIn⟩
  refine ⟨sent, waiting, records, gone.imp fun r d carries => ?_,
    wait.imp fun r job carries => ?_⟩
  · obtain ⟨scope, there, lines⟩ := carries.lines
    exact ⟨carries.number, carries.attributes, scope, entered there, lines⟩
  · obtain ⟨value, there, binds⟩ := carries
    exact .emit value (entered there) binds

lemma quiet (accounted : Accounted past deliveries w) (same : w.SameLog v) :
    Accounted past deliveries v := by
  obtain ⟨sent, waiting, records, gone, wait⟩ := accounted
  refine ⟨sent, waiting, ?_, gone, same.sending ▸ wait⟩
  rw [← records]
  exact same.filterMap_seen fun _ => Occurrence.record?_of_unlogged

/-- Records that are made while the request of an exchange is bound. -/
lemma note (accounted : Accounted past deliveries w) {scope : Scope}
    (entered : Loop.Entered past i scope) {notes : List Noted}
    (noted : ∀ n ∈ notes, n.context.bound = scope.binds) :
    Accounted past deliveries (w.note i notes) := by
  obtain ⟨sent, waiting, records, gone, wait⟩ := accounted
  refine ⟨sent, _, by rw [records_note, records, List.append_assoc], gone, ?_⟩
  rw [sending_note]
  refine List.rel_append wait ?_
  clear wait records
  induction notes with
  | nil => exact .nil
  | cons n notes ih =>
    obtain ⟨binds, rest⟩ := List.forall_mem_cons.mp noted
    cases made : n.attempt.record? with
    | none => simpa [made, Attempt.emission?] using ih rest
    | some value =>
      have one : Job.Carries past ⟨i, n.number, value⟩
          (.emit n.number ⟨.text n.eventType, value⟩ n.context) :=
        .emit rfl entered binds
      simpa [made, Attempt.emission?] using List.Forall₂.cons one (ih rest)

/-- The first event that waits goes to its sink. -/
lemma emit (accounted : Accounted past deliveries w) {number : Nat} {event : Emission}
    {context : Context} {rest : List Job} {lines : List Told}
    (queue : w.queue = .emit number event context :: rest)
    (told : (World.emit { w with queue := rest } number event context).told = w.told ++ lines) :
    Accounted past (deliveries ++ [⟨number, event, lines⟩])
      (World.emit { w with queue := rest } number event context) := by
  obtain ⟨sent, waiting, records, gone, wait⟩ := accounted
  rw [sending_of_queue queue] at wait
  obtain ⟨r, waiting, ⟨value, entered, binds⟩, wait', rfl⟩ := List.forall₂_cons_right_iff.mp wait
  refine ⟨sent ++ [r], waiting, ?_,
    List.rel_append gone (.cons ⟨rfl, value, _, entered, ?_⟩ .nil), wait'⟩
  · rw [List.append_assoc, List.singleton_append, ← records]
    exact filterMap_seen_emit (fun _ _ => rfl) (fun _ => rfl) { w with queue := rest } _ event
      context
  · obtain ⟨notices, own⟩ := exists_told_emit { w with queue := rest } r.number event context
    obtain rfl := List.append_cancel_left (told.symm.trans own)
    exact List.forall_mem_map.mpr fun n _ => Told.carries_notice binds n

end Accounted

/-! ### What was bound before layers -/

lemma befores_set (w : World) (i : Nat) (notes : List Noted) (d : Conversation) :
    ((w.note i notes).update i d).befores = w.befores.set i (d.frames.map (·.before)) := by
  rw [befores, frames_update, frames_note, List.map_set, befores]

lemma befores_getElem? (found : w.conversation? i = some c) :
    w.befores[i]? = some (c.frames.map (·.before)) := by
  rw [befores, List.getElem?_map, frames_getElem? found]
  rfl

/-- Layers that act stay above what was bound before them. -/
lemma befores_same (found : w.conversation? i = some c) (notes : List Noted) {d : Conversation}
    (same : d.frames.map (·.before) = c.frames.map (·.before)) :
    ((w.note i notes).update i d).befores = w.befores := by
  obtain ⟨inside, known⟩ := List.getElem?_eq_some_iff.mp (befores_getElem? found)
  rw [befores_set, same, ← known, List.set_getElem_self]

lemma SameLog.befores (same : w.SameLog v) : v.befores = w.befores := by
  rw [World.befores, same.frames, World.befores]

end World

/-! ### Tasks -/

namespace Task

variable {past later : List Mark} {befores befores' : List (List Context)}
  {k i : Nat} {task : Task}

lemma Holds.mono (holds : task.Holds past befores k) (more : past ⊆ later)
    (same : ∀ i, task.duty.exchange? = some i → befores'[i]? = befores[i]?) :
    task.Holds later befores' k := by
  obtain ⟨duty, context⟩ := task
  cases duty with
  | free => trivial
  | runs i =>
    obtain ⟨scope, before, entered, within⟩ := holds
    exact ⟨scope, before, more entered, by rwa [same i rfl]⟩
  | helps i =>
    obtain ⟨scope, ⟨j, before, entered⟩, binds⟩ := holds
    exact ⟨scope, ⟨j, before, more entered⟩, by rwa [same i rfl]⟩

/-- A task that is at work on an exchange with layers has its request bound. -/
lemma Holds.bound (holds : task.Holds past befores k) (own : task.duty.exchange? = some i) :
    ∃ scope, Loop.Entered past i scope ∧
      (befores[i]?.getD [] ≠ [] → task.context.bound = scope.binds) := by
  obtain ⟨duty, context⟩ := task
  cases duty with
  | free => cases own
  | runs j =>
    cases own
    obtain ⟨scope, before, entered, within⟩ := holds
    exact ⟨scope, ⟨k, before, entered⟩, within.bound⟩
  | helps j =>
    cases own
    exact holds

/-- Other names may be bound. -/
lemma Holds.rebind (holds : task.Holds past befores k) {context : Context}
    (same : task.duty.exchange?.isSome → context.bound = task.context.bound) :
    Task.Holds past befores k { task with context } := by
  obtain ⟨duty, before⟩ := task
  cases duty with
  | free => trivial
  | runs i =>
    obtain ⟨scope, before, entered, within⟩ := holds
    exact ⟨scope, before, entered, within.congr (same rfl)⟩
  | helps i =>
    obtain ⟨scope, entered, binds⟩ := holds
    exact ⟨scope, entered, fun layered => (same rfl).trans (binds layered)⟩

end Task

namespace Loop

open World

variable {s s' : Loop}

/-- All events that have gone to their sinks. -/
def deliveries (s : Loop) : List Delivery :=
  s.past.filterMap Mark.delivery?

/-- No exchange is brought to its layers twice, and each one that has ended has left
the bindings that its task has found. -/
structure Balanced (past : List Mark) : Prop where
  once : ∀ j k i scope scope' before before', .entered j i scope before ∈ past →
    .entered k i scope' before' ∈ past → j = k ∧ scope = scope' ∧ before = before'
  released : ∀ k i after, .ended k i after ∈ past →
    ∃ scope before, .entered k i scope before ∈ past ∧ after.bound = before.bound

/-- What holds in any interleaving. -/
structure Sound (s : Loop) : Prop where
  tasks : ∀ k (task : Task), s.tasks[k]? = some task → task.Holds s.past s.world.befores k
  balanced : Balanced s.past
  accounted : Accounted s.past s.deliveries s.world

namespace Balanced

variable {past : List Mark} {k i : Nat}

lemma enter (balanced : Balanced past)
    (new : ∀ k scope before, .entered k i scope before ∉ past) (scope : Scope) (before : Context) :
    Balanced (past ++ [.entered k i scope before]) := by
  refine ⟨fun j j' l scope₁ scope₂ before₁ before₂ first second => ?_, fun j l after isIn => ?_⟩
  · rw [List.mem_append, List.mem_singleton] at first second
    rcases first with first | first <;> rcases second with second | second
    · exact balanced.once _ _ _ _ _ _ _ first second
    · cases second
      exact absurd first (new j scope₁ before₁)
    · cases first
      exact absurd second (new j' scope₂ before₂)
    · cases first
      cases second
      exact ⟨rfl, rfl, rfl⟩
  · rcases List.mem_append.mp isIn with old | new
    · obtain ⟨scope', before', there, same⟩ := balanced.released j l after old
      exact ⟨scope', before', List.mem_append_left _ there, same⟩
    · cases List.mem_singleton.mp new

/-- What is no entry leaves the entries as they are. -/
lemma append (balanced : Balanced past) {marks : List Mark}
    (others : ∀ j l scope before, .entered j l scope before ∉ marks)
    (released : ∀ j l after, .ended j l after ∈ marks →
      ∃ scope before, .entered j l scope before ∈ past ∧ after.bound = before.bound) :
    Balanced (past ++ marks) := by
  have old {j l : Nat} {scope : Scope} {before : Context}
      (isIn : .entered j l scope before ∈ past ++ marks) : .entered j l scope before ∈ past :=
    (List.mem_append.mp isIn).resolve_right (others j l scope before)
  refine ⟨fun _ _ _ _ _ _ _ first second => balanced.once _ _ _ _ _ _ _ (old first) (old second),
    fun j l after isIn => ?_⟩
  obtain ⟨scope, before, there, same⟩ :=
    (List.mem_append.mp isIn).elim (balanced.released j l after) (released j l after)
  exact ⟨scope, before, List.mem_append_left _ there, same⟩

/-- An exchange ends with the bindings that its task has found. -/
lemma finish (balanced : Balanced past) {scope : Scope} {before left : Context}
    (entered : .entered k i scope before ∈ past) (same : left.bound = before.bound) :
    Balanced (past ++ [.ended k i left]) := by
  refine balanced.append (by simp) fun j l after isIn => ?_
  cases List.mem_singleton.mp isIn
  exact ⟨scope, before, entered, same⟩

end Balanced

/-- Marks that are no events. -/
lemma deliveries_append {marks : List Mark} (eventless : marks.filterMap Mark.delivery? = [])
    (w : World) (tasks : List Task) : deliveries ⟨w, tasks, s.past ++ marks⟩ = s.deliveries := by
  rw [deliveries, List.filterMap_append, eventless, List.append_nil, deliveries]

namespace Sound

/-- A task that is at work on an exchange with layers has its request bound. -/
lemma bound (sound : s.Sound) {task : Task} (there : task ∈ s.tasks) {i : Nat}
    (own : task.duty.exchange? = some i) :
    ∃ scope, Entered s.past i scope ∧
      (s.world.befores[i]?.getD [] ≠ [] → task.context.bound = scope.binds) := by
  obtain ⟨k, there⟩ := List.mem_iff_getElem?.mp there
  exact (sound.tasks k task there).bound own

/-- No task is at work on an exchange that is new. -/
lemma ne_of_isNew (sound : s.Sound) {i : Nat} (isNew : s.IsNew i) {task : Task}
    (there : task ∈ s.tasks) {j : Nat} (own : task.duty.exchange? = some j) : i ≠ j := by
  rintro rfl
  obtain ⟨scope, ⟨k, before, entered⟩, -⟩ := sound.bound there own
  exact isNew k scope before entered

/-- The world changes, but no layers are added. -/
lemma world (sound : s.Sound) {w : World} (befores : w.befores = s.world.befores)
    (accounted : Accounted s.past s.deliveries w) : Sound { s with world := w } :=
  ⟨fun k task there => by rw [befores]; exact sound.tasks k task there, sound.balanced, accounted⟩

/-- One task changes. -/
lemma set {tasks : List Task} {holds : Nat → Task → Prop} {k : Nat} {task : Task}
    (others : ∀ j other, tasks[j]? = some other → holds j other) (own : holds k task) :
    ∀ j other, (tasks.set k task)[j]? = some other → holds j other := by
  intro j other there
  rw [List.getElem?_set] at there
  split at there
  · next same =>
    subst same
    split at there
    · cases there
      exact own
    · cases there
  · exact others j other there

variable {k i : Nat} {task : Task} {context left : Context} {c : Conversation} {w : World}

/-- A task binds other values, and while it is at work on an exchange, the request stays bound. -/
lemma bind (sound : s.Sound) (there : s.tasks[k]? = some task)
    (kept : task.duty.exchange?.isSome → context.bound = task.context.bound) :
    Sound { s with tasks := s.tasks.set k { task with context } } where
  tasks := set sound.tasks ((sound.tasks k task there).rebind kept)
  balanced := sound.balanced
  accounted := sound.accounted

/-- A task starts with the context of the one that starts it. -/
lemma spawn (sound : s.Sound) {duty : Duty} (there : task ∈ s.tasks)
    (own : duty = .free ∨ ∃ i, task.duty.exchange? = some i ∧ duty = .helps i) :
    Sound { s with tasks := s.tasks ++ [⟨duty, task.context⟩] } where
  tasks j other isThere := by
    rw [List.getElem?_append] at isThere
    split at isThere
    · exact sound.tasks j other isThere
    · obtain rfl := List.mem_singleton.mp (List.mem_of_getElem? isThere)
      rcases own with rfl | ⟨i, own, rfl⟩
      · trivial
      · exact sound.bound there own
  balanced := sound.balanced
  accounted := sound.accounted

/-- The layers take up a request: they bind it above what the task has found, and what they note is
noted while it is bound. -/
lemma enter (sound : s.Sound) (isNew : s.IsNew i) (found : s.world.conversation? i = some c)
    {layers : List (Nat × Layer)} {entry : Stack.Entry}
    (entered : Stack.enter c.scope s.world.clock [] [] context layers = entry) :
    Sound {
      world := (s.world.note i entry.notes).update i
        { c with frames := entry.frames, failed := entry.failed, context := entry.context }
      tasks := s.tasks.set k ⟨.runs i, entry.context⟩
      past := s.past ++ [.entered k i c.scope context] } := by
  obtain ⟨within, noted⟩ : Stack.Within c.scope context (entry.frames.map (·.before))
      entry.context ∧ ∀ n ∈ entry.notes, n.context.bound = c.scope.binds :=
    entered ▸ Stack.within_enter layers rfl (List.forall_mem_nil _)
  have mark : .entered k i c.scope context ∈ s.past ++ [.entered k i c.scope context] :=
    List.mem_append_right _ (List.mem_singleton_self _)
  have more : s.past ⊆ s.past ++ [.entered k i c.scope context] := List.subset_append_left _ _
  refine ⟨set (fun j task there => ?_) ⟨c.scope, context, mark, ?_⟩,
    sound.balanced.enter isNew c.scope context, ?_⟩
  · refine (sound.tasks j task there).mono more fun l own => ?_
    have apart := sound.ne_of_isNew isNew (List.mem_of_getElem? there) own
    rw [befores_set, List.getElem?_set_ne apart]
  · have known := befores_getElem? (conversation?_update (w := s.world.note i entry.notes) found
      { c with frames := entry.frames, failed := entry.failed, context := entry.context })
    rw [known]
    exact within
  · rw [deliveries_append rfl]
    exact (sound.accounted.mono more).note ⟨k, context, mark⟩ noted

/-- A request that no layer can tell the type of comes and goes at once. -/
lemma refuse (sound : s.Sound) (isNew : s.IsNew i) (scope : Scope) (outcome : Except Failure Unit) :
    Sound { s with
      world := s.world.see (.ended i outcome context)
      past := s.past ++ [.entered k i scope context, .ended k i context] } := by
  have more : s.past ⊆ s.past ++ [.entered k i scope context, .ended k i context] :=
    List.subset_append_left _ _
  refine ⟨fun j task there => (sound.tasks j task there).mono more fun _ _ => rfl, ?_, ?_⟩
  · have entered := sound.balanced.enter (k := k) isNew scope context
    have ended := entered.finish (List.mem_append_right _ (List.mem_singleton_self _)) rfl
    rwa [List.append_assoc] at ended
  · rw [deliveries_append rfl]
    exact (sound.accounted.mono more).quiet (sameLog_see s.world rfl)

/-- A layer acts in a task that is at work on the exchange of the layer, hence while its request is
bound. -/
lemma act (sound : s.Sound) (there : task ∈ s.tasks) (own : task.duty.exchange? = some i)
    (move : Move i task.context s.world w) : Sound { s with world := w } := by
  cases move with
  | quiet same _ _ => exact sound.world same.befores (sound.accounted.quiet same)
  | @act c inner outer f after h notes result found frames acted =>
    obtain ⟨scope, entered, binds⟩ := sound.bound there own
    have layered : s.world.befores[i]?.getD [] ≠ [] := by
      rw [befores_getElem? found, frames]
      simp
    cases acted
    refine sound.world (befores_same found _ (by simp [frames])) ?_
    exact sound.accounted.note entered (List.forall_mem_map.mpr fun _ _ => binds layered)

/-- The layers are done: what they note is noted while the request is bound, and the task gets back
the bindings that it has found. -/
lemma finish (sound : s.Sound) (there : s.tasks[k]? = some ⟨.runs i, context⟩)
    (found : s.world.conversation? i = some c) {outcome final : Except Failure Unit}
    {frames : List Frame} {notes : List Noted}
    (done : Stack.unwind c.scope s.world.clock context outcome c.frames =
      (frames, notes, final, left)) :
    Sound {
      world := ((s.world.note i notes).update i { c with frames, context := left }).see
        (.ended i final left)
      tasks := s.tasks.set k ⟨.free, left⟩
      past := s.past ++ [.ended k i left] } := by
  obtain ⟨scope, before, entered, within⟩ := sound.tasks k _ there
  rw [befores_getElem? found] at within
  obtain ⟨back, noted, same⟩ := Stack.within_unwind done within
  have more : s.past ⊆ s.past ++ [.ended k i left] := List.subset_append_left _ _
  refine ⟨set (fun j task isThere => ?_) trivial, sound.balanced.finish entered back, ?_⟩
  · refine (sound.tasks j task isThere).mono more fun l _ => ?_
    exact congrArg (·[l]?) (befores_same (d := { c with frames, context := left }) found notes same)
  · rw [deliveries_append rfl]
    have noting := (sound.accounted.mono more).note ⟨k, before, more entered⟩ noted
    exact Accounted.quiet
      (w := (s.world.note i notes).update i { c with frames, context := left }) noting
      (sameLog_see _ rfl)

/-- The first event that waits goes to its sink, and no exchange is touched by that. -/
lemma emit (sound : s.Sound) {number : Nat} {event : Emission} {rest : List Job}
    {lines : List Told} (queue : s.world.queue = .emit number event context :: rest)
    (told : (World.emit { s.world with queue := rest } number event context).told =
      s.world.told ++ lines) :
    Sound { s with
      world := World.emit { s.world with queue := rest } number event context
      past := s.past ++ [.handed ⟨number, event, lines⟩] } := by
  have more : s.past ⊆ s.past ++ [.handed ⟨number, event, lines⟩] := List.subset_append_left _ _
  refine ⟨fun j task isThere => (sound.tasks j task isThere).mono more fun l _ => ?_,
    sound.balanced.append (by simp) (by simp), ?_⟩
  · rw [befores, frames_emit, befores]
    rfl
  · rw [deliveries, List.filterMap_append]
    exact (sound.accounted.mono more).emit queue told

/-- **Every step keeps it.** -/
theorem step (sound : s.Sound) (step : Step s s') : s'.Sound := by
  cases step with
  | quiet same => exact sound.world same.befores (sound.accounted.quiet same)
  | bind there kept =>
    refine sound.bind there fun atWork => ?_
    rw [Context.bound, kept atWork _ (by simp), kept atWork _ (by simp), Context.bound]
  | spawn there own => exact sound.spawn there own
  | enter there isNew found chosen entered => exact sound.enter isNew found entered
  | refuse there isNew found failed => exact sound.refuse isNew _ _
  | act there own move => exact sound.act there own move
  | finish there found done => exact sound.finish there found done
  | emit queue told => exact sound.emit queue told

end Sound

/-- Before all requests. -/
lemma sound_start {w : World} {tasks : List Task} (unmade : w.records = [])
    (unqueued : w.sending = []) (free : ∀ task ∈ tasks, task.duty = .free) :
    Sound ⟨w, tasks, []⟩ := by
  refine ⟨fun k task there => ?_, ⟨by simp, by simp⟩, [], [], unmade, .nil, ?_⟩
  · rw [Task.Holds, free task (List.mem_of_getElem? there)]
    trivial
  · rw [unqueued]
    exact .nil

lemma Sound.reaches (sound : s.Sound) (reached : s.Reaches s') : s'.Sound := by
  induction reached with
  | refl => exact sound
  | tail _ step ih => exact ih.step step

/-- **Every line of an event carries the method and the path of its exchange, and
every exchange leaves its caller the bindings that it has found**, whatever was bound
before and in whatever order any number of exchanges, their layers, their tasks and
the loop take their steps:

* the records so far are those of the events that have gone to their sinks, followed
  by those that wait, in the same order; what was told while one of them went to its
  sink shows the request of its exchange as it was at its entry, and a context that
  binds this request is kept for each one that waits;
* no exchange is brought to its layers twice, and however it ends, method and path
  are bound in the context of its task as they were at its entry, or not at all;
* the turns of a loop whose exchanges have a task each are made of such steps. -/
theorem carried_and_released {w : World} (unmade : w.records = []) (unqueued : w.sending = [])
    {tasks : List Task} (free : ∀ task ∈ tasks, task.duty = .free) {s : Loop}
    (reached : Reaches ⟨w, tasks, []⟩ s) :
    Accounted s.past s.deliveries s.world ∧ Balanced s.past ∧
      ∀ v : World, v.IsReady → ∀ n, ∃ u, v.loop.Reaches u ∧ u.world = v.turns n ∧
        u.tasks.map (·.context) = (v.turns n).contexts := by
  have sound : s.Sound := (sound_start unmade unqueued free).reaches reached
  exact ⟨sound.accounted, sound.balanced, fun v ready => ready.exists_reaches_turns⟩

/-- Two exchanges whose events are sent after both have ended, the second first; the
socket refuses both. Their paths and methods are told, and then those are bound that
were before. -/
theorem carried_and_released_refused_datagrams :
    let layer : Layer := ⟨false, fun _ => .ok .null,
      fun view => .ok (.dict [("url", view.scope.value "path")]), "T"⟩
    let scope (method path : Value) : Scope :=
      [("type", "http"), ("client", .tuple ["10.0.0.1", .int 80]), ("method", method),
        ("path", path)]
    let server := Server.ofLists [] []
    let body : Message := [("type", "http.response.body")]
    let app : App := .send body fun _ => .done (.error (.runtime "boom"))
    let outside : Context := [("user", "u1"), ("http_path", "/outside")]
    let down : Failure := .io (some 101) "Network is unreachable"
    let w : World := {
      layers := [layer]
      sinks := [.datagrams {}]
      network := { coming := fun kind => if kind = .sendTo then [some down, some down] else [] }
      conversations := [{ server, scope := scope "GET" "/slow", context := outside },
        { server, scope := scope "POST" "/fast" }]
      queue := [.start 0 (.pause app), .start 1 app] }
    w.IsReady ∧ (∃ s, w.loop.Reaches s ∧ s.world = w.turns 5 ∧
      Accounted s.past s.deliveries s.world ∧ Balanced s.past) ∧
      (w.turns 5).told.map (fun t => (Line.ofTold? t).map fun line => line.context.bound) =
        [some (scope "POST" "/fast").binds, some (scope "POST" "/fast").binds,
          some (scope "GET" "/slow").binds] ∧
      (w.turns 5).contexts.map (·.bound) = [outside.bound, (none, none)] := by
  intro layer scope server body app outside down w
  have ready : w.IsReady := by
    refine ⟨List.forall_mem_cons.mpr ⟨⟨0, _, rfl, by decide⟩,
      List.forall_mem_singleton.mpr ⟨1, _, rfl, by decide⟩⟩, by decide⟩
  obtain ⟨s, reached, same, -⟩ := ready.exists_reaches_turns 5
  have free : ∀ task ∈ w.loop.tasks, task.duty = .free :=
    List.forall_mem_map.mpr fun _ _ => rfl
  obtain ⟨accounted, balanced, -⟩ := carried_and_released (w := w) rfl rfl free reached
  exact ⟨ready, ⟨s, reached, same, accounted, balanced⟩, by decide +kernel, by decide +kernel⟩

end Loop

end AccessLog
