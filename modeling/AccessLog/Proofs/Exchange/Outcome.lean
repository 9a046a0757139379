/-
What leaves a layer when the application fails.

* `Exchange.Phased`: an exchange is in one of its two phases, in every order of
  steps.
* `Exchange.Listening.ended`, `Exchange.Silent.ended`: the end of an application
  is the first completion, with an attempt that may fail, or goes unnoticed.
* `World.seen_finish_sole`: what leaves the only layer.
* `World.failure_leaves`: **the failure of the application leaves**, unless it
  was the first completion and the skip policy or the renderer fails in the
  attempt; then that failure does.
* `World.failure_replaced`: an application whose failure does not leave.
-/
import AccessLog.Proofs.Exchange.Ledger

namespace AccessLog

/-- What leaves if something is done while a failure is on its way: another
failure takes its place. -/
def Failure.replacedBy (e : Failure) (result : Except Failure Unit) : Failure :=
  match result with
  | .ok () => e
  | .error f => f

/-- How an exchange ended, as seen from outside. -/
def Occurrence.outcome? : Occurrence → Option (Nat × Except Failure Unit)
  | .ended i outcome _ => some (i, outcome)
  | _ => none

namespace Exchange

variable {layer : Layer} {scope : Scope} {clock : Clock} {x : Exchange}

/-- An exchange waits for its completion, which no immediate layer does, or
nobody waits any longer. -/
def Phased (layer : Layer) (x : Exchange) : Prop :=
  (layer.immediate = false ∧ x.Listening) ∨ x.Silent

lemma phased_enter {result : Except Failure Unit}
    (entered : enter layer scope clock = .ok (x, result)) : Phased layer x := by
  obtain ⟨capture, ⟨-, rfl⟩ | ⟨mode, rfl⟩⟩ := exists_of_enter entered
  · exact .inr rfl
  · exact .inl ⟨mode, listening_start capture mode⟩

lemma Phased.step (phased : Phased layer x) (scope : Scope) (clock : Clock) (h : Happening) :
    Phased layer (Exchange.step layer scope clock x h).1 := by
  rcases phased with ⟨mode, listening⟩ | silent
  · cases completes : h.completes with
    | false => exact .inl ⟨mode, listening.step completes⟩
    | true =>
      rw [listening.step_completes completes]
      exact .inr (silent_completed _)
  · rw [silent.step]
    exact .inr silent

/-- The attempt that a completion makes of an exchange. -/
def lastAttempt (layer : Layer) (scope : Scope) (clock : Clock) (x : Exchange) : Attempt :=
  layer.attempt { scope, clock, capture := some x.capture, reply := x.response.reply }

/-- The first completion ends as its attempt does. -/
lemma Listening.signal_result (h : x.Listening) :
    (Exchange.signal layer scope clock .close x).2 = (lastAttempt layer scope clock x).result := by
  obtain ⟨capture, ⟨reply, _⟩, _, _⟩ := x
  obtain ⟨rfl, rfl, rfl, -⟩ := h
  rw [Exchange.signal, Listeners.of, deliver]
  split
  · next made => exact (congrArg Prod.snd made).symm
  · next made => exact (congrArg Prod.snd made).symm

/-- If the end of the application is the first completion, it ends as its
attempt does. -/
lemma Listening.ended (h : x.Listening) (layer : Layer) (scope : Scope) (clock : Clock) :
    (Exchange.ended layer scope clock x).1.attempts = [lastAttempt layer scope clock x] ∧
      (Exchange.ended layer scope clock x).2 = (lastAttempt layer scope clock x).result := by
  constructor
  · exact congrArg Exchange.attempts (h.step_completes (h := .ended) rfl)
  · rw [Exchange.ended, h.unfinished, if_neg Bool.false_ne_true, ← h.signal_result]
    generalize Exchange.signal layer scope clock .close x = signalled
    obtain ⟨y, e | _⟩ := signalled <;> rfl

/-- After the first completion the end of the application goes unnoticed. -/
lemma Silent.ended (silent : x.Silent) (layer : Layer) (scope : Scope) (clock : Clock) :
    (Exchange.ended layer scope clock x).1.attempts = x.attempts ∧
      (Exchange.ended layer scope clock x).2 = .ok () := by
  have cut : Exchange.signal layer scope clock .close x = (x, .ok ()) :=
    silent.signal .close x.response.reply
  constructor
  · exact congrArg Exchange.attempts (silent.step .ended)
  · rw [Exchange.ended, cut, ite_self]

end Exchange

namespace World

/-- How exchanges have ended. -/
def outcomes (w : World) : List (Nat × Except Failure Unit) :=
  w.seen.filterMap Occurrence.outcome?

variable {layer : Layer} {w v w₀ : World} {i : Nat} {c : Conversation}

/-- All exchanges are in one of their two phases. -/
lemma Trace.phased {acts : List Act} (fresh : w₀.Fresh layer) (trace : Trace w₀ acts w)
    {f : Frame} (found : w.conversation? i = some c) (isIn : f ∈ c.frames) :
    Exchange.Phased f.layer f.exchange := by
  refine trace.forall_frames (P := Exchange.Phased) Exchange.phased_enter
    (fun scope clock h phased => phased.step scope clock h) (fun frames known f inside => ?_)
    c.frames (List.mem_of_getElem? (frames_getElem? found)) f isIn
  rw [fresh.frames frames known] at inside
  exact absurd inside List.not_mem_nil

/-- Without a layer the failure of the application leaves. -/
lemma seen_finish_nil (empty : c.frames = []) (outcome : Except Failure Unit) :
    (w.finish i c outcome).seen = w.seen ++ [.ended i outcome c.context] := by
  simp [finish, empty, Stack.unwind, see, update]

/-- What leaves the only layer when the application fails. -/
lemma seen_finish_sole {x y : Exchange} {before : Context} {result : Except Failure Unit}
    (one : c.frames = [⟨0, layer, x, before⟩])
    (ended : Exchange.ended layer c.scope w.clock x = (y, result)) (e : Failure) :
    (w.finish i c (.error e)).seen =
      w.seen ++ (y.attempts.drop x.attempts.length).map (.attempted i 0) ++
        [.ended i (.error (e.replacedBy result)) (c.context.leave before)] := by
  rcases result with f | _ <;>
  · simp only [finish, one, Stack.unwind, Frame.act, ended, see, update, note, List.append_nil,
      List.map_map]
    rfl

/-- **The failure of the application leaves**, whatever the application, the
server, the skip policy and the renderer do and have done before. There is one
exception: if nothing has completed the exchange of a layer that is not
immediate, the attempt is made only now, and if the skip policy or the renderer
fails in it, that failure leaves in place of the other. -/
theorem failure_leaves (fresh : w₀.Fresh layer) {acts : List Act} (trace : Trace w₀ acts w)
    {app : App} {e : Failure} (failed : w.pursue i app = (v, some (.error e)))
    (found : v.conversation? i = some c) :
    ∃ made leaving context,
      (advance i app w).seen =
        v.seen ++ made.map (.attempted i 0) ++ [.ended i (.error leaving) context] ∧
      (made = [] ∧ leaving = e ∨
        ∃ x before, c.frames = [⟨0, layer, x, before⟩] ∧ layer.immediate = false ∧
          x.attempts = [] ∧ made = [x.lastAttempt layer c.scope v.clock] ∧
          leaving = e.replacedBy (x.lastAttempt layer c.scope v.clock).result) := by
  have finished : advance i app w = v.finish i c (.error e) := by
    rw [advance_eq, failed]
    simp only [conclude, found]
  obtain ⟨more, run, -⟩ : Does i w v := by simpa [failed] using does_pursue (i := i) app w
  have reached := trace.append run
  rw [finished]
  rcases (fresh.sole.trace reached).1.frames c.frames
    (List.mem_of_getElem? (frames_getElem? found)) with empty | ⟨x, before, one⟩
  · refine ⟨[], e, c.context, ?_, .inl ⟨rfl, rfl⟩⟩
    rw [seen_finish_nil empty, List.map_nil, List.append_nil]
  · have phased : Exchange.Phased layer x :=
      Trace.phased (f := ⟨0, layer, x, before⟩) fresh reached found
        (one ▸ List.mem_singleton_self _)
    rcases ended : Exchange.ended layer c.scope v.clock x with ⟨y, result⟩
    rw [seen_finish_sole one ended]
    rcases phased with ⟨mode, listening⟩ | silent
    · obtain ⟨attempts, same⟩ := listening.ended layer c.scope v.clock
      rw [ended] at attempts same
      dsimp only at attempts same
      refine ⟨_, _, c.context.leave before, rfl,
        .inr ⟨x, before, one, mode, listening.attempts, ?_, ?_⟩⟩
      · rw [attempts, listening.attempts, List.length_nil, List.drop_zero]
      · rw [same]
    · obtain ⟨attempts, same⟩ := silent.ended layer c.scope v.clock
      rw [ended] at attempts same
      dsimp only at attempts same
      refine ⟨_, _, c.context.leave before, rfl, .inl ⟨?_, ?_⟩⟩
      · rw [attempts, List.drop_length]
      · rw [same, Failure.replacedBy]

/-- A skip policy that fails in the application's last message, and then a
failure of the application itself, which leaves. -/
theorem failure_leaves_after_failing_skip :
    let layer : Layer := ⟨false, fun _ => .error (.value "policy"), fun _ => .ok .null, "T"⟩
    let scope : Scope := [("type", "http"), ("client", .tuple ["10.0.0.1", .int 80])]
    let body : Message := [("type", "http.response.body")]
    let app : App := .send body fun _ => .done (.error (.runtime "boom"))
    let w₀ := starting [layer] [.recorder] {} {} (Server.ofLists [] []) scope (.pause app)
    let stopped := (w₀.turns 1).pursue 0 app
    w₀.Fresh layer ∧ (∃ acts, Trace w₀ acts (w₀.turns 1)) ∧
      stopped.2 = some (.error (.runtime "boom")) ∧
      (∃ (made : List Attempt) (leaving : Failure) (context : Context),
        (advance 0 app (w₀.turns 1)).seen =
          stopped.1.seen ++ made.map (.attempted 0 0) ++ [.ended 0 (.error leaving) context]) ∧
      (advance 0 app (w₀.turns 1)).outcomes = [(0, .error (.runtime "boom"))] := by
  intro layer scope body app w₀ stopped
  have fresh : w₀.Fresh layer := ⟨rfl, List.forall_mem_singleton.mpr rfl, rfl, rfl⟩
  obtain ⟨acts, trace⟩ := w₀.exists_trace_turns 1
  have failed : (w₀.turns 1).pursue 0 app = (stopped.1, some (.error (.runtime "boom"))) := rfl
  obtain ⟨made, leaving, context, seen, -⟩ := failure_leaves fresh trace failed rfl
  exact ⟨fresh, ⟨acts, trace⟩, rfl, ⟨made, leaving, context, seen⟩, by decide +kernel⟩

/-- An application that fails at once, before anything has completed its
exchange: the failure of the skip policy leaves in place of its own. -/
theorem failure_replaced :
    let layer : Layer := ⟨false, fun _ => .error (.value "policy"), fun _ => .ok .null, "T"⟩
    let scope : Scope := [("type", "http"), ("client", .tuple ["127.0.0.1", .int 54321])]
    let app : App := .done (.error (.runtime "boom"))
    let w₀ := starting [layer] [.recorder] {} {} (Server.ofLists [] []) scope app
    (w₀.turns 1).outcomes = [(0, .error (.value "policy"))] ∧
      (0, .error (.runtime "boom")) ∉ (w₀.turns 1).outcomes := by
  decide +kernel

end World

end AccessLog
