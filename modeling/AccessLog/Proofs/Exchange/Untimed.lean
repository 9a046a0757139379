/-
What a layer is shown apart from the clocks.

* `Capture.untimed`, `View.untimed`: what was kept at the entry and what is shown,
  without the readings of the clocks.
* `Exchange.untimed`: the moments of a run without their clocks.
* `Exchange.Alike`, `Exchange.Alike.step`: two exchanges that differ in the readings
  of the clocks only, and go on to do so.
* `Exchange.views_run`: **clocks change nothing but what is read from them**: the
  attempts of a layer are made at the same moments, on the same views.
-/
import AccessLog.Proofs.Exchange.Outcome

namespace AccessLog

/-- What was kept of a request, without the readings of the clocks. -/
def Capture.untimed (c : Capture) : Capture :=
  { c with startedAt := none, startTime := .whole 0 }

/-- What is shown of an exchange, without the readings of the clocks. -/
def View.untimed (v : View) : View :=
  { v with capture := v.capture.map Capture.untimed, clock := {} }

/-- What is kept of a request depends on the clocks in their readings only. -/
lemma Capture.untimed_begin {scope : Scope} {clock clock' : Clock} {capture capture' : Capture}
    (taken : Capture.begin scope clock = .ok capture)
    (taken' : Capture.begin scope clock' = .ok capture') : capture.untimed = capture'.untimed := by
  obtain ⟨host, url, isHost, isUrl, rfl⟩ := Capture.exists_of_begin taken
  obtain ⟨host', url', isHost', isUrl', rfl⟩ := Capture.exists_of_begin taken'
  obtain rfl : host = host' := Except.ok.inj (isHost.symm.trans isHost')
  obtain rfl : url = url' := Except.ok.inj (isUrl.symm.trans isUrl')
  rfl

/-- An attempt is made on the view that it is made on. -/
@[simp] lemma Layer.view_attempt (layer : Layer) (view : View) :
    (layer.attempt view).view = view :=
  (layer.attempt_asks view).1

namespace Exchange

/-- The moments of a run without their clocks. -/
def untimed (moments : List Moment) : List (Scope × Happening) :=
  moments.map fun moment => (moment.1, moment.2.2)

/-- Two exchanges that differ in the readings of the clocks only. -/
structure Alike (x y : Exchange) : Prop where
  capture : x.capture.untimed = y.capture.untimed
  response : x.response = y.response
  views : x.attempts.map (·.view.untimed) = y.attempts.map (·.view.untimed)

variable {layer : Layer} {x y : Exchange} {scope : Scope} {clock clock' : Clock}
  {result result' : Except Failure Unit}

lemma Alike.withReply (alike : Alike x y) (reply : Reply) :
    Alike (x.withReply reply) (y.withReply reply) :=
  ⟨alike.capture, congrArg (fun response => { response with reply }) alike.response, alike.views⟩

/-- What an attempt is made on is the same apart from the clocks. -/
lemma Alike.untimed_view (alike : Alike x y) (reply : Reply) (scope : Scope)
    (clock clock' : Clock) :
    View.untimed { scope, clock, capture := some x.capture, reply } =
      View.untimed { scope, clock := clock', capture := some y.capture, reply } := by
  simp [View.untimed, alike.capture]

lemma Alike.completed (alike : Alike x y) (reply : Reply) :
    Alike (completed layer scope clock x reply) (completed layer scope clock' y reply) := by
  refine ⟨alike.capture, rfl, ?_⟩
  simp only [Exchange.completed, List.map_singleton, Layer.view_attempt]
  rw [alike.untimed_view]

/-- Whatever happens at whatever time leaves them alike. -/
lemma Alike.step (alike : Alike x y) (phased : Phased layer x) (phased' : Phased layer y)
    (scope : Scope) (clock clock' : Clock) (h : Happening) :
    Alike (Exchange.step layer scope clock x h).1 (Exchange.step layer scope clock' y h).1 := by
  have reply : x.response.reply.after h = y.response.reply.after h := by rw [alike.response]
  have listeners : x.response.listeners = y.response.listeners := by rw [alike.response]
  rcases phased with ⟨-, waits⟩ | silent <;> rcases phased' with ⟨-, waits'⟩ | silent'
  · cases completes : h.completes with
    | false =>
      rw [step_going completes, step_going completes, reply]
      exact alike.withReply _
    | true =>
      rw [waits.step_completes completes, waits'.step_completes completes, reply]
      exact alike.completed _
  · rw [waits.listeners, silent'] at listeners
    cases listeners
  · rw [silent, waits'.listeners] at listeners
    cases listeners
  · rw [silent.step, silent'.step, reply]
    exact alike.withReply _

/-- So does a run, if the same happens in the same scopes. -/
lemma Alike.run (alike : Alike x y) (phased : Phased layer x) (phased' : Phased layer y)
    {moments moments' : List Moment} (same : untimed moments = untimed moments') :
    Alike (Exchange.run layer x moments) (Exchange.run layer y moments') := by
  induction moments generalizing x y moments' with
  | nil =>
    cases moments' with
    | nil => exact alike
    | cons moment' rest' => cases same
  | cons moment rest ih =>
    cases moments' with
    | nil => cases same
    | cons moment' rest' =>
      obtain ⟨scope, clock, h⟩ := moment
      obtain ⟨scope', clock', h'⟩ := moment'
      obtain ⟨first, others⟩ := List.cons.inj same
      obtain ⟨rfl, rfl⟩ := Prod.mk.inj first
      exact ih (alike.step phased phased' scope clock clock' h) (phased.step _ _ _)
        (phased'.step _ _ _) others

/-- Who waits and what was attempted at the entry depends on the mode. -/
lemma mode_enter (entered : enter layer scope clock = .ok (x, result)) :
    (layer.immediate = true → x.response = {} ∧
      x.attempts = [layer.attempt { scope, clock, capture := some x.capture }]) ∧
    (layer.immediate = false → x = start layer x.capture) := by
  have taken := capture_enter entered
  refine ⟨fun mode => ?_, fun mode => ?_⟩
  · rw [enter_immediate taken mode, Except.ok.injEq] at entered
    have made : (record layer scope clock { capture := x.capture }).1 = x :=
      congrArg Prod.fst entered
    exact ⟨(congrArg Exchange.response made).symm, (congrArg Exchange.attempts made).symm⟩
  · rw [enter_waiting taken mode, Except.ok.injEq] at entered
    exact (congrArg Prod.fst entered).symm

/-- At the entry of a request they are alike. -/
lemma alike_enter (entered : enter layer scope clock = .ok (x, result))
    (entered' : enter layer scope clock' = .ok (y, result')) : Alike x y := by
  have captures := Capture.untimed_begin (capture_enter entered) (capture_enter entered')
  cases mode : layer.immediate with
  | true =>
    obtain ⟨response, attempts⟩ := (mode_enter entered).1 mode
    obtain ⟨response', attempts'⟩ := (mode_enter entered').1 mode
    refine ⟨captures, response.trans response'.symm, ?_⟩
    rw [attempts, attempts', List.map_singleton, List.map_singleton, Layer.view_attempt,
      Layer.view_attempt]
    simp [View.untimed, captures]
  | false =>
    rw [(mode_enter entered).2 mode, (mode_enter entered').2 mode, start, start, mode]
    exact ⟨captures, rfl, rfl⟩

/-- **Clocks change nothing but what is read from them.** If a layer takes up the
same request and the same happens in the same scopes, it makes its attempts on the
same views apart from the clocks, whatever these read at the entry and later. -/
theorem views_run (entered : enter layer scope clock = .ok (x, result))
    (entered' : enter layer scope clock' = .ok (y, result')) {moments moments' : List Moment}
    (same : untimed moments = untimed moments') :
    (Exchange.run layer x moments).attempts.map (·.view.untimed) =
      (Exchange.run layer y moments').attempts.map (·.view.untimed) :=
  ((alike_enter entered entered').run (phased_enter entered) (phased_enter entered') same).views

end Exchange

end AccessLog
