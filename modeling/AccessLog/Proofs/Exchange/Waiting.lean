/-
Who waits for the completion of an exchange, at any time.

* `Reply.finished_afterAll`: the reply counts as finished once the final part was taken.
* `Exchange.staged_of_sent`: the status line is on the wire only after a status was staged.
* `Exchange.Awaited`: an exchange before its attempt and after it; `Awaited.step` and
  `Awaited.run` keep it.
* `Exchange.Attendance`, `Awaited.attendance`: what that says of those who wait, of the attempt
  and of the reply.
* `Exchange.ended_cases`: the end of the application leaves nobody waiting, also if it fails.
* `Exchange.waiting_until_attempt`: **one waits for either completion until the attempt starts**,
  and nobody from then on.
-/
import AccessLog.Proofs.Exchange.Alongside
import AccessLog.Proofs.Exchange.Gating
import AccessLog.Proofs.Exchange.Untimed

namespace AccessLog

/-! ### A reply stays what it is -/

/-- The server has taken the final part. -/
def Exchange.Happening.writesFinal : Exchange.Happening → Bool
  | .sent m => m.isFinal
  | _ => false

namespace Reply

open Exchange

/-- The reply counts as finished once the final part was taken. -/
lemma finished_after (reply : Reply) (h : Happening) :
    (reply.after h).finished = (reply.finished || h.writesFinal) := by
  cases completes : h.completes with
  | false =>
    have unwritten : h.writesFinal = false := by
      cases h with
      | sent m => exact completes
      | _ => rfl
    rw [Exchange.finished_after completes, unwritten, Bool.or_false]
  | true =>
    cases h with
    | sending m => cases completes
    | sent m =>
      have final : m.isFinal = true := completes
      have notStart : m.messageKind ≠ .ok .start := by
        intro start
        simp [Message.isFinal, start] at final
      rw [after, if_neg notStart, if_pos final, Happening.writesFinal, final, Bool.or_true]
    | received m => simp [after, Happening.writesFinal]
    | ended => simp [after, Happening.writesFinal]

lemma finished_afterAll (reply : Reply) (moments : List Exchange.Moment) :
    (reply.afterAll moments).finished =
      (reply.finished || moments.any fun moment => moment.2.2.writesFinal) := by
  induction moments generalizing reply with
  | nil => simp
  | cons moment rest ih => rw [afterAll_cons, ih, finished_after, Bool.or_assoc, List.any_cons]

end Reply

namespace Exchange

variable {layer : Layer} {scope scope₀ : Scope} {clock clock₀ : Clock} {x : Exchange}
  {result : Except Failure Unit} {moments : List Moment}

/-- What counts as sent or finished goes on doing so. -/
lemma kept_run (layer : Layer) (x : Exchange) (moments : List Moment) :
    (x.response.reply.sent = true → (run layer x moments).response.reply.sent = true) ∧
      (x.response.reply.finished = true →
        (run layer x moments).response.reply.finished = true) := by
  rw [reply_run, Reply.sent_afterAll, Reply.finished_afterAll]
  exact ⟨fun sent => by rw [sent, Bool.true_or], fun done => by rw [done, Bool.true_or]⟩

/-- The status line is on the wire only after a status was staged, and it is the last one that
was. -/
lemma staged_of_sent (entered : enter layer scope₀ clock₀ = .ok (x, result))
    (course : IsCourse [] moments) (sent : (run layer x moments).response.reply.sent = true) :
    (staged moments).getLast? = some (run layer x moments).response.reply.status := by
  have reply : (run layer x moments).response.reply = Reply.afterAll {} moments := by
    rw [reply_run, reply_enter entered]
  rw [reply, Reply.sent_afterAll, Bool.false_or] at sent
  obtain ⟨status, isLast⟩ :=
    Option.isSome_iff_exists.mp (List.getLast?_isSome.mpr (course.staged_ne_nil sent))
  rw [reply, Reply.status_afterAll, isLast, Option.getD_some]

/-! ### Before the attempt and after it -/

/-- Nobody waits for either signal. -/
lemma Silent.nobody (silent : x.Silent) (s : Signal) : x.response.listeners.of s = [] := by
  rw [silent]
  cases s <;> rfl

/-- An exchange waits for its completion, or its attempt was made, when nobody waited any more. -/
inductive Awaited (x : Exchange) : Prop
  | before (listening : x.Listening)
  | after (silent : x.Silent) (fired : x.fired = true) (a : Attempt) (made : x.attempts = [a])
      (nobody : a.view.waiting = (0, 0))

/-- The attempt of a completion sees that nobody waits. -/
lemma awaited_completed (reply : Reply) : (completed layer scope clock x reply).Awaited :=
  .after (silent_completed reply) rfl _ rfl (by rw [Layer.view_attempt])

lemma Awaited.step (awaited : x.Awaited) (layer : Layer) (scope : Scope) (clock : Clock)
    (h : Happening) : (Exchange.step layer scope clock x h).1.Awaited := by
  cases awaited with
  | before listening =>
    cases completes : h.completes with
    | false => exact .before (listening.step completes)
    | true =>
      rw [listening.step_completes completes]
      exact awaited_completed _
  | after silent fired a made nobody =>
    rw [silent.step]
    exact .after silent fired a made nobody

lemma Awaited.run (awaited : x.Awaited) (layer : Layer) (moments : List Moment) :
    (Exchange.run layer x moments).Awaited := by
  induction moments generalizing x with
  | nil => exact awaited
  | cons moment rest ih => exact ih (awaited.step layer moment.1 moment.2.1 moment.2.2)

/-- Who waits in an exchange, and how that goes with its attempt. -/
structure Attendance (x : Exchange) : Prop where
  /-- As many wait for the finish as for the close. -/
  level : x.response.listeners.count .finish = x.response.listeners.count .close
  /-- One until the attempt starts. -/
  one : x.attempts = [] → ∀ s, x.response.listeners.count s = 1
  /-- None from then on. -/
  nobody : x.attempts ≠ [] → ∀ s, x.response.listeners.count s = 0
  /-- None already while the skip policy and the renderer are asked. -/
  asked : ∀ a ∈ x.attempts, a.view.waiting = (0, 0)
  /-- It counts as fired if the attempt has started. -/
  fired : x.fired = true ↔ x.attempts ≠ []
  /-- A finished reply has led to the attempt. -/
  finished : x.response.reply.finished = true → x.attempts ≠ []

lemma Awaited.attendance (awaited : x.Awaited) : x.Attendance := by
  cases awaited with
  | before listening =>
    obtain ⟨waiting, unfired, empty, unfinished⟩ := listening
    have one (s : Signal) : x.response.listeners.count s = 1 := by
      rw [waiting]
      cases s <;> rfl
    refine ⟨by rw [one, one], fun _ => one, fun filled => absurd empty filled, fun a made => ?_,
      ⟨fun fired => ?_, fun filled => absurd empty filled⟩, fun finished => ?_⟩
    · rw [empty] at made
      exact absurd made List.not_mem_nil
    · exact absurd (unfired.symm.trans fired) Bool.false_ne_true
    · exact absurd (unfinished.symm.trans finished) Bool.false_ne_true
  | after silent fired a made nobody =>
    have filled : x.attempts ≠ [] := made ▸ List.cons_ne_nil a []
    have gone (s : Signal) : x.response.listeners.count s = 0 :=
      congrArg List.length (silent.nobody s)
    refine ⟨by rw [gone, gone], fun empty => absurd empty filled, fun _ => gone, ?_,
      ⟨fun _ => filled, fun _ => fired⟩, fun _ => filled⟩
    rw [made]
    exact List.forall_mem_singleton.mpr nobody

/-- One waits, or the attempt was made, unless the layer is immediate. -/
lemma awaited_run (entered : enter layer scope₀ clock₀ = .ok (x, result))
    (waits : layer.immediate = false) (moments : List Moment) :
    (run layer x moments).Awaited := by
  obtain ⟨capture, ⟨mode, -⟩ | ⟨mode, rfl⟩⟩ := exists_of_enter entered
  · exact absurd (waits.symm.trans mode) Bool.false_ne_true
  · exact (Awaited.before (listening_start capture mode)).run layer moments

/-- In an immediate layer nobody waits, neither at the attempt nor later. -/
lemma silent_run (entered : enter layer scope₀ clock₀ = .ok (x, result))
    (immediate : layer.immediate = true) (moments : List Moment) :
    (run layer x moments).Silent ∧
      ∀ a ∈ (run layer x moments).attempts, a.view.waiting = (0, 0) := by
  obtain ⟨capture, ⟨mode, rfl⟩ | ⟨mode, -⟩⟩ := exists_of_enter entered
  · have silent : (record layer scope₀ clock₀ { capture }).1.Silent := rfl
    obtain ⟨still, same⟩ := silent.run moments
    refine ⟨still, ?_⟩
    rw [same]
    refine List.forall_mem_singleton.mpr ?_
    rw [Layer.view_attempt]
    rfl
  · exact absurd (mode.symm.trans immediate) Bool.false_ne_true

/-! ### The end of the application -/

/-- The end of the application leaves nobody waiting. If it fails, it does so in the attempt that
it has led to, and goes no further than that. -/
lemma ended_cases (phased : Phased layer x) (scope : Scope) (clock : Clock) :
    (∀ s, (ended layer scope clock x).1.response.listeners.of s = []) ∧
      ∀ e, (ended layer scope clock x).2 = .error e →
        (ended layer scope clock x).1 = (signal layer scope clock .close x).1 ∧
          ∃ a, (ended layer scope clock x).1.attempts = [a] ∧ a.result = .error e := by
  have silent : (ended layer scope clock x).1.Silent := by
    rcases phased with ⟨-, listening⟩ | silent
    · have last : (ended layer scope clock x).1 = completed layer scope clock x _ :=
        listening.step_completes (h := .ended) rfl
      rw [last]
      exact silent_completed _
    · have last : (ended layer scope clock x).1 = x := silent.step .ended
      rw [last]
      exact silent
  refine ⟨silent.nobody, fun e failed => ?_⟩
  rcases phased with ⟨-, listening⟩ | unheard
  · obtain ⟨made, same⟩ := listening.ended layer scope clock
    refine ⟨?_, _, made, same.symm.trans failed⟩
    rw [ended, listening.unfinished, if_neg Bool.false_ne_true] at failed ⊢
    generalize signal layer scope clock .close x = signalled at failed ⊢
    obtain ⟨y, e | _⟩ := signalled
    · rfl
    · cases failed
  · rw [(unheard.ended layer scope clock).2] at failed
    cases failed

/-- **One waits for either completion until the attempt starts.** Whatever happens in an
exchange, in whatever order, also after its end:

* unless the layer is immediate, one waits for the finish and one for the close until the attempt
  starts, and nobody from then on, already while the skip policy and the renderer are asked; a
  finished reply and the end of the application have led to the attempt;
* in an immediate layer nobody ever waits;
* the status line is on the wire only after a status was staged;
* what counts as sent or finished goes on doing so;
* the end of the application leaves nobody waiting, also if it fails in its attempt and nothing
  is cleared after that. -/
theorem waiting_until_attempt (entered : enter layer scope₀ clock₀ = .ok (x, result))
    (moments : List Moment) :
    let y := run layer x moments
    (layer.immediate = false → y.Attendance ∧
        ((∃ moment ∈ moments, moment.2.2 = .ended) → y.attempts ≠ [])) ∧
      (layer.immediate = true → (∀ s, y.response.listeners.of s = []) ∧
        ∀ a ∈ y.attempts, a.view.waiting = (0, 0)) ∧
      (IsCourse [] moments → y.response.reply.sent = true →
        (staged moments).getLast? = some y.response.reply.status ∧
          (.null ∉ staged moments → y.response.reply.status ≠ .null)) ∧
      (∀ later,
        (y.response.reply.sent = true →
          (run layer x (moments ++ later)).response.reply.sent = true) ∧
        (y.response.reply.finished = true →
          (run layer x (moments ++ later)).response.reply.finished = true)) ∧
      ∀ scope clock,
        (∀ s, (ended layer scope clock y).1.response.listeners.of s = []) ∧
        ∀ e, (ended layer scope clock y).2 = .error e →
          (ended layer scope clock y).1 = (signal layer scope clock .close y).1 ∧
            ∃ a, (ended layer scope clock y).1.attempts = [a] ∧ a.result = .error e := by
  intro y
  refine ⟨fun waits => ?waiting, fun immediate => ?immediate, fun course sent => ?staged,
    fun later => ?kept, fun scope clock => ?ended⟩
  case waiting =>
    refine ⟨(awaited_run entered waits moments).attendance, fun done => ?_⟩
    exact List.ne_nil_of_length_eq_add_one ((length_attempts_run entered moments).2 done)
  case immediate =>
    obtain ⟨silent, asked⟩ := silent_run entered immediate moments
    exact ⟨silent.nobody, asked⟩
  case staged =>
    have last := staged_of_sent entered course sent
    exact ⟨last, fun codes isNull => codes (isNull ▸ List.mem_of_getLast? last)⟩
  case kept =>
    rw [run_append]
    exact kept_run layer y later
  case ended => exact ended_cases ((phased_enter entered).run moments) scope clock

/-- A start message that is taken, a body that is refused, and a renderer that fails in the
attempt at the end of the application; then a task that goes on sending. -/
theorem waiting_until_attempt_failing_renderer :
    let layer : Layer := ⟨false, fun _ => .ok .null, fun _ => .error .wrongType, "T"⟩
    let scope : Scope := [("type", "http")]
    let head : Message := [("type", "http.response.start"), ("status", .int 200)]
    let body : Message := [("type", "http.response.body")]
    let now (h : Happening) : Moment := (scope, {}, h)
    let before := [.sending head, .sent head, .sending body].map now
    let after := [.ended, .sending body, .sent body].map now
    ∃ x result, enter layer scope {} = .ok (x, result) ∧
      (run layer x before).response.listeners.count .close = 1 ∧
      (run layer x before).response.reply.status = .int 200 ∧
      (ended layer scope {} (run layer x before)).2 = .error .wrongType ∧
      (∀ s, (ended layer scope {} (run layer x before)).1.response.listeners.of s = []) ∧
      ∀ s, (run layer x (before ++ after)).response.listeners.count s = 0 := by
  intro layer scope head body now before after
  have entered : enter layer scope {} =
      .ok (start layer ⟨some 0, .whole 0, .null, ""⟩, .ok ()) := rfl
  have headTyped : head.IsTyped := ⟨⟨_, rfl⟩, fun _ => ⟨⟨_, rfl⟩, [], rfl⟩⟩
  have course : IsCourse [] before := ⟨List.mem_cons_self, headTyped, trivial⟩
  obtain ⟨first, -, staged, -, last⟩ := waiting_until_attempt entered before
  obtain ⟨late, -⟩ := waiting_until_attempt entered (before ++ after)
  obtain ⟨waits, -⟩ := first rfl
  obtain ⟨attended, done⟩ := late rfl
  obtain ⟨nobody, -⟩ := last scope {}
  refine ⟨_, _, entered, waits.one rfl .close, ?_, rfl, nobody, attended.nobody (done ?_)⟩
  · exact (Option.some.inj (staged course rfl).1).symm
  · exact ⟨now .ended, by simp [after], rfl⟩

end Exchange

end AccessLog
