/-
Status and response time of a record, before and after the status line.

* `Exchange.IsCourse`: the server takes only what was handed over to it.
* `Exchange.IsCourse.staged_ne_nil`: once it has taken a start message, a status
  was handed over.
* `Exchange.responseTime_run`: the response time is there as soon as any start
  message was taken.
* `Exchange.fieldText_status_run`, `Exchange.fieldText_responseTime_run`: what
  the two fields show.
* `Exchange.ShowsWritten`, `Exchange.exists_showsWritten`: the record of an attempt
  shows what the server had taken by then.
* `Exchange.missing_iff_unwritten`: **both fields are missing** exactly if the
  server had not taken a start message before the record was made.
-/
import AccessLog.Proofs.Exchange.Status
import AccessLog.Proofs.Exchange.Steady
import AccessLog.Proofs.Format.Rendering

namespace AccessLog

namespace Exchange

variable {layer : Layer} {scope₀ : Scope} {clock₀ : Clock} {x : Exchange}
  {result : Except Failure Unit}

/-! ### What the server has taken was handed over -/

/-- The server takes only messages that were handed over to it before, which a
layer does with well-formed ones only. -/
def IsCourse (handed : List Message) : List Moment → Prop
  | [] => True
  | (_, _, .sending m) :: rest => IsCourse (m :: handed) rest
  | (_, _, .sent m) :: rest => m ∈ handed ∧ m.IsTyped ∧ IsCourse handed rest
  | (_, _, .received _) :: rest => IsCourse handed rest
  | (_, _, .ended) :: rest => IsCourse handed rest

/-- The beginning of a course is one. -/
lemma IsCourse.of_append {handed : List Message} {first second : List Moment}
    (course : IsCourse handed (first ++ second)) : IsCourse handed first := by
  induction first generalizing handed with
  | nil => trivial
  | cons moment rest ih =>
    obtain ⟨scope, clock, h⟩ := moment
    cases h with
    | sending m =>
      have later : IsCourse (m :: handed) (rest ++ second) := course
      exact ih later
    | sent m => exact ⟨course.1, course.2.1, ih course.2.2⟩
    | received _ | ended =>
      have later : IsCourse handed (rest ++ second) := course
      exact ih later

/-- More may have been handed over before. -/
lemma IsCourse.mono {handed more : List Message} {moments : List Moment}
    (course : IsCourse handed moments) (subset : handed ⊆ more) : IsCourse more moments := by
  induction moments generalizing handed more with
  | nil => trivial
  | cons moment rest ih =>
    obtain ⟨scope, clock, h⟩ := moment
    cases h with
    | sending m =>
      have later : IsCourse (m :: handed) rest := course
      exact ih later (List.cons_subset_cons m subset)
    | sent m => exact ⟨subset course.1, course.2.1, ih course.2.2 subset⟩
    | received _ | ended =>
      have later : IsCourse handed rest := course
      exact ih later subset

/-- A course may go on as any other. -/
lemma IsCourse.append {handed : List Message} {first second : List Moment}
    (course : IsCourse handed first) (next : IsCourse [] second) :
    IsCourse handed (first ++ second) := by
  induction first generalizing handed with
  | nil => exact next.mono (List.nil_subset handed)
  | cons moment rest ih =>
    obtain ⟨scope, clock, h⟩ := moment
    cases h with
    | sending m =>
      have later : IsCourse (m :: handed) rest := course
      exact ih later
    | sent m => exact ⟨course.1, course.2.1, ih course.2.2⟩
    | received _ | ended =>
      have later : IsCourse handed rest := course
      exact ih later

/-- If the server has taken a start message, a status was handed over. -/
lemma IsCourse.staged_or {handed : List Message} {moments : List Moment}
    (course : IsCourse handed moments) (written : startWritten moments = true) :
    staged moments ≠ [] ∨ ∃ m ∈ handed, m.startStatus? ≠ none := by
  induction moments generalizing handed with
  | nil => cases written
  | cons moment rest ih =>
    obtain ⟨scope, clock, h⟩ := moment
    rw [startWritten, List.any_cons, Bool.or_eq_true] at written
    cases h with
    | sending m =>
      have later : IsCourse (m :: handed) rest := course
      cases status : m.startStatus? with
      | some v =>
        have first : staged ((scope, clock, .sending m) :: rest) = v :: staged rest :=
          List.filterMap_cons_some status
        exact .inl (first ▸ List.cons_ne_nil v _)
      | none =>
        have same : staged ((scope, clock, .sending m) :: rest) = staged rest :=
          List.filterMap_cons_none status
        rw [same]
        rcases ih later (written.resolve_left Bool.false_ne_true) with later | ⟨other, isIn, start⟩
        · exact .inl later
        · rcases List.mem_cons.mp isIn with rfl | isIn
          · exact absurd status start
          · exact .inr ⟨other, isIn, start⟩
    | sent m =>
      obtain ⟨isIn, typed, course⟩ := course
      rcases written with start | later
      · have isStart : m.messageKind = .ok .start := of_decide_eq_true start
        obtain ⟨status, hasStatus⟩ := (typed.start isStart).1
        exact .inr ⟨m, isIn, by simp [Message.startStatus?, isStart, hasStatus]⟩
      · exact ih course later
    | received _ | ended =>
      have later : IsCourse handed rest := course
      exact ih later (written.resolve_left Bool.false_ne_true)

/-- The status line is on the wire only after a status was handed over. -/
lemma IsCourse.staged_ne_nil {moments : List Moment} (course : IsCourse [] moments)
    (written : startWritten moments = true) : staged moments ≠ [] := by
  rcases course.staged_or written with filled | ⟨m, isIn, -⟩
  · exact filled
  · exact absurd isIn List.not_mem_nil

/-! ### The two tokens -/

/-- The start is marked at the entry. -/
lemma startedAt_enter (entered : enter layer scope₀ clock₀ = .ok (x, result)) :
    x.capture.startedAt = some clock₀.ticks := by
  obtain ⟨host, url, -, -, kept⟩ := Capture.exists_of_begin (capture_enter entered)
  rw [kept]

/-- The response time is there as soon as the server has taken any start
message. -/
theorem responseTime_run (entered : enter layer scope₀ clock₀ = .ok (x, result))
    (moments : List Moment) (scope : Scope) (clock : Clock) :
    Token.responseTime ((run layer x moments).view scope clock) =
      if startWritten moments then
        (Capture.milliseconds (clock.ticks - clock₀.ticks)).map fun ms => .text (ms.fixed 3)
      else .ok .null := by
  have sent : (run layer x moments).response.reply.sent = startWritten moments := by
    rw [reply_run, reply_enter entered, Reply.sent_afterAll]
    rfl
  have elapsed : (run layer x moments).capture.elapsedMs clock =
      (Capture.milliseconds (clock.ticks - clock₀.ticks)).map some := by
    rw [capture_run, Capture.elapsedMs, startedAt_enter entered]
  rw [Token.responseTime, view]
  dsimp only
  rw [sent]
  cases startWritten moments with
  | false => rfl
  | true =>
    simp only [elapsed, if_true]
    cases Capture.milliseconds (clock.ticks - clock₀.ticks) <;> rfl

/-! ### What the fields show -/

lemma lookup_status :
    Tokens.builtIn.lookup "status" = some (Token.plain fun view _ => Token.status view) := rfl

lemma lookup_responseTime :
    Tokens.builtIn.lookup "response-time" =
      some (Token.plain fun view _ => Token.responseTime view) := rfl

/-- What was rendered in an attempt is what the layer makes of its view. -/
lemma render_of_attempt {view : View} {made : Except Failure Value}
    (rendered : (layer.attempt view).rendered = some made) : layer.render view = made := by
  rw [Layer.attempt] at rendered
  split at rendered
  · cases rendered
  · dsimp only at rendered
    split at rendered
    · cases rendered
    · exact Option.some.inj rendered

/-- Missing data is all that the status field shows until the server has taken
a start message, and from then on it shows a code. -/
lemma fieldText_status_run (entered : enter layer scope₀ clock₀ = .ok (x, result))
    {moments : List Moment} (course : IsCourse [] moments)
    (codes : ∀ v ∈ staged moments, ∃ n : Int, n ≠ 0 ∧ v = .int n) (scope : Scope) (clock : Clock)
    {v : Value} (shown : Token.status ((run layer x moments).view scope clock) = .ok v) :
    v.fieldText = missing ↔ startWritten moments = false := by
  rw [status_run entered, Except.ok.injEq] at shown
  subst shown
  cases written : startWritten moments with
  | false => exact iff_of_true rfl rfl
  | true =>
    obtain ⟨last, isLast⟩ :=
      Option.isSome_iff_exists.mp (List.getLast?_isSome.mpr (course.staged_ne_nil written))
    obtain ⟨n, code, rfl⟩ := codes last (List.mem_of_getLast? isLast)
    have truthy : (Value.int n).truthy = true := by simpa [Value.truthy] using code
    rw [if_pos rfl, isLast, Option.getD_some, Value.fieldText, if_pos truthy]
    exact iff_of_false (Text.ofInt_ne_missing n) Bool.false_ne_true.symm

/-- The same holds for the response time. -/
lemma fieldText_responseTime_run (entered : enter layer scope₀ clock₀ = .ok (x, result))
    {moments : List Moment} (scope : Scope) (clock : Clock) {v : Value}
    (shown : Token.responseTime ((run layer x moments).view scope clock) = .ok v) :
    v.fieldText = missing ↔ startWritten moments = false := by
  rw [responseTime_run entered] at shown
  cases written : startWritten moments with
  | false =>
    rw [written] at shown
    cases shown
    exact iff_of_true rfl rfl
  | true =>
    rw [written, if_pos rfl] at shown
    cases elapsed : Capture.milliseconds (clock.ticks - clock₀.ticks) with
    | error e =>
      rw [elapsed] at shown
      cases shown
    | ok ms =>
      rw [elapsed] at shown
      cases shown
      obtain ⟨filled, present⟩ := ms.fixed_ne_missing (by decide : 3 ≠ 0)
      have truthy : (Value.text (ms.fixed 3)).truthy = true := by simpa [Value.truthy] using filled
      rw [Value.fieldText, if_pos truthy]
      exact iff_of_false present Bool.false_ne_true.symm

/-- Both fields of the record of an attempt that are shown are missing exactly if the
server had taken no start message in some moments. -/
def ShowsWritten (format : CompiledFormat) (a : Attempt) (moments : List Moment) : Prop :=
  ∀ record : Record, a.rendered = some (.ok record.toValue) →
    ∀ name ∈ ["status", "response-time"], ∀ argument, format.Shows (.token name argument) →
      ∃ t, Table.get? record (fieldName name argument) = some t ∧
        (t = missing ↔ startWritten moments = false)

/-- The record of an attempt shows what the server had taken by then, if the records that the
layer makes are those of a format. -/
lemma exists_showsWritten {format : CompiledFormat} {tokens : Tokens}
    (entered : enter layer scope₀ clock₀ = .ok (x, result))
    (renders : ∀ view (record : Record),
      layer.render view = .ok record.toValue → format.render tokens view = .ok record)
    (status : tokens.lookup "status" = Tokens.builtIn.lookup "status")
    (time : tokens.lookup "response-time" = Tokens.builtIn.lookup "response-time")
    {moments : List Moment} (course : IsCourse [] moments)
    (codes : ∀ v ∈ staged moments, ∃ n : Int, n ≠ 0 ∧ v = .int n)
    {a : Attempt} (made : a ∈ (run layer x moments).attempts) :
    ∃ seen rest, moments = seen ++ rest ∧ AttemptsAfter layer seen ∧
      ShowsWritten format a seen := by
  obtain ⟨seen, rest, rfl, cut, scope, clock, rfl⟩ := exists_cut_of_attempt entered made
  refine ⟨seen, rest, rfl, cut, fun record rendered name isOne argument shows' => ?_⟩
  have before : IsCourse [] seen := course.of_append
  have beforeCodes (v : Value) (isIn : v ∈ staged seen) : ∃ n : Int, n ≠ 0 ∧ v = .int n := by
    refine codes v ?_
    rw [staged, List.filterMap_append]
    exact List.mem_append_left _ isIn
  obtain ⟨t, shown, found⟩ :=
    CompiledFormat.get?_of_shows shows' (renders _ _ (render_of_attempt rendered))
  refine ⟨t, found, ?_⟩
  rcases List.mem_pair.mp isOne with rfl | rfl
  · obtain ⟨v, isStatus, rfl⟩ :=
      (Entry.render_plain_eq_ok_iff (status.trans lookup_status)).mp shown
    exact fieldText_status_run entered before beforeCodes scope clock isStatus
  · obtain ⟨v, isTime, rfl⟩ :=
      (Entry.render_plain_eq_ok_iff (time.trans lookup_responseTime)).mp shown
    exact fieldText_responseTime_run entered scope clock isTime

/-- **Status and response time are missing together**: whatever start messages
were handed over, refused or repeated, and whatever has completed the exchange,
each of the two fields of a record shows missing data exactly if the server had
taken no start message when the record was made. In an immediate layer that is
always so. -/
theorem missing_iff_unwritten {format : CompiledFormat} {tokens : Tokens}
    (entered : enter layer scope₀ clock₀ = .ok (x, result))
    (renders : layer.render = (Renderer.compiled format).render tokens)
    (status : tokens.lookup "status" = Tokens.builtIn.lookup "status")
    (time : tokens.lookup "response-time" = Tokens.builtIn.lookup "response-time")
    {moments : List Moment} (course : IsCourse [] moments)
    (codes : ∀ v ∈ staged moments, ∃ n : Int, n ≠ 0 ∧ v = .int n)
    {a : Attempt} (made : a ∈ (run layer x moments).attempts) :
    ∃ seen rest, moments = seen ++ rest ∧ AttemptsAfter layer seen ∧
      ∀ record : Record, a.rendered = some (.ok record.toValue) →
        ∀ name ∈ ["status", "response-time"], ∀ argument,
          format.Shows (.token name argument) →
          ∃ t, Table.get? record (fieldName name argument) = some t ∧
            (t = missing ↔ startWritten seen = false) ∧ (layer.immediate = true → t = missing) := by
  have records (view : View) (record : Record) (isRecord : layer.render view = .ok record.toValue) :
      format.render tokens view = .ok record := Renderer.render_compiled (renders ▸ isRecord)
  obtain ⟨seen, rest, cut, after, written⟩ :=
    exists_showsWritten entered records status time course codes made
  refine ⟨seen, rest, cut, after, fun record rendered name isOne argument shows' => ?_⟩
  obtain ⟨t, found, gated⟩ := written record rendered name isOne argument shows'
  refine ⟨t, found, gated, fun mode => gated.mpr ?_⟩
  rcases after with ⟨-, rfl⟩ | ⟨other, -⟩
  · rfl
  · exact absurd (mode.symm.trans other) Bool.false_ne_true.symm

/-- A start message that is refused, another that is taken, and an application
that ends without a body. -/
theorem missing_iff_unwritten_second_start :
    let format := CompiledFormat.ofItems [":status", ":response-time"]
    let layer : Layer :=
      ⟨false, fun _ => .ok .null, (Renderer.compiled format).render Tokens.builtIn, "T"⟩
    let scope : Scope := [("type", "http")]
    let head (status : Int) : Message :=
      [("type", "http.response.start"), ("status", .int status)]
    let moments := [Happening.sending (head 500), .sending (head 200), .sent (head 200),
      .ended].map fun h => ((scope, { ticks := 1500000 }, h) : Moment)
    let record : Record := [("status", "200"), ("response_time", "1.500")]
    ∃ x result, enter layer scope {} = .ok (x, result) ∧ IsCourse [] moments ∧
      ∃ a ∈ (run layer x moments).attempts, a.rendered = some (.ok record.toValue) ∧
        ∃ seen rest, moments = seen ++ rest ∧ AttemptsAfter layer seen ∧
          ∃ t, Table.get? record "status" = some t ∧ (t = missing ↔ startWritten seen = false) := by
  intro format layer scope head moments record
  have entered : enter layer scope {} =
      .ok (start layer ⟨some 0, .whole 0, .null, ""⟩, .ok ()) := rfl
  have headTyped : (head 200).IsTyped := ⟨⟨_, rfl⟩, fun _ => ⟨⟨_, rfl⟩, [], rfl⟩⟩
  have course : IsCourse [] moments := ⟨List.mem_cons_self, headTyped, trivial⟩
  have handed : staged moments = [.int 500, .int 200] := by decide
  have codes : ∀ v ∈ staged moments, ∃ n : Int, n ≠ 0 ∧ v = .int n := by
    rw [handed]
    exact List.forall_mem_cons.mpr ⟨⟨500, by decide, rfl⟩,
      List.forall_mem_singleton.mpr ⟨200, by decide, rfl⟩⟩
  have rendered : (run layer (start layer ⟨some 0, .whole 0, .null, ""⟩) moments).attempts.map
      (·.rendered) = [some (.ok record.toValue)] := by
    decide +kernel
  obtain ⟨a, attempts, isRecord⟩ := List.map_eq_singleton_iff.mp rendered
  have made : a ∈ (run layer (start layer ⟨some 0, .whole 0, .null, ""⟩) moments).attempts :=
    attempts ▸ List.mem_singleton_self a
  obtain ⟨seen, rest, cut, after, shown⟩ :=
    missing_iff_unwritten entered rfl rfl rfl course codes made
  obtain ⟨t, found, gated, -⟩ := shown record isRecord "status" List.mem_cons_self none
    ⟨[], [.token "response-time" none], by decide, by decide⟩
  exact ⟨_, _, entered, course, a, made, isRecord, seen, rest, cut, after, t, found, gated⟩

end Exchange

end AccessLog
