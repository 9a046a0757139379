/-
The status that is reported of an exchange.

* `Exchange.staged`, `Exchange.written`: the statuses of the start messages that
  were handed over, and of those that the server has taken.
* `Exchange.startWritten`: whether it has taken any start message.
* `Reply.sent_afterAll`, `Reply.status_afterAll`: what a run makes of the two
  fields that the status is read from.
* `Exchange.status_run`: the status reported is the last one handed over, as
  soon as any start message was taken.
* `Exchange.status_written_iff`: **the status reported was written** exactly if
  the last one handed over was, which a server can prevent by refusing a second
  start message.
-/
import AccessLog.Proofs.Exchange.Completion
import AccessLog.Token.BuiltIn

namespace AccessLog

/-- The status of a start message. -/
def Message.startStatus? (m : Message) : Option Value :=
  if m.messageKind = .ok .start then m.get? "status" else none

namespace Exchange

/-! ### What was handed over and what was taken -/

/-- The status that a happening hands over to the server. -/
def Happening.staged? : Happening → Option Value
  | .sending m => m.startStatus?
  | _ => none

/-- The status that the server has taken in a happening. -/
def Happening.written? : Happening → Option Value
  | .sent m => m.startStatus?
  | _ => none

/-- The server has taken a start message. -/
def Happening.writesStart : Happening → Bool
  | .sent m => m.messageKind = .ok .start
  | _ => false

/-- The statuses handed over to the server, in order. -/
def staged (moments : List Moment) : List Value :=
  moments.filterMap fun moment => moment.2.2.staged?

/-- The statuses that the server has taken, in order. -/
def written (moments : List Moment) : List Value :=
  moments.filterMap fun moment => moment.2.2.written?

/-- The server has taken some start message. -/
def startWritten (moments : List Moment) : Bool :=
  moments.any fun moment => moment.2.2.writesStart

/-- The last status handed over was written too, unless nothing was. -/
def LastStatusWritten (moments : List Moment) : Prop :=
  startWritten moments = true →
    ∀ status, (staged moments).getLast? = some status → status ≠ .null → status ∈ written moments

end Exchange

/-! ### The two fields of a reply -/

namespace Reply

open Exchange

/-- The status line counts as sent once a start message was taken. -/
lemma sent_after (reply : Reply) (h : Happening) :
    (reply.after h).sent = (reply.sent || h.writesStart) := by
  cases h with
  | sending m =>
    have unwritten : (Happening.sending m).writesStart = false := rfl
    rw [after, unwritten, Bool.or_false]
    split
    · rw [stage]
      split
      · rfl
      · split <;> rfl
    · rfl
  | sent m =>
    rw [after, Happening.writesStart]
    split
    · next start => simp [start]
    · next other => split <;> simp [other]
  | received m => simp [after, Happening.writesStart]
  | ended => simp [after, Happening.writesStart]

/-- The status is the one handed over last. -/
lemma status_after (reply : Reply) (h : Happening) :
    (reply.after h).status = h.staged?.getD reply.status := by
  cases h with
  | sending m =>
    rw [after, Happening.staged?, Message.startStatus?]
    split
    · rw [stage]
      split
      · next absent => simp [absent]
      · next present => split <;> simp [present]
    · rfl
  | sent m =>
    have unstaged : (Happening.sent m).staged? = none := rfl
    rw [after, unstaged]
    split
    · rfl
    · split <;> rfl
  | received m => rfl
  | ended => rfl

lemma sent_afterAll (reply : Reply) (moments : List Exchange.Moment) :
    (reply.afterAll moments).sent = (reply.sent || startWritten moments) := by
  induction moments generalizing reply with
  | nil => simp [startWritten]
  | cons moment rest ih =>
    rw [afterAll_cons, ih, sent_after, Bool.or_assoc]
    rfl

lemma status_afterAll (reply : Reply) (moments : List Exchange.Moment) :
    (reply.afterAll moments).status = (staged moments).getLast?.getD reply.status := by
  induction moments generalizing reply with
  | nil => rfl
  | cons moment rest ih =>
    rw [afterAll_cons, ih, status_after, staged, staged, List.filterMap_cons]
    cases moment.2.2.staged? with
    | none => rfl
    | some status => simp [List.getLast?_cons]

end Reply

/-! ### The status reported -/

namespace Exchange

variable {layer : Layer} {scope₀ : Scope} {clock₀ : Clock} {x : Exchange}
  {result : Except Failure Unit}

/-- The status reported is the last one handed over, as soon as the server has
taken any start message. -/
theorem status_run (entered : enter layer scope₀ clock₀ = .ok (x, result))
    (moments : List Moment) (scope : Scope) (clock : Clock) :
    Token.status ((run layer x moments).view scope clock) =
      .ok (if startWritten moments then (staged moments).getLast?.getD .null else .null) := by
  have reply : (run layer x moments).response.reply = Reply.afterAll {} moments := by
    rw [reply_run, reply_enter entered]
  rw [Token.status, view, reply, Reply.sent_afterAll, Reply.status_afterAll]
  rfl

/-- **The status reported was written** exactly if the last one handed over was:
whatever is asked during an exchange, the status token names a status that the
server has taken, unless a later start message was handed over and refused. The
record of the exchange is made from such a view. -/
theorem status_written_iff (entered : enter layer scope₀ clock₀ = .ok (x, result))
    (moments : List Moment) :
    (∀ scope clock, (∀ status,
        Token.status ((run layer x moments).view scope clock) = .ok status →
          status ≠ .null → status ∈ written moments) ↔ LastStatusWritten moments) ∧
      ∀ a ∈ (run layer x moments).attempts, ∃ seen rest scope clock, moments = seen ++ rest ∧
        a.view = (run layer x seen).view scope clock ∧
        ((∀ status, Token.status a.view = .ok status →
          status ≠ .null → status ∈ written seen) ↔ LastStatusWritten seen) := by
  have shown (moments : List Moment) (scope : Scope) (clock : Clock) :
      (∀ status, Token.status ((run layer x moments).view scope clock) = .ok status →
        status ≠ .null → status ∈ written moments) ↔ LastStatusWritten moments := by
    rw [status_run entered, LastStatusWritten]
    constructor
    · intro reported started status last there
      exact reported status (by rw [started, last]; rfl) there
    · intro last status reported there
      rw [Except.ok.injEq] at reported
      cases started : startWritten moments with
      | false => exact absurd (by simpa [started] using reported.symm) there
      | true =>
        cases found : (staged moments).getLast? with
        | none => exact absurd (by simpa [started, found] using reported.symm) there
        | some given =>
          have same : given = status := by simpa [started, found] using reported
          exact last started status (found.trans (congrArg some same)) there
  refine ⟨shown moments, fun a made => ?_⟩
  obtain ⟨seen, rest, cut, scope, clock, rfl⟩ := exists_view_of_attempt entered made
  have sees : (layer.attempt ((run layer x seen).view scope clock)).view =
      (run layer x seen).view scope clock := by
    rw [Layer.attempt]
    split <;> rfl
  refine ⟨seen, rest, scope, clock, cut, sees, ?_⟩
  rw [sees]
  exact shown seen scope clock

/-- Two start messages, and the server takes both. -/
theorem status_written_iff_one_start :
    let layer : Layer := ⟨false, fun _ => .ok .null, Token.status, "T"⟩
    let scope : Scope := [("type", "http")]
    let head (status : Int) : Message :=
      [("type", "http.response.start"), ("status", .int status)]
    let moments := [Happening.sending (head 200), .sent (head 200), .sending (head 204),
      .sent (head 204)].map fun h => ((scope, {}, h) : Moment)
    ∃ x result, enter layer scope {} = .ok (x, result) ∧ LastStatusWritten moments ∧
      ∀ status, Token.status ((run layer x moments).view scope {}) = .ok status →
        status ≠ .null → status ∈ written moments := by
  intro layer scope head moments
  have typed : scope.IsTyped := ⟨.inl rfl, [], rfl⟩
  obtain ⟨capture, taken⟩ := typed.exists_capture {}
  have entered : enter layer scope {} = .ok (start layer capture, .ok ()) :=
    enter_waiting taken rfl
  have last : LastStatusWritten moments := by
    intro _ status last there
    have same : staged moments = [.int 200, .int 204] := by decide
    rw [same] at last
    cases last
    decide
  exact ⟨_, _, entered, last, ((status_written_iff entered moments).1 scope {}).mpr last⟩

/-- A server that takes one start message and refuses the next: the record of
the exchange has the status that was refused. -/
theorem status_of_refused_start :
    let layer : Layer := ⟨false, fun _ => .ok .null, Token.status, "T"⟩
    let scope : Scope := [("type", "http")]
    let head (status : Int) : Message :=
      [("type", "http.response.start"), ("status", .int status)]
    let body : Message := [("type", "http.response.body")]
    let moments := [Happening.sending (head 200), .sent (head 200), .sending (head 500),
      .sending body, .sent body, .ended].map fun h => ((scope, {}, h) : Moment)
    ∃ x, enter layer scope {} = .ok (x, .ok ()) ∧
      (run layer x moments).attempts.map (fun a => Token.status a.view) = [.ok (.int 500)] ∧
      (run layer x moments).attempts.map Attempt.record? = [some (.int 500)] ∧
      written moments = [.int 200] :=
  ⟨_, rfl, by decide, by decide, by decide⟩

end Exchange

end AccessLog
