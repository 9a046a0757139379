/-
Layers on a loop, after some turns.

The course of a well-formed exchange is one in which the server takes only what was handed
over to it (`World.isCourse_courseOfTurns`). Hence what holds of a layer in every such course
holds of each layer around the exchange, whatever layers there are besides:

* `World.exists_showsWritten_turns`: **status and response time** of its record are missing
  exactly if the server had taken no start message before the record was made;
* `World.exists_attendance_turns`: **who waits** for its completion after each turn, and that
  the status line is on the wire only after a status was staged.
-/
import AccessLog.Proofs.Exchange.Stacking
import AccessLog.Proofs.Exchange.Waiting

namespace AccessLog

namespace World

variable {layers : List Layer} {server : Server} {scope : Scope} {app : App} {number : Nat}
  {layer : Layer}

/-- A well-formed exchange has a course for its layers. -/
lemma Logged.isCourse (logged : Logged server scope app) (clock : Clock) (k : Nat) :
    Exchange.IsCourse [] (courseOfTurns k (starting [] [] {} clock server scope app)) :=
  isCourse_courseOfTurns (orderly_starting (List.forall_mem_nil _) logged.incoming logged.request
    logged.typed [] {} clock) k

/-- **Status and response time of each layer on a loop.** After any turns its attempt was made at
some point of the course of the exchange, and in its record each of the two fields shows missing
data exactly if the server had taken no start message up to this point. A layer never fails here:
if its format has no record for a view, say because the clock has run too far, it makes none. -/
theorem exists_showsWritten_turns {format : CompiledFormat} {tokens : Tokens}
    (steady : ∀ layer ∈ layers, layer.Steady) (logged : Logged server scope app)
    (known : layers[number]? = some layer)
    (renders : ∀ view (record : AccessLog.Record),
      layer.render view = .ok record.toValue → format.render tokens view = .ok record)
    (status : tokens.lookup "status" = Tokens.builtIn.lookup "status")
    (time : tokens.lookup "response-time" = Tokens.builtIn.lookup "response-time")
    (sinks : List Sink) (network : Network) (clock : Clock) (n : Nat) :
    let stack := starting layers sinks network clock server scope app
    let without := starting [] [] {} clock server scope app
    (∀ k, ∀ v ∈ Exchange.staged (courseOfTurns k without), ∃ m : Int, m ≠ 0 ∧ v = .int m) →
    ∀ a ∈ (stack.turns n).attemptsBy number, ∃ k seen rest,
      courseOfTurns k without = seen ++ rest ∧ Exchange.AttemptsAfter layer seen ∧
        Exchange.ShowsWritten format a seen := by
  intro stack without codes a made
  cases n with
  | zero => exact absurd made List.not_mem_nil
  | succ n =>
    obtain ⟨x₀, k, entered, -, here⟩ :=
      exists_alongside_turns steady logged known sinks network clock n
    rw [here.attempts] at made
    exact ⟨k + 1, Exchange.exists_showsWritten entered renders status time
      (logged.isCourse clock (k + 1)) (codes (k + 1)) made⟩

/-- An immediate layer around one that waits, both of which make no record if their format has
none: the record of the first is made before anything is on the wire, that of the second after
the status line. -/
example :
    let format := CompiledFormat.ofItems [":status", ":response-time"]
    let layer (immediate : Bool) : Layer := ⟨immediate, fun _ => .ok .null, fun view =>
      match format.render Tokens.builtIn view with
      | .ok record => .ok record.toValue
      | .error _ => .ok .null, "T"⟩
    let head : Message := [("type", "http.response.start"), ("status", .int 200)]
    let app : App := .elapse 1500000 (.send head fun result => .done result)
    let w := starting [layer true, layer false] [.recorder, .recorder] {} {} (Server.ofLists [] [])
      [("type", "http")] app
    (w.turns 1).seen.filterMap (fun
      | .attempted _ number a => some (number, a.rendered)
      | _ => none) =
      [(0, some (.ok (.dict [("status", "-"), ("response_time", "-")]))),
        (1, some (.ok (.dict [("status", "200"), ("response_time", "1.500")])))] := by
  decide +kernel

/-- **Who waits for each layer on a loop.** After any turns the exchange of a layer has the
attempts that are seen of it. Unless the layer is immediate, one waits for either completion
until the attempt, and nobody after it; and if the status line counts as sent, its status is the
last one that was staged in the course of the exchange. -/
theorem exists_attendance_turns (steady : ∀ layer ∈ layers, layer.Steady)
    (logged : Logged server scope app) (known : layers[number]? = some layer)
    (sinks : List Sink) (network : Network) (clock : Clock) (n : Nat) :
    let stack := starting layers sinks network clock server scope app
    let without := starting [] [] {} clock server scope app
    ∃ k c y, (stack.turns (n + 1)).bare = without.turns (k + 1) ∧
      (stack.turns (n + 1)).conversation? 0 = some c ∧ Stack.Has number layer y c.frames ∧
      y.attempts = (stack.turns (n + 1)).attemptsBy number ∧
      (layer.immediate = false → y.Attendance) ∧
      (y.response.reply.sent = true →
        (Exchange.staged (courseOfTurns (k + 1) without)).getLast? =
          some y.response.reply.status) := by
  intro stack without
  obtain ⟨x₀, k, entered, bare, here⟩ :=
    exists_alongside_turns steady logged known sinks network clock n
  obtain ⟨c, found, has⟩ := here.frame
  refine ⟨k, c, _, bare, found, has, here.attempts.symm, fun waits => ?_, fun sent => ?_⟩
  · exact (Exchange.awaited_run entered waits _).attendance
  · exact Exchange.staged_of_sent entered (logged.isCourse clock (k + 1)) sent

end World

end AccessLog
