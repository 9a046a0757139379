/-
Several exchanges from their start to their end.

* `Plan`: an application with its server and its scope.
* `World.playInTurn`: one exchange after the other.
* `World.playTogether`: exchanges side by side, each up to its next pause.
* `World.flush`: all that waits is done.
-/
import AccessLog.Exchange.Loop

namespace AccessLog

/-- An exchange to come. -/
structure Plan where
  scope : Scope
  incoming : List Message := []
  refusals : List (Int × Failure) := []
  app : App
  /-- How often the application lets others run at most. -/
  pauses : Nat := 0

/-- The conversation of a plan before it starts. -/
def Plan.conversation (p : Plan) : Conversation where
  server := .ofLists p.incoming p.refusals
  scope := p.scope

namespace Job

/-- The job belongs to an application. -/
def isTask : Job → Bool
  | start _ _ => true
  | resume _ _ => true
  | emit _ _ _ => false

end Job

namespace World

/-- Enough turns for all jobs of some plans: one for each start, one for each
pause, and one for each event. -/
def enough (w : World) (plans : List Plan) : Nat :=
  plans.foldr (fun p n => 1 + p.pauses + w.layers.length + n) 0

/-- Turns up to the point where no application is left in the queue. -/
def settle : Nat → World → World
  | 0, w => w
  | n + 1, w => if w.queue.any Job.isTask then settle n w.turn else w

/-- All that waits is done. -/
def flush (w : World) : World :=
  let w := w.see .flushed
  w.turns w.queue.length

/-- One exchange after the other; what waits in between is done after each
exchange, or only at the end. -/
def playFrom (flushing : Bool) (fuel : Nat) (w : World) : List (Plan × Nat) → World
  | [] => w
  | (p, i) :: rest =>
    let w := { w with queue := .start i p.app :: w.queue }
    let w := settle fuel w
    playFrom flushing fuel (if flushing then w.flush else w) rest

/-- Exchanges one after the other. -/
def playInTurn (w : World) (flushing : Bool) (plans : List Plan) : World :=
  let w := { w with conversations := plans.map Plan.conversation }
  (playFrom flushing (w.enough plans) w plans.zipIdx).flush

/-- Exchanges side by side, each up to its next pause. -/
def playTogether (w : World) (plans : List Plan) : World :=
  let w := { w with
    conversations := plans.map Plan.conversation
    queue := plans.zipIdx.map fun ((p, i) : Plan × Nat) => Job.start i p.app }
  (w.turns (w.enough plans)).flush

end World

end AccessLog
