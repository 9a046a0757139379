/-
Layers around one another.

* `Frame`: a layer during an exchange. A stack lists its frames from the
  innermost to the outermost.
* `Stack.outward`, `Stack.inward`: an act of each layer on the way to the
  server or back; the first failure ends the way.
* `Stack.enter`: the layers take up a request, from the outermost to the
  innermost.
* `Stack.unwind`: the layers are done, from the innermost to the outermost; a
  failure in one of them takes the place of the outcome so far.
-/
import AccessLog.Exchange.Context
import AccessLog.Exchange.Layer

namespace AccessLog

/-- A layer during an exchange. -/
structure Frame where
  /-- The number of the layer, from the outermost. -/
  number : Nat
  layer : Layer
  exchange : Exchange
  /-- The context at the entry of the layer. -/
  before : Context

/-- An attempt of a numbered layer, with the context in which it was made. -/
structure Noted where
  number : Nat
  eventType : Text
  attempt : Attempt
  context : Context

namespace Frame

/-- The frame after an act, with the attempts made in it. -/
def act (f : Frame) (context : Context) (g : Exchange → Exchange × Except Failure Unit) :
    Frame × List Noted × Except Failure Unit :=
  let (x, result) := g f.exchange
  let made := x.attempts.drop f.exchange.attempts.length
  ({ f with exchange := x },
    made.map fun a => ⟨f.number, f.layer.eventType, a, context⟩, result)

end Frame

namespace Stack

/-- An act of each layer, from the innermost to the outermost. -/
def outward (context : Context)
    (g : Layer → Exchange → Exchange × Except Failure Unit) :
    List Frame → List Frame × List Noted × Except Failure Unit
  | [] => ([], [], .ok ())
  | f :: outer =>
    match f.act context (g f.layer) with
    | (f, notes, .error e) => (f :: outer, notes, .error e)
    | (f, notes, .ok ()) =>
      let (outer, more, result) := outward context g outer
      (f :: outer, notes ++ more, result)

/-- An act of each layer, from the outermost to the innermost. -/
def inward (context : Context)
    (g : Layer → Exchange → Exchange × Except Failure Unit) :
    List Frame → List Frame × List Noted × Except Failure Unit
  | [] => ([], [], .ok ())
  | f :: outer =>
    match inward context g outer with
    | (outer, notes, .error e) => (f :: outer, notes, .error e)
    | (outer, notes, .ok ()) =>
      let (f, more, result) := f.act context (g f.layer)
      (f :: outer, notes ++ more, result)

/-- The layers are done, from the innermost to the outermost. -/
def unwind (scope : Scope) (clock : Clock) (context : Context)
    (outcome : Except Failure Unit) :
    List Frame → List Frame × List Noted × Except Failure Unit × Context
  | [] => ([], [], outcome, context)
  | f :: outer =>
    let (f, notes, result) := f.act context (Exchange.ended f.layer scope clock)
    let outcome := match result with
      | .ok () => outcome
      | .error e => .error e
    let (outer, more, outcome, context) :=
      unwind scope clock (context.leave f.before) outcome outer
    (f :: outer, notes ++ more, outcome, context)

/-- What came of the entry: the frames, the attempts, the context, and how it
ended. If it failed, the frame of the layer that failed is kept apart, since
that layer is done already. -/
structure Entry where
  frames : List Frame
  failed : List Frame := []
  notes : List Noted
  context : Context
  result : Except Failure Unit

/-- The layers take up a request, one inside the other. -/
def enter (scope : Scope) (clock : Clock) (frames : List Frame) (notes : List Noted)
    (context : Context) : (layers : List (Nat × Layer)) → Entry
  | [] => { frames, notes, context, result := .ok () }
  | (number, layer) :: inner =>
    let inside := context.enter scope
    match Exchange.enter layer scope clock with
    | .error e => { frames, notes, context := inside.leave context, result := .error e }
    | .ok (x, result) =>
      let f : Frame := ⟨number, layer, x, context⟩
      let notes := notes ++ x.attempts.map fun a => ⟨number, layer.eventType, a, inside⟩
      match result with
      | .error e =>
        { frames, failed := [f], notes, context := inside.leave context, result := .error e }
      | .ok () => enter scope clock (f :: frames) notes inside inner

end Stack

end AccessLog
