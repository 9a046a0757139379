/-
The reply during an exchange, apart from who waits for it.

* `Exchange.Moment`: a happening with the scope and the clocks as they are then.
* `Reply.after`: what a happening makes of a reply: handing a start message over
  sets status and headers, the server's taking it marks them as sent, and its
  taking the final part marks the reply as finished.
* `Reply.afterAll`: the same for several moments.
* `Exchange.step_keeps`, `Exchange.reply_run`, `Exchange.capture_run`: the reply
  of an exchange changes in this way only, whatever the layer is and whether its
  attempt fails, and what was kept at the entry stays.
* `Exchange.run_append`: a run may be cut anywhere.
-/
import Mathlib.Tactic.Common
import AccessLog.Exchange.Layer

namespace AccessLog

/-! ### Replies -/

/-- Whether the server's taking a message completes the reply: it is the last
part of the body, or a file in its place. -/
def Message.isFinal (m : Message) : Bool :=
  match m.messageKind with
  | .ok .body => !m.moreBody
  | .ok .pathSend => true
  | _ => false

namespace Exchange

/-- A happening with the scope and the clocks as they are then. -/
abbrev Moment := Scope × Clock × Happening

end Exchange

namespace Reply

/-- What a happening makes of a reply. -/
def after (reply : Reply) : Exchange.Happening → Reply
  | .sending m => if m.messageKind = .ok .start then (reply.stage m).1 else reply
  | .sent m =>
    if m.messageKind = .ok .start then { reply with sent := true }
    else if m.isFinal then { reply with finished := true }
    else reply
  | .received _ => reply
  | .ended => reply

/-- What several moments make of a reply. -/
def afterAll (reply : Reply) (moments : List Exchange.Moment) : Reply :=
  moments.foldl (fun reply moment => reply.after moment.2.2) reply

@[simp] lemma afterAll_nil (reply : Reply) : reply.afterAll [] = reply := rfl

@[simp] lemma afterAll_cons (reply : Reply) (moment : Exchange.Moment)
    (rest : List Exchange.Moment) :
    reply.afterAll (moment :: rest) = (reply.after moment.2.2).afterAll rest := rfl

end Reply

/-! ### What an exchange keeps -/

/-- What every listener keeps, a delivery keeps. -/
lemma deliver_keeps {α σ ε β : Type} (call : α → σ → σ × Except ε Unit) (f : σ → β)
    (keeps : ∀ a state, f (call a state).1 = f state) (listeners : List α) (state : σ) :
    f (deliver call listeners state).1 = f state := by
  induction listeners generalizing state with
  | nil => rfl
  | cons a rest ih =>
    have here := keeps a state
    rw [deliver]
    split
    · next next _ h => rw [ih, ← here, h]
    · next next _ h => rw [← here, h]

namespace Exchange

variable (layer : Layer) (scope : Scope) (clock : Clock)

/-- The answer to a completion signal leaves the reply alone. -/
lemma complete_keeps (x : Exchange) :
    (complete layer scope clock x).1.response.reply = x.response.reply ∧
      (complete layer scope clock x).1.capture = x.capture := by
  rw [complete]
  split <;> exact ⟨rfl, rfl⟩

/-- A completion signal leaves the reply alone. -/
lemma signal_keeps (s : Signal) (x : Exchange) :
    (signal layer scope clock s x).1.response.reply = x.response.reply ∧
      (signal layer scope clock s x).1.capture = x.capture := by
  have kept := deliver_keeps (fun _ : Recorder => complete layer scope clock)
    (fun x : Exchange => (x.response.reply, x.capture))
    (fun _ x => Prod.ext (complete_keeps layer scope clock x).1 (complete_keeps layer scope clock x).2)
    (x.response.listeners.of s) x
  exact Prod.mk.inj kept

/-- The final part marks the reply as finished and does no more to it. -/
lemma finish_keeps (x : Exchange) :
    (finish layer scope clock x).1.response.reply = { x.response.reply with finished := true } ∧
      (finish layer scope clock x).1.capture = x.capture :=
  signal_keeps layer scope clock .finish _

/-- The end of the application leaves the reply alone. -/
lemma ended_keeps (x : Exchange) :
    (ended layer scope clock x).1.response.reply = x.response.reply ∧
      (ended layer scope clock x).1.capture = x.capture := by
  rw [ended]
  by_cases done : x.response.reply.finished
  · simp only [done, if_true]
    exact ⟨rfl, rfl⟩
  · have kept := signal_keeps layer scope clock .close x
    simp only [done, Bool.false_eq_true, if_false]
    split
    · exact kept
    · exact kept

/-- A happening changes the reply in the same way in every layer, and nothing
of what was kept at the entry. -/
lemma step_keeps (x : Exchange) (h : Happening) :
    (step layer scope clock x h).1.response.reply = x.response.reply.after h ∧
      (step layer scope clock x h).1.capture = x.capture := by
  cases h with
  | sending m =>
    rw [step, sending, Reply.after]
    cases kind : m.messageKind with
    | error e => exact ⟨rfl, rfl⟩
    | ok k => cases k <;> exact ⟨rfl, rfl⟩
  | sent m =>
    rw [step, sent, Reply.after, Message.isFinal]
    cases kind : m.messageKind with
    | error e => exact ⟨rfl, rfl⟩
    | ok k =>
      have final := finish_keeps layer scope clock x
      cases k with
      | start => exact ⟨rfl, rfl⟩
      | body =>
        by_cases more : m.moreBody
        · simp [more]
        · simpa [more] using final
      | pathSend => simpa using final
      | disconnect => exact ⟨rfl, rfl⟩
      | other => exact ⟨rfl, rfl⟩
  | received m =>
    rw [step, received, Reply.after]
    split
    · exact signal_keeps layer scope clock .close x
    · exact ⟨rfl, rfl⟩
    · exact ⟨rfl, rfl⟩
  | ended => exact ended_keeps layer scope clock x

/-- A run may be cut anywhere. -/
lemma run_append (x : Exchange) (first second : List Moment) :
    run layer x (first ++ second) = run layer (run layer x first) second := by
  induction first generalizing x with
  | nil => rfl
  | cons moment rest ih => exact ih _

/-- The reply after a run is the same in every layer. -/
theorem reply_run (x : Exchange) (moments : List Moment) :
    (run layer x moments).response.reply = x.response.reply.afterAll moments := by
  induction moments generalizing x with
  | nil => rfl
  | cons moment rest ih =>
    rw [run, ih, (step_keeps layer _ _ x _).1]
    rfl

/-- What was kept at the entry stays. -/
theorem capture_run (x : Exchange) (moments : List Moment) :
    (run layer x moments).capture = x.capture := by
  induction moments generalizing x with
  | nil => rfl
  | cons moment rest ih => rw [run, ih, (step_keeps layer _ _ x _).2]

end Exchange

end AccessLog
