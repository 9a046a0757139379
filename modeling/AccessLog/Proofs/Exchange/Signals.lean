/-
Signals and those who hear them.

* `Listeners.Change`, `Listeners.changeAll`: what can be done with those who wait.
* `Listeners.of_set`, `Listeners.remove_cases`: one list changes at a time, and a removal takes
  the first registration away, or nothing.
* `waiting_deliver`: a delivery leaves the lists that the changes of those called leave.
* `Audience`: listeners with what each of them does when it is called.
* `Audience.Calls`: calls one after the other, each in the state that the one before has left.
* `Audience.Heard`: all of some listeners are called in order, up to the first that fails.
* `Audience.heard_at_signal`: **a signal is heard by those who waited when it was given**,
  whoever is added, removed or cleared meanwhile.
* `Exchange.audience`, `Session.audience`: the listeners of a layer, and listeners that follow
  scripts, in which further signals may be given.
-/
import Mathlib.Tactic.Common
import AccessLog.Exchange.Layer
import AccessLog.Simulation.Inspection

namespace AccessLog

/-! ### Changes of who waits -/

namespace Listeners

/-- What can be done with those who wait. -/
inductive Change (α : Type) where
  | on (s : Signal) (a : α)
  | remove (s : Signal) (a : α)
  | clear
deriving DecidableEq

section Set

variable {α : Type}

/-- The list of one signal changes alone. -/
lemma of_set (l : Listeners α) (s other : Signal) (waiting : List α) :
    (l.set s waiting).of other = if other = s then waiting else l.of other := by
  cases s <;> cases other <;> rfl

lemma set_of (l : Listeners α) (s : Signal) : l.set s (l.of s) = l := by
  cases s <;> rfl

end Set

variable {α : Type} [DecidableEq α]

/-- One change of who waits. -/
def change (l : Listeners α) : Change α → Listeners α
  | .on s a => l.on s a
  | .remove s a => l.remove s a
  | .clear => l.clear

/-- Changes one after the other. -/
def changeAll (l : Listeners α) (changes : List (Change α)) : Listeners α :=
  changes.foldl change l

lemma changeAll_append (l : Listeners α) (first second : List (Change α)) :
    l.changeAll (first ++ second) = (l.changeAll first).changeAll second :=
  List.foldl_append

/-- A removal takes the first registration away, or nothing if there is none. -/
lemma remove_cases (l : Listeners α) (s : Signal) (a : α) :
    (a ∉ l.of s ∧ l.remove s a = l) ∨
      ∃ before after, a ∉ before ∧ l.of s = before ++ a :: after ∧
        l.remove s a = l.set s (before ++ after) := by
  by_cases waits : a ∈ l.of s
  · obtain ⟨before, after, first, cut, rest⟩ := List.exists_erase_eq waits
    exact .inr ⟨before, after, first, cut, by rw [remove, rest]⟩
  · refine .inl ⟨waits, ?_⟩
    rw [remove, List.erase_of_not_mem waits, set_of]

end Listeners

/-! ### Listeners that are called -/

/-- Listeners with what each of them does when it is called: it may look at the whole state,
change who waits, and fail. -/
structure Audience (σ α ε : Type) [DecidableEq α] where
  /-- A listener is called. -/
  call : α → σ → σ × Except ε Unit
  /-- Who waits for each signal. -/
  waiting : σ → Listeners α
  /-- What a listener does with those who wait. -/
  changes : α → σ → List (Listeners.Change α)
  /-- It does nothing else with them. -/
  waiting_call : ∀ a state, waiting (call a state).1 = (waiting state).changeAll (changes a state)

section Delivered

variable {τ σ α ε : Type} (call : τ → σ → σ × Except ε Unit)

/-- What those who are called do with those who wait, up to the first that fails. -/
def deliveredChanges (changes : τ → σ → List (Listeners.Change α)) :
    List τ → σ → List (Listeners.Change α)
  | [], _ => []
  | a :: rest, state =>
    changes a state ++
      if (call a state).2.isOk then deliveredChanges changes rest (call a state).1 else []

variable [DecidableEq α] (waiting : σ → Listeners α)

/-- A delivery does with those who wait what each of those who are called does with them. -/
lemma waiting_deliver {changes : τ → σ → List (Listeners.Change α)}
    (made : ∀ a state, waiting (call a state).1 = (waiting state).changeAll (changes a state))
    (callees : List τ) (state : σ) :
    waiting (deliver call callees state).1 =
      (waiting state).changeAll (deliveredChanges call changes callees state) := by
  induction callees generalizing state with
  | nil => rfl
  | cons a rest ih =>
    have here := made a state
    rw [deliveredChanges, Listeners.changeAll_append, ← here]
    cases result : call a state with
    | mk next outcome =>
      cases outcome with
      | ok done =>
        rw [deliver, result]
        exact ih next
      | error e =>
        rw [deliver, result]
        rfl

end Delivered

namespace Audience

/-- One call of a listener: what it does with those who wait, and how it ends. -/
structure Call (α ε : Type) where
  listener : α
  changes : List (Listeners.Change α)
  result : Except ε Unit

section

variable {α ε : Type}

/-- All of some listeners are called in order, once for each registration; if one fails, it is
the last that is called, and its failure is what comes of the signal. -/
def Heard (listeners : List α) (made : List (Call α ε)) (result : Except ε Unit) : Prop :=
  (made.map (·.listener) = listeners ∧ (∀ call ∈ made, call.result = .ok ()) ∧ result = .ok ()) ∨
    ∃ before last others e, made = before ++ [last] ∧
      listeners = made.map (·.listener) ++ others ∧ (∀ call ∈ before, call.result = .ok ()) ∧
      last.result = .error e ∧ result = .error e

/-- One more listener in front that does not fail. -/
lemma Heard.cons {listeners : List α} {made : List (Call α ε)} {result : Except ε Unit}
    (heard : Heard listeners made result) {call : Call α ε} (went : call.result = .ok ()) :
    Heard (call.listener :: listeners) (call :: made) result := by
  rcases heard with ⟨all, fine, ok⟩ | ⟨before, last, others, e, rfl, cut, fine, failed, same⟩
  · exact .inl ⟨congrArg _ all, List.forall_mem_cons.mpr ⟨went, fine⟩, ok⟩
  · refine .inr ⟨call :: before, last, others, e, rfl, ?_,
      List.forall_mem_cons.mpr ⟨went, fine⟩, failed, same⟩
    rw [cut]
    rfl

end

variable {σ α ε : Type} [DecidableEq α] (h : Audience σ α ε)

/-- Calls one after the other, from one state to another. -/
inductive Calls : σ → List (Call α ε) → σ → Prop
  | none {state : σ} : Calls state [] state
  | next {a : α} {state last : σ} {made : List (Call α ε)}
      (others : Calls (h.call a state).1 made last) :
      Calls state (⟨a, h.changes a state, (h.call a state).2⟩ :: made) last

/-- A signal in a state: all who wait for it then are called. -/
def signal (s : Signal) (state : σ) : σ × Except ε Unit :=
  deliver h.call ((h.waiting state).of s) state

variable {h}

/-- Those who wait in the end are those whom the calls have left, in their order. -/
lemma Calls.waiting_eq {state last : σ} {made : List (Call α ε)} (calls : h.Calls state made last) :
    h.waiting last = (h.waiting state).changeAll (made.flatMap (·.changes)) := by
  induction calls with
  | none => rfl
  | @next a state last made others ih =>
    calc h.waiting last
        = (h.waiting (h.call a state).1).changeAll (made.flatMap (·.changes)) := ih
      _ = ((h.waiting state).changeAll (h.changes a state)).changeAll
            (made.flatMap (·.changes)) := by rw [h.waiting_call]
      _ = _ := by rw [← Listeners.changeAll_append]; rfl

/-- A delivery to some listeners consists of calls of them. -/
lemma exists_calls_deliver (listeners : List α) (state : σ) :
    ∃ made, h.Calls state made (deliver h.call listeners state).1 ∧
      Heard listeners made (deliver h.call listeners state).2 := by
  induction listeners generalizing state with
  | nil => exact ⟨[], .none, .inl ⟨rfl, List.forall_mem_nil _, rfl⟩⟩
  | cons a rest ih =>
    cases called : h.call a state with
    | mk next result =>
      have state₁ : (h.call a state).1 = next := congrArg Prod.fst called
      have result₁ : (h.call a state).2 = result := congrArg Prod.snd called
      cases result with
      | ok done =>
        obtain ⟨made, calls, heard⟩ := ih next
        have delivered : deliver h.call (a :: rest) state = deliver h.call rest next := by
          rw [deliver, called]
        rw [delivered]
        exact ⟨_, .next (state₁ ▸ calls), heard.cons result₁⟩
      | error e =>
        have delivered : deliver h.call (a :: rest) state = (next, .error e) := by
          rw [deliver, called]
        rw [delivered]
        refine ⟨[⟨a, h.changes a state, (h.call a state).2⟩], .next (state₁ ▸ .none), ?_⟩
        exact .inr ⟨[], _, rest, e, rfl, rfl, List.forall_mem_nil _, result₁, rfl⟩

variable (h)

/-- **A signal is heard by those who waited when it was given.** Whoever waits, and whatever
the listeners do when they are called:

* those who waited for the signal are called in the order of registration, once for each
  registration, also if they have been removed meanwhile, and nobody else is; only a failure
  ends this, and it is passed on;
* afterwards wait those whom the changes that the called listeners have made leave, one after
  the other;
* a registration is put behind those for the same signal; a removal takes the first registration
  for its signal away, or nothing; neither touches the other signal, and clearing leaves nobody. -/
theorem heard_at_signal (s : Signal) (state : σ) :
    (∃ made, h.Calls state made (h.signal s state).1 ∧
        Heard ((h.waiting state).of s) made (h.signal s state).2 ∧
        h.waiting (h.signal s state).1 =
          (h.waiting state).changeAll (made.flatMap (·.changes))) ∧
      ∀ (l : Listeners α) (t : Signal) (a : α),
        (l.on t a).of t = l.of t ++ [a] ∧ l.clear.of t = [] ∧
        (∀ other, other ≠ t → (l.on t a).of other = l.of other ∧
          (l.remove t a).of other = l.of other) ∧
        ((a ∉ l.of t ∧ (l.remove t a).of t = l.of t) ∨
          ∃ before after, a ∉ before ∧ l.of t = before ++ a :: after ∧
            (l.remove t a).of t = before ++ after) := by
  refine ⟨?_, fun l t a => ⟨l.of_on_self t a, l.of_clear t, fun other apart => ?_, ?_⟩⟩
  · obtain ⟨made, calls, heard⟩ := exists_calls_deliver (h := h) ((h.waiting state).of s) state
    exact ⟨made, calls, heard, calls.waiting_eq⟩
  · rw [Listeners.on, Listeners.remove, Listeners.of_set, Listeners.of_set, if_neg apart]
    exact ⟨rfl, if_neg apart⟩
  · rcases l.remove_cases t a with ⟨absent, same⟩ | ⟨before, after, first, cut, rest⟩
    · exact .inl ⟨absent, by rw [same]⟩
    · exact .inr ⟨before, after, first, cut, by rw [rest, Listeners.of_set_self]⟩

end Audience

/-! ### The listeners of a layer -/

namespace Exchange

variable (layer : Layer) (scope : Scope) (clock : Clock)

/-- The listener of a layer takes itself back for both signals, whatever comes of the record. -/
def audience : Audience Exchange Recorder Failure where
  call _ := complete layer scope clock
  waiting x := x.response.listeners
  changes _ _ := [.remove .finish .recorder, .remove .close .recorder]
  waiting_call _ x := by
    rw [complete]
    split <;> rfl

lemma signal_eq_audience (s : Signal) (x : Exchange) :
    signal layer scope clock s x = (audience layer scope clock).signal s x := rfl

end Exchange

/-! ### Listeners that follow scripts -/

/-- What a step that calls no listener does with those who wait; a name of no signal fails. -/
def Step.changes : Step → List (Listeners.Change Text)
  | .on given name => ((Signal.ofValue given).toOption.map fun s => .on s name).toList
  | .remove given name => ((Signal.ofValue given).toOption.map fun s => .remove s name).toList
  | .removeAll => [.clear]
  | _ => []

namespace Session

variable (scripts : Table (List Step))

/-- A step of a script, without what it shows. -/
def follow (fuel : Nat) (step : Step) (s : Session) : Session × Except Failure Unit :=
  ((perform scripts fuel s step).1, (perform scripts fuel s step).2.map fun _ => ())

/-- A listener is called under its name and follows its script. -/
def called (fuel : Nat) (name : Text) (s : Session) : Session × Except Failure Unit :=
  deliver (follow scripts fuel) ((scripts.get? name).getD [])
    { s with calls := s.calls ++ [name] }

/-- What a listener does with those who wait, when this is known of each step. -/
def calledChanges (fuel : Nat) (changes : Step → Session → List (Listeners.Change Text))
    (name : Text) (s : Session) : List (Listeners.Change Text) :=
  deliveredChanges (follow scripts fuel) changes ((scripts.get? name).getD [])
    { s with calls := s.calls ++ [name] }

/-- What a step does with those who wait, the listeners that it calls included. -/
def performedChanges : Nat → Step → Session → List (Listeners.Change Text)
  | fuel + 1, .signal given, s =>
    match Signal.ofValue given with
    | .error _ => []
    | .ok g =>
      deliveredChanges (called scripts fuel) (calledChanges scripts fuel (performedChanges fuel))
        (s.listeners.of g) s
  | _, step, _ => step.changes

/-- A step that calls no listener does this with those who wait. -/
lemma listeners_simple (s : Session) (step : Step) :
    (s.simple step).1.listeners = s.listeners.changeAll step.changes := by
  cases step with
  | on given name =>
    rw [simple, withSignal, Step.changes]
    cases Signal.ofValue given <;> rfl
  | remove given name =>
    rw [simple, withSignal, Step.changes]
    cases Signal.ofValue given <;> rfl
  | capture =>
    rw [simple]
    split <;> rfl
  | mark ticks =>
    rw [simple, withCapture]
    split <;> rfl
  | render option =>
    rw [simple]
    split <;> rfl
  | _ => rfl

/-- A signal is delivered to the names that wait for it. -/
lemma perform_signal (fuel : Nat) {given : Value} {g : Signal}
    (known : Signal.ofValue given = .ok g) (s : Session) :
    perform scripts (fuel + 1) s (.signal given) =
      ((deliver (called scripts fuel) (s.listeners.of g) s).1,
        (deliver (called scripts fuel) (s.listeners.of g) s).2.map fun _ => .value .null) := by
  rw [perform, known]
  rfl

/-- A listener does with those who wait what the steps of its script do. -/
lemma listeners_called {fuel : Nat} {changes : Step → Session → List (Listeners.Change Text)}
    (made : ∀ step s,
      (perform scripts fuel s step).1.listeners = s.listeners.changeAll (changes step s))
    (name : Text) (s : Session) :
    (called scripts fuel name s).1.listeners =
      s.listeners.changeAll (calledChanges scripts fuel changes name s) :=
  waiting_deliver (follow scripts fuel) Session.listeners made _ _

/-- Every step does with those who wait what is said of it. -/
lemma listeners_perform (fuel : Nat) (step : Step) (s : Session) :
    (perform scripts fuel s step).1.listeners =
      s.listeners.changeAll (performedChanges scripts fuel step s) := by
  -- by the depth of signals: the scripts of those who are called go one level down
  induction fuel generalizing step s with
  | zero => exact (listeners_simple s step).trans (by cases step <;> rfl)
  | succ fuel ih =>
    cases step with
    | signal given =>
      cases known : Signal.ofValue given with
      | error e => rw [perform, performedChanges, known]; rfl
      | ok g =>
        rw [perform_signal scripts fuel known, performedChanges, known]
        exact waiting_deliver _ Session.listeners (listeners_called scripts ih) _ _
    | _ => exact listeners_simple s _

/-- Listeners that follow scripts, in which signals may be given as deep as the fuel reaches. -/
def audience (fuel : Nat) : Audience Session Text Failure where
  call := called scripts fuel
  waiting := Session.listeners
  changes := calledChanges scripts fuel (performedChanges scripts fuel)
  waiting_call := listeners_called scripts (listeners_perform scripts fuel)

/-- A step that gives a signal. -/
lemma step_signal {given : Value} {g : Signal} (known : Signal.ofValue given = .ok g)
    (s : Session) :
    step scripts s (.signal given) =
      (((audience scripts 999).signal g { s with calls := [], notices := [] }).1,
        ((audience scripts 999).signal g { s with calls := [], notices := [] }).2.map
          fun _ => .value .null) :=
  perform_signal scripts 999 known _

/-- A listener that waits twice takes itself back, brings in another and removes a third, which
is called all the same. -/
example :
    let scripts : Table (List Step) :=
      [("once", [.remove "finish" "once", .remove "finish" "gone", .on "finish" "new"])]
    let listeners : Listeners Text := { finish := ["once", "once", "gone"] }
    let (s, _) := (audience scripts 0).signal .finish { view := { scope := [] }, listeners }
    s.calls = (["once", "once", "gone"] : List Text) ∧
      s.listeners.finish = (["new", "new"] : List Text) := by
  decide +kernel

end Session

end AccessLog
