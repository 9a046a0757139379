/-
Sockets that are opened, and what becomes of them.

* `Network.Opened`, `Network.Closed`, `Network.SetUpFailed`: a socket was opened,
  was closed, or could not be set up.
* `Network.Tracked`: of the sockets that were opened, those that are held or were
  closed are the ones that could be set up.
* `Tracked.setUp`, `Tracked.send`, `Tracked.emit`, `Tracked.close`: every call keeps
  this.
* `Tracked.runAll`: any sequence of calls keeps it.
* `Emitter.leaked_iff`: **a socket is lost if and only if it could not be set up**.
-/
import AccessLog.Proofs.Emitter.Accounts

namespace AccessLog

/-! ### The life of a socket -/

namespace SocketCall

/-- A socket was opened. -/
def opens (call : SocketCall) : Bool :=
  call.action.kind = .create && call.result.isOk

/-- A socket was closed. -/
def closes (call : SocketCall) : Bool :=
  call.action.kind = .close && call.result.isOk

/-- A socket could not be set up. -/
def failsSetUp (call : SocketCall) : Bool :=
  (call.action.kind = .setBlocking || call.action.kind = .setOption) && !call.result.isOk

/-- Setting a socket up does not close it. -/
lemma failsSetUp_of_closes (call : SocketCall) (closes : call.closes = true) :
    call.failsSetUp = false := by
  simp only [SocketCall.closes, Bool.and_eq_true, decide_eq_true_eq] at closes
  simp [failsSetUp, closes.1]

end SocketCall

namespace Network

/-- The socket was opened. -/
def Opened (n : Network) (socket : Nat) : Prop :=
  ∃ call ∈ n.calls, call.socket = socket ∧ call.opens = true

/-- The socket was closed. -/
def Closed (n : Network) (socket : Nat) : Prop :=
  ∃ call ∈ n.calls, call.socket = socket ∧ call.closes = true

/-- One of the calls that set the socket up has failed. -/
def SetUpFailed (n : Network) (socket : Nat) : Prop :=
  ∃ call ∈ n.calls, call.socket = socket ∧ call.failsSetUp = true

instance (n : Network) (socket : Nat) : Decidable (n.Opened socket) :=
  inferInstanceAs (Decidable (∃ call ∈ n.calls, _))

instance (n : Network) (socket : Nat) : Decidable (n.Closed socket) :=
  inferInstanceAs (Decidable (∃ call ∈ n.calls, _))

instance (n : Network) (socket : Nat) : Decidable (n.SetUpFailed socket) :=
  inferInstanceAs (Decidable (∃ call ∈ n.calls, _))

/-- Closing a socket does not fail, sockets are numbered in the order in which they were
opened, and of those that were opened the ones that are held or were closed are those
that could be set up. -/
structure Tracked (n : Network) (held : Option Nat) : Prop where
  closing : ∀ f, some f ∉ n.coming .close
  numbered : ∀ call ∈ n.calls, call.action = .create ∧ call.opens = false ∨
    call.socket < n.sockets
  held_lt : ∀ socket, held = some socket → socket < n.sockets
  held_open : ∀ socket, held = some socket → ¬n.Closed socket
  kept : ∀ socket, n.Opened socket →
    (held = some socket ∨ n.Closed socket ↔ ¬n.SetUpFailed socket)

variable {n n' : Network} {held : Option Nat} {socket : Nat} {made : SocketCall}

section OneMore

variable (calls : n'.calls = n.calls ++ [made])
include calls

lemma opened_snoc : n'.Opened socket ↔
    n.Opened socket ∨ made.socket = socket ∧ made.opens = true := by
  simp [Opened, calls, or_and_right, exists_or]

lemma closed_snoc : n'.Closed socket ↔
    n.Closed socket ∨ made.socket = socket ∧ made.closes = true := by
  simp [Closed, calls, or_and_right, exists_or]

lemma setUpFailed_snoc : n'.SetUpFailed socket ↔
    n.SetUpFailed socket ∨ made.socket = socket ∧ made.failsSetUp = true := by
  simp [SetUpFailed, calls, or_and_right, exists_or]

end OneMore

namespace Tracked

/-- The number of the next socket has not been used. -/
lemma fresh (h : n.Tracked held) : ¬n.Closed n.sockets ∧ ¬n.SetUpFailed n.sockets := by
  have refused {call : SocketCall} (isIn : call ∈ n.calls) (same : call.socket = n.sockets) :
      call.action = .create := by
    rcases h.numbered call isIn with ⟨creates, -⟩ | below
    · exact creates
    · omega
  constructor
  · rintro ⟨call, isIn, same, closes⟩
    simp [SocketCall.closes, refused isIn same, SocketAction.kind] at closes
  · rintro ⟨call, isIn, same, fails⟩
    simp [SocketCall.failsSetUp, refused isIn same, SocketAction.kind] at fails

/-- A new socket is held while it is set up; one that was refused has no part in this. -/
lemma create (h : n.Tracked none) : n.create.1.Tracked n.create.2.toOption := by
  have calls := n.calls_call n.sockets .create
  have coming := n.coming_call_subset n.sockets .create .close
  have sockets : (n.call n.sockets .create).1.sockets = n.sockets := rfl
  rw [Network.create]
  generalize n.call n.sockets .create = called at calls coming sockets ⊢
  obtain ⟨after, f | _⟩ := called
  · -- nothing was opened, and the number goes to the next socket
    refine ⟨fun f isIn => h.closing f (coming isIn), fun call isIn => ?_,
      fun t held => (by cases held), fun t held => (by cases held), fun t opened => ?_⟩
    · rw [sockets]
      rcases List.mem_append.mp (calls ▸ isIn) with before | last
      · exact h.numbered call before
      · obtain rfl := List.mem_singleton.mp last
        exact .inl ⟨rfl, rfl⟩
    · have before : n.Opened t := by
        simpa [SocketCall.opens, Except.isOk, Except.toBool] using (opened_snoc calls).mp opened
      simpa [closed_snoc calls, setUpFailed_snoc calls, SocketCall.closes, SocketCall.failsSetUp,
        SocketAction.kind, Except.toOption] using h.kept t before
  · have calls : { after with sockets := n.sockets + 1 }.calls =
        n.calls ++ [⟨n.sockets, .create, .ok ()⟩] := calls
    refine ⟨fun f isIn => h.closing f (coming isIn), fun call isIn => ?_, ?_, ?_,
      fun t opened => ?_⟩
    · rcases List.mem_append.mp (calls ▸ isIn) with before | last
      · exact (h.numbered call before).imp_right Nat.lt_succ_of_lt
      · obtain rfl := List.mem_singleton.mp last
        exact .inr (Nat.lt_succ_self _)
    · rintro _ ⟨⟩
      exact Nat.lt_succ_self _
    · rintro _ ⟨⟩
      simpa [closed_snoc calls, SocketCall.closes, SocketAction.kind] using h.fresh.1
    · simp only [closed_snoc calls, setUpFailed_snoc calls, SocketCall.closes,
        SocketCall.failsSetUp, SocketAction.kind]
      by_cases new : n.sockets = t
      · subst new
        simp [h.fresh, Except.toOption]
      · have before : n.Opened t := by simpa [new] using (opened_snoc calls).mp opened
        simpa [new, Except.toOption] using h.kept t before

/-- One more call on the socket that is held, which is given up if it was closed or could
not be set up. -/
lemma call (h : n.Tracked (some socket)) (action : SocketAction) (other : action ≠ .create) :
    let made : SocketCall := ⟨socket, action, (n.call socket action).2⟩
    (n.call socket action).1.Tracked
      (if made.closes || made.failsSetUp then none else some socket) := by
  intro made
  have calls : (n.call socket action).1.calls = n.calls ++ [made] := n.calls_call socket action
  have opens : made.opens = false := by
    cases action <;> first | rfl | exact absurd rfl other
  have below := h.held_lt socket rfl
  have unclosed := h.held_open socket rfl
  refine ⟨?_, ?_, ?_, ?_, ?_⟩
  · exact fun f isIn => h.closing f (n.coming_call_subset socket action .close isIn)
  · intro call isIn
    rcases List.mem_append.mp (calls ▸ isIn) with before | last
    · exact h.numbered call before
    · obtain rfl := List.mem_singleton.mp last
      exact .inr below
  · split
    · nofun
    · exact h.held_lt
  · split
    · nofun
    · next still =>
      rintro _ ⟨⟩
      rw [closed_snoc calls]
      simp_all
  · intro t opened
    have before : n.Opened t := by simpa [opens] using (opened_snoc calls).mp opened
    have kept := h.kept t before
    rw [closed_snoc calls, setUpFailed_snoc calls]
    by_cases own : socket = t
    · subst own
      have ready : ¬n.SetUpFailed socket := kept.mp (.inl rfl)
      have same : made.socket = socket := rfl
      by_cases closes : made.closes = true
      · simp [same, closes, made.failsSetUp_of_closes closes, ready]
      · by_cases fails : made.failsSetUp = true <;> simp [same, closes, fails, ready, unclosed]
    · split <;> simpa [own, made] using kept

/-! ### The calls of an emitter -/

variable {e : Emitter}

/-- A socket that could be set up is held, and one that could not is given up. -/
lemma setUp (h : n.Tracked none) (e : Emitter) :
    (e.setUp n).1.Tracked (e.setUp n).2.toOption := by
  have opened := h.create
  rw [Emitter.setUp]
  generalize n.create = created at opened ⊢
  obtain ⟨n₁, f | socket⟩ := created
  · exact opened
  have second := opened.call .setNonBlocking (by decide)
  dsimp only at second ⊢
  generalize n₁.call socket .setNonBlocking = called at second ⊢
  obtain ⟨n₂, f | _⟩ := called
  · exact second
  by_cases group : e.isMulticast = true
  · have third := Tracked.call second (.setHopLimit e.hopLimit)
      fun same => by cases same
    simp only [group, if_true] at third ⊢
    generalize n₂.call socket (.setHopLimit e.hopLimit) = called at third ⊢
    obtain ⟨n₃, f | _⟩ := called
    · exact third
    · exact third
  · simp only [group]
    exact second

/-- Sending a payload gives no socket up that could be set up. -/
lemma send (h : n.Tracked e.socket) (payload : List UInt8) :
    (e.send n payload).2.1.Tracked (e.send n payload).1.socket := by
  have sending {socket : Nat} {n : Network} (h : n.Tracked (some socket)) :
      (n.call socket (e.datagram payload)).1.Tracked (some socket) :=
    h.call (e.datagram payload) fun same => by cases same
  rw [Emitter.send, Emitter.hold]
  cases held : e.socket with
  | some socket =>
    rw [held] at h
    simp only [held]
    exact sending h
  | none =>
    have opened := (held ▸ h).setUp e
    dsimp only
    generalize e.setUp n = made at opened ⊢
    obtain ⟨n₁, f | socket⟩ := made
    · rwa [held]
    · exact sending opened

/-- An event changes no more than the counters besides sending its payload. -/
lemma emit (h : n.Tracked e.socket) (event : Emission) :
    (e.emit n event).network.Tracked (e.emit n event).emitter.socket := by
  cases wrote : e.written event with
  | error f =>
    obtain ⟨network, ⟨-, emitter, -⟩ | ⟨-, emitter, -⟩⟩ := Emitter.emit_unwritten wrote n
    · rwa [network, emitter]
    · rwa [network, emitter]
  | ok payload =>
    have sent := h.send payload
    obtain ⟨network, ⟨-, -, emitter⟩ | ⟨-, -, ⟨-, -, emitter⟩ | ⟨-, -, emitter⟩⟩⟩ :=
      Emitter.emit_written wrote n
    · rwa [network, emitter]
    · rwa [network, emitter]
    · rwa [network, emitter]

/-- At the end the socket that was held is closed, and none is held any more. -/
lemma close (h : n.Tracked e.socket) :
    (e.close n).result = .ok () ∧ (e.close n).emitter.socket = none ∧
      (e.close n).network.Tracked none := by
  rw [Emitter.close]
  cases held : e.socket with
  | none =>
    refine ⟨rfl, held, ?_⟩
    rwa [held] at h
  | some socket =>
    rw [held] at h
    have closed := h.call .close (by decide)
    have succeeds : ∀ f, (n.call socket .close).2 ≠ .error f := fun f failed =>
      h.closing f (mem_coming_of_next failed)
    dsimp only at closed ⊢
    generalize n.call socket .close = called at closed succeeds ⊢
    obtain ⟨after, f | _⟩ := called
    · exact absurd rfl (succeeds f)
    · exact ⟨rfl, rfl, closed⟩

lemma answer (h : n.Tracked e.socket) (call : EmitterCall) :
    (e.answer n call).network.Tracked (e.answer n call).emitter.socket := by
  cases call with
  | emit event => exact h.emit event
  | close =>
    obtain ⟨-, released, after⟩ := h.close
    rwa [Emitter.answer, released]

/-- Any sequence of calls keeps track of the sockets. -/
lemma runAll (h : n.Tracked e.socket) (calls : List EmitterCall) :
    (e.runAll n calls).2.1.Tracked (e.runAll n calls).1.socket := by
  induction calls generalizing e n with
  | nil => exact h
  | cons call rest ih => exact ih (h.answer call)

end Tracked

/-- No socket has been opened yet. -/
lemma tracked_start {coming : Outcomes} (closing : ∀ f, some f ∉ coming .close) :
    Tracked { coming } none :=
  ⟨closing, nofun, nofun, nofun, nofun⟩

end Network

namespace Emitter

/-- **A socket is lost if and only if it could not be set up**: after any sequence of calls,
whatever else fails than closing a socket, a socket that was opened is held or has been
closed exactly if none of the calls that were to set it up has failed. At the end the socket
that is held is closed, and then every socket that was opened has been closed, but for those
that could not be set up. -/
theorem leaked_iff (o : TransportOptions) {coming : Outcomes}
    (closing : ∀ f, some f ∉ coming .close) (calls : List EmitterCall) {e : Emitter} {n : Network}
    {ended : List (EmitterCall × Except Failure Unit)}
    (ran : runAll { options := o } { coming } calls = (e, n, ended)) :
    (∀ socket, n.Opened socket →
        (e.socket = some socket ∨ n.Closed socket ↔ ¬n.SetUpFailed socket)) ∧
      (e.close n).result = .ok () ∧ (e.close n).emitter.socket = none ∧
      ∀ socket, (e.close n).network.Opened socket →
        ((e.close n).network.Closed socket ↔ ¬(e.close n).network.SetUpFailed socket) := by
  have tracked := Network.Tracked.runAll (e := { options := o })
    (Network.tracked_start closing) calls
  rw [ran] at tracked
  obtain ⟨result, released, after⟩ := tracked.close
  refine ⟨tracked.kept, result, released, fun socket opened => ?_⟩
  simpa using after.kept socket opened

/-- The first socket refuses to return at once, and the emitter goes on with another, which is
closed at the end. -/
theorem leaked_iff_second_socket :
    let refusals : Outcomes := fun
      | .setBlocking => [some (.io none "refused")]
      | _ => []
    let event : Emission := ⟨.text "T", .dict [(.text "a", .text "b")]⟩
    let r := runAll {} { coming := refusals } [.emit event, .emit event]
    (r.1.socket = some 1 ∧ r.2.1.Opened 0 ∧ r.2.1.Opened 1) ∧
      ¬(r.1.socket = some 0 ∨ r.2.1.Closed 0) ∧
      (r.1.close r.2.1).network.Closed 1 ∧ ¬(r.1.close r.2.1).network.Closed 0 := by
  intro refusals event r
  have closing : ∀ f, some f ∉ refusals .close := nofun
  have ran : runAll {} { coming := refusals } [.emit event, .emit event] =
      (r.1, r.2.1, r.2.2) := rfl
  obtain ⟨kept, -, -, closed⟩ := leaked_iff {} closing _ ran
  have opened : r.1.socket = some 1 ∧ r.2.1.Opened 0 ∧ r.2.1.Opened 1 := by decide
  refine ⟨opened, fun held => ?_, (closed 1 (by decide)).mpr (by decide), fun lost => ?_⟩
  · exact (kept 0 opened.2.1).mp held (by decide)
  · exact (closed 0 (by decide)).mp lost (by decide)

/-- The hop limit of a new socket is refused: the event is dropped, and the socket is neither
held nor closed, not even at the end. -/
theorem refused_socket_leaked :
    let o : TransportOptions := { address := "224.1.1.11" }
    let refusals : Outcomes := fun
      | .setOption => [some (.io none "no such option")]
      | _ => []
    let event : Emission := ⟨.text "T", .dict [(.text "a", .text "b")]⟩
    let r := runAll { options := o } { coming := refusals } [.emit event]
    let last := r.1.close r.2.1
    r.1.dropped = 1 ∧ r.2.1.Opened 0 ∧ ¬(r.1.socket = some 0 ∨ r.2.1.Closed 0) ∧
      last.network.Opened 0 ∧ ¬last.network.Closed 0 := by
  decide

end Emitter

end AccessLog
