/-
What one call on an emitter asks of the network.

* `SocketCall.isSend`, `SocketCall.delivered`: a call that hands over a
  datagram, and one that the network has taken.
* `Network.OnlyIO`: whatever fails is a failure of the input or output system.
* `Emitter.Prepared`: a socket was set up before: its calls return at once, and
  for a group of receivers its hop limit is set.
* `Emitter.exists_setUp`, `Emitter.exists_send`: all that setting up a socket and
  sending a payload can come to.
* `Emitter.emit_unwritten`, `Emitter.emit_written`: all that sending an event
  can come to, by whether it has a written form.
-/
import Mathlib.Tactic.Common
import AccessLog.Emitter.Basic

namespace AccessLog

/-! ### Calls on the network -/

namespace SocketCall

/-- A datagram is handed over. -/
def isSend (call : SocketCall) : Bool :=
  call.action.kind = .sendTo

/-- A datagram was handed over and taken. -/
def delivered (call : SocketCall) : Bool :=
  call.isSend && call.result.isOk

end SocketCall

namespace Network

/-- Whatever will fail, fails in the input or output system. -/
def OnlyIO (n : Network) : Prop :=
  ∀ kind f, some f ∈ n.coming kind → f.isInputOutput = true

variable {n : Network} {socket : Nat} {action : SocketAction}

/-- A call is recorded with its result. -/
@[simp] lemma calls_call (n : Network) (socket : Nat) (action : SocketAction) :
    (n.call socket action).1.calls =
      n.calls ++ [⟨socket, action, (n.call socket action).2⟩] := rfl

/-- The creation of a socket is recorded under its number. -/
lemma exists_calls_create (n : Network) :
    ∃ result, n.create.1.calls = n.calls ++ [⟨n.sockets, .create, result⟩] := by
  have calls := n.calls_call n.sockets .create
  rw [create]
  generalize n.call n.sockets .create = called at calls ⊢
  obtain ⟨after, _ | _⟩ := called
  · exact ⟨_, calls⟩
  · exact ⟨_, calls⟩

/-- A call fails only as one of the coming calls of its kind was to. -/
lemma mem_coming_of_next {kind : SocketActionKind} {f : Failure}
    (failed : n.next kind = .error f) : some f ∈ n.coming kind := by
  rw [Network.next] at failed
  split at failed
  · next g rest coming =>
    cases failed
    exact coming ▸ List.mem_cons_self
  · cases failed

/-- A call takes an outcome away and adds none. -/
lemma coming_call_subset (n : Network) (socket : Nat) (action : SocketAction)
    (kind : SocketActionKind) : (n.call socket action).1.coming kind ⊆ n.coming kind := by
  intro outcome isIn
  simp only [Network.call] at isIn
  split at isIn
  · exact List.mem_of_mem_tail isIn
  · exact isIn

lemma OnlyIO.call (io : n.OnlyIO) (socket : Nat) (action : SocketAction) :
    (n.call socket action).1.OnlyIO ∧
      ∀ f, (n.call socket action).2 = .error f → f.isInputOutput = true :=
  ⟨fun kind f isIn => io kind f (n.coming_call_subset socket action kind isIn),
    fun f failed => io action.kind f (mem_coming_of_next failed)⟩

lemma OnlyIO.create (io : n.OnlyIO) :
    n.create.1.OnlyIO ∧ ∀ f, n.create.2 = .error f → f.isInputOutput = true := by
  have first := io.call n.sockets .create
  rw [Network.create]
  generalize n.call n.sockets .create = called at first ⊢
  obtain ⟨after, f | _⟩ := called
  · exact ⟨first.1, fun g same => first.2 g (by cases same; rfl)⟩
  · exact ⟨first.1, nofun⟩

end Network

namespace Emitter

/-! ### A socket -/

/-- A socket was set up in some calls: calls on it return at once, and if the
events go to a group of receivers, its hop limit was set. -/
def Prepared (e : Emitter) (calls : List SocketCall) (socket : Nat) : Prop :=
  ⟨socket, .setNonBlocking, .ok ()⟩ ∈ calls ∧
    (e.isMulticast = true → ⟨socket, .setHopLimit e.hopLimit, .ok ()⟩ ∈ calls)

/-- A socket that was set up stays so. -/
lemma Prepared.mono {e : Emitter} {calls more : List SocketCall} {socket : Nat}
    (prepared : e.Prepared calls socket) (kept : calls ⊆ more) : e.Prepared more socket :=
  ⟨kept prepared.1, fun group => kept (prepared.2 group)⟩

/-- The hop limit is that of the options, which fits into its byte. -/
lemma toNat_hopLimit {e : Emitter} (valid : e.options.IsValid) :
    (e.hopLimit.toNat : Int) = e.options.ttl := by
  obtain ⟨-, -, low, high⟩ := valid
  rw [hopLimit, UInt8.toNat_ofNat']
  omega

/-- A new socket is set up in calls that send nothing, or one of these calls
fails. -/
lemma exists_setUp (e : Emitter) (n : Network) :
    ∃ made, (e.setUp n).1.calls = n.calls ++ made ∧ (∀ call ∈ made, call.isSend = false) ∧
      ∀ socket, (e.setUp n).2 = .ok socket → e.Prepared made socket := by
  obtain ⟨result, calls₁⟩ := n.exists_calls_create
  rw [setUp]
  generalize n.create = created at calls₁ ⊢
  obtain ⟨n₁, f | socket⟩ := created
  · exact ⟨_, calls₁, by simp [SocketCall.isSend, SocketAction.kind], nofun⟩
  have calls₂ := n₁.calls_call socket .setNonBlocking
  rw [show n₁.calls = _ from calls₁, List.append_assoc] at calls₂
  dsimp only
  generalize n₁.call socket .setNonBlocking = called at calls₂ ⊢
  obtain ⟨n₂, f | _⟩ := called
  · exact ⟨_, calls₂, by simp [SocketCall.isSend, SocketAction.kind], nofun⟩
  by_cases group : e.isMulticast = true
  · have calls₃ := n₂.calls_call socket (.setHopLimit e.hopLimit)
    rw [show n₂.calls = _ from calls₂, List.append_assoc] at calls₃
    simp only [group, if_true]
    generalize n₂.call socket (.setHopLimit e.hopLimit) = called at calls₃ ⊢
    obtain ⟨n₃, f | _⟩ := called
    · exact ⟨_, calls₃, by simp [SocketCall.isSend, SocketAction.kind], nofun⟩
    · refine ⟨_, calls₃, by simp [SocketCall.isSend, SocketAction.kind], fun s same => ?_⟩
      cases same
      exact ⟨by simp, fun _ => by simp⟩
  · simp only [group]
    refine ⟨_, calls₂, by simp [SocketCall.isSend, SocketAction.kind], fun s same => ?_⟩
    cases same
    exact ⟨by simp, fun yes => absurd yes group⟩

/-- Only input or output can fail in setting up a socket. -/
lemma setUp_onlyIO (e : Emitter) {n : Network} (io : n.OnlyIO) :
    (e.setUp n).1.OnlyIO ∧ ∀ f, (e.setUp n).2 = .error f → f.isInputOutput = true := by
  have first := io.create
  rw [setUp]
  generalize n.create = created at first ⊢
  obtain ⟨n₁, f | socket⟩ := created
  · exact ⟨first.1, fun g same => first.2 g (by cases same; rfl)⟩
  have second := first.1.call socket .setNonBlocking
  dsimp only at second ⊢
  generalize n₁.call socket .setNonBlocking = called at second ⊢
  obtain ⟨n₂, f | _⟩ := called
  · exact ⟨second.1, fun g same => second.2 g (by cases same; rfl)⟩
  by_cases group : e.isMulticast = true
  · have third := second.1.call socket (.setHopLimit e.hopLimit)
    simp only [group, if_true] at third ⊢
    generalize n₂.call socket (.setHopLimit e.hopLimit) = called at third ⊢
    obtain ⟨n₃, f | _⟩ := called
    · exact ⟨third.1, fun g same => third.2 g (by cases same; rfl)⟩
    · exact ⟨third.1, nofun⟩
  · simp only [group]
    exact ⟨second.1, nofun⟩

/-! ### A payload -/

/-- The datagram with a payload. -/
def datagram (e : Emitter) (payload : List UInt8) : SocketAction :=
  .sendTo payload e.options.address e.options.port

/-- Either no socket could be set up, and nothing was sent, or the payload was
handed over once, as the last of all calls, on a socket that was held before or
was set up by the others. -/
lemma exists_send (e : Emitter) (n : Network) (payload : List UInt8) :
    ∃ made, (∀ call ∈ made, call.isSend = false) ∧
      ((e.socket = none ∧ (e.send n payload).1 = e ∧
          (e.send n payload).2.1.calls = n.calls ++ made ∧
          ∃ f, (e.send n payload).2.2.2 = .error f) ∨
        ∃ socket, (e.send n payload).1 = { e with socket := some socket } ∧
          (e.send n payload).2.1.calls =
            n.calls ++ (made ++ [⟨socket, e.datagram payload, (e.send n payload).2.2.2⟩]) ∧
          (e.socket = some socket ∧ made = [] ∨ e.socket = none ∧ e.Prepared made socket)) := by
  rw [send, hold]
  cases held : e.socket with
  | some socket =>
    refine ⟨[], by simp, .inr ⟨socket, ?_, rfl, .inl ⟨rfl, rfl⟩⟩⟩
    simp [← held]
  | none =>
    obtain ⟨made, calls, silent, prepared⟩ := e.exists_setUp n
    dsimp only
    generalize e.setUp n = opened at calls prepared ⊢
    obtain ⟨n₁, f | socket⟩ := opened
    · exact ⟨made, silent, .inl ⟨rfl, rfl, calls, f, rfl⟩⟩
    · have calls₂ := n₁.calls_call socket (e.datagram payload)
      rw [show n₁.calls = _ from calls, List.append_assoc] at calls₂
      exact ⟨made, silent, .inr ⟨socket, rfl, calls₂, .inr ⟨rfl, prepared socket rfl⟩⟩⟩

/-- Only input or output can fail in sending a payload. -/
lemma send_onlyIO (e : Emitter) {n : Network} (io : n.OnlyIO) (payload : List UInt8) :
    ∀ f, (e.send n payload).2.2.2 = .error f → f.isInputOutput = true := by
  rw [send, hold]
  cases e.socket with
  | some socket => exact (io.call socket _).2
  | none =>
    obtain ⟨after, failed⟩ := e.setUp_onlyIO io
    dsimp only
    generalize e.setUp n = opened at after failed ⊢
    obtain ⟨n₁, f | socket⟩ := opened
    · exact fun g same => failed g (by cases same; rfl)
    · exact (after.call socket _).2

/-! ### An event -/

/-- The written form of an event, with what the options and the event leave
open. -/
def written (e : Emitter) (event : Emission) : Except Failure (List UInt8) :=
  Wire.writeValues (e.eventType event) (eventAttributes event)

/-- An event without a written form does not reach the network. If that is a
fault of the event, it counts as dropped. -/
lemma emit_unwritten {e : Emitter} {event : Emission} {f : Failure}
    (failed : e.written event = .error f) (n : Network) :
    (e.emit n event).network = n ∧
      ((f.isEmission = true ∧ (e.emit n event).emitter = { e with dropped := e.dropped + 1 } ∧
          (e.emit n event).result = .ok ()) ∨
        (f.isEmission = false ∧ (e.emit n event).emitter = e ∧
          (e.emit n event).result = .error f)) := by
  rw [written] at failed
  simp only [emit, failed]
  cases f with
  | fault fault details =>
    by_cases emission : fault.isEmission <;> simp [emission, Failure.isEmission]
  | _ => exact ⟨rfl, .inr ⟨rfl, rfl, rfl⟩⟩

/-- An event with a written form is sent, and counts as sent or dropped unless
something else than input or output fails. -/
lemma emit_written {e : Emitter} {event : Emission} {payload : List UInt8}
    (wrote : e.written event = .ok payload) (n : Network) :
    (e.emit n event).network = (e.send n payload).2.1 ∧
      (((e.send n payload).2.2.2 = .ok () ∧ (e.emit n event).result = .ok () ∧
          (e.emit n event).emitter =
            { (e.send n payload).1 with sent := (e.send n payload).1.sent + 1 }) ∨
        ∃ f, (e.send n payload).2.2.2 = .error f ∧
          ((f.isInputOutput = true ∧ (e.emit n event).result = .ok () ∧
              (e.emit n event).emitter =
                { (e.send n payload).1 with dropped := (e.send n payload).1.dropped + 1 }) ∨
            (f.isInputOutput = false ∧ (e.emit n event).result = .error f ∧
              (e.emit n event).emitter = (e.send n payload).1))) := by
  rw [written] at wrote
  simp only [emit, wrote]
  rcases e.send n payload with ⟨e', n', notices, f | _⟩
  · cases f with
    | io number message => exact ⟨rfl, .inr ⟨_, rfl, .inl ⟨rfl, rfl, rfl⟩⟩⟩
    | _ => exact ⟨rfl, .inr ⟨_, rfl, .inr ⟨rfl, rfl, rfl⟩⟩⟩
  · exact ⟨rfl, .inl ⟨rfl, rfl, rfl⟩⟩

end Emitter

end AccessLog
