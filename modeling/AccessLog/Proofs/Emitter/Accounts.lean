/-
The accounts of an emitter: its counters, its socket and its calls.

* `EmitterCall`, `Emitter.answer`, `Emitter.runAll`: an event or the end, and
  any sequence of these.
* `EmitterCall.returnedEmit`: a call for an event that has returned.
* `Emitter.exists_calls_emit`, `Emitter.exists_calls_close`: the calls that are
  made for one event, and for the end.
* `Emitter.emit_counts`: what one event changes of the counters.
* `Emitter.Ready`: the socket that is held was set up, as was that of every
  datagram.
* `Emitter.Reconciled`: besides, the counters agree with the calls on the network.
* `Reconciled.answer`, `Reconciled.runAll`: every call keeps this, and so does
  every sequence of calls.
* `Emitter.accounts`: **the accounts of an emitter agree** after any sequence of
  calls, whatever fails.
-/
import AccessLog.Proofs.Emitter.Sockets

namespace AccessLog

/-- What an emitter is asked. -/
inductive EmitterCall where
  /-- An event is sent. -/
  | emit (event : Emission)
  /-- The socket is given up. -/
  | close
deriving DecidableEq

/-- The call was for an event, and it has returned. -/
def EmitterCall.returnedEmit : EmitterCall × Except Failure Unit → Bool
  | (emit _, .ok _) => true
  | _ => false

namespace Emitter

/-- One call on an emitter. -/
def answer (e : Emitter) (n : Network) : EmitterCall → Emitted
  | .emit event => e.emit n event
  | .close => e.close n

/-- Several calls: the emitter and the network afterwards, and how each of the
calls has ended. -/
def runAll (e : Emitter) (n : Network) :
    List EmitterCall → Emitter × Network × List (EmitterCall × Except Failure Unit)
  | [] => (e, n, [])
  | call :: rest =>
    let r := e.answer n call
    let (e, n, ended) := runAll r.emitter r.network rest
    (e, n, (call, r.result) :: ended)

/-! ### The calls of one event, and of the end -/

/-- For one event at most one datagram is handed over, with the written form of
the event and to the receiver of the options; a socket is created only if none
is held. -/
lemma exists_calls_emit (e : Emitter) (n : Network) (event : Emission) :
    ∃ made, (e.emit n event).network.calls = n.calls ++ made ∧
      made.countP SocketCall.isSend ≤ 1 ∧
      (∀ call ∈ made, call.isSend = true →
        ∃ payload, e.written event = .ok payload ∧ call.action = e.datagram payload) ∧
      (∀ call ∈ made, call.action = .create → e.socket = none) := by
  cases wrote : e.written event with
  | error f =>
    obtain ⟨same, -⟩ := emit_unwritten wrote n
    exact ⟨[], by simp [same], by simp, by simp, by simp⟩
  | ok payload =>
    obtain ⟨network, -⟩ := emit_written wrote n
    obtain ⟨made, silent, ⟨unheld, -, calls, -⟩ | ⟨socket, -, calls, held⟩⟩ :=
      e.exists_send n payload
    · rw [network, calls]
      have zero : made.countP SocketCall.isSend = 0 :=
        List.countP_eq_zero.mpr fun call isIn => by simp [silent call isIn]
      refine ⟨made, rfl, by omega, fun call isIn sends => ?_, fun _ _ _ => unheld⟩
      simp [silent call isIn] at sends
    · rw [network, calls]
      refine ⟨_, rfl, ?_, fun call isIn sends => ?_, fun call isIn creates => ?_⟩
      · have zero : made.countP SocketCall.isSend = 0 :=
          List.countP_eq_zero.mpr fun call isIn => by simp [silent call isIn]
        rw [List.countP_append, zero, Nat.zero_add]
        exact List.countP_le_length
      · rcases List.mem_append.mp isIn with before | last
        · simp [silent call before] at sends
        · obtain rfl := List.mem_singleton.mp last
          exact ⟨payload, rfl, rfl⟩
      · rcases held with ⟨-, rfl⟩ | ⟨unheld, -⟩
        · obtain rfl := List.mem_singleton.mp isIn
          cases creates
        · exact unheld

/-- At the end nothing is done but to close the socket that is held, which is
given up if that succeeds. -/
lemma exists_calls_close (e : Emitter) (n : Network) :
    ∃ made, (e.close n).network.calls = n.calls ++ made ∧ (∀ call ∈ made, call.action = .close) ∧
      ((e.close n).emitter = e ∨ (e.close n).emitter = { e with socket := none }) := by
  rw [close]
  cases e.socket with
  | none => exact ⟨[], by simp, by simp, .inl rfl⟩
  | some socket =>
    have calls := n.calls_call socket .close
    dsimp only
    generalize n.call socket .close = called at calls ⊢
    obtain ⟨after, f | _⟩ := called
    · exact ⟨_, calls, by simp, .inl rfl⟩
    · exact ⟨_, calls, by simp, .inr rfl⟩

/-! ### The counters -/

/-- Calls that send nothing deliver nothing. -/
lemma countP_delivered_append {calls made : List SocketCall}
    (silent : ∀ call ∈ made, call.isSend = false) :
    (calls ++ made).countP SocketCall.delivered = calls.countP SocketCall.delivered := by
  have undelivered : made.countP SocketCall.delivered = 0 :=
    List.countP_eq_zero.mpr fun call isIn => by simp [SocketCall.delivered, silent call isIn]
  rw [List.countP_append, undelivered, Nat.add_zero]

/-- Sending a payload leaves the options and the counters alone, and delivers one
datagram if it succeeds. -/
lemma counts_send (e : Emitter) (n : Network) (payload : List UInt8) :
    ((e.send n payload).1.options = e.options ∧ (e.send n payload).1.sent = e.sent ∧
        (e.send n payload).1.dropped = e.dropped) ∧
      (e.send n payload).2.1.calls.countP SocketCall.delivered =
        n.calls.countP SocketCall.delivered + (if (e.send n payload).2.2.2.isOk then 1 else 0) := by
  obtain ⟨made, silent, ⟨-, same, calls, f, failed⟩ | ⟨socket, after, calls, -⟩⟩ :=
    e.exists_send n payload
  · rw [same, calls, failed, countP_delivered_append silent]
    exact ⟨⟨rfl, rfl, rfl⟩, rfl⟩
  · rw [after, calls, ← List.append_assoc, List.countP_append, countP_delivered_append silent]
    refine ⟨⟨rfl, rfl, rfl⟩, congrArg _ ?_⟩
    simp [SocketCall.delivered, SocketCall.isSend, datagram, SocketAction.kind]

/-- A call for an event that returns counts as sent if a datagram was delivered
and as dropped if not; one that fails counts as neither. -/
lemma emit_counts (e : Emitter) (n : Network) (event : Emission) :
    ((e.emit n event).result = .ok () ∧ (e.emit n event).emitter.sent = e.sent + 1 ∧
        (e.emit n event).emitter.dropped = e.dropped ∧
        (e.emit n event).network.calls.countP SocketCall.delivered =
          n.calls.countP SocketCall.delivered + 1) ∨
      ((e.emit n event).emitter.sent = e.sent ∧
        (e.emit n event).network.calls.countP SocketCall.delivered =
          n.calls.countP SocketCall.delivered ∧
        ((e.emit n event).result = .ok () ∧ (e.emit n event).emitter.dropped = e.dropped + 1 ∨
          ∃ f, (e.emit n event).result = .error f ∧
            (e.emit n event).emitter.dropped = e.dropped)) := by
  cases wrote : e.written event with
  | error f =>
    obtain ⟨network, ⟨-, emitter, result⟩ | ⟨-, emitter, result⟩⟩ := emit_unwritten wrote n
    · rw [network, emitter, result]
      exact .inr ⟨rfl, rfl, .inl ⟨rfl, rfl⟩⟩
    · rw [network, emitter, result]
      exact .inr ⟨rfl, rfl, .inr ⟨f, rfl, rfl⟩⟩
  | ok payload =>
    obtain ⟨⟨-, sent, dropped⟩, delivered⟩ := e.counts_send n payload
    obtain ⟨network, ⟨taken, result, emitter⟩ | ⟨f, failed, outcome⟩⟩ := emit_written wrote n
    · rw [taken] at delivered
      rw [network, emitter, result]
      exact .inl ⟨rfl, congrArg (· + 1) sent, dropped, delivered⟩
    · rw [failed] at delivered
      rcases outcome with ⟨-, result, emitter⟩ | ⟨-, result, emitter⟩
      · rw [network, emitter, result]
        exact .inr ⟨sent, delivered, .inl ⟨rfl, congrArg (· + 1) dropped⟩⟩
      · rw [network, emitter, result]
        exact .inr ⟨sent, delivered, .inr ⟨f, rfl, dropped⟩⟩

/-! ### The sockets -/

/-- Every datagram was handed over on a socket that had been set up. -/
def SendsPrepared (e : Emitter) (calls : List SocketCall) : Prop :=
  ∀ before call after, calls = before ++ call :: after → call.isSend = true →
    e.Prepared before call.socket

/-- One more call keeps this if it sends nothing or its socket was set up. -/
lemma SendsPrepared.snoc {e : Emitter} {calls : List SocketCall} {call : SocketCall}
    (prepared : e.SendsPrepared calls)
    (ready : call.isSend = true → e.Prepared calls call.socket) :
    e.SendsPrepared (calls ++ [call]) := by
  intro before last after cut sends
  rcases List.eq_nil_or_concat after with rfl | ⟨others, final, rfl⟩
  · obtain ⟨rfl, same⟩ := List.append_inj' cut rfl
    obtain ⟨rfl, -⟩ := List.cons.inj same
    exact ready sends
  · rw [List.concat_eq_append, ← List.cons_append, ← List.append_assoc] at cut
    exact prepared before last others (List.append_inj_left' cut rfl) sends

/-- Calls that send nothing keep it. -/
lemma SendsPrepared.append {e : Emitter} {calls made : List SocketCall}
    (prepared : e.SendsPrepared calls) (silent : ∀ call ∈ made, call.isSend = false) :
    e.SendsPrepared (calls ++ made) := by
  induction made generalizing calls with
  | nil => rwa [List.append_nil]
  | cons call rest ih =>
    obtain ⟨here, there⟩ := List.forall_mem_cons.mp silent
    rw [List.append_cons]
    exact ih (prepared.snoc fun sends => by simp [here] at sends) there

/-- The socket that is held was set up, as was that of every datagram. -/
structure Ready (o : TransportOptions) (e : Emitter) (n : Network) : Prop where
  options : e.options = o
  held : ∀ socket, e.socket = some socket → e.Prepared n.calls socket
  sends : e.SendsPrepared n.calls

namespace Ready

variable {o : TransportOptions} {e : Emitter} {n : Network}

lemma send (h : e.Ready o n) (payload : List UInt8) :
    (e.send n payload).1.Ready o (e.send n payload).2.1 := by
  obtain ⟨made, silent, ⟨unheld, same, calls, -⟩ | ⟨socket, after, calls, held⟩⟩ :=
    e.exists_send n payload
  · rw [same]
    refine ⟨h.options, fun socket held => ?_, calls ▸ h.sends.append silent⟩
    cases unheld.symm.trans held
  · have ready : e.Prepared (n.calls ++ made) socket := by
      rcases held with ⟨held, rfl⟩ | ⟨-, prepared⟩
      · rw [List.append_nil]
        exact h.held socket held
      · exact prepared.mono (List.subset_append_right _ _)
    rw [← List.append_assoc] at calls
    rw [after]
    refine ⟨h.options, fun s same => ?_, ?_⟩
    · cases same
      exact ready.mono (calls ▸ List.subset_append_left _ _)
    · rw [calls]
      exact (h.sends.append silent).snoc fun _ => ready

/-- An event keeps this, since it changes no more than the counters besides
sending its payload. -/
lemma emit (h : e.Ready o n) (event : Emission) :
    (e.emit n event).emitter.Ready o (e.emit n event).network := by
  cases wrote : e.written event with
  | error f =>
    obtain ⟨network, ⟨-, emitter, -⟩ | ⟨-, emitter, -⟩⟩ := emit_unwritten wrote n
    · rw [network, emitter]
      exact ⟨h.options, h.held, h.sends⟩
    · rw [network, emitter]
      exact h
  | ok payload =>
    obtain ⟨options, held, sends⟩ := h.send payload
    obtain ⟨network, ⟨-, -, emitter⟩ | ⟨-, -, ⟨-, -, emitter⟩ | ⟨-, -, emitter⟩⟩⟩ :=
      emit_written wrote n
    · rw [network, emitter]
      exact ⟨options, held, sends⟩
    · rw [network, emitter]
      exact ⟨options, held, sends⟩
    · rw [network, emitter]
      exact ⟨options, held, sends⟩

lemma close (h : e.Ready o n) : (e.close n).emitter.Ready o (e.close n).network := by
  obtain ⟨made, calls, closing, emitter⟩ := e.exists_calls_close n
  have silent : ∀ call ∈ made, call.isSend = false := fun call isIn => by
    simp [SocketCall.isSend, closing call isIn, SocketAction.kind]
  rcases emitter with same | given
  · rw [same]
    refine ⟨h.options, fun socket held => ?_, calls ▸ h.sends.append silent⟩
    exact (h.held socket held).mono (calls ▸ List.subset_append_left _ _)
  · rw [given]
    refine ⟨h.options, fun socket held => ?_, calls ▸ h.sends.append silent⟩
    cases held

end Ready

/-! ### Any sequence of calls -/

/-- The counters agree with the calls on the network and with the number of
events that were dealt with, and the sockets are as they should be. -/
structure Reconciled (o : TransportOptions) (e : Emitter) (n : Network) (returned : Nat) : Prop
    extends Ready o e n where
  sent : e.sent = n.calls.countP SocketCall.delivered
  all : e.sent + e.dropped = returned

namespace Reconciled

variable {o : TransportOptions} {e : Emitter} {n : Network} {returned : Nat}

/-- One call keeps the accounts; it counts if it is for an event and returns. -/
lemma answer (h : e.Reconciled o n returned) (call : EmitterCall) :
    (e.answer n call).emitter.Reconciled o (e.answer n call).network
      (returned + if EmitterCall.returnedEmit (call, (e.answer n call).result) then 1 else 0) := by
  have sent := h.sent
  have all := h.all
  cases call with
  | emit event =>
    have ready := h.toReady.emit event
    rcases e.emit_counts n event with ⟨result, more, same, taken⟩ |
      ⟨same, taken, ⟨result, more⟩ | ⟨f, result, kept⟩⟩
    · refine ⟨ready, ?_, ?_⟩
      · simp only [Emitter.answer]
        omega
      · simp only [Emitter.answer, result, EmitterCall.returnedEmit, if_true]
        omega
    · refine ⟨ready, ?_, ?_⟩
      · simp only [Emitter.answer]
        omega
      · simp only [Emitter.answer, result, EmitterCall.returnedEmit, if_true]
        omega
    · refine ⟨ready, ?_, ?_⟩
      · simp only [Emitter.answer]
        omega
      · simp only [Emitter.answer, result, EmitterCall.returnedEmit, Bool.false_eq_true, if_false]
        omega
  | close =>
    obtain ⟨made, calls, closing, emitter⟩ := e.exists_calls_close n
    have silent : ∀ call ∈ made, call.isSend = false := fun call isIn => by
      simp [SocketCall.isSend, closing call isIn, SocketAction.kind]
    have counts : (e.close n).emitter.sent = e.sent ∧ (e.close n).emitter.dropped = e.dropped := by
      rcases emitter with same | given
      · rw [same]
        exact ⟨rfl, rfl⟩
      · rw [given]
        exact ⟨rfl, rfl⟩
    refine ⟨h.toReady.close, ?_, ?_⟩
    · rw [Emitter.answer, calls, countP_delivered_append silent, counts.1, sent]
    · rw [Emitter.answer, counts.1, counts.2, all]
      rfl

/-- Any sequence of calls keeps the accounts, where the events that were dealt
with are those whose calls have returned. -/
lemma runAll (h : e.Reconciled o n returned) (calls : List EmitterCall) :
    (e.runAll n calls).1.Reconciled o (e.runAll n calls).2.1
      (returned + (e.runAll n calls).2.2.countP EmitterCall.returnedEmit) := by
  induction calls generalizing e n returned with
  | nil => exact h
  | cons call rest ih =>
    have later := ih (h.answer call)
    rw [Nat.add_assoc, Nat.add_comm (ite _ _ _), ← List.countP_cons] at later
    exact later

end Reconciled

/-- A new emitter on a network that has not been called. -/
lemma reconciled_start (o : TransportOptions) (coming : Outcomes) :
    Reconciled o { options := o } { coming } 0 :=
  ⟨⟨rfl, nofun, fun before call after cut => by simp at cut⟩, rfl, rfl⟩

/-- **The accounts of an emitter agree** after any sequence of calls, whatever
fails: it has sent as many events as datagrams were taken, and it has sent or
dropped as many as calls for an event have returned; every datagram was handed
over on a socket whose calls return at once and, for a group of receivers, with
the hop limit of the options. The next event is counted only if its call returns.
Its payload is written from its type, or else the type of the options, and from its
attributes, if it has any: if that fails, nothing reaches the network, and else at
most one datagram is handed over, with this payload and to the receiver of the
options, and a socket is created only if none is held. The end closes a socket at
most. -/
theorem accounts {o : TransportOptions} (valid : o.IsValid) (coming : Outcomes)
    (calls : List EmitterCall) {e : Emitter} {n : Network}
    {ended : List (EmitterCall × Except Failure Unit)}
    (ran : runAll { options := o } { coming } calls = (e, n, ended)) :
    e.options = o ∧
      e.sent = n.calls.countP SocketCall.delivered ∧
      e.sent + e.dropped = ended.countP EmitterCall.returnedEmit ∧
      (∀ before call after, n.calls = before ++ call :: after → call.isSend = true →
        ⟨call.socket, .setNonBlocking, .ok ()⟩ ∈ before ∧
        (Address.isMulticast o.address = true → ∃ limit : UInt8, (limit.toNat : Int) = o.ttl ∧
          ⟨call.socket, .setHopLimit limit, .ok ()⟩ ∈ before)) ∧
      (∀ event : Emission,
        let written := Wire.writeValues
          (if event.type.truthy then event.type else .text o.type)
          (if event.attributes.truthy then event.attributes else .dict [])
        (∀ f, (e.emit n event).result = .error f →
          (e.emit n event).emitter.sent = e.sent ∧
            (e.emit n event).emitter.dropped = e.dropped) ∧
        (∀ f, written = .error f → (e.emit n event).network = n) ∧
        ∃ made, (e.emit n event).network.calls = n.calls ++ made ∧
          made.countP SocketCall.isSend ≤ 1 ∧
          (∀ call ∈ made, call.isSend = true → ∃ payload, written = .ok payload ∧
            call.action = .sendTo payload o.address o.port) ∧
          (∀ call ∈ made, call.action = .create → e.socket = none)) ∧
      ∃ made, (e.close n).network.calls = n.calls ++ made ∧
        ∀ call ∈ made, call.action = .close := by
  have all := (reconciled_start o coming).runAll calls
  rw [ran, Nat.zero_add] at all
  obtain ⟨⟨options, -, sends⟩, sent, counted⟩ := all
  dsimp only at options sends sent counted
  have limit : (e.hopLimit.toNat : Int) = o.ttl := by
    rw [toNat_hopLimit (options ▸ valid), options]
  have payload (event : Emission) : e.written event = Wire.writeValues
      (if event.type.truthy then event.type else .text o.type)
      (if event.attributes.truthy then event.attributes else .dict []) := by
    rw [written, eventType, eventAttributes, options]
  refine ⟨options, sent, counted, fun before call after cut isSend => ?_,
    fun event => ⟨?_, ?_, ?_⟩, ?_⟩
  · obtain ⟨prepared, group⟩ := sends before call after cut isSend
    rw [isMulticast, options] at group
    exact ⟨prepared, fun yes => ⟨e.hopLimit, limit, group yes⟩⟩
  · intro f failed
    rcases e.emit_counts n event with ⟨result, -⟩ | ⟨same, -, ⟨result, -⟩ | ⟨-, -, kept⟩⟩
    · cases result.symm.trans failed
    · cases result.symm.trans failed
    · exact ⟨same, kept⟩
  · exact fun f failed => (emit_unwritten ((payload event).trans failed) n).1
  · obtain ⟨made, extended, once, datagrams, creates⟩ := e.exists_calls_emit n event
    simp only [datagram, options, payload] at datagrams
    exact ⟨made, extended, once, datagrams, creates⟩
  · obtain ⟨made, extended, closing, -⟩ := e.exists_calls_close n
    exact ⟨made, extended, closing⟩

/-- Multicast events: the hop limit of the first socket is refused, the first
datagram on the second is not taken, the type of the third event is no text, and
the next event, which has no type, is sent under that of the options. One more
event is sent as it was the first time. -/
theorem accounts_second_socket :
    let o : TransportOptions := { address := "224.1.1.11", ttl := 7, type := "U" }
    let refusals : Outcomes := fun
      | .setOption => [some (.io none "no such option")]
      | .sendTo => [some (.io (some 101) "unreachable")]
      | _ => []
    let event : Emission := ⟨.text "T", .dict [(.text "a", .text "b")]⟩
    let untyped : Emission := ⟨.null, .dict [(.text "a", .text "b")]⟩
    let payload (type : UInt8) : List UInt8 :=
      [1, type, 0, 2, 3, 101, 110, 99, 2, 0, 1, 1, 97, 5, 0, 1, 98]
    let datagram (type : UInt8) : SocketAction := .sendTo (payload type) "224.1.1.11" o.port
    let calls := [EmitterCall.emit event, .emit event, .emit ⟨.int 5, .null⟩, .emit untyped, .close]
    let after := runAll { options := o } { coming := refusals } calls
    let next := (after.1.emit after.2.1 event).network.calls
    o.IsValid ∧ after.1.sent = 1 ∧ after.1.sent + after.1.dropped = 3 ∧
      after.2.1.calls.map (fun call => (call.socket, call.action)) =
        [(0, .create), (0, .setNonBlocking), (0, .setHopLimit 7), (1, .create),
          (1, .setNonBlocking), (1, .setHopLimit 7), (1, datagram 84), (1, datagram 85),
          (1, .close)] ∧
      ∃ made, next = after.2.1.calls ++ made ∧ made.countP SocketCall.isSend ≤ 1 ∧
        ∀ call ∈ made, call.isSend = true → call.action = datagram 84 := by
  intro o refusals event untyped payload datagram calls after next
  have valid : o.IsValid := by decide
  have ran : runAll { options := o } { coming := refusals } calls =
      (after.1, after.2.1, after.2.2) := by
    simp only [after, Prod.eta]
  obtain ⟨-, sent, counted, -, later, -⟩ := accounts valid refusals calls ran
  obtain ⟨-, -, made, extended, once, datagrams, -⟩ := later event
  have written : Wire.writeValues (.text "T") (.dict [(.text "a", .text "b")]) =
      .ok (payload 84) := by decide +kernel
  refine ⟨valid, sent.trans (by decide), counted.trans (by decide), by decide +kernel, made,
    extended, once, fun call isIn isSend => ?_⟩
  obtain ⟨bytes, wrote, handed⟩ := datagrams call isIn isSend
  rw [handed, Except.ok.inj (wrote.symm.trans written)]

end Emitter

end AccessLog
