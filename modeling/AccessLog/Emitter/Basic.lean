/-
The emitter: events as datagrams.

* `Emission`: an event as it is handed to an emitter; its type and its
  attributes may be missing.
* `Emitter`: the options, how many events were sent and dropped, and the socket
  if one is held.
* `Emitter.hold`: the socket that is held, or a new one, set up before it is.
* `Emitter.emit`: one event as one datagram. Whatever the network refuses is
  counted and told, never raised.
* `Emitter.close`: gives the socket up.
-/
import AccessLog.Diagnostics.Notice
import AccessLog.Emitter.Network
import AccessLog.Emitter.Options
import AccessLog.Network.Address
import AccessLog.Wire.Values

namespace AccessLog

/-- An event as it is handed to an emitter. -/
structure Emission where
  type : Value := .null
  attributes : Value := .null
deriving DecidableEq

/-- Sends events over one socket, opened at need. -/
structure Emitter where
  options : TransportOptions := {}
  sent : Nat := 0
  dropped : Nat := 0
  /-- The number of the socket, if one is held. -/
  socket : Option Nat := none
deriving DecidableEq

/-- What an emitter did: itself and the network afterwards, what it told, and
how it ended. -/
structure Emitted where
  emitter : Emitter
  network : Network
  notices : List Notice := []
  result : Except Failure Unit := .ok ()

namespace Emitter

/-- The emitter sends to a group of receivers. -/
def isMulticast (e : Emitter) : Bool :=
  Address.isMulticast e.options.address

/-- The hop limit as a byte. -/
def hopLimit (e : Emitter) : UInt8 :=
  UInt8.ofNat e.options.ttl.toNat

/-- A new socket: calls on it return at once, and for a group of receivers
its hop limit is set. -/
def setUp (e : Emitter) (n : Network) : Network × Except Failure Nat :=
  match n.create with
  | (n, .error f) => (n, .error f)
  | (n, .ok socket) =>
    match n.call socket .setNonBlocking with
    | (n, .error f) => (n, .error f)
    | (n, .ok ()) =>
      if e.isMulticast then
        match n.call socket (.setHopLimit e.hopLimit) with
        | (n, .error f) => (n, .error f)
        | (n, .ok ()) => (n, .ok socket)
      else (n, .ok socket)

/-- The socket that is held, or a new one, which is held from then on. -/
def hold (e : Emitter) (n : Network) : Emitter × Network × List Notice × Except Failure Nat :=
  match e.socket with
  | some socket => (e, n, [], .ok socket)
  | none =>
    match e.setUp n with
    | (n, .error f) => (e, n, [], .error f)
    | (n, .ok socket) =>
      ({ e with socket := some socket }, n,
        [.opened e.options.address e.options.port e.options.ttl], .ok socket)

/-- The type of an event, by default that of the options. -/
def eventType (e : Emitter) (event : Emission) : Value :=
  if event.type.truthy then event.type else .text e.options.type

/-- The attributes of an event, by default none. -/
def eventAttributes (event : Emission) : Value :=
  if event.attributes.truthy then event.attributes else .dict []

/-- Sends a payload over the socket that is held or over a new one. -/
def send (e : Emitter) (n : Network) (payload : List UInt8) :
    Emitter × Network × List Notice × Except Failure Unit :=
  match e.hold n with
  | (e, n, notices, .error f) => (e, n, notices, .error f)
  | (e, n, notices, .ok socket) =>
    let (n, result) := n.call socket (.sendTo payload e.options.address e.options.port)
    (e, n, notices, result)

/-- One event as one datagram. A fault of the event and a failure of the
network count as dropped; any other failure ends the call. -/
def emit (e : Emitter) (n : Network) (event : Emission) : Emitted :=
  let type := e.eventType event
  match Wire.writeValues type (eventAttributes event) with
  | .error f =>
    match f with
    | .fault fault _ =>
      if fault.isEmission then
        ⟨{ e with dropped := e.dropped + 1 }, n, [.dropping type fault.message], .ok ()⟩
      else ⟨e, n, [], .error f⟩
    | f => ⟨e, n, [], .error f⟩
  | .ok payload =>
    match e.send n payload with
    | (e, n, notices, .ok ()) => ⟨{ e with sent := e.sent + 1 }, n, notices, .ok ()⟩
    | (e, n, notices, .error f) =>
      match f with
      | .io number message =>
        ⟨{ e with dropped := e.dropped + 1 }, n,
          notices ++ [.sendFailed e.options.address e.options.port
            (Failure.ioMessage number message)], .ok ()⟩
      | f => ⟨e, n, notices, .error f⟩

/-- Gives the socket up, if one is held and can be closed. -/
def close (e : Emitter) (n : Network) : Emitted :=
  match e.socket with
  | none => ⟨e, n, [], .ok ()⟩
  | some socket =>
    match n.call socket .close with
    | (n, .error f) => ⟨e, n, [], .error f⟩
    | (n, .ok ()) => ⟨{ e with socket := none }, n, [.closed e.sent e.dropped], .ok ()⟩

end Emitter

end AccessLog
