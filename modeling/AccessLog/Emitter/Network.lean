/-
Sockets and what is asked of them.

* `SocketAction`: opening, setting up, sending and closing.
* `SocketCall`: an action on one of the sockets, which are numbered.
* `Network`: all calls so far, and which of the coming ones will fail.
* `Network.call`: one more call, recorded whether it fails or not.
-/
import AccessLog.Failure

namespace AccessLog

/-- The kinds of action. -/
inductive SocketActionKind where
  | create
  | setBlocking
  | setOption
  | sendTo
  | close
deriving DecidableEq

/-- What is asked of a socket. -/
inductive SocketAction where
  /-- A new datagram socket. -/
  | create
  /-- Calls return at once. -/
  | setNonBlocking
  /-- The hop limit of multicast datagrams, as one byte. -/
  | setHopLimit (limit : UInt8)
  /-- One datagram. -/
  | sendTo (payload : List UInt8) (address : Text) (port : Int)
  | close
deriving DecidableEq

/-- The kind of an action. -/
def SocketAction.kind : SocketAction → SocketActionKind
  | create => .create
  | setNonBlocking => .setBlocking
  | setHopLimit _ => .setOption
  | sendTo _ _ _ => .sendTo
  | close => .close

/-- An action on a socket, and how it went. -/
structure SocketCall where
  socket : Nat
  action : SocketAction
  result : Except Failure Unit

/-- The outcomes of the coming calls of each kind; calls beyond the lists
succeed. -/
abbrev Outcomes := SocketActionKind → List (Option Failure)

/-- All calls so far, and the outcomes of the coming ones. -/
structure Network where
  calls : List SocketCall := []
  coming : Outcomes := fun _ => []
  /-- How many sockets there have been. -/
  sockets : Nat := 0

namespace Network

/-- How the next call of a kind goes. -/
def next (n : Network) (kind : SocketActionKind) : Except Failure Unit :=
  match n.coming kind with
  | some e :: _ => .error e
  | _ => .ok ()

/-- One more call. -/
def call (n : Network) (socket : Nat) (action : SocketAction) :
    Network × Except Failure Unit :=
  let result := n.next action.kind
  ({ n with
      calls := n.calls ++ [⟨socket, action, result⟩]
      coming := fun kind =>
        if kind = action.kind then (n.coming kind).tail else n.coming kind },
    result)

/-- A new socket, with its number. -/
def create (n : Network) : Network × Except Failure Nat :=
  let (after, result) := n.call n.sockets .create
  match result with
  | .ok () => ({ after with sockets := n.sockets + 1 }, .ok n.sockets)
  | .error e => (after, .error e)

end Network

end AccessLog
