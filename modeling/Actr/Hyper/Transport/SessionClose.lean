import Actr.Hyper.Transport.PeerTransport
import Actr.Hyper.Transport.WirePool

/-!
# Closes that are guarded by a session

`close_webrtc_transport_if_session` and `close_transport_if_webrtc_session` over the transport map of a destination.
-/

namespace Actr.Hyper.Transport

structure SessionWire where
  identity : WireIdentity
  ready : Bool
  deriving DecidableEq, Repr

inductive Scope where
  | webRtc
  | full
  deriving DecidableEq, Repr

-- `fetching` to `marking` are the places of `close_connection`; `closing` waits for a close of the destination.
inductive GuardPhase where
  | looking (identity : WireIdentity) (scope : Scope)
  | comparing (identity : WireIdentity) (scope : Scope) (transport : Nat)
  | fetching (identity : WireIdentity) (transport : Nat)
  | closingWire (identity : WireIdentity) (transport : Nat) (wire : WireIdentity)
  | marking (identity : WireIdentity) (transport : Nat)
  | closing (identity : WireIdentity) (close : Nat)
  | returned (result : NetworkResult Bool)

inductive Toucher where
  | guarded (index : Nat)
  | close (index : Nat)
  deriving DecidableEq, Repr

structure Destination where
  peers : PeerTransport
  -- the WebRTC slot of the transport made by each call
  wires : List (Option SessionWire)
  guards : List GuardPhase
  -- who has changed the map or closed a wire; nothing reads it
  touched : List Toucher

namespace Destination

def initial : Destination := ⟨.initial, [], [], []⟩

def setGuard (s : Destination) (index : Nat) (phase : GuardPhase) : Destination :=
  { s with guards := s.guards.set index phase }

def unready (wires : List (Option SessionWire)) (transport : Nat) : List (Option SessionWire) :=
  wires.modify transport (Option.map fun wire => { wire with ready := false })

def matchesSession (s : Destination) (transport : Nat) (identity : WireIdentity) : Bool :=
  s.wires[transport]? = some (some ⟨identity, true⟩)

def look (s : Destination) (identity : WireIdentity) (scope : Scope) : GuardPhase :=
  match s.peers.transport with
  | some (.connected transport) => .comparing identity scope transport
  | _ => .returned (.ok false)

def compare (s : Destination) (index : Nat) (identity : WireIdentity) (scope : Scope) (transport : Nat) : Destination :=
  if s.matchesSession transport identity then
    match scope with
    | .webRtc => s.setGuard index (.fetching identity transport)
    | .full =>
      { s.setGuard index (.closing identity s.peers.closes.length) with
        peers := { s.peers with closes := s.peers.closes ++ [.marking] } }
  else s.setGuard index (.returned (.ok false))

def fetch (s : Destination) (identity : WireIdentity) (transport : Nat) : GuardPhase :=
  match s.wires[transport]? with
  | some (some ⟨wire, true⟩) => .closingWire identity transport wire
  | _ => .returned (.ok true)

def advance (s : Destination) (index : Nat) : GuardPhase → Option Destination
  | .looking identity scope => some (s.setGuard index (s.look identity scope))
  | .comparing identity scope transport => some (s.compare index identity scope transport)
  | .fetching identity transport => some (s.setGuard index (s.fetch identity transport))
  | .closingWire identity transport _ =>
    some { s.setGuard index (.marking identity transport) with touched := s.touched ++ [.guarded index] }
  | .marking _ transport =>
    some { s.setGuard index (.returned (.ok true)) with
      wires := unready s.wires transport
      touched := s.touched ++ [.guarded index] }
  | .closing _ close =>
    match s.peers.closes[close]? with
    | some (.returned (.ok _)) => some (s.setGuard index (.returned (.ok true)))
    | some (.returned (.error error)) => some (s.setGuard index (.returned (.error error)))
    | _ => none
  | .returned _ => none

-- Only `transport.close()` reaches the wires: it closes the connection and marks it closed in the pool.
def closeWires (s : Destination) (close : Nat) : List (Option SessionWire) :=
  match s.peers.closes[close]? with
  | some (.closing transport _) => unready s.wires transport
  | _ => s.wires

def closes (s : Destination) (close : Nat) (peers : PeerTransport) : Destination :=
  { s with
    peers := peers
    wires := s.closeWires close
    touched :=
      if s.peers.transport = peers.transport ∧ s.wires = s.closeWires close then s.touched
      else s.touched ++ [.close close] }

inductive Action where
  | peers (action : PeerTransport.Action)
  | guardedClose (identity : WireIdentity) (scope : Scope)
  | advance (index : Nat)
  | connected (transport : Nat) (identity : WireIdentity)
  | lost (transport : Nat)

def step (dest : String) (s : Destination) : Action → Option Destination
  | .peers .get => (s.peers.step dest .get).map fun peers => { s with peers, wires := s.wires ++ [none] }
  | .peers (.close close outcome) => (s.peers.step dest (.close close outcome)).map (s.closes close)
  | .peers action => (s.peers.step dest action).map fun peers => { s with peers }
  | .guardedClose identity scope => some { s with guards := s.guards ++ [.looking identity scope] }
  | .advance index => s.guards[index]?.bind (s.advance index)
  | .connected transport identity =>
    if s.wires[transport]? = some none then some { s with wires := s.wires.set transport (some ⟨identity, true⟩) }
    else none
  | .lost transport => some { s with wires := unready s.wires transport }

end Destination

end Actr.Hyper.Transport
