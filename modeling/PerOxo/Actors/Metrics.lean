import PerOxo.Actors.System

/-!
# What the server counts

The gauge and the counters of `metrics.rs` that the actors write, beside `system`: where a step of
the server calls one of the helpers of `Metrics`, the step here does so too. How long something
took is not counted.
-/

set_option autoImplicit false

namespace PerOxo

open ChatService PersistenceService

structure Metrics where
  /-- `websocket_connections_active` -/
  connectionsActive : Int
  /-- `websocket_messages_total`, by its label. -/
  sent : Nat
  received : Nat
  persisted : Nat
  deriving DecidableEq

namespace Metrics

def new : Metrics := ⟨0, 0, 0, 0⟩

def websocketConnected (m : Metrics) : Metrics :=
  { m with connectionsActive := m.connectionsActive + 1 }

def websocketDisconnected (m : Metrics) : Metrics :=
  { m with connectionsActive := m.connectionsActive - 1 }

def websocketMessageSent (m : Metrics) : Metrics := { m with sent := m.sent + 1 }

def websocketMessageReceived (m : Metrics) : Metrics := { m with received := m.received + 1 }

def websocketMessagePersisted (m : Metrics) : Metrics := { m with persisted := m.persisted + 1 }

end Metrics

namespace State

/-- The task that persists a direct message sees `handle_persist_direct_message` return. -/
def dmReturns (s : State) (t : Nat) (failure : Option Status) : Bool :=
  match s.persists.get? t with
  | none => false
  | some p =>
      match p.request, callOutcome ((s.writes.get? p.call).bind (·.answer)) failure with
      | .dm _, some outcome =>
          match retryTurn maxRetries p.attempts outcome with
          | .returned _ => true
          | .calling _ => false
      | _, _ => false

/-- What a step counts. -/
def count (s : State) (m : Metrics) : Action → Metrics
  | .finishCreation sid =>
      match s.sessions.get? sid with
      | none => m
      | some u =>
          match u.registration with
          | .sent (.ok ()) => m.websocketConnected
          | _ => m
  | .endSession _ => m.websocketDisconnected
  -- Responses to the session's own requests are not counted.
  | .send _ false true => m.websocketMessageSent
  -- A message to a room is not counted.
  | .frame _ (some (.sendDirectMessage _ _ _ _)) _ => m.websocketMessageReceived
  -- Whether the write has failed is not looked at.
  | .persist t failure _ => if s.dmReturns t failure then m.websocketMessagePersisted else m
  | _ => m

end State

structure MeteredState where
  server : State
  metrics : Metrics

def MeteredState.step (db : Db) (s : MeteredState) (act : Action) : Option MeteredState :=
  (s.server.step db act).map fun server => ⟨server, s.server.count s.metrics act⟩

/-- The system with its metrics. -/
def meteredSystem (db : Db) (store : Store) : Machine MeteredState Action where
  init := ⟨.start store, .new⟩
  step := MeteredState.step db

theorem metered_reachable {db : Db} {store : Store} {s : MeteredState}
    (h : (meteredSystem db store).Reachable s) : (system db store).Reachable s.server := by
  apply h.invariant (I := fun s => (system db store).Reachable s.server) .init
  intro s act s' _ hs hr
  obtain ⟨t, ht, rfl⟩ := Option.map_eq_some_iff.mp hs
  exact hr.step (a := act) ht

end PerOxo
