import PerOxo.Actors.System
import Mathlib.Logic.Function.Basic

/-!
# What comes in on a socket

In `system` a session gets text frames, and its receive task may end at any time. Here is where
both come from: the stream that the task polls, and the loop around it,
`while let Some(Ok(Message::Text(text))) = ws_receiver.next().await`. Its pattern is the filter
of the frames, and it is also what keeps the loop going.

The streams are given. Control frames are items of them like the others: the library answers a
`Ping` by itself, and yields it all the same.
-/

set_option autoImplicit false

namespace PerOxo

open ChatService

/-- `axum::extract::ws::Message`. A text stands here for what it parses as; what is in the other
frames is not looked at. -/
inductive Message
  | text (text : Option ChatMessage)
  | binary
  | ping
  | pong
  | close
  deriving DecidableEq

/-- An item of a stream: a frame, or a transport error. -/
abbrev Item := Except String Message

/-- The stream of each session's socket, up to where it is over. -/
abbrev Incoming := SessionId → List Item

structure SocketState where
  server : State
  /-- How many items a session's receive task has polled; the end of the stream is one. -/
  polled : SessionId → Nat
  /-- The texts it has handled, oldest first. -/
  handled : SessionId → List (Option ChatMessage)

inductive SocketAction
  | recv (sid : SessionId) (serverMessageId : Uuid)
  | server (act : Action)

namespace SocketState

def start (store : Store) : SocketState := ⟨.start store, fun _ => 0, fun _ => []⟩

/-- `ws_receiver.next()` -/
def next (incoming : Incoming) (s : SocketState) (sid : SessionId) : Option Item :=
  (incoming sid)[s.polled sid]?

/-- A turn of the receive task's loop. -/
def recvTurn (incoming : Incoming) (s : SocketState) (sid : SessionId) (serverMessageId : Uuid) :
    Option SocketState :=
  let polled := Function.update s.polled sid (s.polled sid + 1)
  match s.next incoming sid with
  | some (.ok (.text text)) =>
      (s.server.frameStep sid text serverMessageId).map fun server =>
        { server := server, polled := polled
          handled := Function.update s.handled sid (s.handled sid ++ [text]) }
  | _ =>
      (s.server.recvTaskEnd sid).map fun server =>
        { server := server, polled := polled, handled := s.handled }

/-- The receive task is left to `recv`, but for its end where it is cancelled. -/
def allows (s : SocketState) : Action → Bool
  | .frame _ _ _ => false
  | .recvTaskEnd sid => (s.server.sessions.get? sid).any fun u => u.recvTask = .aborting
  | _ => true

def step (db : Db) (incoming : Incoming) (s : SocketState) : SocketAction → Option SocketState
  | .recv sid serverMessageId => s.recvTurn incoming sid serverMessageId
  | .server act =>
      if s.allows act then (s.server.step db act).map fun server => { s with server := server }
      else none

/-- The outcomes of a step. -/
inductive Stepped (db : Db) (incoming : Incoming) (s : SocketState) :
    SocketAction → SocketState → Prop
  | text {sid : SessionId} {id : Uuid} {text : Option ChatMessage} {t : State}
      (item : s.next incoming sid = some (.ok (.text text)))
      (result : s.server.step db (.frame sid text id) = some t) :
      s.Stepped db incoming (.recv sid id)
        { server := t
          polled := Function.update s.polled sid (s.polled sid + 1)
          handled := Function.update s.handled sid (s.handled sid ++ [text]) }
  | stopped {sid : SessionId} {id : Uuid} {t : State}
      (item : ∀ text, s.next incoming sid ≠ some (.ok (.text text)))
      (result : s.server.step db (.recvTaskEnd sid) = some t) :
      s.Stepped db incoming (.recv sid id)
        { s with server := t, polled := Function.update s.polled sid (s.polled sid + 1) }
  | server {act : Action} {t : State} (allowed : s.allows act = true)
      (result : s.server.step db act = some t) :
      s.Stepped db incoming (.server act) { s with server := t }

theorem stepped {db : Db} {incoming : Incoming} {s s' : SocketState} {act : SocketAction}
    (h : s.step db incoming act = some s') : s.Stepped db incoming act s' := by
  cases act with
  | recv sid id =>
    simp only [step, recvTurn] at h
    split at h
    · next text hitem =>
      obtain ⟨t, ht, rfl⟩ := Option.map_eq_some_iff.mp h
      exact .text hitem ht
    · next hitem =>
      obtain ⟨t, ht, rfl⟩ := Option.map_eq_some_iff.mp h
      exact .stopped hitem ht
  | server act =>
    simp only [step] at h
    split at h
    · next ha =>
      obtain ⟨t, ht, rfl⟩ := Option.map_eq_some_iff.mp h
      exact .server ha ht
    · cases h

end SocketState

/-- The system over given streams. -/
def socketSystem (db : Db) (store : Store) (incoming : Incoming) :
    Machine SocketState SocketAction where
  init := .start store
  step := SocketState.step db incoming

end PerOxo
