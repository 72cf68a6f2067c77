import PerOxo.Actors.System
import Mathlib.Logic.Function.Basic

/-!
# Ids and times in the order of the calls

`system` leaves open which ids and which times its steps get. Here `Uuid::now_v1` returns ever
greater ids, and the clock does not go back. A session draws the id of a message before it hands
the message to the router, and in between the other tasks may go on, on other threads: so
drawing and sending are two steps.
-/

set_option autoImplicit false

namespace PerOxo

open ChatService

/-- The session of `u` draws a server message id for the frame. -/
def ChatMessage.drawsId (u : TenantUserId) : ChatMessage → Bool
  | .sendDirectMessage _ _ _ _ => true
  | .roomMessage _ fromUser _ _ => decide (fromUser = u)
  | _ => false

/-- A frame whose id is drawn and whose message is not sent yet. -/
structure Draft where
  frame : ChatMessage
  serverMessageId : Uuid

structure ClockedState where
  server : State
  /-- What the receive tasks are in the middle of. -/
  drafts : SessionId → Option Draft
  lastId : Uuid
  clock : Int

inductive ClockedAction
  | draw (sid : SessionId) (frame : ChatMessage) (serverMessageId : Uuid)
  | send (sid : SessionId)
  | server (act : Action)

namespace ClockedState

/-- A server that has just started, at a time; `lastId` is the last id that was drawn before. -/
def start (store : Store) (lastId : Uuid) (clock : Int) : ClockedState :=
  ⟨.start store, fun _ => none, lastId, clock⟩

def drawsId (s : ClockedState) (sid : SessionId) (frame : ChatMessage) : Bool :=
  (s.server.sessions.get? sid).any fun u => frame.drawsId u.tenantUserId

/-- The receive task of a session with a draft does nothing else before it has sent it; and what
reads the clock gets no earlier time than before. -/
def allows (s : ClockedState) : Action → Bool
  | .frame sid text _ => (s.drafts sid).isNone && !text.any (s.drawsId sid)
  | .recvTaskEnd sid => (s.drafts sid).isNone
  | .router persistAt now => decide (s.clock ≤ persistAt) && decide (persistAt ≤ now)
  | .room _ persistAt => decide (s.clock ≤ persistAt)
  | .persist _ _ now => decide (s.clock ≤ now)
  | _ => true

def clockAfter (s : ClockedState) : Action → Int
  | .router _ now => now
  | .room _ persistAt => persistAt
  | .persist _ _ now => now
  | _ => s.clock

def step (db : Db) (s : ClockedState) : ClockedAction → Option ClockedState
  | .draw sid frame id =>
      match s.server.sessions.get? sid with
      | some u =>
          if u.recvTask.Active ∧ (s.drafts sid).isNone ∧ frame.drawsId u.tenantUserId ∧
              s.lastId < id then
            some { s with drafts := Function.update s.drafts sid (some ⟨frame, id⟩), lastId := id }
          else none
      | none => none
  | .send sid =>
      match s.drafts sid with
      | some d =>
          (s.server.step db (.frame sid (some d.frame) d.serverMessageId)).map fun t =>
            { s with server := t, drafts := Function.update s.drafts sid none }
      | none => none
  | .server act =>
      if s.allows act then
        (s.server.step db act).map fun t => { s with server := t, clock := s.clockAfter act }
      else none

/-- The outcomes of a step. -/
inductive Stepped (db : Db) (s : ClockedState) : ClockedAction → ClockedState → Prop
  | drew {sid : SessionId} {ses : UserSession} {frame : ChatMessage} {id : Uuid}
      (found : s.server.sessions.get? sid = some ses) (active : ses.recvTask.Active)
      (free : s.drafts sid = none) (draws : frame.drawsId ses.tenantUserId = true)
      (later : s.lastId < id) :
      s.Stepped db (.draw sid frame id)
        { s with drafts := Function.update s.drafts sid (some ⟨frame, id⟩), lastId := id }
  | sent {sid : SessionId} {d : Draft} {t : State} (draft : s.drafts sid = some d)
      (result : s.server.step db (.frame sid (some d.frame) d.serverMessageId) = some t) :
      s.Stepped db (.send sid) { s with server := t, drafts := Function.update s.drafts sid none }
  | served {act : Action} {t : State} (allowed : s.allows act = true)
      (result : s.server.step db act = some t) :
      s.Stepped db (.server act) { s with server := t, clock := s.clockAfter act }

theorem stepped {db : Db} {s s' : ClockedState} {act : ClockedAction}
    (h : s.step db act = some s') : s.Stepped db act s' := by
  cases act with
  | draw sid frame id =>
    simp only [step] at h
    split at h
    · next ses hses =>
      split at h
      · next hc =>
        obtain ⟨hact, hfree, hdraws, hlater⟩ := hc
        cases h
        exact .drew hses hact (Option.isNone_iff_eq_none.mp hfree) hdraws hlater
      · cases h
    · cases h
  | send sid =>
    simp only [step] at h
    split at h
    · next d hd =>
      obtain ⟨t, ht, rfl⟩ := Option.map_eq_some_iff.mp h
      exact .sent hd ht
    · cases h
  | server act =>
    simp only [step] at h
    split at h
    · next ha =>
      obtain ⟨t, ht, rfl⟩ := Option.map_eq_some_iff.mp h
      exact .served ha ht
    · cases h

end ClockedState

def clockedSystem (db : Db) (store : Store) (lastId : Uuid) (clock : Int) :
    Machine ClockedState ClockedAction where
  init := .start store lastId clock
  step := ClockedState.step db

/-- What the clocked server does, the server does. -/
theorem clocked_reachable {db : Db} {store : Store} {lastId : Uuid} {clock : Int}
    {s : ClockedState} (h : (clockedSystem db store lastId clock).Reachable s) :
    (system db store).Reachable s.server := by
  refine h.invariant (I := fun s => (system db store).Reachable s.server) .init ?_
  intro s act s' _ hs hr
  cases ClockedState.stepped hs with
  | drew found active free draws later => exact hr
  | @sent sid d t draft result =>
    exact hr.step (a := .frame sid (some d.frame) d.serverMessageId) result
  | @served act t allowed result => exact hr.step (a := act) result

end PerOxo
