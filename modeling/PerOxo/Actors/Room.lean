import PerOxo.Actors.State

/-!
# Room actors

`room_actor.rs`: the handlers of a room, its loop and its cleanup tick. A handler gets the
index of its actor and the actor as it is.
-/

set_option autoImplicit false

namespace PerOxo

open ChatService

namespace State

def handleAddMember (s : State) (a : ActorId) (r : RoomActor) (tenantUserId : TenantUserId)
    (sender : SessionId) (respondTo : RoomJoinId) : State :=
  match r.members.lookup tenantUserId with
  | some _ =>
      { s with joinBridges :=
          s.joinBridges.modify respondTo (·.send (.error "User already in room")) }
  | none =>
      { s with
        actors := s.actors.modify a fun r =>
          { r with members := r.members.insert tenantUserId sender }
        joinBridges := s.joinBridges.modify respondTo (·.send (.ok ())) }

def handleRemoveMember (s : State) (a : ActorId) (tenantUserId : TenantUserId) : State :=
  { s with actors := s.actors.modify a fun r =>
      { r with members := r.members.erase tenantUserId } }

/-- Spawn the task that persists the message, then try to deliver it to every member. -/
def handleSendMessage (s : State) (r : RoomActor) (fromUser : TenantUserId) (content : String)
    (messageId : Uuid) (respondTo : Option AckId) (persistAt : Int) : State :=
  let s := match respondTo with
    | some responder =>
        let request := PersistenceService.persistRoomMessageRequest r.roomId fromUser content
          messageId persistAt
        s.spawnPersist (.room request) messageId responder
    | none => s
  { s with
    queues := s.queues.broadcast (HashMap.values r.members)
      (.roomMessage r.roomId fromUser content messageId) }

/-- The room's history is asked for under its `room_id` as the conversation. -/
def handleRoomGetPaginatedMessages (s : State) (r : RoomActor) (projectId : String)
    (messageId : Option Uuid) (respondTo : HistoryId) : State :=
  s.spawnHistoryRead
    (PersistenceService.getPaginatedMessagesRequest projectId messageId r.roomId) respondTo

/-- `RoomActor::handle_message`. -/
def handleMessage (s : State) (a : ActorId) (r : RoomActor) (persistAt : Int) :
    RoomMessage → State
  | .addMember tenantUserId sender respondTo =>
      s.handleAddMember a r tenantUserId sender respondTo
  | .removeMember tenantUserId => s.handleRemoveMember a tenantUserId
  | .sendMessage fromUser content messageId respondTo =>
      s.handleSendMessage r fromUser content messageId respondTo persistAt
  | .getMembers respondTo =>
      { s with memberBridges := s.memberBridges.modify respondTo (·.send r.members.keys) }
  | .getPaginatedMessages projectId messageId respondTo =>
      s.handleRoomGetPaginatedMessages r projectId messageId respondTo

/-- The message `e` leaves the mailbox of the room. -/
def takeRoomMessage (s : State) (a : ActorId) (e : Envelope RoomMessage)
    (rest : List (Envelope RoomMessage)) : State :=
  { s with actors := s.actors.modify a fun r =>
      { r with mailbox := rest, processed := r.processed ++ [e] } }

/-- A room takes its next message. -/
def roomStep (s : State) (a : ActorId) (persistAt : Int) : Option State :=
  match s.actors.get? a with
  | none => none
  | some r =>
      if r.alive then
        match r.mailbox with
        | [] => none
        | e :: rest => some ((s.takeRoomMessage a e rest).handleMessage a r persistAt e.message)
      else none

def dropStaleMembers (s : State) (a : ActorId) : State :=
  { s with actors := s.actors.modify a fun r =>
      { r with members := HashMap.retain r.members fun _ sender => (s.queues.chan sender).isOpen } }

/-- The 60-second tick: members whose receiver is gone are dropped. -/
def cleanupTick (s : State) (a : ActorId) : Option State :=
  match s.actors.get? a with
  | none => none
  | some r =>
      if r.alive then some (s.dropStaleMembers a) else none

/-- The loop ends when the mailbox is empty and every sender is gone. Only the router's table
holds senders of a room. -/
def roomStop (s : State) (a : ActorId) : Option State :=
  match s.actors.get? a with
  | none => none
  | some r =>
      if r.alive = true ∧ r.mailbox = [] ∧ a ∉ HashMap.values s.router.rooms then
        some { s with actors := s.actors.modify a fun r => { r with alive := false } }
      else none

/-! ## What each of them does -/

theorem roomStep_some {s s' : State} {a : ActorId} {persistAt : Int}
    (h : s.roomStep a persistAt = some s') :
    ∃ r e rest, s.actors.get? a = some r ∧ r.alive = true ∧ r.mailbox = e :: rest ∧
      s' = (s.takeRoomMessage a e rest).handleMessage a r persistAt e.message := by
  unfold roomStep at h
  split at h
  · cases h
  · next r hr =>
    split at h
    · next ha =>
      split at h
      · cases h
      · next e rest hm => exact ⟨r, e, rest, hr, ha, hm, (Option.some.inj h).symm⟩
    · cases h

theorem cleanupTick_some {s s' : State} {a : ActorId} (h : s.cleanupTick a = some s') :
    ∃ r, s.actors.get? a = some r ∧ r.alive = true ∧ s' = s.dropStaleMembers a := by
  unfold cleanupTick at h
  split at h
  · cases h
  · next r hr =>
    split at h
    · next ha => exact ⟨r, hr, ha, (Option.some.inj h).symm⟩
    · cases h

theorem roomStop_some {s s' : State} {a : ActorId} (h : s.roomStop a = some s') :
    ∃ r, s.actors.get? a = some r ∧ r.alive = true ∧ r.mailbox = [] ∧
      a ∉ HashMap.values s.router.rooms ∧
      s' = { s with actors := s.actors.modify a fun r => { r with alive := false } } := by
  unfold roomStop at h
  split at h
  · cases h
  · next r hr =>
    split at h
    · next hc => exact ⟨r, hr, hc.1, hc.2.1, hc.2.2, (Option.some.inj h).symm⟩
    · cases h

end State

end PerOxo
