import PerOxo.Actors.State
import PerOxo.Lib.Machine

/-!
# The message router

`message_router/handlers.rs` and `MessageRouter::run`: one handler for each kind of
`RouterMessage`, and `State.handleRouterMessage`, which takes a message to its handler. The
clock is read where the source reads it: `persistAt` is the time a message is written with,
`now` the time that is put into a live message or an acknowledgement.
-/

set_option autoImplicit false

namespace PerOxo

open ChatService

namespace State

def handleRegisterUser (s : State) (tenantUserId : TenantUserId)
    (sender respondTo : SessionId) : State :=
  match s.router.users.lookup tenantUserId with
  | some _ => s.respondRegister respondTo (.error "User already online")
  | none =>
      let s := { s with router := { s.router with
        users := s.router.users.insert tenantUserId sender
        onlineUsers := s.router.onlineUsers ++ [tenantUserId] } }
      s.respondRegister respondTo (.ok ())

def handleUnregisterUser (s : State) (tenantUserId : TenantUserId) : State :=
  match s.router.users.lookup tenantUserId with
  | some _ =>
      { s with router := { s.router with
        users := s.router.users.erase tenantUserId
        onlineUsers := s.router.onlineUsers.filter (· ≠ tenantUserId) } }
  | none => s

/-- Spawn the task that persists the message, then try to deliver it live. -/
def handleDirectMessage (s : State) (conversationId : String) (fromUser toUser : TenantUserId)
    (content : String) (messageId : Uuid) (respondTo : Option AckId) (persistAt now : Int) :
    State :=
  let s := match respondTo with
    | some responder =>
        let request := PersistenceService.persistDirectMessageRequest conversationId fromUser
          toUser content messageId persistAt
        s.spawnPersist (.dm request) messageId responder
    | none => s
  match s.router.users.lookup toUser with
  | some recipientSender =>
      -- A full or closed queue drops the message.
      { s with
        queues := s.queues.trySend recipientSender
          (.directMessage fromUser content messageId now) }
  | none => s

def handleGetOnlineUsers (s : State) (respondTo : OnlineId) : State :=
  { s with onlineLists := s.onlineLists.modify respondTo (·.send s.router.onlineUsers) }

def handleGetPaginatedChatHistory (s : State) (projectId : String) (messageId : Option Uuid)
    (conversationId : String) (respondTo : HistoryId) : State :=
  s.spawnHistoryRead
    (PersistenceService.getPaginatedMessagesRequest projectId messageId conversationId) respondTo

def spawnRoom (s : State) (roomId : String) : State :=
  { s with
    actors := s.actors.alloc (.new roomId)
    router := { s.router with rooms := s.router.rooms.insert roomId s.actors.next } }

/-- The actor of a room, which is spawned if there is none yet. -/
def roomActor (s : State) (roomId : String) : State × ActorId :=
  match s.router.rooms.lookup roomId with
  | some a => (s, a)
  | none => (s.spawnRoom roomId, s.actors.next)

def handleJoinRoom (s : State) (origin : SessionId) (tenantUserId : TenantUserId)
    (roomId : String) (sender : SessionId) (respondTo : JoinId) : State :=
  let (s, a) := s.roomActor roomId
  match s.sendRoom a origin (.addMember tenantUserId sender s.joinBridges.next) with
  | none => s.respondJoin respondTo (.error "Failed to communicate with room")
  | some s => { s with joinBridges := s.joinBridges.alloc (.start respondTo) }

def handleLeaveRoom (s : State) (origin : SessionId) (tenantUserId : TenantUserId)
    (roomId : String) : State :=
  match s.router.rooms.lookup roomId with
  | some a => (s.sendRoom a origin (.removeMember tenantUserId)).getD s
  | none => s

def handleRoomMessage (s : State) (origin : SessionId) (roomId : String)
    (fromUser : TenantUserId) (content : String) (messageId : Uuid) (respondTo : Option AckId)
    (now : Int) : State :=
  match s.router.rooms.lookup roomId with
  | some a =>
      match s.sendRoom a origin (.sendMessage fromUser content messageId respondTo) with
      | some s => s
      | none =>
          -- The message comes back unsent and is dropped, its responder with it.
          match respondTo with
          | some responder => s.dropAck responder
          | none => s
  | none =>
      match respondTo with
      | some responder => s.respondAck responder ⟨messageId, now, .failed "Room not found"⟩
      | none => s

def handleGetRoomMembers (s : State) (origin : SessionId) (roomId : String)
    (respondTo : MembersId) : State :=
  match s.router.rooms.lookup roomId with
  | some a =>
      match s.sendRoom a origin (.getMembers s.memberBridges.next) with
      | none => s.respondMembers respondTo none
      | some s => { s with memberBridges := s.memberBridges.alloc (.start respondTo) }
  | none => s.respondMembers respondTo none

def handleSyncMessages (s : State) (projectId conversationId : String) (messageId : Uuid)
    (respondTo : SyncId) : State :=
  s.spawnSyncRead
    (PersistenceService.syncMessagesRequest projectId conversationId messageId) respondTo

/-- The body of the router's loop. -/
def handleRouterMessage (s : State) (origin : SessionId) (persistAt now : Int) :
    RouterMessage → State
  | .registerUser tenantUserId sender respondTo =>
      s.handleRegisterUser tenantUserId sender respondTo
  | .unregisterUser tenantUserId => s.handleUnregisterUser tenantUserId
  | .sendDirectMessage conversationId fromUser toUser content messageId respondTo =>
      s.handleDirectMessage conversationId fromUser toUser content messageId respondTo persistAt
        now
  | .getOnlineUsers respondTo => s.handleGetOnlineUsers respondTo
  | .getPaginatedMessages projectId messageId conversationId respondTo =>
      s.handleGetPaginatedChatHistory projectId messageId conversationId respondTo
  | .joinRoom tenantUserId roomId sender respondTo =>
      s.handleJoinRoom origin tenantUserId roomId sender respondTo
  | .leaveRoom tenantUserId roomId => s.handleLeaveRoom origin tenantUserId roomId
  | .sendRoomMessage roomId fromUser content messageId respondTo =>
      s.handleRoomMessage origin roomId fromUser content messageId respondTo now
  | .getRoomMembers roomId respondTo => s.handleGetRoomMembers origin roomId respondTo
  | .syncMessages projectId conversationId messageId respondTo =>
      s.handleSyncMessages projectId conversationId messageId respondTo

/-- The message `e` leaves the router's mailbox. -/
def takeRouterMessage (s : State) (e : Envelope RouterMessage)
    (rest : List (Envelope RouterMessage)) : State :=
  { s with mailbox := rest, processed := s.processed ++ [e] }

/-- The router takes the next message. -/
def routerStep (s : State) (persistAt now : Int) : Option State :=
  match s.mailbox with
  | [] => none
  | e :: rest =>
      some ((s.takeRouterMessage e rest).handleRouterMessage e.origin persistAt now e.message)

theorem routerStep_some {s s' : State} {persistAt now : Int}
    (h : s.routerStep persistAt now = some s') :
    ∃ e rest, s.mailbox = e :: rest ∧
      s' = (s.takeRouterMessage e rest).handleRouterMessage e.origin persistAt now e.message := by
  unfold routerStep at h
  split at h
  · cases h
  · next e rest hm => exact ⟨e, rest, hm, (Option.some.inj h).symm⟩

end State

/-! ## The router among others -/

/-- A step of the router, or whatever the tasks around it do: its own fields they cannot touch. -/
inductive RouterAction
  | handle (persistAt now : Int)
  | others (f : State → State) (own : ∀ s, (f s).router = s.router)

def RouterAction.step (s : State) : RouterAction → Option State
  | .handle persistAt now => s.routerStep persistAt now
  | .others f _ => some (f s)

/-- `MessageRouter::run`, whatever it is sent and by whom. -/
def routerSystem (store : Store) : Machine State RouterAction where
  init := .start store
  step := RouterAction.step

end PerOxo
