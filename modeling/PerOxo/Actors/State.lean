import PerOxo.Lib.Arena
import PerOxo.Lib.Chan
import PerOxo.Persistence

/-!
# The state of a server

One PerOxo server at run time, in the default build (feature `persistence`), together with
the chat store behind it: the message router with its mailbox, the room actors with theirs,
the sessions with the channels to their sockets, and every spawned task that has not come to
its end.

A channel end is an index. The `Sender<ChatMessage>` of a session is its `SessionId`; the
sender of a one-shot channel is the index of the task that awaits the receiver. Mailboxes
carry `Envelope`s: the session a message comes from stands beside it.

The router's own channel is never closed: every session and the server's state hold a sender
of it, and the router's task ends only when all of them are gone. So the branches of the
sessions in which sending to the router fails do not occur here.

History variables, which no step reads: the two `processed` lists, the `socket`, the `log` of
an `Outbox`, and the origin of an envelope.
-/

set_option autoImplicit false

namespace PerOxo

open ChatService

abbrev SessionId := Nat

abbrev ActorId := Nat

/-- Index of a task that awaits a `MessageAckResponse` for a session. -/
abbrev AckId := Nat

/-- Index of a task that awaits a page of history for a session. -/
abbrev HistoryId := Nat

/-- Index of a task that awaits the messages of a sync for a session. -/
abbrev SyncId := Nat

/-- Index of a reply to a `JoinRoom`. -/
abbrev JoinId := Nat

/-- Index of a task that awaits a room's reply to an `AddMember`. -/
abbrev RoomJoinId := Nat

/-- Index of a reply to a `GetRoomMembers`. -/
abbrev MembersId := Nat

/-- Index of a task that awaits a room's reply to a `GetMembers`. -/
abbrev RoomMembersId := Nat

/-- Index of a reply to a `GetOnlineUsers`. -/
abbrev OnlineId := Nat

/-- Index of a write request sent to chat-service. -/
abbrev CallId := Nat

/-! ## Messages between the actors -/

inductive RouterMessage
  | registerUser (tenantUserId : TenantUserId) (sender respondTo : SessionId)
  | unregisterUser (tenantUserId : TenantUserId)
  | sendDirectMessage (conversationId : String) (fromUser toUser : TenantUserId)
      (content : String) (messageId : Uuid) (respondTo : Option AckId)
  | getOnlineUsers (respondTo : OnlineId)
  | getPaginatedMessages (projectId : String) (messageId : Option Uuid)
      (conversationId : String) (respondTo : HistoryId)
  | joinRoom (tenantUserId : TenantUserId) (roomId : String) (sender : SessionId)
      (respondTo : JoinId)
  | leaveRoom (tenantUserId : TenantUserId) (roomId : String)
  | sendRoomMessage (roomId : String) (fromUser : TenantUserId) (content : String)
      (messageId : Uuid) (respondTo : Option AckId)
  | getRoomMembers (roomId : String) (respondTo : MembersId)
  | syncMessages (projectId conversationId : String) (messageId : Uuid) (respondTo : SyncId)
  deriving DecidableEq

inductive RoomMessage
  | addMember (tenantUserId : TenantUserId) (sender : SessionId) (respondTo : RoomJoinId)
  | removeMember (tenantUserId : TenantUserId)
  | sendMessage (fromUser : TenantUserId) (content : String) (messageId : Uuid)
      (respondTo : Option AckId)
  | getMembers (respondTo : RoomMembersId)
  | getPaginatedMessages (projectId : String) (messageId : Option Uuid) (respondTo : HistoryId)
  deriving DecidableEq

/-- A message and the session whose frame it stems from. -/
structure Envelope (μ : Type) where
  origin : SessionId
  message : μ
  deriving DecidableEq

/-! ## Actors and sessions -/

structure MessageRouter where
  users : HashMap TenantUserId SessionId
  onlineUsers : List TenantUserId
  rooms : HashMap String ActorId

structure RoomActor where
  roomId : String
  mailbox : List (Envelope RoomMessage)
  members : HashMap TenantUserId SessionId
  /-- Its loop has not ended. -/
  alive : Bool
  /-- What it has taken out of its mailbox, oldest first. -/
  processed : List (Envelope RoomMessage)

/-- A task spawned by a session. `abort()` only asks a task to stop: it may go on until it
does. -/
inductive TaskState
  | idle
  | running
  | aborting
  | finished
  deriving DecidableEq, Repr

def TaskState.Active (t : TaskState) : Prop := t = .running ∨ t = .aborting

instance (t : TaskState) : Decidable t.Active := inferInstanceAs (Decidable (_ ∨ _))

def TaskState.abort : TaskState → TaskState
  | running => aborting
  | t => t

/-- How far `handle_connection` has come. -/
inductive Phase
  /-- `UserSession::new` awaits the reply to its `RegisterUser`. -/
  | creating
  /-- `UserSession::new` has returned an error. -/
  | failed (e : String)
  | running
  | ended
  deriving DecidableEq, Repr

structure UserSession where
  tenantUserId : TenantUserId
  phase : Phase
  /-- The reply to its `RegisterUser`. -/
  registration : Oneshot (Except String Unit)
  sendTask : TaskState
  recvTask : TaskState

/-- The capacity of both channels to a session's send task. -/
def channelBufferSize : Nat := 100

/-! ## Tasks -/

/-- What the task that waits for an acknowledgement holds, and of which frame it is:
`frame` and `serverMessageId` are there for the statements only. -/
structure AckTicket where
  session : SessionId
  clientMessageId : Uuid
  frame : ChatMessage
  serverMessageId : Uuid

/-- The session a response goes to, and the frame that asked for it. -/
structure ReadTicket where
  session : SessionId
  frame : ChatMessage

/-- A write request on its way to chat-service and back. -/
structure WriteCall where
  request : WriteRequest
  answer : Option WriteResponse

/-- The task that persists a message: it repeats its request until one call is answered, and
then tells the session. -/
structure PersistTask where
  request : WriteRequest
  messageId : Uuid
  respondTo : AckId
  attempts : Nat
  call : CallId
  done : Bool

/-- The task that reads messages: a single request, and where the result goes. -/
structure ReadTask (ρ σ : Type) where
  request : ρ
  answer : Option σ
  respondTo : Nat
  done : Bool

/-! ## The whole -/

structure State where
  /-- The tables of chat-service. -/
  store : Store
  writes : Arena WriteCall
  router : MessageRouter
  mailbox : List (Envelope RouterMessage)
  /-- What the router has taken out of its mailbox, oldest first. -/
  processed : List (Envelope RouterMessage)
  actors : Arena RoomActor
  sessions : Arena UserSession
  /-- The channel whose sender the router and the rooms hold. -/
  queues : Outbox SessionId ChatMessage channelBufferSize
  /-- The channel of the session's own responses. -/
  acks : Outbox SessionId ChatMessage channelBufferSize
  /-- What the send tasks have written to the sockets, in order. -/
  socket : List (SessionId × ChatMessage)
  persists : Arena PersistTask
  historyReads : Arena (ReadTask GetPaginatedMessagesRequest GetPaginatedMessagesResponse)
  syncReads : Arena (ReadTask SyncMessagesRequest SyncMessagesResponse)
  ackRelays : Arena (Waiter AckTicket MessageAckResponse)
  historyRelays : Arena (Waiter ReadTicket (Except String PaginatedMessagesResponse))
  syncRelays : Arena (Waiter ReadTicket (Except String (List ResponseDirectMessage)))
  joins : Arena (Oneshot (Except String Unit))
  joinBridges : Arena (Waiter JoinId (Except String Unit))
  memberLists : Arena (Oneshot (Option (List TenantUserId)))
  memberBridges : Arena (Waiter MembersId (List TenantUserId))
  onlineLists : Arena (Oneshot (List TenantUserId))

def MessageRouter.new : MessageRouter := ⟨∅, [], ∅⟩

def RoomActor.new (roomId : String) : RoomActor := ⟨roomId, [], ∅, true, []⟩

/-- A server that has just started, over a given store. -/
def State.start (store : Store) : State where
  store := store
  writes := .empty
  router := .new
  mailbox := []
  processed := []
  actors := .empty
  sessions := .empty
  queues := .idle
  acks := .idle
  socket := []
  persists := .empty
  historyReads := .empty
  syncReads := .empty
  ackRelays := .empty
  historyRelays := .empty
  syncRelays := .empty
  joins := .empty
  joinBridges := .empty
  memberLists := .empty
  memberBridges := .empty
  onlineLists := .empty

namespace State

/-! ## What the handlers are made of -/

/-- Send to the router's mailbox. -/
def sendRouter (s : State) (origin : SessionId) (m : RouterMessage) : State :=
  { s with mailbox := s.mailbox ++ [⟨origin, m⟩] }

/-- Send to a room's mailbox; `none` if the actor is gone. -/
def sendRoom (s : State) (a : ActorId) (origin : SessionId) (m : RoomMessage) : Option State :=
  match s.actors.get? a with
  | some r =>
      if r.alive then
        some { s with
          actors := s.actors.modify a fun r => { r with mailbox := r.mailbox ++ [⟨origin, m⟩] } }
      else none
  | none => none

def respondAck (s : State) (k : AckId) (r : MessageAckResponse) : State :=
  { s with ackRelays := s.ackRelays.modify k (·.send r) }

/-- The responder of an acknowledgement is dropped unused. -/
def dropAck (s : State) (k : AckId) : State :=
  { s with ackRelays := s.ackRelays.modify k (·.drop) }

def respondRegister (s : State) (sid : SessionId) (r : Except String Unit) : State :=
  { s with sessions := s.sessions.modify sid fun u =>
      { u with registration := u.registration.send r } }

def respondJoin (s : State) (j : JoinId) (r : Except String Unit) : State :=
  { s with joins := s.joins.modify j (·.send r) }

def respondMembers (s : State) (j : MembersId) (r : Option (List TenantUserId)) : State :=
  { s with memberLists := s.memberLists.modify j (·.send r) }

/-- Spawn the task that persists a message; its first call goes out with it. -/
def spawnPersist (s : State) (request : WriteRequest) (messageId : Uuid) (responder : AckId) :
    State :=
  { s with
    writes := s.writes.alloc ⟨request, none⟩
    persists := s.persists.alloc ⟨request, messageId, responder, 0, s.writes.next, false⟩ }

def spawnHistoryRead (s : State) (request : GetPaginatedMessagesRequest)
    (respondTo : HistoryId) : State :=
  { s with historyReads := s.historyReads.alloc ⟨request, none, respondTo, false⟩ }

def spawnSyncRead (s : State) (request : SyncMessagesRequest) (respondTo : SyncId) : State :=
  { s with syncReads := s.syncReads.alloc ⟨request, none, respondTo, false⟩ }

end State

end PerOxo
