import PerOxo.Chat
import PerOxo.ChatService.Service

/-!
# The persistence service

`persistance_actor/handlers.rs` in the default build: what the server asks chat-service, and
what it makes of the answers. Each method of the source awaits calls to chat-service; here
stand the two ends of each, the request it builds and the result it returns for an outcome,
and one turn of the retry loop in between.
-/

set_option autoImplicit false

namespace PerOxo

open ChatService

/-- A `tonic::Status`, by what it displays as. -/
abbrev Status := String

/-- The two kinds of writes that are retried. -/
inductive WriteRequest
  | dm (request : WriteDmRequest)
  | room (request : WriteRoomMessageRequest)
  deriving DecidableEq

/-- What chat-service does with a write that reaches it. -/
def WriteRequest.serve (db : Db) (fault : Option Fault) (store : Store) :
    WriteRequest → WriteResponse × Store
  | .dm request => ChatServiceImpl.writeDm db fault store request
  | .room request => ChatServiceImpl.writeRoomMessage db fault store request

namespace PersistenceService

/-! ## Writes -/

/-- The request of `handle_persist_direct_message`: the project is the sender's. -/
def persistDirectMessageRequest (conversationId : String)
    (tenantSenderId tenantReceiverId : TenantUserId) (messageContent : String)
    (messageId : Uuid) (timestamp : Int) : WriteDmRequest where
  projectId := tenantSenderId.projectId
  conversationId := conversationId
  senderId := tenantSenderId.userId
  receiverId := tenantReceiverId.userId
  message := messageContent
  messageId := messageId.toString
  timestamp := timestamp

/-- The request of `handle_persist_room_message`. -/
def persistRoomMessageRequest (roomId : String) (senderId : TenantUserId)
    (messageContent : String) (messageId : Uuid) (timestamp : Int) :
    WriteRoomMessageRequest where
  projectId := senderId.projectId
  roomId := roomId
  senderId := senderId.userId
  content := messageContent
  messageId := messageId.toString
  timestamp := timestamp

/-- The `max_retries` both writes are called with. -/
def maxRetries : Nat := 3

/-- Where a turn of `while attempts <= max_retries` leads: to the next call, or out. -/
inductive RetryLoop (ρ : Type)
  | calling (attempts : Nat)
  | returned (result : Except Status ρ)

/-- One turn of `write_dm_with_retry` and of `write_room_message_with_retry`. -/
def retryTurn {ρ : Type} (maxRetries attempts : Nat) : Except Status ρ → RetryLoop ρ
  | .ok response => .returned (.ok response)
  | .error e =>
      if attempts + 1 ≤ maxRetries then .calling (attempts + 1) else .returned (.error e)

/-- What both persist methods return. -/
def persistResult : Except Status WriteResponse → Except String Unit
  | .ok response => if response.success then .ok () else .error response.errorMessage
  | .error e => .error ("gRPC call failed: " ++ e)

/-- What the spawned task tells the session of a result. -/
def ackStatus : Except String Unit → MessageStatus
  | .ok () => .persisted
  | .error e => .failed e

/-- **Persisted only after a success**: nothing but an answered `success = true` makes the
status of an acknowledgement `Persisted`. -/
theorem ackStatus_persistResult {r : Except Status WriteResponse} :
    ackStatus (persistResult r) = .persisted ↔ ∃ response, r = .ok response ∧
      response.success = true := by
  cases r with
  | error e => simp [persistResult, ackStatus]
  | ok response =>
    cases hs : response.success with
    | true => simp [persistResult, ackStatus, hs]
    | false => simp [persistResult, ackStatus, hs]

/-! ## Reads -/

/-- The request of `handle_get_paginated_messages`: no cursor is the empty text. -/
def getPaginatedMessagesRequest (projectId : String) (messageId : Option Uuid)
    (conversationId : String) : GetPaginatedMessagesRequest where
  projectId := projectId
  conversationId := conversationId
  cursorMessageId := (messageId.map Uuid.toString).getD ""

/-- `newV4` is what `Uuid::new_v4()` gives in place of an id that does not parse. -/
def responseDirectMessage (newV4 : Proto.DirectMessage → Uuid) (msg : Proto.DirectMessage) :
    ResponseDirectMessage where
  conversationId := msg.conversationId
  messageId := (Uuid.parseStr msg.messageId).getD (newV4 msg)
  senderId := msg.senderId
  recipientId := msg.recipientId
  messageText := msg.messageText
  createdAt := msg.createdAt

/-- What `handle_get_paginated_messages` returns. -/
def paginatedMessagesResult (newV4 : Proto.DirectMessage → Uuid) :
    Except Status GetPaginatedMessagesResponse → Except String PaginatedMessagesResponse
  | .ok response =>
      if response.success then
        let nextCursor := if response.nextCursor = "" then none else some response.nextCursor
        .ok { messages := response.messages.map (responseDirectMessage newV4)
              nextCursor := nextCursor
              hasMore := nextCursor.isSome }
      else .error response.errorMessage
  | .error e => .error ("gRPC call failed: " ++ e)

/-- The request of `handle_sync_messages`. -/
def syncMessagesRequest (projectId conversationId : String) (messageId : Uuid) :
    SyncMessagesRequest where
  projectId := projectId
  conversationId := conversationId
  lastMessageId := messageId.toString

/-- What `handle_sync_messages` returns. -/
def syncMessagesResult (newV4 : Proto.DirectMessage → Uuid) :
    Except Status SyncMessagesResponse → Except String (List ResponseDirectMessage)
  | .ok response =>
      if response.success then .ok (response.messages.map (responseDirectMessage newV4))
      else .error response.errorMessage
  | .error e => .error ("gRPC call failed: " ++ e)

/-- A stored message as the client gets to see it. -/
def clientMessage (m : DbMessage) : ResponseDirectMessage where
  conversationId := m.conversationId
  messageId := m.messageId
  senderId := m.senderId
  recipientId := m.recipientId
  messageText := m.messageText
  createdAt := m.createdAt

/-- The id survives the trip as text, so no id is ever made up. -/
@[simp] theorem responseDirectMessage_proto (newV4 : Proto.DirectMessage → Uuid)
    (m : DbMessage) : responseDirectMessage newV4 (protoDirectMessage m) = clientMessage m := by
  simp [responseDirectMessage, protoDirectMessage, clientMessage]

end PersistenceService

end PerOxo
