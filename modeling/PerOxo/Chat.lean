import PerOxo.Lib.Uuid

/-!
# Chat messages

`chat.rs` and `tenant.rs`: the identity a socket is authenticated as, and every message that
crosses a socket in either direction. Timestamps are milliseconds.
-/

set_option autoImplicit false

namespace PerOxo

structure TenantUserId where
  projectId : String
  userId : String
  deriving DecidableEq, Repr

inductive PresenceStatus
  | online
  | offline
  deriving DecidableEq, Repr

inductive MessageStatus
  | delivered
  | persisted
  | failed (e : String)
  deriving DecidableEq, Repr

structure MessageAckResponse where
  messageId : Uuid
  timestamp : Int
  status : MessageStatus
  deriving DecidableEq

structure ResponseDirectMessage where
  conversationId : String
  messageId : Uuid
  senderId : String
  recipientId : String
  messageText : String
  createdAt : Int
  deriving DecidableEq

structure PaginatedMessagesResponse where
  messages : List ResponseDirectMessage
  nextCursor : Option String
  hasMore : Bool
  deriving DecidableEq

/-- One text frame. The source's `from` and `to` are `fromUser` and `toUser` here. -/
inductive ChatMessage
  | sendDirectMessage (conversationId : String) (toUser : TenantUserId) (content : String)
      (clientMessageId : Uuid)
  | directMessage (fromUser : TenantUserId) (content : String) (serverMessageId : Uuid)
      (timestamp : Int)
  | presence (user : TenantUserId) (status : PresenceStatus)
  | messageAck (clientMessageId messageId : Uuid) (timestamp : Int) (status : MessageStatus)
  | getPaginatedMessages (projectId : String) (messageId : Option Uuid) (conversationId : String)
  | chatHistoryResponse (messages : List ResponseDirectMessage) (hasMore : Bool)
      (nextCursor : Option Uuid)
  | roomMessage (roomId : String) (fromUser : TenantUserId) (content : String) (messageId : Uuid)
  | joinRoom (roomId : String)
  | leaveRoom (roomId : String)
  | syncMessages (projectId conversationId : String) (messageId : Uuid)
  | syncMessagesResponse (messages : List ResponseDirectMessage)
  deriving DecidableEq

end PerOxo
