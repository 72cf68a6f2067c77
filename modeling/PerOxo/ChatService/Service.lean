import PerOxo.ChatService.Queries

/-!
# The handlers of chat-service

`chat_services.rs`: each handler checks its request, runs one query and puts the outcome
into a response. No handler fails as a call: what goes wrong is reported in the response,
with `success = false` and a text.

The order of the checks differs between handlers: `getPaginatedMessages` and `syncMessages`
parse the id first, `writeDm` and `writeRoomMessage` look at the required fields first.
-/

set_option autoImplicit false

namespace PerOxo.ChatService

open Cql

/-! ## Requests and responses -/

structure WriteDmRequest where
  projectId : String
  conversationId : String
  senderId : String
  receiverId : String
  message : String
  messageId : String
  timestamp : Int
  deriving DecidableEq

structure WriteRoomMessageRequest where
  projectId : String
  roomId : String
  senderId : String
  content : String
  messageId : String
  timestamp : Int
  deriving DecidableEq

/-- `WriteDMResponse` and `WriteRoomMessageResponse` have the same two fields. -/
structure WriteResponse where
  success : Bool
  errorMessage : String
  deriving DecidableEq

abbrev WriteDmResponse := WriteResponse

abbrev WriteRoomMessageResponse := WriteResponse

namespace Proto

/-- `chat_service::DirectMessage`: the id as text, the timestamp as a number. -/
structure DirectMessage where
  conversationId : String
  messageId : String
  senderId : String
  recipientId : String
  messageText : String
  createdAt : Int
  deriving DecidableEq

/-- `chat_service::RoomMessage`. -/
structure RoomMessage where
  roomId : String
  messageId : String
  senderId : String
  content : String
  createdAt : Int
  deriving DecidableEq

/-- `chat_service::TenantUserId`. -/
structure TenantUserId where
  projectId : String
  userId : String
  deriving DecidableEq

end Proto

structure ConversationMessage where
  messageId : String
  messageText : String
  senderId : String
  recipientId : String
  createdAt : Int
  deriving DecidableEq

structure FetchConversationHistoryRequest where
  projectId : String
  conversationId : String
  deriving DecidableEq

structure FetchConversationHistoryResponse where
  success : Bool
  errorMessage : String
  messages : List ConversationMessage
  deriving DecidableEq

structure GetPaginatedMessagesRequest where
  projectId : String
  conversationId : String
  cursorMessageId : String
  deriving DecidableEq

/-- A page of `α`s, with the cursor of the next one. -/
structure PageResponse (α : Type) where
  success : Bool
  errorMessage : String
  messages : List α
  nextCursor : String
  deriving DecidableEq

abbrev GetPaginatedMessagesResponse := PageResponse Proto.DirectMessage

structure GetPaginatedRoomMessagesRequest where
  projectId : String
  roomId : String
  cursorMessageId : String
  deriving DecidableEq

abbrev GetPaginatedRoomMessagesResponse := PageResponse Proto.RoomMessage

structure SyncMessagesRequest where
  projectId : String
  conversationId : String
  lastMessageId : String
  deriving DecidableEq

structure SyncMessagesResponse where
  success : Bool
  errorMessage : String
  messages : List Proto.DirectMessage
  deriving DecidableEq

structure FetchUserConversationsRequest where
  tenantUserId : Option Proto.TenantUserId
  deriving DecidableEq

structure UserConversation where
  conversationId : String
  lastMessage : Int
  deriving DecidableEq

structure FetchUserConversationsResponse where
  success : Bool
  errorMessage : String
  conversations : List UserConversation
  deriving DecidableEq

structure GetSertConversationRequest where
  projectId : String
  userId1 : String
  userId2 : String
  deriving DecidableEq

structure GetSertConversationResponse where
  success : Bool
  errorMessage : String
  conversationId : String
  createdNew : Bool
  deriving DecidableEq

def protoDirectMessage (m : DbMessage) : Proto.DirectMessage where
  conversationId := m.conversationId
  messageId := m.messageId.toString
  senderId := m.senderId
  recipientId := m.recipientId
  messageText := m.messageText
  createdAt := m.createdAt

def protoRoomMessage (m : DbRoomMessage) : Proto.RoomMessage where
  roomId := m.roomId
  messageId := m.messageId.toString
  senderId := m.senderId
  content := m.content
  createdAt := m.createdAt

/-! ## Writes -/

def WriteResponse.failure (e : String) : WriteResponse := ⟨false, e⟩

/-- The response to a write: the query's outcome, its error as text. -/
def writeResponse (db : Db) : Except DbError Unit → WriteResponse
  | .ok () => ⟨true, ""⟩
  | .error e => .failure (db.display e)

def ChatServiceImpl.writeDm (db : Db) (fault : Option Fault) (store : Store) (req : WriteDmRequest) :
    WriteDmResponse × Store :=
  if req.projectId = "" ∨ req.conversationId = "" then
    (.failure "project_id and conversation_id are required", store)
  else
    match Uuid.parseStr req.messageId with
    | none => (.failure "Invalid message_id UUID", store)
    | some messageId =>
        let message : DirectMessage :=
          { projectId := req.projectId, conversationId := req.conversationId, messageId,
            senderId := req.senderId, recipientId := req.receiverId,
            messageText := req.message, createdAt := req.timestamp }
        let (r, store) := writeDirectMessage db fault message store
        (writeResponse db r, store)

def ChatServiceImpl.writeRoomMessage (db : Db) (fault : Option Fault) (store : Store)
    (req : WriteRoomMessageRequest) : WriteRoomMessageResponse × Store :=
  if req.projectId = "" ∨ req.roomId = "" then
    (.failure "project_id and room_id are required", store)
  else
    match Uuid.parseStr req.messageId with
    | none => (.failure "Invalid message_id UUID", store)
    | some messageId =>
        let message : DbRoomMessageEx :=
          { projectId := req.projectId, roomId := req.roomId, messageId,
            senderId := req.senderId, content := req.content, createdAt := req.timestamp }
        let (r, store) := ChatService.writeRoomMessage db fault message store
        (writeResponse db r, store)

/-! ## Pages -/

/-- Unicode `White_Space`, what `trim` takes off. -/
def isWhitespace (c : Char) : Bool :=
  let n := c.toNat
  (9 ≤ n && n ≤ 13) || n == 32 || n == 0x85 || n == 0xa0 || n == 0x1680 ||
    (0x2000 ≤ n && n ≤ 0x200a) || n == 0x2028 || n == 0x2029 || n == 0x202f || n == 0x205f ||
    n == 0x3000

/-- `s.trim().is_empty()`. -/
def isBlank (s : String) : Bool := s.toList.all isWhitespace

/-- The cursor of a request: a blank text is none. -/
def parseCursor (cursorMessageId : String) : Except String (Option Uuid) :=
  if isBlank cursorMessageId then .ok none
  else
    match Uuid.parseStr cursorMessageId with
    | some uuid => .ok (some uuid)
    | none => .error "Invalid cursor_message_id"

theorem isBlank_toString (u : Uuid) : isBlank u.toString = false := by
  obtain ⟨digits, hlen⟩ := u
  cases digits with
  | nil => simp at hlen
  | cons d ds =>
    have hd : ∀ d : Fin 16, isWhitespace (Uuid.hexDigit d) = false := by decide
    simp [isBlank, Uuid.toString, Uuid.groups, Uuid.hyphenate, hd]

/-- An id as a cursor. -/
@[simp] theorem parseCursor_toString (u : Uuid) : parseCursor u.toString = .ok (some u) := by
  simp [parseCursor, isBlank_toString]

def PageResponse.failure {α : Type} (e : String) : PageResponse α := ⟨false, e, [], ""⟩

/-- A page as a response: the next cursor is the id of its last message, empty for no
message. -/
def pageResponse {α β : Type} (id : α → Uuid) (proto : α → β) (messages : List α) :
    PageResponse β where
  success := true
  errorMessage := ""
  messages := messages.map proto
  nextCursor := (messages.getLast?.map fun m => (id m).toString).getD ""

def ChatServiceImpl.getPaginatedMessages (db : Db) (fault : Option Fault) (store : Store)
    (req : GetPaginatedMessagesRequest) : GetPaginatedMessagesResponse :=
  match parseCursor req.cursorMessageId with
  | .error e => .failure e
  | .ok cursor =>
      if req.projectId = "" ∨ req.conversationId = "" then
        .failure "project_id and conversation_id are required"
      else
        match fetchPaginatedMessages db fault store req.projectId req.conversationId cursor with
        | .ok messages => pageResponse (·.messageId) protoDirectMessage messages
        | .error e => .failure (db.display e)

def ChatServiceImpl.getPaginatedRoomMessages (db : Db) (fault : Option Fault) (store : Store)
    (req : GetPaginatedRoomMessagesRequest) : GetPaginatedRoomMessagesResponse :=
  match parseCursor req.cursorMessageId with
  | .error e => .failure e
  | .ok cursor =>
      if req.projectId = "" ∨ req.roomId = "" then
        .failure "project_id and room_id are required"
      else
        match fetchPaginatedRoomMessages db fault store req.projectId req.roomId cursor with
        | .ok messages => pageResponse (·.messageId) protoRoomMessage messages
        | .error e => .failure (db.display e)

/-! ## The other reads -/

def SyncMessagesResponse.failure (e : String) : SyncMessagesResponse := ⟨false, e, []⟩

def ChatServiceImpl.syncMessages (db : Db) (fault : Option Fault) (store : Store) (req : SyncMessagesRequest) :
    SyncMessagesResponse :=
  match Uuid.parseStr req.lastMessageId with
  | none => .failure "Invalid last_message_id"
  | some lastMessageId =>
      if req.projectId = "" ∨ req.conversationId = "" then
        .failure "project_id and conversation_id are required"
      else
        match fetchMessagesAfter db fault store req.projectId req.conversationId
          lastMessageId with
        | .ok messages => ⟨true, "", messages.map protoDirectMessage⟩
        | .error e => .failure (db.display e)

def FetchConversationHistoryResponse.failure (e : String) : FetchConversationHistoryResponse :=
  ⟨false, e, []⟩

def ChatServiceImpl.fetchConversationHistory (db : Db) (fault : Option Fault) (store : Store)
    (req : FetchConversationHistoryRequest) : FetchConversationHistoryResponse :=
  if req.projectId = "" ∨ req.conversationId = "" then
    .failure "project_id and conversation_id are required"
  else
    match ChatService.fetchConversationHistory db fault store req.projectId req.conversationId with
    | .ok messages => ⟨true, "", messages.map fun (messageId, messageText, senderId, recipientId,
        createdAt) => ⟨messageId.toString, messageText, senderId, recipientId, createdAt⟩⟩
    | .error e => .failure (db.display e)

def FetchUserConversationsResponse.failure (e : String) : FetchUserConversationsResponse :=
  ⟨false, e, []⟩

def ChatServiceImpl.fetchUserConversations (db : Db) (fault : Option Fault) (store : Store)
    (req : FetchUserConversationsRequest) : FetchUserConversationsResponse :=
  match req.tenantUserId with
  | none => .failure "Missing tenant_user_id"
  | some tenantId =>
      if tenantId.projectId = "" ∨ tenantId.userId = "" then
        .failure "project_id and user_id are required"
      else
        match ChatService.fetchUserConversations db fault store tenantId.projectId tenantId.userId with
        | .ok conversations => ⟨true, "", conversations.map fun (c, t) => ⟨c, t⟩⟩
        | .error e => .failure (db.display e)

/-! ## Get or create a conversation -/

def GetSertConversationResponse.failure (e : String) : GetSertConversationResponse :=
  ⟨false, e, "", false⟩

/-- What `get_sert_conversation` refuses before it touches the database. -/
def validateGetSertConversation (req : GetSertConversationRequest) : Except String Unit :=
  if req.projectId = "" ∨ req.userId1 = "" ∨ req.userId2 = "" then
    .error "project_id, user_id_1, and user_id_2 are required"
  else if req.userId1 = req.userId2 then .error "Cannot create conversation with self"
  else .ok ()

/-- The response to the outcome of `getsert_conversation_id`. -/
def getSertConversationResponse (db : Db) :
    Except DbError (String × Bool) → GetSertConversationResponse
  | .ok (conversationId, createdNew) => ⟨true, "", conversationId, createdNew⟩
  | .error e => .failure (db.display e)

def ChatServiceImpl.getSertConversation (db : Db) (selectFault insertFault : Option Fault) (newId : Uuid)
    (now : CqlTimestamp) (store : Store) (req : GetSertConversationRequest) :
    GetSertConversationResponse × Store :=
  match validateGetSertConversation req with
  | .error e => (.failure e, store)
  | .ok () =>
      let (r, store) := getsertConversationId db selectFault insertFault req.projectId
        req.userId1 req.userId2 newId now store
      (getSertConversationResponse db r, store)

/-! ## What the handlers guarantee -/

/-- A successful write has passed every check, and has applied its batch. -/
theorem ChatServiceImpl.writeDm_success {db : Db} {fault : Option Fault} {store store' : Store}
    {req : WriteDmRequest} {resp : WriteDmResponse}
    (h : ChatServiceImpl.writeDm db fault store req = (resp, store')) (hs : resp.success = true) :
    ∃ messageId, Uuid.parseStr req.messageId = some messageId ∧
      store' = store.applyDirectMessage ⟨req.projectId, req.conversationId, messageId,
        req.senderId, req.receiverId, req.message, req.timestamp⟩ := by
  unfold ChatServiceImpl.writeDm at h
  split at h
  · cases h
    cases hs
  · split at h
    · cases h
      cases hs
    · next messageId hp =>
      simp only [writeDirectMessage, Db.batch] at h
      refine ⟨messageId, hp, ?_⟩
      split at h
      · cases h
        cases hs
      · split at h
        · cases h
          cases hs
        · cases h
          rfl

theorem ChatServiceImpl.writeRoomMessage_success {db : Db} {fault : Option Fault}
    {store store' : Store} {req : WriteRoomMessageRequest} {resp : WriteRoomMessageResponse}
    (h : ChatServiceImpl.writeRoomMessage db fault store req = (resp, store'))
    (hs : resp.success = true) :
    ∃ messageId, Uuid.parseStr req.messageId = some messageId ∧
      store' = store.applyRoomMessage ⟨req.projectId, req.roomId, messageId, req.senderId,
        req.content, req.timestamp⟩ := by
  unfold ChatServiceImpl.writeRoomMessage at h
  split at h
  · cases h
    cases hs
  · split at h
    · cases h
      cases hs
    · next messageId hp =>
      simp only [ChatService.writeRoomMessage, Db.batch] at h
      refine ⟨messageId, hp, ?_⟩
      split at h
      · cases h
        cases hs
      · split at h
        · cases h
          cases hs
        · cases h
          rfl

/-- A write request leaves the store as it is, or applies its batch. -/
theorem ChatServiceImpl.writeDm_store (db : Db) (fault : Option Fault) (store : Store)
    (req : WriteDmRequest) :
    (ChatServiceImpl.writeDm db fault store req).2 = store ∨
      ∃ messageId, Uuid.parseStr req.messageId = some messageId ∧
        (ChatServiceImpl.writeDm db fault store req).2 = store.applyDirectMessage
          ⟨req.projectId, req.conversationId, messageId, req.senderId, req.receiverId, req.message,
            req.timestamp⟩ := by
  unfold ChatServiceImpl.writeDm
  split
  · exact .inl rfl
  · split
    · exact .inl rfl
    · next messageId hp =>
      simp only [writeDirectMessage, Db.batch]
      split
      · exact .inl rfl
      · split
        · next f =>
          cases f.applied with
          | true => exact .inr ⟨messageId, hp, rfl⟩
          | false => exact .inl rfl
        · exact .inr ⟨messageId, hp, rfl⟩

/-- A room message leaves the direct messages alone. -/
theorem ChatServiceImpl.writeRoomMessage_directMessages (db : Db) (fault : Option Fault)
    (store : Store) (req : WriteRoomMessageRequest) :
    (ChatServiceImpl.writeRoomMessage db fault store req).2.directMessages =
      store.directMessages := by
  unfold ChatServiceImpl.writeRoomMessage
  split
  · rfl
  · split
    · rfl
    · simp only [ChatService.writeRoomMessage, Db.batch]
      split
      · rfl
      · split
        · next f => cases f.applied <;> rfl
        · rfl

end PerOxo.ChatService
