import PerOxo.ChatService.Migrations
import PerOxo.Lib.Clustered
import PerOxo.Lib.Uuid
import Mathlib.Data.String.Basic

/-!
# The queries of chat-service

`queries.rs` over the tables of `migrations/migration.rs`. Each function first has its
statement admitted by the session (`Db.query`, `Db.batch`) and then does what the statement
does to the typed tables of `Store`. The statement texts of the source appear as
`Cql.Statement`s: the table as it is written there, qualified or not, and the Rust type of
every bound value and decoded column.

A statement can also fail for reasons of the cluster: that is the `Fault` each call gets
from outside. A failing batch may have been applied or not.
-/

set_option autoImplicit false

namespace PerOxo.ChatService

open Cql

/-- Milliseconds, `CqlTimestamp(i64)`. -/
abbrev CqlTimestamp := Int

/-! ## Tables -/

structure DirectMessageRow where
  senderId : String
  recipientId : String
  messageText : String
  createdAt : CqlTimestamp
  deriving DecidableEq, Repr

structure RoomMessageRow where
  senderId : String
  content : String
  createdAt : CqlTimestamp
  deriving DecidableEq, Repr

structure DmLookupRow where
  conversationId : String
  createdAt : CqlTimestamp
  deriving DecidableEq, Repr

/-- The tables, each by partition key. -/
structure Store where
  /-- `PRIMARY KEY ((project_id, conversation_id), message_id)` -/
  directMessages : String × String → Clustered Uuid DirectMessageRow
  /-- `PRIMARY KEY ((project_id, user_id), conversation_id)` -/
  userConversations : String × String → Clustered String CqlTimestamp
  /-- `PRIMARY KEY ((project_id, user_id_1, user_id_2))` -/
  dmLookup : String × String × String → Option DmLookupRow
  /-- `PRIMARY KEY ((project_id, room_id), message_id)` -/
  roomMessages : String × String → Clustered Uuid RoomMessageRow
  /-- `PRIMARY KEY ((project_id), room_id)` -/
  projectRooms : String → Clustered String CqlTimestamp

def Store.empty : Store where
  directMessages _ := .empty
  userConversations _ := .empty
  dmLookup _ := none
  roomMessages _ := .empty
  projectRooms _ := .empty

/-- A failure of the cluster; for a write, whether it was applied nevertheless. -/
structure Fault where
  error : DbError
  applied : Bool

/-- `query_unpaged(..).await?` and the decoding of the rows: the error it ends with, if any. -/
def Db.query (db : Db) (fault : Option Fault) (st : Statement) : Except DbError Unit :=
  match db.session.accept db.schema st with
  | .error e => .error e
  | .ok () =>
      match fault with
      | some f => .error f.error
      | none => .ok ()

/-- `session.batch(..).await?`: one atomic write of all statements. -/
def Db.batch (db : Db) (fault : Option Fault) (sts : List Statement) (apply : Store → Store)
    (store : Store) : Except DbError Unit × Store :=
  match db.session.acceptBatch db.schema sts with
  | .error e => (.error e, store)
  | .ok () =>
      match fault with
      | some f => (.error f.error, if f.applied then apply store else store)
      | none => (.ok (), apply store)

/-- The batch is carried out: the session admits it, and no failure keeps it from being applied. -/
def Db.Applies (db : Db) (fault : Option Fault) (sts : List Statement) : Prop :=
  db.session.acceptBatch db.schema sts = .ok () ∧ ∀ f ∈ fault, f.applied = true

/-- What is left in the store does not depend on the answer. -/
theorem Db.batch_store (db : Db) (fault : Option Fault) (sts : List Statement)
    (apply : Store → Store) (store : Store) :
    (db.Applies fault sts ∧ (db.batch fault sts apply store).2 = apply store) ∨
      (¬ db.Applies fault sts ∧ (db.batch fault sts apply store).2 = store) := by
  unfold Db.Applies Db.batch
  cases ha : db.session.acceptBatch db.schema sts with
  | error e => exact .inr ⟨by simp, rfl⟩
  | ok u =>
    cases fault with
    | none => exact .inl ⟨by simp, rfl⟩
    | some f => cases hf : f.applied <;> simp [hf]

/-! ## Messages as the queries pass them -/

/-- `queries::DirectMessage`, what is written. -/
structure DirectMessage where
  projectId : String
  conversationId : String
  messageId : Uuid
  senderId : String
  recipientId : String
  messageText : String
  createdAt : CqlTimestamp
  deriving DecidableEq

/-- `utils::DbMessage`, what is read. -/
structure DbMessage where
  conversationId : String
  messageId : Uuid
  senderId : String
  recipientId : String
  messageText : String
  createdAt : CqlTimestamp
  deriving DecidableEq

structure DbRoomMessage where
  roomId : String
  messageId : Uuid
  senderId : String
  content : String
  createdAt : CqlTimestamp
  deriving DecidableEq

structure DbRoomMessageEx where
  projectId : String
  roomId : String
  messageId : Uuid
  senderId : String
  content : String
  createdAt : CqlTimestamp
  deriving DecidableEq

def dbMessage (conversationId : String) (x : Uuid × DirectMessageRow) : DbMessage where
  conversationId := conversationId
  messageId := x.1
  senderId := x.2.senderId
  recipientId := x.2.recipientId
  messageText := x.2.messageText
  createdAt := x.2.createdAt

def dbRoomMessage (roomId : String) (x : Uuid × RoomMessageRow) : DbRoomMessage where
  roomId := roomId
  messageId := x.1
  senderId := x.2.senderId
  content := x.2.content
  createdAt := x.2.createdAt

/-! ## Reads -/

def selectUserConversations : Statement where
  table := ⟨some "affinity", "user_conversations"⟩
  binds := [("project_id", .string), ("user_id", .string)]
  reads := [("conversation_id", .string), ("last_message", .cqlTimestamp)]

def fetchUserConversations (db : Db) (fault : Option Fault) (store : Store)
    (projectId userId : String) : Except DbError (List (String × CqlTimestamp)) :=
  match db.query fault selectUserConversations with
  | .error e => .error e
  | .ok () => .ok (store.userConversations (projectId, userId)).rows

def selectConversationHistory : Statement where
  table := ⟨none, "direct_messages"⟩
  binds := [("project_id", .string), ("conversation_id", .string)]
  reads := [("message_id", .uuid), ("message_text", .string), ("sender_id", .string),
    ("recipient_id", .string), ("created_at", .cqlTimestamp)]

/-- The whole partition, as `(message_id, message_text, sender_id, recipient_id, created_at)`. -/
def fetchConversationHistory (db : Db) (fault : Option Fault) (store : Store)
    (projectId conversationId : String) :
    Except DbError (List (Uuid × String × String × String × CqlTimestamp)) :=
  match db.query fault selectConversationHistory with
  | .error e => .error e
  | .ok () =>
      .ok ((store.directMessages (projectId, conversationId)).rows.map fun x =>
        (x.1, x.2.messageText, x.2.senderId, x.2.recipientId, x.2.createdAt))

/-- `LIMIT 50` of the paginated queries. -/
def pageLimit : Nat := 50

/-- The paginated select, without or with the `message_id < ?` of a cursor. -/
def selectPaginatedMessages (withCursor : Bool) : Statement where
  table := ⟨none, "direct_messages"⟩
  binds := [("project_id", .string), ("conversation_id", .string)] ++
    if withCursor then [("message_id", .uuid)] else []
  reads := [("conversation_id", .string), ("message_id", .uuid), ("sender_id", .string),
    ("recipient_id", .string), ("message_text", .string), ("created_at", .cqlTimestamp)]

def fetchPaginatedMessages (db : Db) (fault : Option Fault) (store : Store)
    (projectId conversationId : String) (cursor : Option Uuid) :
    Except DbError (List DbMessage) :=
  match db.query fault (selectPaginatedMessages cursor.isSome) with
  | .error e => .error e
  | .ok () =>
      .ok (((store.directMessages (projectId, conversationId)).page pageLimit cursor).map
        (dbMessage conversationId))

def selectPaginatedRoomMessages (withCursor : Bool) : Statement where
  table := ⟨none, "room_messages"⟩
  binds := [("project_id", .string), ("room_id", .string)] ++
    if withCursor then [("message_id", .uuid)] else []
  reads := [("room_id", .string), ("message_id", .uuid), ("sender_id", .string),
    ("content", .string), ("created_at", .cqlTimestamp)]

def fetchPaginatedRoomMessages (db : Db) (fault : Option Fault) (store : Store)
    (projectId roomId : String) (cursor : Option Uuid) :
    Except DbError (List DbRoomMessage) :=
  match db.query fault (selectPaginatedRoomMessages cursor.isSome) with
  | .error e => .error e
  | .ok () =>
      .ok (((store.roomMessages (projectId, roomId)).page pageLimit cursor).map
        (dbRoomMessage roomId))

/-- `Queries::q_fetch_after_message_id`, prepared at start by `prepare_queries`. -/
def qFetchAfterMessageId : Statement where
  table := ⟨some "affinity", "direct_messages"⟩
  binds := [("project_id", .string), ("conversation_id", .string), ("message_id", .uuid)]
  reads := [("conversation_id", .string), ("message_id", .uuid), ("sender_id", .string),
    ("recipient_id", .string), ("message_text", .string), ("created_at", .cqlTimestamp)]

def fetchMessagesAfter (db : Db) (fault : Option Fault) (store : Store)
    (projectId conversationId : String) (afterMessageId : Uuid) :
    Except DbError (List DbMessage) :=
  match db.query fault qFetchAfterMessageId with
  | .error e => .error e
  | .ok () =>
      .ok (((store.directMessages (projectId, conversationId)).after afterMessageId).map
        (dbMessage conversationId))

/-! ## Writes -/

def insertDirectMessage : Statement where
  table := ⟨some "affinity", "direct_messages"⟩
  binds := [("project_id", .string), ("conversation_id", .string), ("message_id", .cqlTimeuuid),
    ("sender_id", .string), ("recipient_id", .string), ("message_text", .string),
    ("created_at", .cqlTimestamp)]

def insertUserConversation : Statement where
  table := ⟨some "affinity", "user_conversations"⟩
  binds := [("project_id", .string), ("user_id", .string), ("conversation_id", .string),
    ("last_message", .cqlTimestamp)]

def Store.putDirectMessage (s : Store) (m : DirectMessage) : Store :=
  let key := (m.projectId, m.conversationId)
  let row := ⟨m.senderId, m.recipientId, m.messageText, m.createdAt⟩
  let rows := (s.directMessages key).upsert m.messageId row
  { s with directMessages := Function.update s.directMessages key rows }

def Store.putUserConversation (s : Store) (projectId userId conversationId : String)
    (lastMessage : CqlTimestamp) : Store :=
  let key := (projectId, userId)
  let rows := (s.userConversations key).upsert conversationId lastMessage
  { s with userConversations := Function.update s.userConversations key rows }

/-- The batch of `write_direct_message`: the message, then the conversation lists of its
sender and of its recipient. -/
def Store.applyDirectMessage (m : DirectMessage) (s : Store) : Store :=
  ((s.putDirectMessage m).putUserConversation m.projectId m.senderId m.conversationId
    m.createdAt).putUserConversation m.projectId m.recipientId m.conversationId m.createdAt

def writeDirectMessage (db : Db) (fault : Option Fault) (message : DirectMessage)
    (store : Store) : Except DbError Unit × Store :=
  db.batch fault [insertDirectMessage, insertUserConversation, insertUserConversation]
    (Store.applyDirectMessage message) store

/-- Here `message_id` is bound as the `Uuid` it is, not as a `CqlTimeuuid`. -/
def insertRoomMessage : Statement where
  table := ⟨some "affinity", "room_messages"⟩
  binds := [("project_id", .string), ("room_id", .string), ("message_id", .uuid),
    ("sender_id", .string), ("content", .string), ("created_at", .cqlTimestamp)]

def updateProjectRoom : Statement where
  table := ⟨some "affinity", "project_rooms"⟩
  binds := [("last_activity", .cqlTimestamp), ("project_id", .string), ("room_id", .string)]

def Store.putRoomMessage (s : Store) (m : DbRoomMessageEx) : Store :=
  let key := (m.projectId, m.roomId)
  let rows := (s.roomMessages key).upsert m.messageId ⟨m.senderId, m.content, m.createdAt⟩
  { s with roomMessages := Function.update s.roomMessages key rows }

def Store.putProjectRoom (s : Store) (projectId roomId : String) (lastActivity : CqlTimestamp) :
    Store :=
  let rows := (s.projectRooms projectId).upsert roomId lastActivity
  { s with projectRooms := Function.update s.projectRooms projectId rows }

def Store.applyRoomMessage (m : DbRoomMessageEx) (s : Store) : Store :=
  (s.putRoomMessage m).putProjectRoom m.projectId m.roomId m.createdAt

def writeRoomMessage (db : Db) (fault : Option Fault) (message : DbRoomMessageEx)
    (store : Store) : Except DbError Unit × Store :=
  db.batch fault [insertRoomMessage, updateProjectRoom] (Store.applyRoomMessage message) store

/-! ## Get or insert a conversation

`getsert_conversation_id` awaits two statements, and other calls may run between them; so
its two halves are definitions of their own. -/

/-- The two users in the order they have in the key. -/
def sortUsers (userA userB : String) : String × String :=
  if userA < userB then (userA, userB) else (userB, userA)

def selectDmLookup : Statement where
  table := ⟨some "affinity", "dm_lookup"⟩
  binds := [("project_id", .string), ("user_id_1", .string), ("user_id_2", .string)]
  reads := [("conversation_id", .string)]

def insertDmLookup : Statement where
  table := ⟨some "affinity", "dm_lookup"⟩
  binds := [("project_id", .string), ("user_id_1", .string), ("user_id_2", .string),
    ("conversation_id", .string)]

/-- The `SELECT`: the conversation of the pair, if there is one. -/
def getsertSelect (db : Db) (fault : Option Fault) (store : Store)
    (projectId userA userB : String) : Except DbError (Option String) :=
  match db.query fault selectDmLookup with
  | .error e => .error e
  | .ok () => .ok ((store.dmLookup (projectId, sortUsers userA userB)).map (·.conversationId))

def Store.putDmLookup (s : Store) (key : String × String × String) (row : DmLookupRow) : Store :=
  { s with dmLookup := Function.update s.dmLookup key (some row) }

/-- The `INSERT` of a new conversation id, at the server's time `now`. -/
def getsertInsert (db : Db) (fault : Option Fault) (projectId userA userB : String)
    (newConversationId : String) (now : CqlTimestamp) (store : Store) :
    Except DbError Unit × Store :=
  db.batch fault [insertDmLookup]
    (fun s => s.putDmLookup (projectId, sortUsers userA userB) ⟨newConversationId, now⟩) store

/-- The whole call when nothing runs between its statements; `newId` is `Uuid::new_v4()`. -/
def getsertConversationId (db : Db) (selectFault insertFault : Option Fault)
    (projectId userA userB : String) (newId : Uuid) (now : CqlTimestamp) (store : Store) :
    Except DbError (String × Bool) × Store :=
  match getsertSelect db selectFault store projectId userA userB with
  | .error e => (.error e, store)
  | .ok (some existing) => (.ok (existing, false), store)
  | .ok none =>
      match getsertInsert db insertFault projectId userA userB newId.toString now store with
      | (.error e, s) => (.error e, s)
      | (.ok (), s) => (.ok (newId.toString, true), s)

/-! ## What the writes do -/

@[simp] theorem applyDirectMessage_directMessages (s : Store) (m : DirectMessage) :
    (s.applyDirectMessage m).directMessages = Function.update s.directMessages
      (m.projectId, m.conversationId)
      ((s.directMessages (m.projectId, m.conversationId)).upsert m.messageId
        ⟨m.senderId, m.recipientId, m.messageText, m.createdAt⟩) := rfl

@[simp] theorem applyDirectMessage_roomMessages (s : Store) (m : DirectMessage) :
    (s.applyDirectMessage m).roomMessages = s.roomMessages := rfl

@[simp] theorem applyRoomMessage_directMessages (s : Store) (m : DbRoomMessageEx) :
    (s.applyRoomMessage m).directMessages = s.directMessages := rfl

@[simp] theorem applyDirectMessage_projectRooms (s : Store) (m : DirectMessage) :
    (s.applyDirectMessage m).projectRooms = s.projectRooms := rfl

@[simp] theorem applyRoomMessage_roomMessages (s : Store) (m : DbRoomMessageEx) :
    (s.applyRoomMessage m).roomMessages = Function.update s.roomMessages (m.projectId, m.roomId)
      ((s.roomMessages (m.projectId, m.roomId)).upsert m.messageId
        ⟨m.senderId, m.content, m.createdAt⟩) := rfl

@[simp] theorem applyRoomMessage_userConversations (s : Store) (m : DbRoomMessageEx) :
    (s.applyRoomMessage m).userConversations = s.userConversations := rfl

@[simp] theorem applyRoomMessage_projectRooms (s : Store) (m : DbRoomMessageEx) :
    (s.applyRoomMessage m).projectRooms = Function.update s.projectRooms m.projectId
      ((s.projectRooms m.projectId).upsert m.roomId m.createdAt) := rfl

theorem mem_applyDirectMessage (s : Store) (m : DirectMessage) :
    (m.messageId, (⟨m.senderId, m.recipientId, m.messageText, m.createdAt⟩ : DirectMessageRow)) ∈
      ((s.applyDirectMessage m).directMessages (m.projectId, m.conversationId)).rows := by
  rw [applyDirectMessage_directMessages, Function.update_self]
  exact Clustered.mem_upsert.mpr (.inl rfl)

theorem mem_applyRoomMessage (s : Store) (m : DbRoomMessageEx) :
    (m.messageId, (⟨m.senderId, m.content, m.createdAt⟩ : RoomMessageRow)) ∈
      ((s.applyRoomMessage m).roomMessages (m.projectId, m.roomId)).rows := by
  rw [applyRoomMessage_roomMessages, Function.update_self]
  exact Clustered.mem_upsert.mpr (.inl rfl)

theorem mem_putUserConversation {s : Store} {p u c : String} {t : CqlTimestamp}
    {key : String × String} {c' : String} :
    (∃ t', (c', t') ∈ ((s.putUserConversation p u c t).userConversations key).rows) ↔
      (key = (p, u) ∧ c' = c) ∨ ∃ t', (c', t') ∈ (s.userConversations key).rows := by
  by_cases hk : key = (p, u)
  · subst hk
    simp only [Store.putUserConversation, Function.update_self, Clustered.exists_mem_upsert,
      true_and]
  · simp [Store.putUserConversation, hk]

/-- The conversation lists a direct message is entered into: its sender's and its recipient's. -/
theorem mem_applyDirectMessage_userConversations {s : Store} {m : DirectMessage}
    {key : String × String} {c : String} :
    (∃ t, (c, t) ∈ ((s.applyDirectMessage m).userConversations key).rows) ↔
      (key = (m.projectId, m.recipientId) ∧ c = m.conversationId) ∨
      (key = (m.projectId, m.senderId) ∧ c = m.conversationId) ∨
      ∃ t, (c, t) ∈ (s.userConversations key).rows := by
  unfold Store.applyDirectMessage
  rw [mem_putUserConversation, mem_putUserConversation]
  rfl

/-- The entries of the list of a user, after a message that the user has sent or gets. -/
theorem applyDirectMessage_entry {s : Store} {m : DirectMessage} {u : String}
    (hu : u = m.senderId ∨ u = m.recipientId) (c : String) (t : CqlTimestamp) :
    (c, t) ∈ ((s.applyDirectMessage m).userConversations (m.projectId, u)).rows ↔
      (c = m.conversationId ∧ t = m.createdAt) ∨
        ((c, t) ∈ (s.userConversations (m.projectId, u)).rows ∧ c ≠ m.conversationId) := by
  simp only [Store.applyDirectMessage, Store.putUserConversation, Store.putDirectMessage]
  by_cases hr : u = m.recipientId
  · subst hr
    by_cases hs : m.recipientId = m.senderId
    · simp only [hs, Function.update_self, Clustered.mem_upsert, Prod.mk.injEq]
      tauto
    · simp [Function.update_of_ne, hs]
  · obtain rfl := hu.resolve_right hr
    simp [Function.update_of_ne, hr]

/-- The list of anyone else. -/
theorem applyDirectMessage_entry_of_ne {s : Store} {m : DirectMessage} {key : String × String}
    (hs : key ≠ (m.projectId, m.senderId)) (hr : key ≠ (m.projectId, m.recipientId)) :
    (s.applyDirectMessage m).userConversations key = s.userConversations key := by
  simp only [Store.applyDirectMessage, Store.putUserConversation, Store.putDirectMessage]
  rw [Function.update_of_ne hr, Function.update_of_ne hs]

end PerOxo.ChatService
