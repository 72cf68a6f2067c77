import Mathlib.Data.Set.Operations
import Mathlib.Data.String.Basic
import PerOxo.Chat
import PerOxo.Lib.Clustered
import PerOxo.Lib.Decimal
import PerOxo.Lib.Machine

/-!
# Persistence in the `mongo_db` build

`mongo_db/models.rs`, and the branches of `persistance_actor/handlers.rs` under that feature:
direct messages are written to MongoDB and read from there, and chat-service gets neither.

The arguments `conversation_id` of the writer and `project_id` of the reader are taken and not
looked at. `mongoSystem` is the writer at work: the runs of calls that return `Ok`.
-/

set_option autoImplicit false

namespace PerOxo.MongoDb

/-! ## Documents -/

/-- The text of a message id is what `to_string` gives, so every stored one is. -/
abbrev MessageIdText := Set.range Uuid.toString

def messageIdText : Uuid → MessageIdText := Set.rangeFactorization Uuid.toString

structure DirectMessageId where
  conversationId : String
  messageId : MessageIdText
  deriving DecidableEq

/-- A document of `direct_messages`, without its `_id`. -/
structure DirectMessage where
  senderId : Int32
  recipientId : Int32
  messageText : String
  createdAt : Int
  deriving DecidableEq

structure UserConversationId where
  userId : Int32
  conversationId : String
  deriving DecidableEq

/-- The two collections. Documents of `direct_messages` stand by the two parts of their `_id`,
and all that is left of one of `user_conversations` is its `last_message`. -/
structure Database where
  directMessages : String → Clustered MessageIdText DirectMessage
  userConversations : UserConversationId → Option Int

/-- What the server decides. -/
structure Server where
  /-- Its error for an `_id` that is taken. -/
  duplicateKey : DirectMessageId → String
  /-- An upsert that finds no document creates it, or this is the error: it is documented to
  refuse filters that name parts of the `_id`, as those of the source do. -/
  upsert : UserConversationId → Except String Unit

namespace Database

def insertOne (server : Server) (db : Database) (id : DirectMessageId) (message : DirectMessage) :
    Except String Database :=
  if id.messageId ∈ (db.directMessages id.conversationId).rows.map (·.1) then
    .error (server.duplicateKey id)
  else
    .ok { db with
      directMessages := Clustered.upsertAt id.conversationId id.messageId message
        db.directMessages }

/-- `update_one` with `$set: last_message` and `upsert(true)`. -/
def updateOne (server : Server) (db : Database) (id : UserConversationId) (lastMessage : Int) :
    Except String Database :=
  let updated := { db with
    userConversations := Function.update db.userConversations id (some lastMessage) }
  match db.userConversations id with
  | some _ => .ok updated
  | none => (server.upsert id).map fun () => updated

end Database

/-! ## Writing -/

/-- A call to the database fails. Where it is the answer to the commit that gets lost, the
transaction may be committed all the same. -/
structure Fault where
  error : String
  committed : Bool
  deriving DecidableEq

def insertMessageInMongo (server : Server) (fault : Option Fault) (db : Database)
    (id : DirectMessageId) (message : DirectMessage) : Except String Unit × Database :=
  let transaction : Except String Database := do
    let db ← db.insertOne server id message
    let db ← db.updateOne server ⟨message.senderId, id.conversationId⟩ message.createdAt
    db.updateOne server ⟨message.recipientId, id.conversationId⟩ message.createdAt
  match fault, transaction with
  | none, .ok db' => (.ok (), db')
  | none, .error e => (.error e, db)
  | some f, .ok db' => (.error f.error, if f.committed then db' else db)
  | some f, .error _ => (.error f.error, db)

/-- The arguments of `handle_persist_direct_message`. -/
structure PersistDirectMessage where
  conversationId : String
  tenantSenderId : TenantUserId
  tenantReceiverId : TenantUserId
  messageContent : String
  messageId : Uuid
  timestamp : Int
  deriving DecidableEq

/-- The conversation a message goes to: its two users, the lesser text first. -/
def conversationKey (senderId receiverId : String) : String :=
  if senderId < receiverId then senderId ++ "_" ++ receiverId
  else receiverId ++ "_" ++ senderId

/-- `parse::<i32>().unwrap_or_default()` -/
def storedUserId (userId : String) : Int32 := (Int32.parseStr userId).getD 0

namespace PersistDirectMessage

def key (m : PersistDirectMessage) : String :=
  conversationKey m.tenantSenderId.userId m.tenantReceiverId.userId

def document (m : PersistDirectMessage) : DirectMessage where
  senderId := storedUserId m.tenantSenderId.userId
  recipientId := storedUserId m.tenantReceiverId.userId
  messageText := m.messageContent
  createdAt := m.timestamp

end PersistDirectMessage

def handlePersistDirectMessage (server : Server) (fault : Option Fault) (db : Database)
    (m : PersistDirectMessage) : Except String Unit × Database :=
  match insertMessageInMongo server fault db ⟨m.key, messageIdText m.messageId⟩ m.document with
  | (.error e, db) => (.error ("MongoDB persistence failed: " ++ e), db)
  | (.ok (), db) => (.ok (), db)

/-- Calls one after the other, each of which returns `Ok`. -/
def mongoSystem (server : Server) (db : Database) :
    Machine Database (PersistDirectMessage × Option Fault) where
  init := db
  step db call :=
    match handlePersistDirectMessage server call.2 db call.1 with
    | (.ok (), db) => some db
    | (.error _, _) => none

/-! ## Reading -/

inductive ReadFault
  | query (e : String)
  | iterate (e : String)
  deriving DecidableEq

/-- `newV4` is what `Uuid::new_v4()` gives in place of an id that does not parse. -/
def responseDirectMessage (newV4 : MessageIdText → Uuid) (conversationId : String)
    (doc : MessageIdText × DirectMessage) : ResponseDirectMessage where
  conversationId := conversationId
  messageId := (Uuid.parseStr doc.1).getD (newV4 doc.1)
  senderId := toString doc.2.senderId
  recipientId := toString doc.2.recipientId
  messageText := doc.2.messageText
  createdAt := doc.2.createdAt

def fetchPaginatedMessagesFromMongo (fault : Option ReadFault) (newV4 : MessageIdText → Uuid)
    (db : Database) (conversationId : String) (cursor : Option Uuid) :
    Except String PaginatedMessagesResponse :=
  match fault with
  | some (.query e) => .error ("MongoDB query failed: " ++ e)
  | some (.iterate e) => .error ("Failed to iterate cursor: " ++ e)
  | none =>
      let docs := (db.directMessages conversationId).page 50 (cursor.map messageIdText)
      let messages := docs.map (responseDirectMessage newV4 conversationId)
      .ok { messages := messages
            nextCursor := messages.getLast?.map (·.messageId.toString)
            hasMore := messages.length = 50 }

def handleGetPaginatedMessages (fault : Option ReadFault) (newV4 : MessageIdText → Uuid)
    (db : Database) (_projectId : String) (messageId : Option Uuid) (conversationId : String) :
    Except String PaginatedMessagesResponse :=
  fetchPaginatedMessagesFromMongo fault newV4 db conversationId messageId

end PerOxo.MongoDb
