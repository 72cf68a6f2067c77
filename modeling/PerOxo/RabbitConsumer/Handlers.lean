import PerOxo.Lib.HashMap
import PerOxo.Lib.Json

/-!
# The message handlers of rabbit_consumer

`direct_message.rs`, `room.rs`, and the trait of `message_handler.rs`, over the tables of the
second part of `schema.txt`, each by primary key: an `INSERT` or an `UPDATE` of a row replaces the
one with its key. What `serde_json::from_slice` makes of a payload is a field of a handler.
-/

set_option autoImplicit false

namespace PerOxo.RabbitConsumer

/-- Milliseconds, `CqlTimestamp(i64)`. -/
abbrev CqlTimestamp := Int

structure DirectMessageRow where
  senderId : Int
  recipientId : Int
  messageText : String
  createdAt : CqlTimestamp
  deriving DecidableEq

structure RoomMessageRow where
  senderId : Int
  content : String
  createdAt : CqlTimestamp
  deriving DecidableEq

/-- The tables of the keyspace `affinity`. -/
structure Tables where
  /-- `PRIMARY KEY ((conversation_id), message_id)` -/
  directMessages : HashMap (String × Uuid) DirectMessageRow
  /-- `PRIMARY KEY (user_id, conversation_id)`, and `last_message` -/
  userConversations : HashMap (Int × String) CqlTimestamp
  /-- `PRIMARY KEY ((room_id), message_id)` -/
  roomMessages : HashMap (String × Uuid) RoomMessageRow

def Tables.empty : Tables := ⟨∅, ∅, ∅⟩

/-- How `session.batch` fails: whether the batch has been applied nevertheless. -/
structure WriteFault where
  error : String
  applied : Bool

/-- An implementation of `MessageHandler` that parses a payload of type `P` as a message of type
`M` and writes it, as a row of its table among others. -/
structure MessageHandler (P M K R : Type) [DecidableEq K] where
  fromSlice : P → Except String M
  write : M → Tables → Tables
  table : Tables → HashMap K R
  key : M → K
  row : M → R
  table_write : ∀ m t, table (write m t) = (table t).insert (key m) (row m)

namespace MessageHandler

variable {P M K R : Type} [DecidableEq K]

/-- `process_message`: an error of the write is logged, and is no error of the handler. -/
def processMessage (H : MessageHandler P M K R) (data : P) (fault : Option WriteFault)
    (tables : Tables) : Except String Unit × Tables :=
  match H.fromSlice data with
  | .error e => (.error e, tables)
  | .ok m =>
      match fault with
      | some f => (.ok (), if f.applied then H.write m tables else tables)
      | none => (.ok (), H.write m tables)

end MessageHandler

/-! ## Direct messages -/

structure DirectMessage where
  conversationId : String
  messageId : Uuid
  senderId : Int
  recipientId : Int
  messageText : String
  createdAt : CqlTimestamp
  deriving DecidableEq

def DirectMessage.row (m : DirectMessage) : DirectMessageRow :=
  ⟨m.senderId, m.recipientId, m.messageText, m.createdAt⟩

/-- The batch of `write_direct_message`. -/
def writeDirectMessage (m : DirectMessage) (t : Tables) : Tables :=
  { t with
    directMessages := t.directMessages.insert (m.conversationId, m.messageId) m.row
    userConversations :=
      (t.userConversations.insert (m.senderId, m.conversationId) m.createdAt).insert
        (m.recipientId, m.conversationId) m.createdAt }

def directMessageHandler {P : Type} (fromSlice : P → Except String DirectMessage) :
    MessageHandler P DirectMessage (String × Uuid) DirectMessageRow where
  fromSlice := fromSlice
  write := writeDirectMessage
  table := (·.directMessages)
  key m := (m.conversationId, m.messageId)
  row := DirectMessage.row
  table_write _ _ := rfl

@[simp] theorem fromSlice_directMessageHandler {P : Type}
    (fromSlice : P → Except String DirectMessage) :
    (directMessageHandler fromSlice).fromSlice = fromSlice := rfl

/-! ## Room messages -/

structure RoomMessage where
  roomId : String
  messageId : Uuid
  sender : Int
  content : String
  createdAt : CqlTimestamp
  deriving DecidableEq

def RoomMessage.row (m : RoomMessage) : RoomMessageRow := ⟨m.sender, m.content, m.createdAt⟩

/-- The batch of `write_room_message`. -/
def writeRoomMessage (m : RoomMessage) (t : Tables) : Tables :=
  { t with roomMessages := t.roomMessages.insert (m.roomId, m.messageId) m.row }

def roomMessageHandler {P : Type} (fromSlice : P → Except String RoomMessage) :
    MessageHandler P RoomMessage (String × Uuid) RoomMessageRow where
  fromSlice := fromSlice
  write := writeRoomMessage
  table := (·.roomMessages)
  key m := (m.roomId, m.messageId)
  row := RoomMessage.row
  table_write _ _ := rfl

@[simp] theorem fromSlice_roomMessageHandler {P : Type}
    (fromSlice : P → Except String RoomMessage) :
    (roomMessageHandler fromSlice).fromSlice = fromSlice := rfl

/-! ## Payloads -/

namespace DirectMessage

/-- What the derived `Serialize` of `SerializableDirectMessage` writes. -/
def toJson (m : DirectMessage) : String :=
  String.ofList (Json.stringField '\x7b' "conversation_id" m.conversationId ++
    (Json.stringField ',' "message_id" m.messageId.toString ++
    (Json.intField ',' "sender_id" m.senderId ++
    (Json.intField ',' "recipient_id" m.recipientId ++
    (Json.stringField ',' "message_text" m.messageText ++
    (Json.intField ',' "created_at" m.createdAt ++ ['\x7d']))))))

/-- The derived `Deserialize`, on a text with the fields in this order and no spaces. -/
def readJson (json : String) : Option DirectMessage := do
  let (conversationId, rest) ← Json.readStringField '\x7b' "conversation_id" json.toList
  let (messageId, rest) ← Json.readStringField ',' "message_id" rest
  let messageId ← Uuid.parseStr messageId
  let (senderId, rest) ← Json.readIntField 32 ',' "sender_id" rest
  let (recipientId, rest) ← Json.readIntField 32 ',' "recipient_id" rest
  let (messageText, rest) ← Json.readStringField ',' "message_text" rest
  let (createdAt, rest) ← Json.readIntField 64 ',' "created_at" rest
  if rest = ['\x7d'] then
    some ⟨conversationId, messageId, senderId, recipientId, messageText, createdAt⟩
  else none

def ofJson (json : String) : Except String DirectMessage :=
  match readJson json with
  | some m => .ok m
  | none => .error "invalid payload"

/-- The numbers are `i32` and `i64`. -/
structure WellFormed (m : DirectMessage) : Prop where
  senderId : Json.InRange 32 m.senderId
  recipientId : Json.InRange 32 m.recipientId
  createdAt : Json.InRange 64 m.createdAt

theorem readJson_toJson {m : DirectMessage} (hm : m.WellFormed) : readJson m.toJson = some m := by
  unfold readJson toJson
  rw [String.toList_ofList]
  refine Option.bind_eq_some_iff.mpr ⟨_, Json.readStringField_append _ _ _ _, ?_⟩
  refine Option.bind_eq_some_iff.mpr ⟨_, Json.readStringField_append _ _ _ _, ?_⟩
  refine Option.bind_eq_some_iff.mpr ⟨_, Uuid.parseStr_toString _, ?_⟩
  refine Option.bind_eq_some_iff.mpr ⟨_, Json.readIntField_append hm.senderId _ _ rfl _, ?_⟩
  refine Option.bind_eq_some_iff.mpr ⟨_, Json.readIntField_append hm.recipientId _ _ rfl _, ?_⟩
  refine Option.bind_eq_some_iff.mpr ⟨_, Json.readStringField_append _ _ _ _, ?_⟩
  refine Option.bind_eq_some_iff.mpr ⟨_, Json.readIntField_append hm.createdAt _ _ rfl _, ?_⟩
  exact if_pos rfl

theorem ofJson_toJson {m : DirectMessage} (hm : m.WellFormed) : ofJson m.toJson = .ok m := by
  rw [ofJson, readJson_toJson hm]

end DirectMessage

namespace RoomMessage

/-- What the derived `Serialize` of `SerializableRoomMessage` writes. -/
def toJson (m : RoomMessage) : String :=
  String.ofList (Json.stringField '\x7b' "room_id" m.roomId ++
    (Json.stringField ',' "message_id" m.messageId.toString ++
    (Json.intField ',' "from" m.sender ++
    (Json.stringField ',' "content" m.content ++
    (Json.intField ',' "created_at" m.createdAt ++ ['\x7d'])))))

def readJson (json : String) : Option RoomMessage := do
  let (roomId, rest) ← Json.readStringField '\x7b' "room_id" json.toList
  let (messageId, rest) ← Json.readStringField ',' "message_id" rest
  let messageId ← Uuid.parseStr messageId
  let (sender, rest) ← Json.readIntField 32 ',' "from" rest
  let (content, rest) ← Json.readStringField ',' "content" rest
  let (createdAt, rest) ← Json.readIntField 64 ',' "created_at" rest
  if rest = ['\x7d'] then some ⟨roomId, messageId, sender, content, createdAt⟩ else none

def ofJson (json : String) : Except String RoomMessage :=
  match readJson json with
  | some m => .ok m
  | none => .error "invalid payload"

structure WellFormed (m : RoomMessage) : Prop where
  sender : Json.InRange 32 m.sender
  createdAt : Json.InRange 64 m.createdAt

theorem readJson_toJson {m : RoomMessage} (hm : m.WellFormed) : readJson m.toJson = some m := by
  unfold readJson toJson
  rw [String.toList_ofList]
  refine Option.bind_eq_some_iff.mpr ⟨_, Json.readStringField_append _ _ _ _, ?_⟩
  refine Option.bind_eq_some_iff.mpr ⟨_, Json.readStringField_append _ _ _ _, ?_⟩
  refine Option.bind_eq_some_iff.mpr ⟨_, Uuid.parseStr_toString _, ?_⟩
  refine Option.bind_eq_some_iff.mpr ⟨_, Json.readIntField_append hm.sender _ _ rfl _, ?_⟩
  refine Option.bind_eq_some_iff.mpr ⟨_, Json.readStringField_append _ _ _ _, ?_⟩
  refine Option.bind_eq_some_iff.mpr ⟨_, Json.readIntField_append hm.createdAt _ _ rfl _, ?_⟩
  exact if_pos rfl

theorem ofJson_toJson {m : RoomMessage} (hm : m.WellFormed) : ofJson m.toJson = .ok m := by
  rw [ofJson, readJson_toJson hm]

end RoomMessage

end PerOxo.RabbitConsumer
