import PerOxo.Proof.MongoDb
import PerOxo.Proof.Partition

/-!
# Whether there is more

A page of the history comes with a flag and a cursor. Each of the two backends infers the flag
from the page alone: over Scylla there is more if the page is not empty, over MongoDB if it
is full. `has_more_iff` says for which sizes either is right.

A page is 50 messages of a conversation, and which of the messages are beyond it depends on
their order, which the backends do not share. So the flag is looked at first for any `Pages`.
-/

set_option autoImplicit false

namespace PerOxo

open ChatService PersistenceService

/-- A conversation as a backend keeps it and shows it. -/
structure Pages (K R : Type) [LinearOrder K] where
  rows : Clustered K R
  key : Uuid → K
  read : K × R → ResponseDirectMessage
  key_read : ∀ x, key (read x).messageId = x.1

namespace Pages

variable {K R : Type} [LinearOrder K] (P : Pages K R)

def Stored (m : ResponseDirectMessage) : Prop := ∃ x ∈ P.rows.rows, m = P.read x

/-- Stored, and beyond the last message of the page. -/
def Further (r : PaginatedMessagesResponse) (m : ResponseDirectMessage) : Prop :=
  P.Stored m ∧ ∃ last, r.messages.getLast? = some last ∧ P.key m.messageId < P.key last.messageId

/-- The flag is right, and if it is set the cursor is one from which a walk receives all that is
beyond the page. -/
structure HasMoreExact (walk : Option Uuid → List ResponseDirectMessage → Prop)
    (r : PaginatedMessagesResponse) : Prop where
  exact : r.hasMore = true ↔ ∃ m, P.Further r m
  reached : r.hasMore = true → ∃ id out, r.nextCursor.bind Uuid.parseStr = some id ∧
    walk (some id) out ∧ ∀ m, P.Further r m → m ∈ out

variable {before : Option K} {r : PaginatedMessagesResponse}

variable {P} in
/-- What is beyond a page is what is below its last row. -/
theorem further_iff (hr : r.messages = (P.rows.page 50 before).map P.read)
    {m : ResponseDirectMessage} : P.Further r m ↔ ∃ last,
      (P.rows.page 50 before).getLast? = some last ∧
        m ∈ (P.rows.downFrom (some last.1)).map P.read := by
  unfold Further
  rw [hr, List.getLast?_map]
  constructor
  · intro h
    obtain ⟨⟨x, hx, rfl⟩, m, hm, hlt⟩ := h
    obtain ⟨last, hlast, rfl⟩ := Option.map_eq_some_iff.mp hm
    rw [P.key_read, P.key_read] at hlt
    have hbelow := Clustered.mem_downFrom.mpr ⟨hx, Clustered.below_some.mpr hlt⟩
    exact ⟨last, hlast, List.mem_map_of_mem hbelow⟩
  · intro h
    obtain ⟨last, hlast, hm⟩ := h
    obtain ⟨x, hx, rfl⟩ := List.mem_map.mp hm
    obtain ⟨hx, hlt⟩ := Clustered.mem_downFrom.mp hx
    refine ⟨⟨x, hx, rfl⟩, P.read last, by rw [hlast]; rfl, ?_⟩
    rw [P.key_read, P.key_read]
    exact Clustered.below_some.mp hlt

variable {P} in
/-- There is something beyond a page exactly if more than a page is before its cursor. -/
theorem exists_further_iff (hr : r.messages = (P.rows.page 50 before).map P.read) :
    (∃ m, P.Further r m) ↔ 50 < (P.rows.downFrom before).length := by
  constructor
  · intro h
    obtain ⟨m, hm⟩ := h
    obtain ⟨last, hlast, hm⟩ := (further_iff hr).mp hm
    rw [Clustered.downFrom_last hlast] at hm
    have hpos := List.length_pos_of_mem hm
    rw [List.length_map, List.length_drop] at hpos
    omega
  · intro h
    have hne : P.rows.page 50 before ≠ [] := by
      rw [← List.length_pos_iff, Clustered.page, List.length_take]
      omega
    obtain ⟨last, hlast⟩ := Option.ne_none_iff_exists'.mp (mt List.getLast?_eq_none_iff.mp hne)
    have hrest : 0 < ((P.rows.downFrom (some last.1)).map P.read).length := by
      rw [Clustered.downFrom_last hlast, List.length_map, List.length_drop]
      omega
    obtain ⟨m, hm⟩ := List.exists_mem_of_length_pos hrest
    exact ⟨m, (further_iff hr).mpr ⟨last, hlast, hm⟩⟩

/-- With the last id of a page for cursor, it is enough to look at the flag. -/
theorem hasMoreExact_iff (before : Option K)
    {walk : Option Uuid → List ResponseDirectMessage → Prop}
    (hr : r.messages = (P.rows.page 50 before).map P.read)
    (hcursor : r.nextCursor.bind Uuid.parseStr = r.messages.getLast?.map (·.messageId))
    (hwalk : ∀ cursor, walk cursor ((P.rows.downFrom (cursor.map P.key)).map P.read)) :
    P.HasMoreExact walk r ↔ (r.hasMore = true ↔ 50 < (P.rows.downFrom before).length) := by
  rw [← exists_further_iff hr]
  constructor
  · intro h
    exact h.exact
  · intro h
    refine ⟨h, ?_⟩
    intro hmore
    obtain ⟨m, hm⟩ := h.mp hmore
    obtain ⟨last, hlast, -⟩ := (further_iff hr).mp hm
    have hid : r.messages.getLast?.map (·.messageId) = some (P.read last).messageId := by
      rw [hr, List.getLast?_map, hlast]
      rfl
    refine ⟨_, _, hcursor.trans hid, hwalk _, ?_⟩
    intro m hm
    obtain ⟨last', hlast', hm⟩ := (further_iff hr).mp hm
    obtain rfl := Option.some.inj (hlast.symm.trans hlast')
    rw [Option.map_some, P.key_read]
    exact hm

end Pages

/-! ## Over Scylla -/

section Scylla

variable {db : Db} {store : Store} {projectId conversationId : String} {cursor : Option Uuid}

def scyllaPages (store : Store) (projectId conversationId : String) :
    Pages Uuid DirectMessageRow where
  rows := conversation projectId conversationId store
  key := id
  read x := clientMessage (dbMessage conversationId x)
  key_read _ := rfl

/-- What `handle_get_paginated_messages` makes of a request that chat-service answers. -/
def scyllaReply (db : Db) (fault : Option Fault) (newV4 : Proto.DirectMessage → Uuid)
    (store : Store) (projectId : String) (cursor : Option Uuid) (conversationId : String) :
    Except String PaginatedMessagesResponse :=
  paginatedMessagesResult newV4 (.ok (ChatServiceImpl.getPaginatedMessages db fault store
    (getPaginatedMessagesRequest projectId cursor conversationId)))

/-- A walk while nothing is written. -/
def ScyllaWalk (db : Db) (store : Store) (projectId conversationId : String)
    (cursor : Option Uuid) (out : List ResponseDirectMessage) : Prop :=
  ∃ n, ClientWalk db projectId conversationId cursor (List.replicate n store) out

/-- The flag is set exactly if the page is not empty. -/
theorem scyllaReply_ok {fault : Option Fault} {newV4 : Proto.DirectMessage → Uuid}
    {r : PaginatedMessagesResponse}
    (h : scyllaReply db fault newV4 store projectId cursor conversationId = .ok r) :
    r.messages = clientMessages conversationId
        ((conversation projectId conversationId store).page 50 cursor) ∧
      r.hasMore = !((conversation projectId conversationId store).page 50 cursor).isEmpty ∧
      r.nextCursor.bind Uuid.parseStr =
        ((conversation projectId conversationId store).page 50 cursor).getLast?.map (·.1) := by
  have hreply : ReadKind.history.reply db fault newV4 store
      (getPaginatedMessagesRequest projectId cursor conversationId) =
        .ok (State.chatHistoryResponse r) := by
    show (scyllaReply db fault newV4 store projectId cursor conversationId).map _ = _
    rw [h]
    rfl
  have hpage := history_reply_ok hreply
  simp only [State.chatHistoryResponse, historyPage, ChatMessage.chatHistoryResponse.injEq] at hpage
  exact hpage

theorem scylla_hasMoreExact_iff
    (hok : ∀ cursor, ∃ fault newV4 m, ReadKind.history.reply db fault newV4 store
      (getPaginatedMessagesRequest projectId cursor conversationId) = .ok m)
    {fault : Option Fault} {newV4 : Proto.DirectMessage → Uuid} {r : PaginatedMessagesResponse}
    (h : scyllaReply db fault newV4 store projectId cursor conversationId = .ok r) :
    (scyllaPages store projectId conversationId).HasMoreExact
        (ScyllaWalk db store projectId conversationId) r ↔
      ((conversation projectId conversationId store).downFrom cursor).length = 0 ∨
        50 < ((conversation projectId conversationId store).downFrom cursor).length := by
  obtain ⟨hmessages, hmore, hcursor⟩ := scyllaReply_ok h
  have hlast : r.messages.getLast?.map (·.messageId) =
      ((conversation projectId conversationId store).page 50 cursor).getLast?.map (·.1) := by
    simp [hmessages, clientMessages, clientMessage, dbMessage, Function.comp_def]
  have hwalk : ∀ cursor : Option Uuid, ScyllaWalk db store projectId conversationId cursor
      (clientMessages conversationId
        ((conversation projectId conversationId store).downFrom (cursor.map id))) := by
    intro cursor
    obtain ⟨n, out, hout⟩ := exists_clientWalk hok cursor
    rw [Option.map_id_fun, id, ← clientWalk_const hout]
    exact ⟨n, hout⟩
  rw [(scyllaPages store projectId conversationId).hasMoreExact_iff cursor hmessages
    (hcursor.trans hlast.symm) hwalk, hmore]
  show (_ ↔ 50 < ((conversation projectId conversationId store).downFrom cursor).length) ↔ _
  have hempty : (!((conversation projectId conversationId store).page 50 cursor).isEmpty) = true ↔
      0 < ((conversation projectId conversationId store).downFrom cursor).length := by
    rw [Bool.not_eq_true', List.isEmpty_eq_false_iff, ← List.length_pos_iff, Clustered.page,
      List.length_take]
    omega
  rw [hempty]
  omega

end Scylla

/-! ## Over MongoDB -/

section Mongo

variable {db : MongoDb.Database} {projectId conversationId : String} {cursor : Option Uuid}

def mongoPages (db : MongoDb.Database) (conversationId : String) :
    Pages MongoDb.MessageIdText MongoDb.DirectMessage where
  rows := db.directMessages conversationId
  key := MongoDb.messageIdText
  read := MongoDb.clientMessage conversationId
  key_read x := MongoDb.messageIdText_messageIdOf x.1

theorem mongo_hasMoreExact_iff {fault : Option MongoDb.ReadFault}
    {newV4 : MongoDb.MessageIdText → Uuid} {r : PaginatedMessagesResponse}
    (h : MongoDb.handleGetPaginatedMessages fault newV4 db projectId cursor conversationId =
      .ok r) :
    (mongoPages db conversationId).HasMoreExact
        (MongoDb.MongoWalk db projectId conversationId) r ↔
      ((db.directMessages conversationId).downFrom
        (cursor.map MongoDb.messageIdText)).length ≠ 50 := by
  obtain rfl := MongoDb.handleGetPaginatedMessages_ok h
  have hcursor : (MongoDb.historyPage conversationId ((db.directMessages conversationId).page 50
      (cursor.map MongoDb.messageIdText))).nextCursor.bind Uuid.parseStr =
      (MongoDb.historyPage conversationId ((db.directMessages conversationId).page 50
        (cursor.map MongoDb.messageIdText))).messages.getLast?.map (·.messageId) := by
    cases hl : ((db.directMessages conversationId).page 50
      (cursor.map MongoDb.messageIdText)).getLast? <;>
      simp [MongoDb.historyPage, MongoDb.clientMessage, hl]
  have hwalk : ∀ cursor : Option Uuid, MongoDb.MongoWalk db projectId conversationId cursor
      (((db.directMessages conversationId).downFrom (cursor.map MongoDb.messageIdText)).map
        (MongoDb.clientMessage conversationId)) := by
    intro cursor
    obtain ⟨out, hout⟩ := MongoDb.exists_mongoWalk db projectId conversationId cursor
    rw [← MongoDb.mongoWalk_eq hout]
    exact hout
  rw [(mongoPages db conversationId).hasMoreExact_iff (cursor.map MongoDb.messageIdText) rfl
    hcursor hwalk]
  show (decide _ = true ↔ 50 < ((db.directMessages conversationId).downFrom
    (cursor.map MongoDb.messageIdText)).length) ↔ _
  rw [decide_eq_true_iff, Clustered.page, List.length_take]
  omega

end Mongo

/-- **Whether there is more.** For every store, conversation and cursor, the flag and the cursor
of a page are right exactly if, over Scylla, no message or more than 50 of the conversation are
before the cursor of the request, and over MongoDB if there are not 50. -/
theorem has_more_iff (projectId conversationId : String) (cursor : Option Uuid) :
    (∀ (db : Db) (store : Store),
      (∀ cursor, ∃ fault newV4 m, ReadKind.history.reply db fault newV4 store
        (getPaginatedMessagesRequest projectId cursor conversationId) = .ok m) →
      ∀ (fault : Option Fault) (newV4 : Proto.DirectMessage → Uuid)
        (r : PaginatedMessagesResponse),
        scyllaReply db fault newV4 store projectId cursor conversationId = .ok r →
        ((scyllaPages store projectId conversationId).HasMoreExact
            (ScyllaWalk db store projectId conversationId) r ↔
          ((conversation projectId conversationId store).downFrom cursor).length = 0 ∨
            50 < ((conversation projectId conversationId store).downFrom cursor).length)) ∧
    ∀ (db : MongoDb.Database) (fault : Option MongoDb.ReadFault)
      (newV4 : MongoDb.MessageIdText → Uuid) (r : PaginatedMessagesResponse),
      MongoDb.handleGetPaginatedMessages fault newV4 db projectId cursor conversationId = .ok r →
      ((mongoPages db conversationId).HasMoreExact
          (MongoDb.MongoWalk db projectId conversationId) r ↔
        ((db.directMessages conversationId).downFrom
          (cursor.map MongoDb.messageIdText)).length ≠ 50) :=
  ⟨fun _ _ hok _ _ _ h => scylla_hasMoreExact_iff hok h,
    fun _ _ _ _ h => mongo_hasMoreExact_iff h⟩

/-- The only message, and there is more. -/
def onlyPage : PaginatedMessagesResponse :=
  ⟨[⟨"c", .ofTime 1, "alice", "carol", "hi", 5⟩], some (Uuid.ofTime 1).toString, true⟩

theorem scyllaReply_oneMessage :
    scyllaReply lenientDb none (fun _ => .ofTime 0) oneMessage "acme" none "c" = .ok onlyPage := by
  rfl

theorem not_hasMoreExact_oneMessage :
    scyllaReply lenientDb none (fun _ => .ofTime 0) oneMessage "acme" none "c" = .ok onlyPage ∧
      ¬ (scyllaPages oneMessage "acme" "c").HasMoreExact
        (ScyllaWalk lenientDb oneMessage "acme" "c") onlyPage := by
  refine ⟨scyllaReply_oneMessage, ?_⟩
  rw [scylla_hasMoreExact_iff (lenient_history_ok (by decide) (by decide)) scyllaReply_oneMessage]
  decide

/-- One stored message over either of the two. -/
theorem has_more_iff_oneMessage :
    ((scyllaPages oneMessage "acme" "c").HasMoreExact
        (ScyllaWalk lenientDb oneMessage "acme" "c") onlyPage ↔
      ((conversation "acme" "c" oneMessage).downFrom none).length = 0 ∨
        50 < ((conversation "acme" "c" oneMessage).downFrom none).length) ∧
    ∃ db r, (MongoDb.mongoSystem MongoDb.documented MongoDb.noMessages).exec MongoDb.noMessages
        [(MongoDb.sevenToTwelve, none)] = some db ∧
      (db.directMessages "12_7").rows = [MongoDb.sevenToTwelve.row] ∧
      MongoDb.handleGetPaginatedMessages none (fun _ => .ofTime 0) db "acme" none "12_7" = .ok r ∧
      ((mongoPages db "12_7").HasMoreExact (MongoDb.MongoWalk db "acme" "12_7") r ↔
        ((db.directMessages "12_7").downFrom none).length ≠ 50) := by
  refine ⟨(has_more_iff "acme" "c" none).1 _ _ (lenient_history_ok (by decide) (by decide)) _ _ _
    scyllaReply_oneMessage, ?_⟩
  obtain ⟨db, hdb, hrows⟩ := Option.map_eq_some_iff.mp
    (show ((MongoDb.mongoSystem MongoDb.documented MongoDb.noMessages).exec MongoDb.noMessages
        [(MongoDb.sevenToTwelve, none)]).map (fun db => (db.directMessages "12_7").rows) =
      some [MongoDb.sevenToTwelve.row] from rfl)
  exact ⟨db, _, hdb, hrows, rfl, (has_more_iff "acme" "12_7" none).2 db none _ _ rfl⟩

end PerOxo
