import PerOxo.ChatService.Service

/-!
# Reading back what was written

`DirectReadBack` and `RoomReadBack` say of a database session that a write succeeds and that
every later read brings the message. Which message it is does not matter: they hold exactly
when the session admits the statements of the queries (`direct_read_back_iff`,
`room_read_back_iff`). The session that `main` builds admits neither the reads nor the write of
a room message, so it reads nothing back (`deployed_reads_nothing_back`).
-/

set_option autoImplicit false

namespace PerOxo.ChatService

open Cql

/-! ## Walking through pages -/

/-- Page after page, each from the cursor of the response before, until a response has none.
All calls succeed. -/
inductive PageWalk {β : Type} (ask : String → PageResponse β) : String → List β → Prop
  | stop {cursor : String} (ok : (ask cursor).success = true)
      (last : (ask cursor).nextCursor = "") : PageWalk ask cursor (ask cursor).messages
  | turn {cursor : String} {out : List β} (ok : (ask cursor).success = true)
      (more : (ask cursor).nextCursor ≠ "") (rest : PageWalk ask (ask cursor).nextCursor out) :
      PageWalk ask cursor ((ask cursor).messages ++ out)

section Pages

variable {R α β : Type} {ask : String → PageResponse β} {ident : α → Uuid} {proto : α → β}
  {decode : Uuid × R → α} {t : Clustered Uuid R}

/-- Over a partition that stays the same, a walk through its pages is one of the client. -/
theorem pageWalk_of_walk (hask : ∀ text cursor, parseCursor text = .ok cursor →
      ask text = pageResponse ident proto ((t.page pageLimit cursor).map decode))
    (hid : ∀ x, ident (decode x) = x.1)
    {cursor : Option Uuid} {ts : List (Clustered Uuid R)} {rows : List (Uuid × R)}
    (h : Clustered.Walk pageLimit cursor ts rows) (ht : ∀ t' ∈ ts, t' = t) {text : String}
    (hc : parseCursor text = .ok cursor) :
    PageWalk ask text (rows.map fun x => proto (decode x)) := by
  induction h generalizing text with
  | @stop cursor t' empty =>
    obtain rfl := ht t' List.mem_cons_self
    have hpage := hask text cursor hc
    rw [empty] at hpage
    have hwalk : PageWalk ask text (ask text).messages := by
      apply PageWalk.stop
      · rw [hpage]
        rfl
      · rw [hpage]
        rfl
    rw [hpage] at hwalk
    exact hwalk
  | @turn cursor t' ts last out page rest ih =>
    obtain rfl := ht t' List.mem_cons_self
    have hpage := hask text cursor hc
    have hnext : (ask text).nextCursor = last.1.toString := by
      rw [hpage]
      simp [pageResponse, page, hid]
    have hrest := ih (fun t'' h'' => ht t'' (List.mem_cons_of_mem _ h'')) (parseCursor_toString last.1)
    rw [← hnext] at hrest
    have hwalk := PageWalk.turn (by rw [hpage]; rfl) (hnext ▸ Uuid.toString_ne_empty _) hrest
    rw [hpage] at hwalk
    simpa [pageResponse, Function.comp_def] using hwalk

/-- There is such a walk, and it brings every row. -/
theorem exists_pageWalk (hask : ∀ text cursor, parseCursor text = .ok cursor →
      ask text = pageResponse ident proto ((t.page pageLimit cursor).map decode))
    (hid : ∀ x, ident (decode x) = x.1) :
    ∃ out, PageWalk ask "" out ∧ ∀ x ∈ t.rows, proto (decode x) ∈ out := by
  obtain ⟨n, rows, hwalk⟩ := Clustered.Walk.exists_of_wellFounded pageLimit none fun _ => t
  have hconst : ∀ t' ∈ (List.range n).map fun _ => t, t' = t := by
    intro t' ht'
    obtain ⟨i, -, rfl⟩ := List.mem_map.mp ht'
    rfl
  refine ⟨_, pageWalk_of_walk hask hid hwalk hconst rfl, ?_⟩
  intro x hx
  refine List.mem_map_of_mem (hwalk.complete (by decide) (fun t' ht' => ?_) (Clustered.below_none _))
  rw [hconst t' ht']
  exact hx

end Pages

/-! ## Direct messages -/

/-- What `write_dm` checks of its request. -/
structure WriteDmRequest.Valid (req : WriteDmRequest) (id : Uuid) : Prop where
  projectId : req.projectId ≠ ""
  conversationId : req.conversationId ≠ ""
  messageId : Uuid.parseStr req.messageId = some id

/-- The message of the request is in its conversation. -/
def WriteDmRequest.InStore (req : WriteDmRequest) (id : Uuid) (store : Store) : Prop :=
  (id, ⟨req.senderId, req.receiverId, req.message, req.timestamp⟩) ∈
    (store.directMessages (req.projectId, req.conversationId)).rows

/-- The message of the request as pages and syncs are to bring it. -/
def WriteDmRequest.stored (req : WriteDmRequest) (id : Uuid) : Proto.DirectMessage :=
  ⟨req.conversationId, id.toString, req.senderId, req.receiverId, req.message, req.timestamp⟩

/-- The write succeeds, and as long as its row is there every read succeeds and brings the
message. -/
structure DirectReadBack (db : Db) (store : Store) (req : WriteDmRequest) (id : Uuid) : Prop where
  written : (ChatServiceImpl.writeDm db none store req).1.success = true ∧
    req.InStore id (ChatServiceImpl.writeDm db none store req).2
  pages : ∀ later, req.InStore id later → ∀ text cursor, parseCursor text = .ok cursor →
    (ChatServiceImpl.getPaginatedMessages db none later
      ⟨req.projectId, req.conversationId, text⟩).success = true
  walk : ∀ later, req.InStore id later → ∃ out, PageWalk (fun text =>
    ChatServiceImpl.getPaginatedMessages db none later
      ⟨req.projectId, req.conversationId, text⟩) "" out ∧ req.stored id ∈ out
  history : ∀ later, req.InStore id later →
    (ChatServiceImpl.fetchConversationHistory db none later
      ⟨req.projectId, req.conversationId⟩).success = true ∧
    ⟨id.toString, req.message, req.senderId, req.receiverId, req.timestamp⟩ ∈
      (ChatServiceImpl.fetchConversationHistory db none later
        ⟨req.projectId, req.conversationId⟩).messages
  sync : ∀ later, req.InStore id later → ∀ text last, Uuid.parseStr text = some last →
    (ChatServiceImpl.syncMessages db none later
      ⟨req.projectId, req.conversationId, text⟩).success = true ∧
    (last < id → req.stored id ∈ (ChatServiceImpl.syncMessages db none later
      ⟨req.projectId, req.conversationId, text⟩).messages)

/-- The session admits the statements for direct messages. -/
structure DirectAdmitted (db : Db) : Prop where
  insert : db.session.acceptBatch db.schema
    [insertDirectMessage, insertUserConversation, insertUserConversation] = .ok ()
  pages : ∀ withCursor, db.session.accept db.schema (selectPaginatedMessages withCursor) = .ok ()
  history : db.session.accept db.schema selectConversationHistory = .ok ()
  sync : db.session.accept db.schema qFetchAfterMessageId = .ok ()

section Direct

variable {db : Db} {store : Store} {req : WriteDmRequest} {id : Uuid}

theorem query_none (db : Db) (st : Statement) :
    db.query none st = db.session.accept db.schema st := by
  unfold Db.query
  cases db.session.accept db.schema st <;> rfl

theorem writeDm_of_valid (hv : req.Valid id) :
    ChatServiceImpl.writeDm db none store req =
      match db.session.acceptBatch db.schema
        [insertDirectMessage, insertUserConversation, insertUserConversation] with
      | .ok () => (⟨true, ""⟩, store.applyDirectMessage ⟨req.projectId, req.conversationId, id,
          req.senderId, req.receiverId, req.message, req.timestamp⟩)
      | .error e => (.failure (db.display e), store) := by
  have hne : ¬ (req.projectId = "" ∨ req.conversationId = "") := by
    rintro (h | h)
    · exact hv.projectId h
    · exact hv.conversationId h
  unfold ChatServiceImpl.writeDm
  simp only [if_neg hne, hv.messageId, writeDirectMessage, Db.batch]
  cases db.session.acceptBatch db.schema
    [insertDirectMessage, insertUserConversation, insertUserConversation] <;> rfl

theorem getPaginatedMessages_of_parse {projectId conversationId text : String}
    {cursor : Option Uuid} (hp : projectId ≠ "") (hc : conversationId ≠ "")
    (ht : parseCursor text = .ok cursor) :
    ChatServiceImpl.getPaginatedMessages db none store ⟨projectId, conversationId, text⟩ =
      match db.session.accept db.schema (selectPaginatedMessages cursor.isSome) with
      | .ok () => pageResponse (·.messageId) protoDirectMessage
          (((store.directMessages (projectId, conversationId)).page pageLimit cursor).map
            (dbMessage conversationId))
      | .error e => .failure (db.display e) := by
  simp only [ChatServiceImpl.getPaginatedMessages, ht, hp, hc, or_self, if_false,
    fetchPaginatedMessages, query_none]
  cases db.session.accept db.schema (selectPaginatedMessages cursor.isSome) <;> rfl

theorem fetchConversationHistory_of_ne {projectId conversationId : String} (hp : projectId ≠ "")
    (hc : conversationId ≠ "") :
    ChatServiceImpl.fetchConversationHistory db none store ⟨projectId, conversationId⟩ =
      match db.session.accept db.schema selectConversationHistory with
      | .ok () => ⟨true, "", (store.directMessages (projectId, conversationId)).rows.map fun x =>
          ⟨x.1.toString, x.2.messageText, x.2.senderId, x.2.recipientId, x.2.createdAt⟩⟩
      | .error e => .failure (db.display e) := by
  simp only [ChatServiceImpl.fetchConversationHistory, hp, hc, or_self, if_false,
    fetchConversationHistory, query_none]
  cases db.session.accept db.schema selectConversationHistory with
  | error e => rfl
  | ok => simp [Function.comp_def]

theorem syncMessages_of_parse {projectId conversationId text : String} {last : Uuid}
    (hp : projectId ≠ "") (hc : conversationId ≠ "") (ht : Uuid.parseStr text = some last) :
    ChatServiceImpl.syncMessages db none store ⟨projectId, conversationId, text⟩ =
      match db.session.accept db.schema qFetchAfterMessageId with
      | .ok () => ⟨true, "", ((store.directMessages (projectId, conversationId)).after last).map
          fun x => protoDirectMessage (dbMessage conversationId x)⟩
      | .error e => .failure (db.display e) := by
  simp only [ChatServiceImpl.syncMessages, ht, hp, hc, or_self, if_false, fetchMessagesAfter,
    query_none]
  cases db.session.accept db.schema qFetchAfterMessageId with
  | error e => rfl
  | ok => simp [Function.comp_def]

/-- Both forms of the query are asked for: without a cursor, and with one. -/
theorem exists_cursor (id : Uuid) (withCursor : Bool) :
    ∃ text cursor, parseCursor text = .ok cursor ∧ cursor.isSome = withCursor := by
  cases withCursor with
  | false => exact ⟨"", none, rfl, rfl⟩
  | true => exact ⟨id.toString, some id, parseCursor_toString id, rfl⟩

/-- **When direct messages are read back**: exactly if the session admits their statements,
whichever message it is. -/
theorem direct_read_back_iff (hv : req.Valid id) :
    DirectReadBack db store req id ↔ DirectAdmitted db := by
  constructor
  · intro h
    obtain ⟨hsucc, hin⟩ := h.written
    refine ⟨?_, fun withCursor => ?_, ?_, ?_⟩
    · rw [writeDm_of_valid hv] at hsucc
      split at hsucc
      · next hacc => exact hacc
      · cases hsucc
    · obtain ⟨text, cursor, ht, rfl⟩ := exists_cursor id withCursor
      have hsucc := h.pages _ hin text cursor ht
      rw [getPaginatedMessages_of_parse hv.projectId hv.conversationId ht] at hsucc
      split at hsucc
      · next hacc => exact hacc
      · cases hsucc
    · have hsucc := (h.history _ hin).1
      rw [fetchConversationHistory_of_ne hv.projectId hv.conversationId] at hsucc
      split at hsucc
      · next hacc => exact hacc
      · cases hsucc
    · have hsucc := (h.sync _ hin id.toString id (Uuid.parseStr_toString id)).1
      rw [syncMessages_of_parse hv.projectId hv.conversationId (Uuid.parseStr_toString id)] at hsucc
      split at hsucc
      · next hacc => exact hacc
      · cases hsucc
  · intro h
    refine ⟨?_, fun later hin text cursor ht => ?_, fun later hin => ?_, fun later hin => ?_,
      fun later hin text last ht => ?_⟩
    · simp only [writeDm_of_valid hv, h.insert, true_and]
      exact mem_applyDirectMessage _ _
    · rw [getPaginatedMessages_of_parse hv.projectId hv.conversationId ht, h.pages]
      rfl
    · have hask : ∀ text cursor, parseCursor text = .ok cursor →
          ChatServiceImpl.getPaginatedMessages db none later
              ⟨req.projectId, req.conversationId, text⟩ =
            pageResponse (·.messageId) protoDirectMessage
              (((later.directMessages (req.projectId, req.conversationId)).page pageLimit
                cursor).map (dbMessage req.conversationId)) := by
        intro text cursor ht
        rw [getPaginatedMessages_of_parse hv.projectId hv.conversationId ht, h.pages]
      obtain ⟨out, hwalk, hout⟩ := exists_pageWalk hask fun x => rfl
      exact ⟨out, hwalk, hout _ hin⟩
    · simp only [fetchConversationHistory_of_ne hv.projectId hv.conversationId, h.history, true_and]
      exact List.mem_map.mpr ⟨_, hin, rfl⟩
    · simp only [syncMessages_of_parse hv.projectId hv.conversationId ht, h.sync, true_and]
      intro hlt
      exact List.mem_map.mpr ⟨_, Clustered.mem_after.mpr ⟨hin, hlt⟩, rfl⟩

end Direct

/-! ## Room messages -/

/-- What `write_room_message` checks of its request. -/
structure WriteRoomMessageRequest.Valid (req : WriteRoomMessageRequest) (id : Uuid) : Prop where
  projectId : req.projectId ≠ ""
  roomId : req.roomId ≠ ""
  messageId : Uuid.parseStr req.messageId = some id

def WriteRoomMessageRequest.InStore (req : WriteRoomMessageRequest) (id : Uuid) (store : Store) :
    Prop :=
  (id, ⟨req.senderId, req.content, req.timestamp⟩) ∈
    (store.roomMessages (req.projectId, req.roomId)).rows

def WriteRoomMessageRequest.stored (req : WriteRoomMessageRequest) (id : Uuid) :
    Proto.RoomMessage :=
  ⟨req.roomId, id.toString, req.senderId, req.content, req.timestamp⟩

structure RoomReadBack (db : Db) (store : Store) (req : WriteRoomMessageRequest) (id : Uuid) :
    Prop where
  written : (ChatServiceImpl.writeRoomMessage db none store req).1.success = true ∧
    req.InStore id (ChatServiceImpl.writeRoomMessage db none store req).2
  pages : ∀ later, req.InStore id later → ∀ text cursor, parseCursor text = .ok cursor →
    (ChatServiceImpl.getPaginatedRoomMessages db none later
      ⟨req.projectId, req.roomId, text⟩).success = true
  walk : ∀ later, req.InStore id later → ∃ out, PageWalk (fun text =>
    ChatServiceImpl.getPaginatedRoomMessages db none later
      ⟨req.projectId, req.roomId, text⟩) "" out ∧ req.stored id ∈ out

/-- The session admits the statements for room messages. -/
structure RoomAdmitted (db : Db) : Prop where
  insert : db.session.acceptBatch db.schema [insertRoomMessage, updateProjectRoom] = .ok ()
  pages : ∀ withCursor,
    db.session.accept db.schema (selectPaginatedRoomMessages withCursor) = .ok ()

section Room

variable {db : Db} {store : Store} {req : WriteRoomMessageRequest} {id : Uuid}

theorem writeRoomMessage_of_valid (hv : req.Valid id) :
    ChatServiceImpl.writeRoomMessage db none store req =
      match db.session.acceptBatch db.schema [insertRoomMessage, updateProjectRoom] with
      | .ok () => (⟨true, ""⟩, store.applyRoomMessage ⟨req.projectId, req.roomId, id,
          req.senderId, req.content, req.timestamp⟩)
      | .error e => (.failure (db.display e), store) := by
  have hne : ¬ (req.projectId = "" ∨ req.roomId = "") := by
    rintro (h | h)
    · exact hv.projectId h
    · exact hv.roomId h
  unfold ChatServiceImpl.writeRoomMessage
  simp only [if_neg hne, hv.messageId, ChatService.writeRoomMessage, Db.batch]
  cases db.session.acceptBatch db.schema [insertRoomMessage, updateProjectRoom] <;> rfl

theorem getPaginatedRoomMessages_of_parse {projectId roomId text : String} {cursor : Option Uuid}
    (hp : projectId ≠ "") (hr : roomId ≠ "") (ht : parseCursor text = .ok cursor) :
    ChatServiceImpl.getPaginatedRoomMessages db none store ⟨projectId, roomId, text⟩ =
      match db.session.accept db.schema (selectPaginatedRoomMessages cursor.isSome) with
      | .ok () => pageResponse (·.messageId) protoRoomMessage
          (((store.roomMessages (projectId, roomId)).page pageLimit cursor).map
            (dbRoomMessage roomId))
      | .error e => .failure (db.display e) := by
  simp only [ChatServiceImpl.getPaginatedRoomMessages, ht, hp, hr, or_self, if_false,
    fetchPaginatedRoomMessages, query_none]
  cases db.session.accept db.schema (selectPaginatedRoomMessages cursor.isSome) <;> rfl

/-- **When room messages are read back.** -/
theorem room_read_back_iff (hv : req.Valid id) :
    RoomReadBack db store req id ↔ RoomAdmitted db := by
  constructor
  · intro h
    obtain ⟨hsucc, hin⟩ := h.written
    refine ⟨?_, fun withCursor => ?_⟩
    · rw [writeRoomMessage_of_valid hv] at hsucc
      split at hsucc
      · next hacc => exact hacc
      · cases hsucc
    · obtain ⟨text, cursor, ht, rfl⟩ := exists_cursor id withCursor
      have hsucc := h.pages _ hin text cursor ht
      rw [getPaginatedRoomMessages_of_parse hv.projectId hv.roomId ht] at hsucc
      split at hsucc
      · next hacc => exact hacc
      · cases hsucc
  · intro h
    refine ⟨?_, fun later hin text cursor ht => ?_, fun later hin => ?_⟩
    · simp only [writeRoomMessage_of_valid hv, h.insert, true_and]
      exact mem_applyRoomMessage _ _
    · rw [getPaginatedRoomMessages_of_parse hv.projectId hv.roomId ht, h.pages]
      rfl
    · have hask : ∀ text cursor, parseCursor text = .ok cursor →
          ChatServiceImpl.getPaginatedRoomMessages db none later
              ⟨req.projectId, req.roomId, text⟩ =
            pageResponse (·.messageId) protoRoomMessage
              (((later.roomMessages (req.projectId, req.roomId)).page pageLimit cursor).map
                (dbRoomMessage req.roomId)) := by
        intro text cursor ht
        rw [getPaginatedRoomMessages_of_parse hv.projectId hv.roomId ht, h.pages]
      obtain ⟨out, hwalk, hout⟩ := exists_pageWalk hask fun x => rfl
      exact ⟨out, hwalk, hout _ hin⟩

end Room

/-! ## The deployment -/

/-- No direct message and no room message is read back. -/
def ReadsNothingBack (db : Db) : Prop :=
  (∀ store req id, req.Valid id → ¬ DirectReadBack db store req id) ∧
    ∀ store req id, req.Valid id → ¬ RoomReadBack db store req id

section Deployed

variable (display : DbError → String)

/-- The reads do not name the keyspace, and the session has none. -/
theorem main_rejects_pages (withCursor : Bool) :
    mainSession.accept migratedTables (selectPaginatedMessages withCursor) = .error .noKeyspace :=
  Session.accept_unqualified rfl rfl

/-- The write of a room message names it, but binds a `Uuid` to a `timeuuid`. -/
theorem main_rejects_room_writes :
    mainSession.acceptBatch migratedTables [insertRoomMessage, updateProjectRoom] =
      .error (.typeMismatch "message_id" .uuid .timeuuid) := rfl

/-- **The deployed store reads nothing back**: there is no message for which it does what it is
there for. -/
theorem deployed_reads_nothing_back :
    ∃ db, deployed display = .ok db ∧ ReadsNothingBack db := by
  refine ⟨_, deployed_eq display, ?_, ?_⟩
  · intro store req id hv hback
    have hpages := ((direct_read_back_iff hv).mp hback).pages false
    rw [main_rejects_pages] at hpages
    cases hpages
  · intro store req id hv hback
    have hinsert := ((room_read_back_iff hv).mp hback).insert
    rw [main_rejects_room_writes] at hinsert
    cases hinsert

end Deployed

def greeting : WriteDmRequest :=
  ⟨"acme", "c", "alice", "carol", "hi", (Uuid.ofTime 1).toString, 5⟩

def roomGreeting : WriteRoomMessageRequest :=
  ⟨"acme", "lobby", "alice", "hi", (Uuid.ofTime 2).toString, 6⟩

theorem greeting_valid : greeting.Valid (.ofTime 1) :=
  ⟨by decide, by decide, Uuid.parseStr_toString _⟩

/-- One is written and cannot be read in any way, the other is not even written. -/
theorem greeting_not_read_back :
    deployed (fun _ => "database error") = .ok mainDb ∧
      (ChatServiceImpl.writeDm mainDb none .empty greeting).1 = ⟨true, ""⟩ ∧
      (ChatServiceImpl.getPaginatedMessages mainDb none
        (ChatServiceImpl.writeDm mainDb none .empty greeting).2 ⟨"acme", "c", ""⟩) =
          .failure "database error" ∧
      (ChatServiceImpl.fetchConversationHistory mainDb none
        (ChatServiceImpl.writeDm mainDb none .empty greeting).2 ⟨"acme", "c"⟩) =
          .failure "database error" ∧
      (ChatServiceImpl.syncMessages mainDb none
        (ChatServiceImpl.writeDm mainDb none .empty greeting).2
          ⟨"acme", "c", (Uuid.ofTime 0).toString⟩) = .failure "database error" ∧
      (ChatServiceImpl.writeRoomMessage mainDb none .empty roomGreeting).1 =
        .failure "database error" ∧
      ¬ DirectReadBack mainDb .empty greeting (.ofTime 1) := by
  refine ⟨rfl, rfl, rfl, rfl, rfl, rfl, ?_⟩
  intro hback
  have hsucc := (hback.history _ hback.written.2).1
  cases hsucc

theorem deployed_reads_nothing_back_greeting :
    ∃ db, deployed (fun _ => "database error") = .ok db ∧ greeting.Valid (.ofTime 1) ∧
      ¬ DirectReadBack db .empty greeting (.ofTime 1) := by
  obtain ⟨db, hdb, hno, -⟩ := deployed_reads_nothing_back fun _ => "database error"
  exact ⟨db, hdb, greeting_valid, hno _ _ _ greeting_valid⟩

end PerOxo.ChatService
