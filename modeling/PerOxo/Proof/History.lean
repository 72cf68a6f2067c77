import PerOxo.Proof.Reads
import PerOxo.Proof.Delivery

/-!
# Which messages a session can read

The replies to `GetPaginatedMessages` and `SyncMessages`, worked out from the frame to the
response (`history_reply`, `sync_reply`), and what a session gets to read in a run
(`reads_scope`): the answer that its own frame has from the store of some moment before
(`answerTo`), which is rows of the project and the conversation that the **frame** names. Who the
session belongs to is not looked at on the way: `answerTo` is not even told.
-/

set_option autoImplicit false

namespace PerOxo

open ChatService PersistenceService

/-! ## The cursor -/

/-- A cursor survives the way to chat-service. -/
theorem parseCursor_request (projectId conversationId : String) (cursor : Option Uuid) :
    parseCursor (getPaginatedMessagesRequest projectId cursor conversationId).cursorMessageId =
      .ok cursor := by
  cases cursor with
  | none => rfl
  | some u => exact parseCursor_toString u

/-! ## Replies -/

/-- The messages of rows of a conversation, as the client gets them. -/
def clientMessages (conversationId : String) (rows : List (Uuid × DirectMessageRow)) :
    List ResponseDirectMessage :=
  rows.map fun x => clientMessage (dbMessage conversationId x)

/-- A page as the client gets it: there are more pages, it says, if there is any row, and the
cursor for them is the id of the last one. -/
def historyPage (conversationId : String) (rows : List (Uuid × DirectMessageRow)) : ChatMessage :=
  .chatHistoryResponse (clientMessages conversationId rows) (!rows.isEmpty)
    (rows.getLast?.map (·.1))

section Reply

variable {db : Db} {fault : Option Fault} {newV4 : Proto.DirectMessage → Uuid} {store : Store}

theorem clientMessages_eq (newV4 : Proto.DirectMessage → Uuid) (conversationId : String)
    (rows : List (Uuid × DirectMessageRow)) :
    ((rows.map (dbMessage conversationId)).map protoDirectMessage).map
      (responseDirectMessage newV4) = clientMessages conversationId rows := by
  simp [clientMessages, Function.comp_def]

/-- Back on the way to the client the cursor survives too. -/
theorem chatHistoryResponse_page (conversationId : String)
    (rows : List (Uuid × DirectMessageRow)) :
    (paginatedMessagesResult newV4 (.ok (pageResponse (·.messageId) protoDirectMessage
      (rows.map (dbMessage conversationId))))).map State.chatHistoryResponse =
      .ok (historyPage conversationId rows) := by
  have hms := clientMessages_eq newV4 conversationId rows
  cases hl : rows.getLast? with
  | none =>
    obtain rfl := List.getLast?_eq_none_iff.mp hl
    rfl
  | some x =>
    have hne : rows.isEmpty = false := by
      cases rows with
      | nil => simp at hl
      | cons y ys => rfl
    simp [paginatedMessagesResult, pageResponse, State.chatHistoryResponse, historyPage, hl, hne,
      Except.map, dbMessage, Uuid.toString_ne_empty] at hms ⊢
    exact hms

/-- **The reply to a `GetPaginatedMessages`.** -/
theorem history_reply (projectId conversationId : String) (cursor : Option Uuid) :
    ReadKind.history.reply db fault newV4 store
        (getPaginatedMessagesRequest projectId cursor conversationId) =
      if projectId = "" ∨ conversationId = "" then
        .error "project_id and conversation_id are required"
      else
        match db.query fault (selectPaginatedMessages cursor.isSome) with
        | .ok () => .ok (historyPage conversationId
            ((store.directMessages (projectId, conversationId)).page pageLimit cursor))
        | .error e => .error (db.display e) := by
  have hcur := parseCursor_request projectId conversationId cursor
  unfold getPaginatedMessagesRequest at hcur ⊢
  simp only [ReadKind.reply, ReadKind.history, ChatServiceImpl.getPaginatedMessages, hcur]
  by_cases hne : projectId = "" ∨ conversationId = ""
  · simp only [if_pos hne]
    rfl
  · simp only [if_neg hne, fetchPaginatedMessages]
    cases db.query fault (selectPaginatedMessages cursor.isSome) with
    | error e => rfl
    | ok => exact chatHistoryResponse_page conversationId _

/-- **The reply to a `SyncMessages`.** -/
theorem sync_reply (projectId conversationId : String) (messageId : Uuid) :
    ReadKind.sync.reply db fault newV4 store
        (syncMessagesRequest projectId conversationId messageId) =
      if projectId = "" ∨ conversationId = "" then
        .error "project_id and conversation_id are required"
      else
        match db.query fault qFetchAfterMessageId with
        | .ok () => .ok (.syncMessagesResponse (clientMessages conversationId
            ((store.directMessages (projectId, conversationId)).after messageId)))
        | .error e => .error (db.display e) := by
  unfold syncMessagesRequest
  simp only [ReadKind.reply, ReadKind.sync, ChatServiceImpl.syncMessages, Uuid.parseStr_toString]
  by_cases hne : projectId = "" ∨ conversationId = ""
  · simp only [if_pos hne]
    rfl
  · simp only [if_neg hne, fetchMessagesAfter]
    cases db.query fault qFetchAfterMessageId with
    | error e => rfl
    | ok =>
      have hms := clientMessages_eq newV4 conversationId
        ((store.directMessages (projectId, conversationId)).after messageId)
      simp [syncMessagesResult, Except.map] at hms ⊢
      exact hms

theorem history_reply_ok {projectId conversationId : String} {cursor : Option Uuid}
    {m : ChatMessage} (h : ReadKind.history.reply db fault newV4 store
      (getPaginatedMessagesRequest projectId cursor conversationId) = .ok m) :
    m = historyPage conversationId
      ((store.directMessages (projectId, conversationId)).page pageLimit cursor) := by
  rw [history_reply] at h
  split at h
  · cases h
  · split at h
    · exact (Except.ok.inj h).symm
    · cases h

theorem sync_reply_ok {projectId conversationId : String} {messageId : Uuid} {m : ChatMessage}
    (h : ReadKind.sync.reply db fault newV4 store
      (syncMessagesRequest projectId conversationId messageId) = .ok m) :
    m = .syncMessagesResponse (clientMessages conversationId
      ((store.directMessages (projectId, conversationId)).after messageId)) := by
  rw [sync_reply] at h
  split at h
  · cases h
  · split at h
    · exact (Except.ok.inj h).symm
    · cases h

end Reply

/-! ## In a run -/

/-- The messages a response brings. -/
def ChatMessage.messages? : ChatMessage → Option (List ResponseDirectMessage)
  | .chatHistoryResponse messages _ _ => some messages
  | .syncMessagesResponse messages => some messages
  | _ => none

/-- The session has sent the frame, and a task has waited for the reply to it. -/
def State.HasAsked (s : State) (sid : SessionId) (f : ChatMessage) : Prop :=
  (∃ k w, s.historyRelays.get? k = some w ∧ w.context = ⟨sid, f⟩) ∨
    ∃ k w, s.syncRelays.get? k = some w ∧ w.context = ⟨sid, f⟩

/-- The frame asks to read a conversation of a project, from rows that satisfy `P`. -/
inductive AsksFor (projectId conversationId : String) : ChatMessage → (Uuid → Prop) → Prop
  | page (cursor : Option Uuid) : AsksFor projectId conversationId
      (.getPaginatedMessages projectId cursor conversationId) (Clustered.Below cursor)
  | sync (messageId : Uuid) : AsksFor projectId conversationId
      (.syncMessages projectId conversationId messageId) (messageId < ·)

/-- The answer to a frame that reads: the fields of the frame and the store settle it. -/
def answerTo (store : Store) : ChatMessage → Option ChatMessage
  | .getPaginatedMessages projectId cursor conversationId =>
      some (historyPage conversationId
        ((store.directMessages (projectId, conversationId)).page pageLimit cursor))
  | .syncMessages projectId conversationId messageId =>
      some (.syncMessagesResponse (clientMessages conversationId
        ((store.directMessages (projectId, conversationId)).after messageId)))
  | _ => none

/-- The message is stored in a conversation of a project. -/
def StoredIn (store : Store) (projectId conversationId : String) (m : ResponseDirectMessage) :
    Prop :=
  ∃ x ∈ (store.directMessages (projectId, conversationId)).rows,
    m = clientMessage (dbMessage conversationId x)

theorem storedIn_clientMessages {store : Store} {projectId conversationId : String}
    {rows : List (Uuid × DirectMessageRow)} {P : Uuid → Prop}
    (hrows : ∀ x ∈ rows, x ∈ (store.directMessages (projectId, conversationId)).rows ∧ P x.1) :
    ∀ m ∈ clientMessages conversationId rows,
      StoredIn store projectId conversationId m ∧ P m.messageId := by
  intro m hm
  obtain ⟨x, hx, rfl⟩ := List.mem_map.mp hm
  obtain ⟨hstored, hp⟩ := hrows x hx
  exact ⟨⟨x, hstored, rfl⟩, hp⟩

section Logged

variable {db : Db} {store : Store} {s : State} {sid : SessionId}

theorem history_logged (h : (system db store).Reachable s) {ms : List ResponseDirectMessage}
    {more : Bool} {next : Option Uuid}
    (hm : (sid, .chatHistoryResponse ms more next) ∈ s.acks.log) :
    ∃ projectId cursor conversationId s₀,
      s.HasAsked sid (.getPaginatedMessages projectId cursor conversationId) ∧
      Earlier db store s₀ s ∧ .chatHistoryResponse ms more next = historyPage conversationId
        ((s₀.store.directMessages (projectId, conversationId)).page pageLimit cursor) := by
  have hresp : ReadKind.history.response ⟨ms, next.map Uuid.toString, more⟩ =
      .chatHistoryResponse ms more next := by
    cases next <;> simp [ReadKind.history, State.chatHistoryResponse]
  obtain ⟨k, ⟨⟨sid', f⟩, reply, done⟩, request, s₀, fault, newV4, hw, rfl, hreq, hearlier, hreply⟩ :=
    reads_logged ReadKind.history_runs h (hresp ▸ hm)
  cases f with
  | getPaginatedMessages projectId cursor conversationId =>
    obtain rfl : getPaginatedMessagesRequest projectId cursor conversationId = request :=
      Option.some.inj hreq
    exact ⟨projectId, cursor, conversationId, s₀, .inl ⟨k, _, hw, rfl⟩, hearlier,
      hresp ▸ history_reply_ok hreply⟩
  | _ => cases hreq

theorem sync_logged (h : (system db store).Reachable s) {ms : List ResponseDirectMessage}
    (hm : (sid, .syncMessagesResponse ms) ∈ s.acks.log) :
    ∃ projectId conversationId messageId s₀,
      s.HasAsked sid (.syncMessages projectId conversationId messageId) ∧
      Earlier db store s₀ s ∧ ms = clientMessages conversationId
        ((s₀.store.directMessages (projectId, conversationId)).after messageId) := by
  obtain ⟨k, ⟨⟨sid', f⟩, reply, done⟩, request, s₀, fault, newV4, hw, rfl, hreq, hearlier, hreply⟩ :=
    reads_logged ReadKind.sync_runs h (r := ms) hm
  cases f with
  | syncMessages projectId conversationId messageId =>
    obtain rfl : syncMessagesRequest projectId conversationId messageId = request :=
      Option.some.inj hreq
    exact ⟨projectId, conversationId, messageId, s₀, .inr ⟨k, _, hw, rfl⟩, hearlier,
      ChatMessage.syncMessagesResponse.inj (sync_reply_ok hreply)⟩
  | _ => cases hreq

/-- **What a session reads**: a response is the answer that a frame of the session's own has from
the store of some moment before, whoever the session belongs to. So every message of it was stored
at that moment, in the project and the conversation that the frame has named, on the side of the
cursor it has named. -/
theorem reads_scope (h : (system db store).Reachable s) {m : ChatMessage}
    {messages : List ResponseDirectMessage} (hm : (sid, m) ∈ s.acks.log)
    (hms : m.messages? = some messages) :
    ∃ projectId conversationId f P s₀, s.HasAsked sid f ∧
      AsksFor projectId conversationId f P ∧ Earlier db store s₀ s ∧
      answerTo s₀.store f = some m ∧
      ∀ x ∈ messages, StoredIn s₀.store projectId conversationId x ∧ P x.messageId := by
  cases m with
  | chatHistoryResponse ms more next =>
    obtain rfl : ms = messages := Option.some.inj hms
    obtain ⟨projectId, cursor, conversationId, s₀, hasked, hearlier, hpage⟩ := history_logged h hm
    have hanswer : answerTo s₀.store (.getPaginatedMessages projectId cursor conversationId) =
        some (.chatHistoryResponse ms more next) := congrArg some hpage.symm
    simp only [historyPage, ChatMessage.chatHistoryResponse.injEq] at hpage
    refine ⟨projectId, conversationId, _, _, s₀, hasked, .page cursor, hearlier, hanswer, ?_⟩
    rw [hpage.1]
    exact storedIn_clientMessages fun x hx => Clustered.mem_of_mem_page hx
  | syncMessagesResponse ms =>
    obtain rfl : ms = messages := Option.some.inj hms
    obtain ⟨projectId, conversationId, messageId, s₀, hasked, hearlier, rfl⟩ := sync_logged h hm
    refine ⟨projectId, conversationId, _, _, s₀, hasked, .sync messageId, hearlier, rfl, ?_⟩
    exact storedIn_clientMessages fun x hx => Clustered.mem_after.mp hx
  | _ => cases hms

end Logged

/-- Every session reads only what is stored in its own project and what its own user has sent
or received. -/
def State.Confined (db : Db) (store : Store) (s : State) : Prop :=
  ∀ sid u m messages, (sid, m) ∈ s.acks.log → m.messages? = some messages → s.UserOf sid u →
    ∀ x ∈ messages, (x.senderId = u.userId ∨ x.recipientId = u.userId) ∧
      ∃ s₀, Earlier db store s₀ s ∧ StoredIn s₀.store u.projectId x.conversationId x

/-! ## A stranger -/

def carol : TenantUserId := ⟨"acme", "carol"⟩

/-- `alice` writes to `carol` in project `acme`; `bob` of `globex` asks for the conversation. -/
def stranger : List Action :=
  [.connect alice, .router 0 0, .finishCreation 0,
    .frame 0 (some (.sendDirectMessage "c" carol "hi" (.ofTime 9))) (.ofTime 1), .router 5 6,
    .serveWrite 0 none, .connect bob, .router 0 0, .finishCreation 1,
    .frame 1 (some (.getPaginatedMessages "acme" none "c")) (.ofTime 2), .router 0 0,
    .serveHistory 0 none, .historyRead 0 none fun _ => .ofTime 0, .historyRelay 0]

/-- He gets it. -/
theorem reads_not_confined :
    ∃ s, (system lenientDb .empty).exec (.start .empty) stranger = some s ∧ s.UserOf 1 bob ∧
      s.acks.log = [(1, .chatHistoryResponse
        [⟨"c", .ofTime 1, "alice", "carol", "hi", 5⟩] true (some (.ofTime 1)))] ∧
      ¬ s.Confined lenientDb .empty := by
  obtain ⟨s, hs, hf⟩ := Option.map_eq_some_iff.mp
    (show ((system lenientDb .empty).exec (.start .empty) stranger).map
        (fun s => ((s.sessions.get? 1).map (·.tenantUserId), s.acks.log)) =
      some (some bob, [(1, .chatHistoryResponse
        [⟨"c", .ofTime 1, "alice", "carol", "hi", 5⟩] true (some (.ofTime 1)))]) from rfl)
  obtain ⟨hses, hlog⟩ := Prod.mk.inj hf
  have hu : s.UserOf 1 bob := Option.map_eq_some_iff.mp hses
  refine ⟨s, hs, hu, hlog, ?_⟩
  intro hconf
  obtain ⟨hparty, -⟩ := hconf 1 bob _ _ (hlog ▸ List.mem_cons_self) rfl hu _ List.mem_cons_self
  exact absurd hparty (by decide)

/-- The scope of what he got. -/
theorem reads_scope_stranger :
    ∃ s, (system lenientDb .empty).exec (.start .empty) stranger = some s ∧
      ∃ projectId conversationId f P s₀, s.HasAsked 1 f ∧ AsksFor projectId conversationId f P ∧
        Earlier lenientDb .empty s₀ s ∧
        answerTo s₀.store f = some (.chatHistoryResponse
          [⟨"c", .ofTime 1, "alice", "carol", "hi", 5⟩] true (some (.ofTime 1))) ∧
        ∀ x ∈ [⟨"c", .ofTime 1, "alice", "carol", "hi", 5⟩],
          StoredIn s₀.store projectId conversationId x ∧ P x.messageId := by
  obtain ⟨s, hs, hlog⟩ := Option.map_eq_some_iff.mp
    (show ((system lenientDb .empty).exec (.start .empty) stranger).map (·.acks.log) =
      some [(1, .chatHistoryResponse
        [⟨"c", .ofTime 1, "alice", "carol", "hi", 5⟩] true (some (.ofTime 1)))] from rfl)
  exact ⟨s, hs, reads_scope (Machine.reachable_of_exec hs) (hlog ▸ List.mem_cons_self) rfl⟩

end PerOxo
