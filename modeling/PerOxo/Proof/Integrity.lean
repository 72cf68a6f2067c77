import PerOxo.Proof.Writes

/-!
# Who writes into a conversation

`get_sert_conversation` gives a pair of users the id of their conversation. A
`SendDirectMessage` frame brings a conversation id along as plain text, and nothing compares the
one with the other. What does hold is `conversation_rows`: a row of a conversation of a project
stems from a frame that names this conversation, of a session that is authenticated in this
project. So the conversation of a pair is the pair's as long as every such frame is between the
two (`conversation_integrity`).
-/

set_option autoImplicit false

namespace PerOxo

open ChatService PersistenceService

namespace ChatService.Store

/-- The stored messages of the conversation are between the two users. -/
def Between (store : Store) (projectId conversationId userA userB : String) : Prop :=
  ∀ id row, (id, row) ∈ (store.directMessages (projectId, conversationId)).rows →
    (row.senderId = userA ∧ row.recipientId = userB) ∨
      (row.senderId = userB ∧ row.recipientId = userA)

/-- The conversation that `dm_lookup` has for a pair is the pair's. -/
def ConversationIntegrity (store : Store) : Prop :=
  ∀ projectId userA userB row, store.dmLookup (projectId, sortUsers userA userB) = some row →
    store.Between projectId row.conversationId userA userB

end ChatService.Store

/-- The message has been sent into the conversation: by a frame that names it, of a session of
this project whose user is the sender. -/
def State.SentInto (s : State) (projectId conversationId : String) (id : Uuid)
    (row : DirectMessageRow) : Prop :=
  ∃ k w u toUser, s.ackRelays.get? k = some w ∧ s.UserOf w.context.session u ∧
    w.context.serverMessageId = id ∧
    w.context.frame =
      .sendDirectMessage conversationId toUser row.messageText w.context.clientMessageId ∧
    u.projectId = projectId ∧ row.senderId = u.userId ∧ row.recipientId = toUser.userId

/-- A frame that names the conversation, of a session of its project, is from one of the two to
the other. -/
def FrameBetween (projectId conversationId userA userB : String) (s : State)
    (act : ChatAction) : Prop :=
  ∀ sid u toUser content clientMessageId id,
    act = .server (.frame sid (some (.sendDirectMessage conversationId toUser content
      clientMessageId)) id) → s.UserOf sid u → u.projectId = projectId →
    (u.userId = userA ∧ toUser.userId = userB) ∨ (u.userId = userB ∧ toUser.userId = userA)

/-! ## The store changes under the server -/

/-- `get_sert_conversation` touches no message. -/
theorem getSertConversation_directMessages (db : Db) (selectFault insertFault : Option Fault)
    (newId : Uuid) (now : CqlTimestamp) (store : Store) (request : GetSertConversationRequest) :
    (ChatServiceImpl.getSertConversation db selectFault insertFault newId now store
      request).2.directMessages = store.directMessages := by
  unfold ChatServiceImpl.getSertConversation
  split
  · rfl
  · dsimp only [getsertConversationId]
    split
    · rfl
    · rfl
    · next hsel =>
      have hins : (getsertInsert db insertFault request.projectId request.userId1 request.userId2
          newId.toString now store).2.directMessages = store.directMessages := by
        rcases db.batch_store insertFault [insertDmLookup] (fun s => s.putDmLookup
          (request.projectId, sortUsers request.userId1 request.userId2) ⟨newId.toString, now⟩)
          store with ⟨-, he⟩ | ⟨-, he⟩
        · exact (congrArg Store.directMessages he).trans rfl
        · exact congrArg Store.directMessages he
      split
      · next e s' he => rw [← hins, he]
      · next s' he => rw [← hins, he]

/-- The ids of what is underway do not depend on the store. -/
theorem Ids.withStore {s : State} (hi : Ids s) (store : Store) :
    Ids { s with store := store } where
  sent := ⟨hi.sent.ticket, hi.sent.once⟩
  rooms := ⟨hi.rooms.table, hi.rooms.listed, hi.rooms.relayed, hi.rooms.founded⟩
  tasks := {
    persisting := fun n p hn => by
      cases hi.tasks.persisting n p hn with
      | direct timestamp mem request => exact .direct timestamp mem request
      | room timestamp found mem request => exact .room timestamp found mem request
    distinct := hi.tasks.distinct
    calls := hi.tasks.calls }

/-! ## Rows and frames -/

/-- Every row of the store was there at first, or has been sent into its conversation. -/
structure Sourced (store : Store) (s : State) : Prop where
  ids : Ids s
  rows : ∀ p c id row, (id, row) ∈ (s.store.directMessages (p, c)).rows →
    (id, row) ∈ (store.directMessages (p, c)).rows ∨ s.SentInto p c id row

/-- The direct messages that have been sent into the conversation are between the two users. -/
def TicketsBetween (projectId conversationId userA userB : String) (s : State) : Prop :=
  ∀ k w, s.ackRelays.get? k = some w → ∀ toUser content clientMessageId,
    w.context.frame = .sendDirectMessage conversationId toUser content clientMessageId →
    ∃ u, s.UserOf w.context.session u ∧ (u.projectId = projectId →
      (u.userId = userA ∧ toUser.userId = userB) ∨ (u.userId = userB ∧ toUser.userId = userA))

section Step

variable {db : Db} {store : Store} {s s' : State} {act : Action} {p c a b : String}

theorem State.SentInto.step (h : s.step db act = some s') {id : Uuid} {row : DirectMessageRow}
    (hs : s.SentInto p c id row) : s'.SentInto p c id row := by
  obtain ⟨k, w, u, v, hw, hu, hid, hframe, hrest⟩ := hs
  obtain ⟨w', hw', hctx, -⟩ := relay_step h hw
  rw [← hctx] at hu hid hframe
  exact ⟨k, w', u, v, hw', userOf_step h hu, hid, hframe, hrest⟩

/-- A write request of a direct message is for one that has been sent into its conversation. -/
theorem Ids.sentInto_of_call (hi : Ids s) {n : CallId} {call : WriteCall} {req : WriteDmRequest}
    {id : Uuid} (hc : s.writes.get? n = some call) (hreq : call.request = .dm req)
    (hid : Uuid.parseStr call.request.messageId = some id) :
    s.SentInto req.projectId req.conversationId id (req.directMessage id).row := by
  obtain ⟨-, m, task, hm, htask, rfl⟩ := hi.task_of_call hc hid
  cases hi.tasks.persisting m task hm with
  | room timestamp found mem request =>
    rw [htask, hreq] at request
    cases request
  | @direct o conversationId content fromUser toUser timestamp mem request =>
    rw [htask, hreq] at request
    obtain rfl := WriteRequest.dm.inj request
    obtain ⟨k, w, u, hw, hu, -, hack⟩ := hi.sent.ticket _ (List.mem_append_left _ mem) _ rfl
    generalize hserver : task.messageId = server at hack
    cases hack with
    | direct frame => exact ⟨_, w, _, toUser, hw, hu, rfl, frame, rfl, rfl, rfl⟩

theorem Sourced.step (hi : Sourced store s) (h : s.step db act = some s') : Sourced store s' := by
  refine ⟨hi.ids.step h, fun p c id row hrow => ?_⟩
  have hold : (id, row) ∈ (s.store.directMessages (p, c)).rows →
      (id, row) ∈ (store.directMessages (p, c)).rows ∨ s'.SentInto p c id row :=
    fun hrow => (hi.rows p c id row hrow).imp_right fun hs => hs.step h
  rcases store_step h with he | ⟨n, call, id', hc, hid', he⟩
  · exact hold (he ▸ hrow)
  · rw [he] at hrow
    rcases WriteRequest.mem_apply_directMessages hrow with hrow | ⟨req, hreq, hkey, rfl, rfl⟩
    · exact hold hrow
    · obtain ⟨rfl, rfl⟩ := Prod.mk.inj hkey
      exact .inr ((hi.ids.sentInto_of_call hc hreq hid').step h)

theorem Sourced.chatStep {act : ChatAction} (hi : Sourced store s)
    (h : s.chatStep db act = some s') : Sourced store s' := by
  cases act with
  | server act => exact hi.step h
  | getSert request selectFault insertFault newId now =>
    cases h
    refine ⟨hi.ids.withStore _, fun p c id row hrow => ?_⟩
    dsimp only at hrow
    rw [getSertConversation_directMessages] at hrow
    exact hi.rows p c id row hrow

theorem TicketsBetween.step (hi : TicketsBetween p c a b s)
    (hf : FrameBetween p c a b s (.server act)) (h : s.step db act = some s') :
    TicketsBetween p c a b s' := by
  have hold : ∀ (k : AckId) (w w' : Waiter AckTicket MessageAckResponse),
      s.ackRelays.get? k = some w → w'.context = w.context →
      ∀ toUser content clientMessageId,
        w'.context.frame = .sendDirectMessage c toUser content clientMessageId →
        ∃ u, s'.UserOf w'.context.session u ∧ (u.projectId = p →
          (u.userId = a ∧ toUser.userId = b) ∨ (u.userId = b ∧ toUser.userId = a)) := by
    intro k w w' hw hctx toUser content clientMessageId hframe
    rw [hctx] at hframe ⊢
    obtain ⟨u, hu, hbetween⟩ := hi k w hw toUser content clientMessageId hframe
    exact ⟨u, userOf_step h hu, hbetween⟩
  have hmod : ∀ (j : AckId) (f : Waiter AckTicket MessageAckResponse →
      Waiter AckTicket MessageAckResponse), s'.ackRelays = s.ackRelays.modify j f →
      (∀ w, (f w).context = w.context) → TicketsBetween p c a b s' := by
    intro j f he hf k w' hw'
    rw [he] at hw'
    rcases Arena.get?_modify_eq_some.mp hw' with ⟨-, w, hw, rfl⟩ | ⟨-, hw⟩
    · exact hold k w _ hw (hf w)
    · exact hold k w' w' hw rfl
  have hsame : s'.ackRelays = s.ackRelays → TicketsBetween p c a b s' := by
    intro he k w' hw'
    exact hold k w' w' (he ▸ hw') rfl
  -- A new ticket is for the frame that is handled.
  have hnew : ∀ (sid : SessionId) (ses : UserSession) (id clientMessageId : Uuid)
      (frame : ChatMessage), act = .frame sid (some frame) id → s.sessions.get? sid = some ses →
      s'.ackRelays = s.ackRelays.alloc (.start ⟨sid, clientMessageId, frame, id⟩) →
      TicketsBetween p c a b s' := by
    intro sid ses id clientMessageId frame hact hses he k w hw toUser content cid hframe
    rw [he] at hw
    rcases Arena.get?_alloc_eq_some.mp hw with ⟨-, rfl⟩ | hw
    · have hu : s.UserOf sid ses.tenantUserId := ⟨ses, hses, rfl⟩
      obtain rfl : frame = .sendDirectMessage c toUser content cid := hframe
      refine ⟨ses.tenantUserId, userOf_step h hu, fun hp => ?_⟩
      exact hf sid _ toUser content cid id (congrArg _ hact) hu hp
    · exact hold k w w hw rfl toUser content cid hframe
  cases act with
  | frame sid text id =>
    cases State.stepped h with
    | framed found active fresh result =>
      cases State.framed result with
      | direct conversationId toUser content cid => exact hnew _ _ _ _ _ rfl found rfl
      | room roomId content cid => exact hnew _ _ _ _ _ rfl found rfl
      | _ => exact hsame rfl
  | _ =>
    obtain ⟨d, hd, -, -, -, hrel, -⟩ := State.delivery_moved h
    cases hd with
    | asked action => cases action
    | refused action next message unknown => exact hmod _ _ hrel fun w => rfl
    | lost action next message known dead => exact hmod _ _ hrel fun w => rfl
    | answered action found running ended returned => exact hmod _ _ hrel fun w => rfl
    | acked action found running reply room => exact hmod _ _ hrel fun w => rfl
    | gaveUp found running dropped => exact hmod _ _ hrel fun w => rfl
    | _ => exact hsame hrel

theorem TicketsBetween.chatStep {act : ChatAction} (hi : TicketsBetween p c a b s)
    (hf : FrameBetween p c a b s act) (h : s.chatStep db act = some s') :
    TicketsBetween p c a b s' := by
  cases act with
  | server act => exact hi.step hf h
  | getSert request selectFault insertFault newId now =>
    cases h
    exact hi

end Step

/-! ## Runs -/

section Runs

variable {db : Db} {store : Store} {acts : List ChatAction} {t : State} {p c a b : String}

theorem sourced (h : (chatSystem db store).Run (.start store) acts t) : Sourced store t :=
  h.invariant (I := Sourced store) (fun _ _ _ hs hi => hi.chatStep hs)
    ⟨.start store, fun _ _ _ _ hrow => .inl hrow⟩

/-- **Who writes into a conversation**: over a run of the server with calls of
`get_sert_conversation` at any time, each row of a conversation of a project was there at first
or stems from a frame that names the conversation, of a session of this project; and where it is
between two users at first, it stays so as long as every such frame is. -/
theorem conversation_integrity (h : (chatSystem db store).Run (.start store) acts t) :
    (∀ id row, (id, row) ∈ (t.store.directMessages (p, c)).rows →
      (id, row) ∈ (store.directMessages (p, c)).rows ∨ t.SentInto p c id row) ∧
    (store.Between p c a b →
      (chatSystem db store).Meets (FrameBetween p c a b) (.start store) acts →
      t.store.Between p c a b) := by
  have hrows := (sourced h).rows p c
  refine ⟨hrows, fun h₀ hm id row hrow => ?_⟩
  have htickets : TicketsBetween p c a b t :=
    h.invariant_of_meets (I := TicketsBetween p c a b) (fun _ _ _ hs hf hi => hi.chatStep hf hs) hm
      fun k w hw => absurd hw (by simp [State.start])
  rcases hrows id row hrow with hrow | ⟨k, w, u, v, hw, hu, -, hframe, hp, hsender, hrecipient⟩
  · exact h₀ id row hrow
  · obtain ⟨u', hu', hbetween⟩ := htickets k w hw v _ _ hframe
    obtain rfl := hu.unique hu'
    rw [hsender, hrecipient]
    exact hbetween hp

end Runs

/-! ## A third user -/

/-- `alice` and `carol` have a conversation. -/
def openChat : ChatAction := .getSert ⟨"acme", "alice", "carol"⟩ none none (.ofTime 7) 0

/-- A user of the same project logs in and writes a message that names this conversation. -/
def writesInto (u toUser : TenantUserId) : List ChatAction :=
  [.server (.connect u), .server (.router 0 0), .server (.finishCreation 0),
    .server (.frame 0 (some (.sendDirectMessage (Uuid.ofTime 7).toString toUser "hi" (.ofTime 9)))
      (.ofTime 1)),
    .server (.router 5 5), .server (.serveWrite 0 none)]

/-- `dave` writes into the conversation of `alice` and `carol`. -/
theorem third_user_writes :
    ∃ t row, (chatSystem mainDb .empty).exec (.start .empty)
        (openChat :: writesInto ⟨"acme", "dave"⟩ alice) = some t ∧
      t.store.dmLookup ("acme", sortUsers "alice" "carol") = some row ∧
      (t.store.directMessages ("acme", row.conversationId)).rows =
        [(.ofTime 1, ⟨"dave", "alice", "hi", 5⟩)] ∧
      ¬ t.store.ConversationIntegrity := by
  obtain ⟨t, ht, hf⟩ := Option.map_eq_some_iff.mp
    (show ((chatSystem mainDb .empty).exec (.start .empty)
        (openChat :: writesInto ⟨"acme", "dave"⟩ alice)).map (fun s =>
          (s.store.dmLookup ("acme", sortUsers "alice" "carol"),
            (s.store.directMessages ("acme", (Uuid.ofTime 7).toString)).rows)) =
      some (some ⟨(Uuid.ofTime 7).toString, 0⟩, [(.ofTime 1, ⟨"dave", "alice", "hi", 5⟩)]) from rfl)
  obtain ⟨hlookup, hrows⟩ := Prod.mk.inj hf
  refine ⟨t, _, ht, hlookup, hrows, fun hint => ?_⟩
  have hbetween := hint "acme" "alice" "carol" _ hlookup (.ofTime 1) _
    (by rw [hrows]; exact List.mem_singleton.mpr rfl)
  revert hbetween
  decide

/-- The only frame of the run is from one of the two to the other. -/
theorem meets_aliceWrites :
    (chatSystem mainDb .empty).Meets
      (FrameBetween "acme" (Uuid.ofTime 7).toString "alice" "carol") (.start .empty)
      (openChat :: writesInto alice ⟨"acme", "carol"⟩) := by
  refine ⟨nofun, fun s₁ h₁ => ⟨nofun, fun s₂ h₂ => ⟨nofun, fun s₃ h₃ => ⟨nofun, fun s₄ h₄ =>
    ⟨?_, fun _ _ => ⟨nofun, fun _ _ => ⟨nofun, fun _ _ => trivial⟩⟩⟩⟩⟩⟩⟩
  obtain rfl := Option.some.inj h₁
  obtain rfl := Option.some.inj h₂
  obtain rfl := Option.some.inj h₃
  obtain rfl := Option.some.inj h₄
  intro sid u toUser content clientMessageId id hact huser _
  cases hact
  obtain rfl := huser.unique (v := alice) ⟨_, rfl, rfl⟩
  exact .inl ⟨rfl, rfl⟩

/-- `alice` writes to `carol`. -/
theorem conversation_integrity_alice :
    ∃ t, (chatSystem mainDb .empty).exec (.start .empty)
        (openChat :: writesInto alice ⟨"acme", "carol"⟩) = some t ∧
      (t.store.directMessages ("acme", (Uuid.ofTime 7).toString)).rows =
        [(.ofTime 1, ⟨"alice", "carol", "hi", 5⟩)] ∧
      (∀ id row, (id, row) ∈
          (t.store.directMessages ("acme", (Uuid.ofTime 7).toString)).rows →
        (id, row) ∈ (Store.empty.directMessages ("acme", (Uuid.ofTime 7).toString)).rows ∨
          t.SentInto "acme" (Uuid.ofTime 7).toString id row) ∧
      t.store.Between "acme" (Uuid.ofTime 7).toString "alice" "carol" := by
  obtain ⟨t, ht, hf⟩ := Option.map_eq_some_iff.mp
    (show ((chatSystem mainDb .empty).exec (.start .empty)
        (openChat :: writesInto alice ⟨"acme", "carol"⟩)).map (fun s =>
          (s.store.directMessages ("acme", (Uuid.ofTime 7).toString)).rows) =
      some [(.ofTime 1, ⟨"alice", "carol", "hi", 5⟩)] from rfl)
  obtain ⟨hrows, hbetween⟩ := conversation_integrity (Machine.run_of_exec ht)
  exact ⟨t, ht, hf, hrows, hbetween nofun meets_aliceWrites⟩

end PerOxo
