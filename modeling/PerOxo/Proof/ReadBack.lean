import PerOxo.Proof.LastActivity
import PerOxo.Proof.Paging

/-!
# What has been seen stays

Where `Uuid::now_v1` returns no id that a message is stored under, a stored message is never changed
and never lost (`RowsOk.keeps`). So whatever a client has been told, by a `Persisted` or by a page
or a sync, is in every answer to a request made later that it falls within.
-/

set_option autoImplicit false

namespace PerOxo

open ChatService PersistenceService

/-! ## Stores -/

/-- All that is stored in the one store is stored in the other, and unchanged. -/
structure ChatService.Store.Keeps (store store' : Store) : Prop where
  direct : ∀ key x, x ∈ (store.directMessages key).rows → x ∈ (store'.directMessages key).rows
  room : ∀ key x, x ∈ (store.roomMessages key).rows → x ∈ (store'.roomMessages key).rows

namespace ChatService.Store.Keeps

variable {store store' store'' : Store}

theorem refl (store : Store) : store.Keeps store := ⟨fun _ _ => id, fun _ _ => id⟩

theorem trans (h : store.Keeps store') (h' : store'.Keeps store'') : store.Keeps store'' :=
  ⟨fun key x hx => h'.direct key x (h.direct key x hx),
    fun key x hx => h'.room key x (h.room key x hx)⟩

theorem storedIn (h : store.Keeps store') {p c : String} {m : ResponseDirectMessage}
    (hm : StoredIn store p c m) : StoredIn store' p c m := by
  obtain ⟨x, hx, rfl⟩ := hm
  exact ⟨x, h.direct (p, c) x hx, rfl⟩

end ChatService.Store.Keeps

/-- What a request asks for is stored. -/
def WriteRequest.In (store : Store) : WriteRequest → Prop
  | .dm req => ∃ id, Uuid.parseStr req.messageId = some id ∧
      (id, (req.directMessage id).row) ∈
        (store.directMessages (req.projectId, req.conversationId)).rows
  | .room req => ∃ id, Uuid.parseStr req.messageId = some id ∧
      (id, (req.roomMessage id).row) ∈ (store.roomMessages (req.projectId, req.roomId)).rows

theorem WriteRequest.In.keeps {store store' : Store} {request : WriteRequest}
    (h : request.In store) (hk : store.Keeps store') : request.In store' := by
  cases request with
  | dm req =>
    obtain ⟨id, hid, hrow⟩ := h
    exact ⟨id, hid, hk.direct _ _ hrow⟩
  | room req =>
    obtain ⟨id, hid, hrow⟩ := h
    exact ⟨id, hid, hk.room _ _ hrow⟩

/-- A batch changes no row but that of its own message. -/
theorem WriteRequest.apply_keeps {store : Store} {id : Uuid} {request : WriteRequest}
    (h : request.OwnsId id store) : store.Keeps (request.apply id store) := by
  cases request with
  | dm req =>
    refine ⟨fun key x hx => ?_, fun key x hx => hx⟩
    rw [WriteRequest.apply, applyDirectMessage_directMessages]
    refine Clustered.mem_update_upsert_of_mem hx ?_
    rintro rfl rfl
    exact h x.2 hx
  | room req =>
    refine ⟨fun key x hx => hx, fun key x hx => ?_⟩
    rw [WriteRequest.apply, applyRoomMessage_roomMessages]
    refine Clustered.mem_update_upsert_of_mem hx ?_
    rintro rfl rfl
    exact h x.2 hx

/-- What is answered with success is stored. -/
theorem WriteRequest.in_of_success {db : Db} {fault : Option Fault} {store : Store}
    {request : WriteRequest} (h : (request.serve db fault store).1.success = true) :
    request.In (request.serve db fault store).2 := by
  cases request with
  | dm req =>
    obtain ⟨id, hid, he⟩ := ChatServiceImpl.writeDm_success (Prod.mk.eta).symm h
    refine ⟨id, hid, ?_⟩
    rw [WriteRequest.serve, he]
    exact mem_applyDirectMessage _ _
  | room req =>
    obtain ⟨id, hid, he⟩ := ChatServiceImpl.writeRoomMessage_success (Prod.mk.eta).symm h
    refine ⟨id, hid, ?_⟩
    rw [WriteRequest.serve, he]
    exact mem_applyRoomMessage _ _

/-! ## A step -/

section Step

variable {db : Db} {s s' : State} {act : Action}

theorem RowsOk.keeps (hi : RowsOk s) (h : s.step db act = some s') : s.store.Keeps s'.store := by
  rcases store_step h with he | ⟨c, call, id, hc, hid, he⟩
  · rw [he]
    exact .refl _
  · rw [he]
    exact WriteRequest.apply_keeps (hi.ownsId hc hid)

/-- What chat-service has answered with success is stored. -/
def Durable (s : State) : Prop :=
  ∀ c call r, s.writes.get? c = some call → call.answer = some r → r.success = true →
    call.request.In s.store

theorem Durable.step (hi : Durable s) (hrows : RowsOk s) (h : s.step db act = some s') :
    Durable s' := by
  intro c call r hc hans hsucc
  have hkeeps := hrows.keeps h
  have hold : s.writes.get? c = some call → call.request.In s'.store :=
    fun hc => (hi c call r hc hans hsucc).keeps hkeeps
  obtain ⟨d, hd, hst, hwr, -⟩ := State.delivery_moved h
  rw [hwr] at hc
  cases hd with
  | @served c' request fault action found =>
    rcases Arena.get?_modify_eq_some.mp hc with ⟨rfl, call₀, hc₀, rfl⟩ | ⟨-, hc⟩
    · obtain rfl := Option.some.inj (hc₀.symm.trans found)
      obtain rfl := Option.some.inj hans
      rw [hst]
      exact WriteRequest.in_of_success hsucc
    · exact hold hc
  | direct action next message =>
    rcases Arena.get?_alloc_eq_some.mp hc with ⟨-, rfl⟩ | hc
    · cases hans
    · exact hold hc
  | room action found next message =>
    rcases Arena.get?_alloc_eq_some.mp hc with ⟨-, rfl⟩ | hc
    · cases hans
    · exact hold hc
  | retried found running =>
    rcases Arena.get?_alloc_eq_some.mp hc with ⟨-, rfl⟩ | hc
    · cases hans
    · exact hold hc
  | _ => exact hold hc

end Step

/-! ## Reads that have been made since -/

section Reads

variable {ρ σ τ : Type} {K : ReadKind ρ σ τ} {db : Db} {store base : Store} {n : Nat} {s s' : State}
  {act : Action}

/-- chat-service has answered with what a store had that came after the one and before the other. -/
def ReadKind.ServedBetween (K : ReadKind ρ σ τ) (db : Db) (base store : Store) (request : ρ)
    (a : σ) : Prop :=
  ∃ store₀ fault, base.Keeps store₀ ∧ store₀.Keeps store ∧ a = K.serve db fault store₀ request

/-- The reads that `n` and later tasks wait for have been served since the store was `base`. -/
structure ReadsSince (K : ReadKind ρ σ τ) (db : Db) (base : Store) (n : Nat) (s : State) :
    Prop where
  kept : base.Keeps s.store
  answers : ∀ t task a, (K.reads s).get? t = some task → n ≤ task.respondTo →
    task.answer = some a → K.ServedBetween db base s.store task.request a
  replies : ∀ k w r, (K.relays s).get? k = some w → n ≤ k → w.reply = .sent (.ok r) →
    ∃ request a newV4, K.request? w.context.frame = some request ∧
      K.ServedBetween db base s.store request a ∧ K.result newV4 (.ok a) = .ok r

theorem ReadsSince.step (hi : ReadsSince K db base n s) (hreads : Reads K db store s)
    (hkeeps : s.store.Keeps s'.store) (hstep : ReadsStep K db s s' act) :
    ReadsSince K db base n s' := by
  have hserved : ∀ {request : ρ} {a : σ}, K.ServedBetween db base s.store request a →
      K.ServedBetween db base s'.store request a := by
    rintro request a ⟨store₀, fault, hbase, hstore, ha⟩
    exact ⟨store₀, fault, hbase, hstore.trans hkeeps, ha⟩
  have hanswers : ∀ t task a, (K.reads s).get? t = some task → n ≤ task.respondTo →
      task.answer = some a → K.ServedBetween db base s'.store task.request a :=
    fun t task a ht hn ha => hserved (hi.answers t task a ht hn ha)
  have hreplies : ∀ k (w w' : Waiter ReadTicket (Except String τ)) r,
      (K.relays s).get? k = some w → w'.context = w.context → n ≤ k →
      w.reply = .sent (.ok r) → ∃ request a newV4, K.request? w'.context.frame = some request ∧
        K.ServedBetween db base s'.store request a ∧ K.result newV4 (.ok a) = .ok r := by
    intro k w w' r hw hc hn hrep
    obtain ⟨request, a, newV4, hreq, ha, hres⟩ := hi.replies k w r hw hn hrep
    exact ⟨request, a, newV4, hc ▸ hreq, hserved ha, hres⟩
  refine ⟨hi.kept.trans hkeeps, fun t task a ht hn ha => ?_, fun k w r hw hn hrep => ?_⟩
  · cases hstep with
    | same reads relays log => exact hanswers t task a (reads ▸ ht) hn ha
    | asked reads relays log => exact hanswers t task a (reads ▸ ht) hn ha
    | spawned next mail asks reads relays log =>
      rw [reads] at ht
      rcases Arena.get?_alloc_eq_some.mp ht with ⟨-, rfl⟩ | ht
      · cases ha
      · exact hanswers t task a ht hn ha
    | @served t' task' fault found unanswered reads relays log =>
      rw [reads] at ht
      rcases Arena.get?_modify_eq_some.mp ht with ⟨rfl, task₀, ht₀, rfl⟩ | ⟨-, ht⟩
      · obtain rfl := Option.some.inj (ht₀.symm.trans found)
        exact ⟨s.store, fault, hi.kept, hkeeps, (Option.some.inj ha).symm⟩
      · exact hanswers t task a ht hn ha
    | returned found ended reads relays log =>
      rw [reads] at ht
      rcases Arena.get?_modify_eq_some.mp ht with ⟨rfl, task₀, ht₀, rfl⟩ | ⟨-, ht⟩
      · exact hanswers _ task₀ a ht₀ hn ha
      · exact hanswers t task a ht hn ha
    | relayed found reads relays log => exact hanswers t task a (reads ▸ ht) hn ha
  · cases hstep with
    | same reads relays log => exact hreplies k w w r (relays ▸ hw) rfl hn hrep
    | asked reads relays log =>
      rw [relays] at hw
      rcases Arena.get?_alloc_eq_some.mp hw with ⟨-, rfl⟩ | hw
      · cases hrep
      · exact hreplies k w w r hw rfl hn hrep
    | spawned next mail asks reads relays log => exact hreplies k w w r (relays ▸ hw) rfl hn hrep
    | served found unanswered reads relays log => exact hreplies k w w r (relays ▸ hw) rfl hn hrep
    | @returned t task failure outcome newV4 found ended reads relays log =>
      rw [relays] at hw
      rcases Arena.get?_modify_eq_some.mp hw with ⟨rfl, w₀, hw₀, rfl⟩ | ⟨-, hw⟩
      · rcases Oneshot.send_eq_sent.mp hrep with hrep | ⟨-, hres⟩
        · exact hreplies _ w₀ _ r hw₀ rfl hn hrep
        · obtain ⟨w₁, hw₁, hreq⟩ := hreads.tasks t task found
          obtain rfl := Option.some.inj (hw₁.symm.trans hw₀)
          rcases State.callOutcome_some ended with ⟨e, rfl⟩ | ⟨a, ha, rfl⟩
          · exact absurd hres (K.result_error _ _ _)
          · exact ⟨task.request, a, newV4, hreq, hanswers t task a found hn ha, hres⟩
      · exact hreplies k w w r hw rfl hn hrep
    | relayed found reads relays log =>
      rw [relays] at hw
      rcases Arena.get?_modify_eq_some.mp hw with ⟨rfl, w₀, hw₀, rfl⟩ | ⟨-, hw⟩
      · exact hreplies _ w₀ _ r hw₀ rfl hn hrep
      · exact hreplies k w w r hw rfl hn hrep

/-- Nothing has been asked yet. -/
theorem ReadsSince.now (hreads : Reads K db store s) :
    ReadsSince K db s.store (K.relays s).next s := by
  refine ⟨.refl _, fun t task a ht hn ha => ?_, fun k w r hw hn hrep => ?_⟩
  · obtain ⟨w, hw, -⟩ := hreads.tasks t task ht
    exact absurd (Arena.lt_next_of_get? hw) (Nat.not_lt.mpr hn)
  · exact absurd (Arena.lt_next_of_get? hw) (Nat.not_lt.mpr hn)

theorem ReadsSince.replied (hi : ReadsSince K db base n s) {k : Nat}
    {w : Waiter ReadTicket (Except String τ)} {r : τ} (hw : (K.relays s).get? k = some w)
    (hn : n ≤ k) (hrep : w.reply = .sent (.ok r)) : ∃ request store₀ fault newV4,
      K.request? w.context.frame = some request ∧ base.Keeps store₀ ∧ store₀.Keeps s.store ∧
        K.reply db fault newV4 store₀ request = .ok (K.response r) := by
  obtain ⟨request, a, newV4, hreq, ⟨store₀, fault, hbase, hstore, rfl⟩, hres⟩ :=
    hi.replies k w r hw hn hrep
  refine ⟨request, store₀, fault, newV4, hreq, hbase, hstore, ?_⟩
  rw [ReadKind.reply, hres]
  rfl

end Reads

/-! ## Runs -/

/-- The frame of a session that is waited for under these ids. -/
def State.HasSent (s : State) (sid : SessionId) (clientMessageId serverMessageId : Uuid)
    (f : ChatMessage) : Prop :=
  ∃ k w, s.ackRelays.get? k = some w ∧ w.context = ⟨sid, clientMessageId, f, serverMessageId⟩

/-- A message that has been sent under the id of an acknowledgement is stored as it was sent. -/
inductive State.AckedStored (s : State) (sid : SessionId) (clientMessageId id : Uuid) : Prop
  | direct {u toUser : TenantUserId} {conversationId content : String} (createdAt : Int)
      (user : s.UserOf sid u)
      (sent : s.HasSent sid clientMessageId id
        (.sendDirectMessage conversationId toUser content clientMessageId))
      (stored : StoredIn s.store u.projectId conversationId
        ⟨conversationId, id, u.userId, toUser.userId, content, createdAt⟩)
  | room {u : TenantUserId} {roomId content : String} (createdAt : Int) (user : s.UserOf sid u)
      (sent : s.HasSent sid clientMessageId id (.roomMessage roomId u content clientMessageId))
      (stored : (id, ⟨u.userId, content, createdAt⟩) ∈
        (s.store.roomMessages (u.projectId, roomId)).rows)

/-- What clients have been told by `s`, and what they are told later, by `t`. -/
structure SeenStays (s t : State) : Prop where
  kept : s.store.Keeps t.store
  acked : ∀ sid clientMessageId id time,
    (sid, .messageAck clientMessageId id time .persisted) ∈ s.acks.log →
    s.AckedStored sid clientMessageId id
  read : ∀ sid m messages, (sid, m) ∈ s.acks.log → m.messages? = some messages →
    ∃ projectId conversationId f P, s.HasAsked sid f ∧ AsksFor projectId conversationId f P ∧
      ∀ x ∈ messages, StoredIn s.store projectId conversationId x ∧ P x.messageId
  synced : ∀ k w projectId conversationId cursor messages, s.syncRelays.next ≤ k →
    t.syncRelays.get? k = some w →
    w.context.frame = .syncMessages projectId conversationId cursor →
    w.reply = .sent (.ok messages) → ∀ x, StoredIn s.store projectId conversationId x →
      cursor < x.messageId → x ∈ messages
  /-- A page has it, or is full of later messages. -/
  paged : ∀ k w projectId conversationId cursor page, s.historyRelays.next ≤ k →
    t.historyRelays.get? k = some w →
    w.context.frame = .getPaginatedMessages projectId cursor conversationId →
    w.reply = .sent (.ok page) → ∀ x, StoredIn s.store projectId conversationId x →
      Clustered.Below cursor x.messageId → x ∈ page.messages ∨
        page.messages.length = pageLimit ∧ ∀ y ∈ page.messages, x.messageId < y.messageId

section Runs

variable {db : Db} {store : Store} {s t : State} {acts acts' : List Action}

theorem Durable.start (store : Store) : Durable (.start store) := by
  intro c call r hc
  simp [State.start] at hc

/-- In a run that draws new ids, each store keeps what the ones before it have. -/
theorem kept_run (h : (system db store).Run (.start store) acts s)
    (hnew : (system db store).Meets DrawsNewId (.start store) acts) : RowsOk s ∧ Durable s := by
  refine h.invariant_of_meets (I := fun s => RowsOk s ∧ Durable s) ?_ hnew
    ⟨.start store, .start store⟩
  rintro s a s' hs hn ⟨hrows, hdur⟩
  exact ⟨hrows.step (fun _ => hn.lacks hs) hs, hdur.step hrows hs⟩

theorem readsSince_run {ρ σ τ : Type} {K : ReadKind ρ σ τ} (hK : K.Runs) {base : Store} {n : Nat}
    (hreach : (system db store).Reachable s) (hrows : RowsOk s) (hi : ReadsSince K db base n s)
    (h : (system db store).Run s acts t) (hnew : (system db store).Meets DrawsNewId s acts) :
    ReadsSince K db base n t := by
  have key : ((system db store).Reachable t ∧ RowsOk t) ∧ ReadsSince K db base n t := by
    refine h.invariant_of_meets (I := fun s => ((system db store).Reachable s ∧ RowsOk s) ∧
      ReadsSince K db base n s) ?_ hnew ⟨⟨hreach, hrows⟩, hi⟩
    rintro s a s' hs hn ⟨⟨hr, hrows⟩, hi⟩
    exact ⟨⟨hr.step hs, hrows.step (fun _ => hn.lacks hs) hs⟩,
      hi.step (reads_of_reachable hK hr) (hrows.keeps hs) (hK.step (addressed hr) hs)⟩
  exact key.2

/-- All that has been read is stored still. -/
theorem readsSince_start {ρ σ τ : Type} {K : ReadKind ρ σ τ} (hK : K.Runs)
    (h : (system db store).Run (.start store) acts s)
    (hnew : (system db store).Meets DrawsNewId (.start store) acts) :
    ReadsSince K db store 0 s := by
  have hnow := ReadsSince.now (Reads.start hK db store)
  rw [(hK.start store).2] at hnow
  exact readsSince_run hK .init (.start store) hnow h hnew

/-- What is acknowledged as `Persisted` is stored as it was sent. -/
theorem acked_stored (h : (system db store).Reachable s) (hdur : Durable s) {sid : SessionId}
    {clientMessageId id : Uuid} {time : Int}
    (hm : (sid, .messageAck clientMessageId id time .persisted) ∈ s.acks.log) :
    s.AckedStored sid clientMessageId id := by
  obtain ⟨k, w, r, hk, -, hr, he⟩ := (acked h).log.logged sid _ _ _ _ hm
  simp only [ackEntry, Prod.mk.injEq, ChatMessage.messageAck.injEq] at he
  obtain ⟨rfl, rfl, rfl, -, hst⟩ := he
  obtain ⟨hid, hpersisted⟩ := (acked h).answers.replies k w r hk hr
  obtain ⟨u, hu, c, call, resp, hc, hans, hsucc, hwrites⟩ := hpersisted hst.symm
  have hin := hdur c call resp hc hans hsucc
  rw [hid]
  generalize call.request = request at hwrites hin
  cases hwrites with
  | @direct conversationId content toUser timestamp frame =>
    have hsent : s.HasSent w.context.session w.context.clientMessageId w.context.serverMessageId
        (.sendDirectMessage conversationId toUser content w.context.clientMessageId) :=
      ⟨k, w, hk, by rw [← frame]⟩
    obtain ⟨id', hid', hrow⟩ := hin
    obtain rfl := Option.some.inj ((Uuid.parseStr_toString _).symm.trans hid')
    exact .direct timestamp hu hsent ⟨_, hrow, rfl⟩
  | @room roomId content timestamp frame =>
    have hsent : s.HasSent w.context.session w.context.clientMessageId w.context.serverMessageId
        (.roomMessage roomId u content w.context.clientMessageId) :=
      ⟨k, w, hk, by rw [← frame]⟩
    obtain ⟨id', hid', hrow⟩ := hin
    obtain rfl := Option.some.inj ((Uuid.parseStr_toString _).symm.trans hid')
    exact .room timestamp hu hsent hrow

/-- What a response has is stored still. -/
theorem read_stored (hhistory : ReadsSince .history db store 0 s)
    (hsync : ReadsSince .sync db store 0 s) (h : (system db store).Reachable s) {sid : SessionId}
    {m : ChatMessage} {messages : List ResponseDirectMessage} (hm : (sid, m) ∈ s.acks.log)
    (hms : m.messages? = some messages) :
    ∃ projectId conversationId f P, s.HasAsked sid f ∧ AsksFor projectId conversationId f P ∧
      ∀ x ∈ messages, StoredIn s.store projectId conversationId x ∧ P x.messageId := by
  cases m with
  | chatHistoryResponse ms more next =>
    obtain rfl : ms = messages := Option.some.inj hms
    have hresp : ReadKind.history.response ⟨ms, next.map Uuid.toString, more⟩ =
        .chatHistoryResponse ms more next := by
      cases next <;> simp [ReadKind.history, State.chatHistoryResponse]
    obtain ⟨k, ⟨⟨sid', f⟩, reply, done⟩, r, hk, rfl, hrep, he⟩ :=
      (reads_of_reachable ReadKind.history_runs h).log sid ⟨ms, next.map Uuid.toString, more⟩
        (hresp ▸ hm)
    obtain ⟨request, store₀, fault, newV4, hreq, -, hkeeps, hreply⟩ :=
      hhistory.replied hk (Nat.zero_le k) hrep
    cases f with
    | getPaginatedMessages projectId cursor conversationId =>
      obtain rfl : getPaginatedMessagesRequest projectId cursor conversationId = request :=
        Option.some.inj hreq
      have hpage := history_reply_ok hreply
      rw [he, hresp, historyPage, ChatMessage.chatHistoryResponse.injEq] at hpage
      refine ⟨projectId, conversationId, _, _, .inl ⟨k, _, hk, rfl⟩, .page cursor, ?_⟩
      rw [hpage.1]
      intro x hx
      obtain ⟨hx, hp⟩ := storedIn_clientMessages (fun x hx => Clustered.mem_of_mem_page hx) x hx
      exact ⟨hkeeps.storedIn hx, hp⟩
    | _ => cases hreq
  | syncMessagesResponse ms =>
    obtain rfl : ms = messages := Option.some.inj hms
    obtain ⟨k, ⟨⟨sid', f⟩, reply, done⟩, r, hk, rfl, hrep, he⟩ :=
      (reads_of_reachable ReadKind.sync_runs h).log sid ms hm
    obtain ⟨request, store₀, fault, newV4, hreq, -, hkeeps, hreply⟩ :=
      hsync.replied hk (Nat.zero_le k) hrep
    cases f with
    | syncMessages projectId conversationId messageId =>
      obtain rfl : syncMessagesRequest projectId conversationId messageId = request :=
        Option.some.inj hreq
      have hpage := sync_reply_ok hreply
      rw [he] at hpage
      obtain rfl := ChatMessage.syncMessagesResponse.inj hpage
      refine ⟨projectId, conversationId, _, _, .inr ⟨k, _, hk, rfl⟩, .sync messageId, ?_⟩
      intro x hx
      obtain ⟨hx, hp⟩ := storedIn_clientMessages (fun x hx => Clustered.mem_after.mp hx) x hx
      exact ⟨hkeeps.storedIn hx, hp⟩
    | _ => cases hreq
  | _ => cases hms

theorem synced_back {base : Store} {n k : Nat} (hi : ReadsSince .sync db base n t)
    {w : Waiter ReadTicket (Except String (List ResponseDirectMessage))}
    {projectId conversationId : String} {cursor : Uuid} {messages : List ResponseDirectMessage}
    (hn : n ≤ k) (hw : t.syncRelays.get? k = some w)
    (hf : w.context.frame = .syncMessages projectId conversationId cursor)
    (hr : w.reply = .sent (.ok messages)) {x : ResponseDirectMessage}
    (hx : StoredIn base projectId conversationId x) (hlt : cursor < x.messageId) :
    x ∈ messages := by
  obtain ⟨request, store₀, fault, newV4, hreq, hbase, -, hreply⟩ := hi.replied hw hn hr
  obtain rfl : syncMessagesRequest projectId conversationId cursor = request := by
    rw [hf] at hreq
    exact Option.some.inj hreq
  obtain rfl := ChatMessage.syncMessagesResponse.inj (sync_reply_ok hreply)
  obtain ⟨row, hrow, rfl⟩ := hbase.storedIn hx
  exact List.mem_map.mpr ⟨row, Clustered.mem_after.mpr ⟨hrow, hlt⟩, rfl⟩

theorem paged_back {base : Store} {n k : Nat} (hi : ReadsSince .history db base n t)
    {w : Waiter ReadTicket (Except String PaginatedMessagesResponse)}
    {projectId conversationId : String} {cursor : Option Uuid} {page : PaginatedMessagesResponse}
    (hn : n ≤ k) (hw : t.historyRelays.get? k = some w)
    (hf : w.context.frame = .getPaginatedMessages projectId cursor conversationId)
    (hr : w.reply = .sent (.ok page)) {x : ResponseDirectMessage}
    (hx : StoredIn base projectId conversationId x) (hb : Clustered.Below cursor x.messageId) :
    x ∈ page.messages ∨
      page.messages.length = pageLimit ∧ ∀ y ∈ page.messages, x.messageId < y.messageId := by
  obtain ⟨request, store₀, fault, newV4, hreq, hbase, -, hreply⟩ := hi.replied hw hn hr
  obtain rfl : getPaginatedMessagesRequest projectId cursor conversationId = request := by
    rw [hf] at hreq
    exact Option.some.inj hreq
  have hpage := history_reply_ok hreply
  simp only [ReadKind.history, State.chatHistoryResponse, historyPage,
    ChatMessage.chatHistoryResponse.injEq] at hpage
  obtain ⟨row, hrow, rfl⟩ := hbase.storedIn hx
  rw [hpage.1]
  by_cases hmem : row ∈ (store₀.directMessages (projectId, conversationId)).page pageLimit cursor
  · exact .inl (List.mem_map.mpr ⟨row, hmem, rfl⟩)
  · obtain ⟨hlen, hlater⟩ := Clustered.page_full_of_not_mem
      (Clustered.mem_downFrom.mpr ⟨hrow, hb⟩) hmem
    refine .inr ⟨(List.length_map _).trans hlen, fun y hy => ?_⟩
    obtain ⟨z, hz, rfl⟩ := List.mem_map.mp hy
    exact hlater z hz

/-- **What has been seen stays.** In every run that draws new ids, whatever a client has been told
is stored, and it is in every answer to a later request that it falls within. -/
theorem seen_stays (h : (system db store).Run (.start store) acts s)
    (h' : (system db store).Run s acts' t)
    (hnew : (system db store).Meets DrawsNewId (.start store) (acts ++ acts')) :
    SeenStays s t := by
  obtain ⟨hnew, hnew'⟩ := h.meets_of_append hnew
  have hreach : (system db store).Reachable s := ⟨acts, h⟩
  obtain ⟨hrows, hdur⟩ := kept_run h hnew
  have hsync := readsSince_run ReadKind.sync_runs hreach hrows
    (.now (reads_of_reachable ReadKind.sync_runs hreach)) h' hnew'
  have hhistory := readsSince_run ReadKind.history_runs hreach hrows
    (.now (reads_of_reachable ReadKind.history_runs hreach)) h' hnew'
  constructor
  · exact hsync.kept
  · intro sid clientMessageId id time hm
    exact acked_stored hreach hdur hm
  · intro sid m messages hm hms
    exact read_stored (readsSince_start ReadKind.history_runs h hnew)
      (readsSince_start ReadKind.sync_runs h hnew) hreach hm hms
  · intro k w projectId conversationId cursor messages hn hw hf hr x hx hlt
    exact synced_back hsync hn hw hf hr hx hlt
  · intro k w projectId conversationId cursor page hn hw hf hr x hx hb
    exact paged_back hhistory hn hw hf hr hx hb

end Runs

/-- `alice` sends a message, which is acknowledged. -/
def firstSeen : List Action :=
  [.connect alice, .router 0 0, .finishCreation 0,
    .frame 0 (some (.sendDirectMessage "c" bob "hi" (.ofTime 8))) (.ofTime 1), .router 5 5,
    .serveWrite 0 none, .persist 0 none 6, .ackRelay 0]

/-- She sends another one, and asks for the conversation before that one is written. -/
def thenSynced : List Action :=
  [.frame 0 (some (.sendDirectMessage "c" bob "there" (.ofTime 9))) (.ofTime 2), .router 7 7,
    .frame 0 (some (.syncMessages "acme" "c" (.ofTime 0))) (.ofTime 3), .router 0 0,
    .serveSync 0 none, .serveWrite 1 none, .syncRead 0 none fun _ => .ofTime 0, .syncRelay 0]

theorem seen_stays_first :
    ∃ s t, (system lenientDb .empty).exec (.start .empty) firstSeen = some s ∧
      (system lenientDb .empty).exec s thenSynced = some t ∧
      s.acks.log = [(0, .messageAck (.ofTime 8) (.ofTime 1) 6 .persisted)] ∧
      t.acks.log = s.acks.log ++
        [(0, .syncMessagesResponse [⟨"c", .ofTime 1, "alice", "bob", "hi", 5⟩])] ∧
      SeenStays s t := by
  obtain ⟨s, hs, hlog⟩ := Option.map_eq_some_iff.mp
    (show ((system lenientDb .empty).exec (.start .empty) firstSeen).map (·.acks.log) =
      some [(0, .messageAck (.ofTime 8) (.ofTime 1) 6 .persisted)] from rfl)
  obtain ⟨t, ht, hlog'⟩ := Option.map_eq_some_iff.mp
    (show ((system lenientDb .empty).exec (.start .empty) (firstSeen ++ thenSynced)).map
        (·.acks.log) =
      some [(0, .messageAck (.ofTime 8) (.ofTime 1) 6 .persisted),
        (0, .syncMessagesResponse [⟨"c", .ofTime 1, "alice", "bob", "hi", 5⟩])] from rfl)
  rw [Machine.exec_append, hs, Option.bind_some] at ht
  have hrun := Machine.run_of_exec hs
  have hrun' := Machine.run_of_exec ht
  exact ⟨s, t, hs, ht, hlog, hlog ▸ hlog',
    seen_stays hrun hrun' (meets_drawsNewId (hrun.append hrun'))⟩

/-! ## A walk of a session -/

/-- The session has asked for a page after `s`, and by `t` it has been answered. -/
def State.Pages (s t : State) (sid : SessionId) (projectId conversationId : String)
    (cursor : Option Uuid) (page : PaginatedMessagesResponse) : Prop :=
  ∃ k w, s.historyRelays.next ≤ k ∧ t.historyRelays.get? k = some w ∧
    w.context = ⟨sid, .getPaginatedMessages projectId cursor conversationId⟩ ∧
    w.reply = .sent (.ok page)

/-- Page after page, each asked for after the answer before, until one says there is no more. What
happens in between is in the run. -/
inductive SessionWalk (db : Db) (store : Store) (sid : SessionId)
    (projectId conversationId : String) :
    Option Uuid → State → List Action → State → List ResponseDirectMessage → Prop
  | last {cursor : Option Uuid} {s t : State} {acts : List Action}
      {page : PaginatedMessagesResponse} (run : (system db store).Run s acts t)
      (answered : s.Pages t sid projectId conversationId cursor page)
      (last : page.hasMore = false) :
      SessionWalk db store sid projectId conversationId cursor s acts t page.messages
  | more {cursor : Option Uuid} {s t u : State} {acts acts' : List Action}
      {page : PaginatedMessagesResponse} {out : List ResponseDirectMessage}
      (run : (system db store).Run s acts t)
      (answered : s.Pages t sid projectId conversationId cursor page)
      (more : page.hasMore = true)
      (rest : SessionWalk db store sid projectId conversationId
        (page.nextCursor.bind Uuid.parseStr) t acts' u out) :
      SessionWalk db store sid projectId conversationId cursor s (acts ++ acts') u
        (page.messages ++ out)

section Walk

variable {db : Db} {store : Store} {s t : State} {acts acts' : List Action} {sid : SessionId}
  {projectId conversationId : String} {cursor : Option Uuid} {out : List ResponseDirectMessage}

/-- A page shows the conversation as it has been between question and answer. -/
theorem State.Pages.reply {page : PaginatedMessagesResponse}
    (hreach : (system db store).Reachable s) (hrows : RowsOk s) (h : (system db store).Run s acts t)
    (hnew : (system db store).Meets DrawsNewId s acts)
    (hp : s.Pages t sid projectId conversationId cursor page) : ∃ store₀ fault newV4,
      s.store.Keeps store₀ ∧ store₀.Keeps t.store ∧ ReadKind.history.reply db fault newV4 store₀
        (getPaginatedMessagesRequest projectId cursor conversationId) =
          .ok (State.chatHistoryResponse page) := by
  obtain ⟨k, w, hn, hw, hc, hr⟩ := hp
  have hsince := readsSince_run ReadKind.history_runs hreach hrows
    (.now (reads_of_reachable ReadKind.history_runs hreach)) h hnew
  obtain ⟨request, store₀, fault, newV4, hreq, hbase, hstore, hreply⟩ := hsince.replied hw hn hr
  obtain rfl : getPaginatedMessagesRequest projectId cursor conversationId = request := by
    rw [hc] at hreq
    exact Option.some.inj hreq
  exact ⟨store₀, fault, newV4, hbase, hstore, hreply⟩

/-- To the client it is a walk over stores that keep what there was at its start. -/
theorem SessionWalk.clientWalk
    (h : SessionWalk db store sid projectId conversationId cursor s acts t out)
    (hreach : (system db store).Reachable s) (hrows : RowsOk s)
    (hnew : (system db store).Meets DrawsNewId s acts) :
    s.store.Keeps t.store ∧ ∃ stores, ClientWalk db projectId conversationId cursor stores out ∧
      ∀ st ∈ stores, s.store.Keeps st ∧ st.Keeps t.store := by
  induction h with
  | last run answered hlast =>
    obtain ⟨store₀, fault, newV4, hbase, hstore, hreply⟩ :=
      answered.reply hreach hrows run hnew
    rw [State.chatHistoryResponse, hlast] at hreply
    refine ⟨hbase.trans hstore, [store₀], .last hreply, fun st hst => ?_⟩
    rw [List.mem_singleton.mp hst]
    exact ⟨hbase, hstore⟩
  | more run answered hmore rest ih =>
    obtain ⟨hnew, hrest⟩ := run.meets_of_append hnew
    obtain ⟨store₀, fault, newV4, hbase, hstore, hreply⟩ :=
      answered.reply hreach hrows run hnew
    have hrows' := run.invariant_of_meets (I := RowsOk)
      (fun _ _ _ hs hn hi => hi.step (fun _ => hn.lacks hs) hs) hnew hrows
    obtain ⟨hkeeps, stores, hwalk, hstores⟩ := ih (hreach.run run) hrows' hrest
    rw [State.chatHistoryResponse, hmore] at hreply
    refine ⟨(hbase.trans hstore).trans hkeeps, store₀ :: stores, .more hreply hwalk,
      fun st hst => ?_⟩
    rcases List.mem_cons.mp hst with rfl | hst
    · exact ⟨hbase, hstore.trans hkeeps⟩
    · obtain ⟨hafter, hbefore⟩ := hstores st hst
      exact ⟨(hbase.trans hstore).trans hafter, hbefore⟩

/-- **A walk in a run.** Whatever all sessions do while a client walks through a conversation, it
receives all that was stored when it began, each message once and in descending order, and nothing
but what is stored at the end. -/
theorem session_walk_complete (h : (system db store).Run (.start store) acts s)
    (hwalk : SessionWalk db store sid projectId conversationId none s acts' t out)
    (hnew : (system db store).Meets DrawsNewId (.start store) (acts ++ acts')) :
    out.Pairwise (fun a b => b.messageId < a.messageId) ∧
      (∀ m, StoredIn s.store projectId conversationId m → out.count m = 1) ∧
      ∀ m ∈ out, StoredIn t.store projectId conversationId m := by
  obtain ⟨hnew, hnew'⟩ := h.meets_of_append hnew
  obtain ⟨-, stores, hclient, hstores⟩ :=
    hwalk.clientWalk ⟨acts, h⟩ (kept_run h hnew).1 hnew'
  obtain ⟨rows, hrows, rfl⟩ := walk_of_clientWalk hclient
  have hdesc : (clientMessages conversationId rows).Pairwise fun a b => b.messageId < a.messageId :=
    List.pairwise_map.mpr hrows.descending
  refine ⟨hdesc, ?_, ?_⟩
  · rintro m ⟨x, hx, rfl⟩
    have hmem : x ∈ rows := by
      refine hrows.complete (by decide) (fun part hpart => ?_) (Clustered.below_none _)
      obtain ⟨st, hst, rfl⟩ := List.mem_map.mp hpart
      exact (hstores st hst).1.direct _ x hx
    have hnodup : (clientMessages conversationId rows).Nodup :=
      hdesc.imp fun hlt heq => absurd (congrArg _ heq) hlt.ne'
    exact List.count_eq_one_of_mem hnodup (List.mem_map_of_mem hmem)
  · intro m hm
    obtain ⟨x, hx, rfl⟩ := List.mem_map.mp hm
    obtain ⟨part, hpart, hxp⟩ := hrows.sound x hx
    obtain ⟨st, hst, rfl⟩ := List.mem_map.mp hpart
    exact ⟨x, (hstores st hst).2.direct _ x hxp, rfl⟩

end Walk

/-- She asks for the first page, -/
def firstPage : List Action :=
  [.frame 0 (some (.getPaginatedMessages "acme" none "c")) (.ofTime 2), .router 0 0,
    .serveHistory 0 none, .historyRead 0 none fun _ => .ofTime 0]

/-- and, while another message of hers is stored, for the next. -/
def nextPage : List Action :=
  [.frame 0 (some (.sendDirectMessage "c" bob "there" (.ofTime 9))) (.ofTime 3), .router 7 7,
    .serveWrite 1 none,
    .frame 0 (some (.getPaginatedMessages "acme" (some (.ofTime 1)) "c")) (.ofTime 4),
    .router 0 0, .serveHistory 1 none, .historyRead 1 none fun _ => .ofTime 0]

theorem session_walk_complete_first :
    ∃ s t, (system lenientDb .empty).exec (.start .empty) firstSeen = some s ∧
      (system lenientDb .empty).exec s (firstPage ++ nextPage) = some t ∧
      StoredIn t.store "acme" "c" ⟨"c", .ofTime 3, "alice", "bob", "there", 7⟩ ∧
      (∀ m, StoredIn s.store "acme" "c" m →
        [(⟨"c", .ofTime 1, "alice", "bob", "hi", 5⟩ : ResponseDirectMessage)].count m = 1) ∧
      ∀ m ∈ [(⟨"c", .ofTime 1, "alice", "bob", "hi", 5⟩ : ResponseDirectMessage)],
        StoredIn t.store "acme" "c" m := by
  obtain ⟨s, hs, hnext⟩ := Option.map_eq_some_iff.mp
    (show ((system lenientDb .empty).exec (.start .empty) firstSeen).map (·.historyRelays.next) =
      some 0 from rfl)
  obtain ⟨t, ht, ht'⟩ := Option.map_eq_some_iff.mp
    (show ((system lenientDb .empty).exec (.start .empty) (firstSeen ++ firstPage)).map
        (fun s => (s.historyRelays.next, s.historyRelays.get? 0)) =
      some (1, some ⟨⟨0, .getPaginatedMessages "acme" none "c"⟩, .sent (.ok
        ⟨[⟨"c", .ofTime 1, "alice", "bob", "hi", 5⟩], some (Uuid.ofTime 1).toString, true⟩),
          false⟩) from rfl)
  obtain ⟨u, hu, hu'⟩ := Option.map_eq_some_iff.mp
    (show ((system lenientDb .empty).exec (.start .empty)
        (firstSeen ++ (firstPage ++ nextPage))).map
        (fun s => (s.historyRelays.get? 1, (s.store.directMessages ("acme", "c")).rows)) =
      some (some ⟨⟨0, .getPaginatedMessages "acme" (some (.ofTime 1)) "c"⟩,
          .sent (.ok ⟨[], none, false⟩), false⟩,
        [(.ofTime 1, ⟨"alice", "bob", "hi", 5⟩), (.ofTime 3, ⟨"alice", "bob", "there", 7⟩)])
      from rfl)
  obtain ⟨hnext', hfirst⟩ := Prod.mk.inj ht'
  obtain ⟨hsecond, hrows⟩ := Prod.mk.inj hu'
  rw [Machine.exec_append, hs, Option.bind_some] at ht hu
  have hu₀ := hu
  rw [Machine.exec_append, ht, Option.bind_some] at hu₀
  have hrun := Machine.run_of_exec hs
  have hrun' := Machine.run_of_exec hu
  have hwalk : SessionWalk lenientDb .empty 0 "acme" "c" none s (firstPage ++ nextPage) u
      [⟨"c", .ofTime 1, "alice", "bob", "hi", 5⟩] := by
    refine .more (Machine.run_of_exec ht) ⟨0, _, hnext.le, hfirst, rfl, rfl⟩ rfl ?_
    exact .last (Machine.run_of_exec hu₀) ⟨1, _, hnext'.le, hsecond, by
      rw [Option.bind_some, Uuid.parseStr_toString], rfl⟩ rfl
  obtain ⟨-, hcomplete, hsound⟩ :=
    session_walk_complete hrun hwalk (meets_drawsNewId (hrun.append hrun'))
  have hthere : ((.ofTime 3, ⟨"alice", "bob", "there", 7⟩) : Uuid × DirectMessageRow) ∈
      (u.store.directMessages ("acme", "c")).rows := by
    rw [hrows]
    exact List.mem_cons_of_mem _ List.mem_cons_self
  exact ⟨s, u, hs, hu, ⟨_, hthere, rfl⟩, hcomplete, hsound⟩

end PerOxo
