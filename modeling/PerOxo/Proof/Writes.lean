import PerOxo.Proof.Spoofing

/-!
# What the write requests leave in the store

A step changes the store only by the batch of a write request that is carried out
(`store_step`), and a write request is the one of a task, for a message that has been sent
(`Ids.task_of_call`): one id, one request.
-/

set_option autoImplicit false

namespace PerOxo

open ChatService PersistenceService

namespace ChatService

/-- The row a message is stored as. -/
def DirectMessage.row (m : DirectMessage) : DirectMessageRow :=
  ⟨m.senderId, m.recipientId, m.messageText, m.createdAt⟩

def DbRoomMessageEx.row (m : DbRoomMessageEx) : RoomMessageRow :=
  ⟨m.senderId, m.content, m.createdAt⟩

/-- The message a request asks to store, its id parsed. -/
def WriteDmRequest.directMessage (req : WriteDmRequest) (id : Uuid) : DirectMessage :=
  ⟨req.projectId, req.conversationId, id, req.senderId, req.receiverId, req.message, req.timestamp⟩

def WriteRoomMessageRequest.roomMessage (req : WriteRoomMessageRequest) (id : Uuid) :
    DbRoomMessageEx :=
  ⟨req.projectId, req.roomId, id, req.senderId, req.content, req.timestamp⟩

/-- Nothing else is stored under the id of the message. -/
def DirectMessage.OwnsId (m : DirectMessage) (store : Store) : Prop :=
  ∀ row, (m.messageId, row) ∈ (store.directMessages (m.projectId, m.conversationId)).rows →
    row = m.row

def DbRoomMessageEx.OwnsId (m : DbRoomMessageEx) (store : Store) : Prop :=
  ∀ row, (m.messageId, row) ∈ (store.roomMessages (m.projectId, m.roomId)).rows → row = m.row

/-- No message is stored under the id. -/
def Store.Lacks (store : Store) (id : Uuid) : Prop :=
  (∀ key row, (id, row) ∉ (store.directMessages key).rows) ∧
    ∀ key row, (id, row) ∉ (store.roomMessages key).rows

theorem Store.lacks_empty (id : Uuid) : Store.empty.Lacks id :=
  ⟨fun _ _ => List.not_mem_nil, fun _ _ => List.not_mem_nil⟩

end ChatService

namespace WriteRequest

/-- chat-service carries out the batch of the request. -/
def Carried (db : Db) (fault : Option Fault) : WriteRequest → Prop
  | .dm req => ¬ (req.projectId = "" ∨ req.conversationId = "") ∧
      (∃ id, Uuid.parseStr req.messageId = some id) ∧
      db.Applies fault [insertDirectMessage, insertUserConversation, insertUserConversation]
  | .room req => ¬ (req.projectId = "" ∨ req.roomId = "") ∧
      (∃ id, Uuid.parseStr req.messageId = some id) ∧
      db.Applies fault [insertRoomMessage, updateProjectRoom]

/-- The batch of the request. -/
def apply (id : Uuid) (store : Store) : WriteRequest → Store
  | .dm req => store.applyDirectMessage (req.directMessage id)
  | .room req => store.applyRoomMessage (req.roomMessage id)

theorem serve_store (db : Db) (fault : Option Fault) (store : Store) (request : WriteRequest) :
    (request.Carried db fault ∧ ∃ id, Uuid.parseStr request.messageId = some id ∧
        (request.serve db fault store).2 = request.apply id store) ∨
      (¬ request.Carried db fault ∧ (request.serve db fault store).2 = store) := by
  cases request with
  | dm req =>
    simp only [Carried, messageId, serve, ChatServiceImpl.writeDm]
    by_cases hf : req.projectId = "" ∨ req.conversationId = ""
    · exact .inr ⟨fun hc => hc.1 hf, by rw [if_pos hf]⟩
    · rw [if_neg hf]
      cases hp : Uuid.parseStr req.messageId with
      | none => exact .inr ⟨by simp, rfl⟩
      | some id =>
        rcases db.batch_store fault [insertDirectMessage, insertUserConversation,
          insertUserConversation] (Store.applyDirectMessage (req.directMessage id))
          store with ⟨ha, he⟩ | ⟨ha, he⟩
        · exact .inl ⟨⟨hf, ⟨id, rfl⟩, ha⟩, id, rfl, he⟩
        · exact .inr ⟨fun hc => ha hc.2.2, he⟩
  | room req =>
    simp only [Carried, messageId, serve, ChatServiceImpl.writeRoomMessage]
    by_cases hf : req.projectId = "" ∨ req.roomId = ""
    · exact .inr ⟨fun hc => hc.1 hf, by rw [if_pos hf]⟩
    · rw [if_neg hf]
      cases hp : Uuid.parseStr req.messageId with
      | none => exact .inr ⟨by simp, rfl⟩
      | some id =>
        rcases db.batch_store fault [insertRoomMessage, updateProjectRoom]
          (Store.applyRoomMessage (req.roomMessage id)) store with
          ⟨ha, he⟩ | ⟨ha, he⟩
        · exact .inl ⟨⟨hf, ⟨id, rfl⟩, ha⟩, id, rfl, he⟩
        · exact .inr ⟨fun hc => ha hc.2.2, he⟩

/-- Nothing else is stored under the id of the request. -/
def OwnsId (id : Uuid) (store : Store) : WriteRequest → Prop
  | .dm req => (req.directMessage id).OwnsId store
  | .room req => (req.roomMessage id).OwnsId store

/-- What is stored by a batch was there before, or is the message of the request. -/
theorem mem_apply_directMessages {store : Store} {id id' : Uuid} {request : WriteRequest}
    {key : String × String} {row : DirectMessageRow}
    (h : (id', row) ∈ ((request.apply id store).directMessages key).rows) :
    (id', row) ∈ (store.directMessages key).rows ∨
      ∃ req, request = .dm req ∧ key = (req.projectId, req.conversationId) ∧ id' = id ∧
        row = (req.directMessage id).row := by
  cases request with
  | room req => exact .inl h
  | dm req =>
    rw [apply, applyDirectMessage_directMessages] at h
    rcases Clustered.mem_update_upsert h with hold | ⟨hkey, hid, hrow⟩
    · exact .inl hold
    · exact .inr ⟨req, rfl, hkey, hid, hrow⟩

theorem mem_apply_roomMessages {store : Store} {id id' : Uuid} {request : WriteRequest}
    {key : String × String} {row : RoomMessageRow}
    (h : (id', row) ∈ ((request.apply id store).roomMessages key).rows) :
    (id', row) ∈ (store.roomMessages key).rows ∨
      ∃ req, request = .room req ∧ key = (req.projectId, req.roomId) ∧ id' = id ∧
        row = (req.roomMessage id).row := by
  cases request with
  | dm req => exact .inl h
  | room req =>
    rw [apply, applyRoomMessage_roomMessages] at h
    rcases Clustered.mem_update_upsert h with hold | ⟨hkey, hid, hrow⟩
    · exact .inl hold
    · exact .inr ⟨req, rfl, hkey, hid, hrow⟩

theorem lacks_apply {store : Store} {id id' : Uuid} {request : WriteRequest}
    (h : store.Lacks id') (hne : id' ≠ id) : (request.apply id store).Lacks id' := by
  constructor
  · intro key row hrow
    rcases mem_apply_directMessages hrow with hold | ⟨req, -, -, he, -⟩
    · exact h.1 key row hold
    · exact hne he
  · intro key row hrow
    rcases mem_apply_roomMessages hrow with hold | ⟨req, -, -, he, -⟩
    · exact h.2 key row hold
    · exact hne he

end WriteRequest

theorem State.Persisting.request_messageId {s : State} {p : PersistTask} (h : s.Persisting p) :
    p.request.messageId = p.messageId.toString := by
  cases h with
  | direct timestamp mem request => rw [request]; rfl
  | room timestamp found mem request => rw [request]; rfl

section Step

variable {db : Db} {s s' : State} {act : Action}

/-- A write request is the one of a task, for a message that has been sent. -/
theorem Ids.task_of_call (hi : Ids s) {c : CallId} {call : WriteCall}
    (hc : s.writes.get? c = some call) {id : Uuid}
    (hid : Uuid.parseStr call.request.messageId = some id) :
    id ∈ s.sentIds ∧ ∃ n p, s.persists.get? n = some p ∧ p.request = call.request ∧
      p.messageId = id := by
  obtain ⟨n, p, hn, hreq⟩ := hi.tasks.calls c call hc
  have hp := hi.tasks.persisting n p hn
  rw [← hreq, hp.request_messageId, Uuid.parseStr_toString] at hid
  obtain rfl := Option.some.inj hid
  obtain ⟨x, hx, hxid, -⟩ := hp.source hi.rooms
  exact ⟨List.mem_filterMap.mpr ⟨x, List.mem_append_left _ hx, hxid⟩, n, p, hn, hreq, rfl⟩

/-- One id, one request. -/
theorem Ids.request_unique (hi : Ids s) {c c' : CallId} {call call' : WriteCall}
    (hc : s.writes.get? c = some call) (hc' : s.writes.get? c' = some call') {id : Uuid}
    (hid : Uuid.parseStr call.request.messageId = some id)
    (hid' : Uuid.parseStr call'.request.messageId = some id) : call.request = call'.request := by
  obtain ⟨-, n, p, hn, hreq, hp⟩ := hi.task_of_call hc hid
  obtain ⟨-, n', p', hn', hreq', hp'⟩ := hi.task_of_call hc' hid'
  obtain rfl := hi.tasks.distinct n n' p p' hn hn' (hp.trans hp'.symm)
  obtain rfl := Option.some.inj (hn.symm.trans hn')
  exact hreq.symm.trans hreq'

/-- What a step does to the store: nothing, or it applies the batch of a write request. -/
theorem store_step (h : s.step db act = some s') :
    s'.store = s.store ∨ ∃ c call id, s.writes.get? c = some call ∧
      Uuid.parseStr call.request.messageId = some id ∧
      s'.store = call.request.apply id s.store := by
  obtain ⟨d, hd, hst, -⟩ := State.delivery_moved h
  rw [hst]
  cases hd with
  | @served c request fault action found =>
    rcases request.serve_store db fault s.store with ⟨-, id, hid, he⟩ | ⟨-, he⟩
    · exact .inr ⟨c, _, id, found, hid, he⟩
    · exact .inl he
  | _ => exact .inl rfl

theorem sentIds_prefix (h : s.step db act = some s') : ∃ l, s'.sentIds = s.sentIds ++ l := by
  rcases sentIds_step h with he | ⟨sid, text, id, -, -, he⟩
  · exact ⟨[], he.trans (List.append_nil _).symm⟩
  · exact ⟨[id], he⟩

theorem mem_sentIds_step (h : s.step db act = some s') {id : Uuid} (hid : id ∈ s.sentIds) :
    id ∈ s'.sentIds := by
  obtain ⟨l, hl⟩ := sentIds_prefix h
  rw [hl]
  exact List.mem_append_left l hid

/-- An id that no message has been sent with stays unused. -/
theorem lacks_step (hi : Ids s) (h : s.step db act = some s') {id : Uuid}
    (hlacks : s.store.Lacks id) (hid : id ∉ s.sentIds) : s'.store.Lacks id := by
  rcases store_step h with he | ⟨c, call, id', hc, hid', he⟩
  · rwa [he]
  · rw [he]
    refine WriteRequest.lacks_apply hlacks ?_
    rintro rfl
    exact hid (hi.task_of_call hc hid').1

/-! ## Rows and requests -/

/-- What is stored under the id of a message that has been sent is what a write request asks
for. -/
structure RowsOk (s : State) : Prop where
  ids : Ids s
  direct : ∀ key id row, (id, row) ∈ (s.store.directMessages key).rows → id ∈ s.sentIds →
    ∃ c call req, s.writes.get? c = some call ∧ call.request = .dm req ∧
      Uuid.parseStr req.messageId = some id ∧ row = (req.directMessage id).row
  room : ∀ key id row, (id, row) ∈ (s.store.roomMessages key).rows → id ∈ s.sentIds →
    ∃ c call req, s.writes.get? c = some call ∧ call.request = .room req ∧
      Uuid.parseStr req.messageId = some id ∧ row = (req.roomMessage id).row

theorem RowsOk.ownsId (hi : RowsOk s) {c : CallId} {call : WriteCall}
    (hc : s.writes.get? c = some call) {id : Uuid}
    (hid : Uuid.parseStr call.request.messageId = some id) : call.request.OwnsId id s.store := by
  have hsent := (hi.ids.task_of_call hc hid).1
  cases hreq : call.request with
  | dm req =>
    intro row hrow
    obtain ⟨c', call', req', hc', hreq', hid', rfl⟩ := hi.direct _ id row hrow hsent
    have he := hi.ids.request_unique hc hc' hid (by rw [hreq']; exact hid')
    rw [hreq, hreq'] at he
    rw [WriteRequest.dm.inj he]
  | room req =>
    intro row hrow
    obtain ⟨c', call', req', hc', hreq', hid', rfl⟩ := hi.room _ id row hrow hsent
    have he := hi.ids.request_unique hc hc' hid (by rw [hreq']; exact hid')
    rw [hreq, hreq'] at he
    rw [WriteRequest.room.inj he]

/-- The rows of a table that is written by requests of one form, after a step. -/
theorem rows_step {R Q : Type} (rows : Store → String × String → List (Uuid × R))
    (form : Q → WriteRequest) (row : Q → Uuid → R)
    (happly : ∀ {store : Store} {id id' : Uuid} {request : WriteRequest} {key : String × String}
      {r : R}, (id', r) ∈ rows (request.apply id store) key → (id', r) ∈ rows store key ∨
        ∃ q, request = form q ∧ id' = id ∧ r = row q id)
    (h : s.step db act = some s') {key : String × String} {id : Uuid} {r : R}
    (hold : (id, r) ∈ rows s.store key → ∃ c call q, s.writes.get? c = some call ∧
      call.request = form q ∧ Uuid.parseStr (form q).messageId = some id ∧ r = row q id)
    (hr : (id, r) ∈ rows s'.store key) : ∃ c call q, s'.writes.get? c = some call ∧
      call.request = form q ∧ Uuid.parseStr (form q).messageId = some id ∧ r = row q id := by
  have hkept : (id, r) ∈ rows s.store key → ∃ c call q, s'.writes.get? c = some call ∧
      call.request = form q ∧ Uuid.parseStr (form q).messageId = some id ∧ r = row q id := by
    intro hr
    obtain ⟨c, call, q, hc, hreq, hrest⟩ := hold hr
    obtain ⟨call', hc', hreq', -⟩ := Routing.write_step h hc
    exact ⟨c, call', q, hc', hreq'.trans hreq, hrest⟩
  rcases store_step h with he | ⟨c, call, id', hc, hid', he⟩
  · exact hkept (he ▸ hr)
  · rw [he] at hr
    rcases happly hr with hr | ⟨q, hreq, rfl, rfl⟩
    · exact hkept hr
    · obtain ⟨call', hc', hreq', -⟩ := Routing.write_step h hc
      exact ⟨c, call', q, hc', hreq'.trans hreq, hreq ▸ hid', rfl⟩

theorem RowsOk.step (hi : RowsOk s)
    (hnew : ∀ id ∈ s'.sentIds, id ∉ s.sentIds → s.store.Lacks id) (h : s.step db act = some s') :
    RowsOk s' := by
  refine ⟨hi.ids.step h, fun key id row hrow hsent => ?_, fun key id row hrow hsent => ?_⟩
  · refine rows_step (fun store key => (store.directMessages key).rows) .dm
      (fun req id => (req.directMessage id).row) ?_ h ?_ hrow
    · intro _ _ _ _ _ _ hr
      exact (WriteRequest.mem_apply_directMessages hr).imp_right fun ⟨req, hreq, _, hrest⟩ =>
        ⟨req, hreq, hrest⟩
    · intro hrow
      exact hi.direct key id row hrow (not_not.mp fun hno => (hnew id hsent hno).1 key row hrow)
  · refine rows_step (fun store key => (store.roomMessages key).rows) .room
      (fun req id => (req.roomMessage id).row) ?_ h ?_ hrow
    · intro _ _ _ _ _ _ hr
      exact (WriteRequest.mem_apply_roomMessages hr).imp_right fun ⟨req, hreq, _, hrest⟩ =>
        ⟨req, hreq, hrest⟩
    · intro hrow
      exact hi.room key id row hrow (not_not.mp fun hno => (hnew id hsent hno).2 key row hrow)

theorem RowsOk.start (store : Store) : RowsOk (.start store) where
  ids := .start store
  direct key id row hrow hid := absurd hid (by simp [State.sentIds, State.entered, State.start])
  room key id row hrow hid := absurd hid (by simp [State.sentIds, State.entered, State.start])

end Step

end PerOxo
