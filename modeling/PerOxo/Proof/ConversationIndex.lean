import PerOxo.Lib.Latest
import PerOxo.Proof.Deployed
import PerOxo.Proof.Writes

/-!
# The list of conversations

`user_conversations` and `project_rooms` are kept beside the messages, by the same batches.
`Store.Indexed` says that they have an entry for exactly what is stored. Every batch keeps it
(`indexed_apply`), as long as no message replaces another one under its id. So a user is shown
exactly the conversations with a message of their own (`conversation_index`), if the user has a
name: a message can be written to nobody, but for nobody nothing is listed
(`nobody_is_refused`).
-/

set_option autoImplicit false

namespace PerOxo

open ChatService

namespace ChatService

/-- A direct message of the conversation, sent or received by the user, is stored. -/
def Store.HasMessageOf (store : Store) (projectId userId conversationId : String) : Prop :=
  ∃ id row, (id, row) ∈ (store.directMessages (projectId, conversationId)).rows ∧
    (row.senderId = userId ∨ row.recipientId = userId)

def Store.HasRoomMessage (store : Store) (projectId roomId : String) : Prop :=
  ∃ id row, (id, row) ∈ (store.roomMessages (projectId, roomId)).rows

/-- The two lists are right. -/
structure Store.Indexed (store : Store) : Prop where
  users : ∀ p u c, (∃ t, (c, t) ∈ (store.userConversations (p, u)).rows) ↔
    store.HasMessageOf p u c
  rooms : ∀ p r, (∃ t, (r, t) ∈ (store.projectRooms p).rows) ↔ store.HasRoomMessage p r

theorem Store.Indexed.empty : Store.empty.Indexed where
  users p u c := by simp [Store.HasMessageOf, Store.empty]
  rooms p r := by simp [Store.HasRoomMessage, Store.empty]

section Apply

variable {store : Store}

theorem mem_applyDirectMessage_iff {m : DirectMessage} (hid : m.OwnsId store)
    {x : Uuid × DirectMessageRow} :
    x ∈ ((store.applyDirectMessage m).directMessages (m.projectId, m.conversationId)).rows ↔
      x = (m.messageId, m.row) ∨
        x ∈ (store.directMessages (m.projectId, m.conversationId)).rows := by
  rw [applyDirectMessage_directMessages, Function.update_self]
  exact Clustered.mem_upsert_of_same hid

/-- A message of the conversation is one of the batch, or was there. -/
theorem hasMessageOf_apply {m : DirectMessage} (hid : m.OwnsId store) {p u c : String} :
    (store.applyDirectMessage m).HasMessageOf p u c ↔
      ((p = m.projectId ∧ c = m.conversationId) ∧ (m.senderId = u ∨ m.recipientId = u)) ∨
        store.HasMessageOf p u c := by
  by_cases hk : (p, c) = (m.projectId, m.conversationId)
  · obtain ⟨rfl, rfl⟩ := Prod.mk.inj hk
    simp only [Store.HasMessageOf, mem_applyDirectMessage_iff hid]
    constructor
    · intro h
      obtain ⟨id, row, he | hrow, hparty⟩ := h
      · cases he
        exact .inl ⟨⟨trivial, trivial⟩, hparty⟩
      · exact .inr ⟨id, row, hrow, hparty⟩
    · intro h
      rcases h with ⟨-, hparty⟩ | ⟨id, row, hrow, hparty⟩
      · exact ⟨_, _, .inl rfl, hparty⟩
      · exact ⟨id, row, .inr hrow, hparty⟩
  · have hne : ¬ (p = m.projectId ∧ c = m.conversationId) := fun h => hk (Prod.ext h.1 h.2)
    simp only [Store.HasMessageOf, applyDirectMessage_directMessages, Function.update_of_ne hk,
      hne, false_and, false_or]

theorem hasRoomMessage_apply (m : DbRoomMessageEx) {p r : String} :
    (store.applyRoomMessage m).HasRoomMessage p r ↔
      (p = m.projectId ∧ r = m.roomId) ∨ store.HasRoomMessage p r := by
  by_cases hk : (p, r) = (m.projectId, m.roomId)
  · obtain ⟨rfl, rfl⟩ := Prod.mk.inj hk
    simp only [Store.HasRoomMessage, applyRoomMessage_roomMessages, Function.update_self, true_or,
      and_self, iff_true]
    exact ⟨_, _, Clustered.mem_upsert.mpr (.inl rfl)⟩
  · have hne : ¬ (p = m.projectId ∧ r = m.roomId) := fun h => hk (Prod.ext h.1 h.2)
    simp only [Store.HasRoomMessage, applyRoomMessage_roomMessages, Function.update_of_ne hk, hne,
      false_or]

theorem mem_projectRooms_apply {m : DbRoomMessageEx} {p r : String} :
    (∃ t, (r, t) ∈ ((store.applyRoomMessage m).projectRooms p).rows) ↔
      (p = m.projectId ∧ r = m.roomId) ∨ ∃ t, (r, t) ∈ (store.projectRooms p).rows := by
  by_cases hp : p = m.projectId
  · subst hp
    simp only [applyRoomMessage_projectRooms, Function.update_self, Clustered.exists_mem_upsert,
      true_and]
  · simp [hp]

end Apply

end ChatService

/-- A batch keeps the lists right. -/
theorem indexed_apply {store : Store} {id : Uuid} {request : WriteRequest}
    (hid : ∀ req, request = .dm req → (req.directMessage id).OwnsId store) (h : store.Indexed) :
    (request.apply id store).Indexed := by
  cases request with
  | dm req =>
    have hid := hid req rfl
    refine ⟨fun p u c => ?_, h.rooms⟩
    show (∃ t, (c, t) ∈ ((store.applyDirectMessage (req.directMessage id)).userConversations
      (p, u)).rows) ↔ (store.applyDirectMessage (req.directMessage id)).HasMessageOf p u c
    rw [mem_applyDirectMessage_userConversations, hasMessageOf_apply hid, h.users]
    simp only [Prod.mk.injEq, eq_comm (a := u)]
    tauto
  | room req =>
    refine ⟨h.users, fun p r => ?_⟩
    show (∃ t, (r, t) ∈ ((store.applyRoomMessage (req.roomMessage id)).projectRooms p).rows) ↔
      (store.applyRoomMessage (req.roomMessage id)).HasRoomMessage p r
    rw [mem_projectRooms_apply, hasRoomMessage_apply, h.rooms]

/-! ## Many writes -/

/-- Write requests, in the order in which chat-service carries them out, each with what goes
wrong at its end. -/
abbrev WriteLog := List (WriteRequest × Option Fault)

/-- The store after the requests. -/
def WriteLog.serve (db : Db) (writes : WriteLog) (store : Store) : Store :=
  writes.foldl (fun store w => (w.1.serve db w.2 store).2) store

/-- Requests to write direct messages under the same id are the same request. -/
def WriteLog.DistinctIds (writes : WriteLog) : Prop :=
  ∀ w ∈ writes, ∀ w' ∈ writes, ∀ req req' id, w.1 = .dm req → w'.1 = .dm req' →
    Uuid.parseStr req.messageId = some id → Uuid.parseStr req'.messageId = some id → req = req'

section Served

variable {db : Db} {writes : WriteLog}

/-- What holds of the store after each request: the lists are right, and every direct message is
the one of a request. -/
structure ServedOk (writes : WriteLog) (store : Store) : Prop where
  indexed : store.Indexed
  rows : ∀ p c id row, (id, row) ∈ (store.directMessages (p, c)).rows → p ≠ "" ∧
    ∃ w ∈ writes, ∃ req, w.1 = .dm req ∧ Uuid.parseStr req.messageId = some id ∧
      row = (req.directMessage id).row

theorem ServedOk.step {store : Store} (hd : writes.DistinctIds) (hi : ServedOk writes store)
    {w : WriteRequest × Option Fault} (hw : w ∈ writes) :
    ServedOk writes (w.1.serve db w.2 store).2 := by
  obtain ⟨request, fault⟩ := w
  rcases request.serve_store db fault store with ⟨hc, id, hid, he⟩ | ⟨-, he⟩
  · rw [he]
    refine ⟨indexed_apply ?_ hi.indexed, ?_⟩
    · rintro req rfl row hrow
      obtain ⟨-, w', hw', req', hreq', hid', rfl⟩ := hi.rows _ _ id row hrow
      rw [hd _ hw _ hw' req req' id rfl hreq' hid hid']
    · intro p c id' row hrow
      rcases WriteRequest.mem_apply_directMessages hrow with hold | ⟨req, rfl, hkey, rfl, rfl⟩
      · exact hi.rows p c id' row hold
      · obtain ⟨rfl, rfl⟩ := Prod.mk.inj hkey
        exact ⟨fun hp => hc.1 (.inl hp), _, hw, req, rfl, hid, rfl⟩
  · rw [he]
    exact hi

theorem servedOk (hd : writes.DistinctIds) : ServedOk writes (writes.serve db .empty) := by
  -- Induction on the requests served so far, among all those that there will be.
  suffices h : ∀ rest : WriteLog, ∀ store, rest ⊆ writes → ServedOk writes store →
      ServedOk writes (rest.serve db store) from
    h writes .empty (List.Subset.refl _) ⟨.empty, fun _ _ _ _ hrow => nomatch hrow⟩
  intro rest
  induction rest with
  | nil => exact fun store _ hi => hi
  | cons w rest ih =>
    intro store hsub hi
    obtain ⟨hw, hrest⟩ := List.cons_subset.mp hsub
    exact ih _ hrest (hi.step hd hw)

end Served

/-! ## What a user is shown -/

/-- The conversations that a response lists. -/
def ChatService.FetchUserConversationsResponse.listed (response : FetchUserConversationsResponse) :
    List String :=
  response.conversations.map (·.conversationId)

theorem listed_of_query {db : Db} {fault : Option Fault} {store : Store} {p u : String}
    (hp : p ≠ "") (hu : u ≠ "") (hq : db.query fault selectUserConversations = .ok ()) :
    (ChatServiceImpl.fetchUserConversations db fault store ⟨some ⟨p, u⟩⟩).listed =
      (store.userConversations (p, u)).rows.map (·.1) := by
  have hne : ¬ (p = "" ∨ u = "") := fun h => h.elim hp hu
  simp [ChatServiceImpl.fetchUserConversations, ChatService.fetchUserConversations, hne, hq,
    FetchUserConversationsResponse.listed]

/-- Where a part of its name is empty, a user is shown nothing. -/
theorem fetchUserConversations_refused {db : Db} {fault : Option Fault} {store : Store}
    {p u : String} (h : p = "" ∨ u = "") :
    ChatServiceImpl.fetchUserConversations db fault store ⟨some ⟨p, u⟩⟩ =
      .failure "project_id and user_id are required" := by
  simp [ChatServiceImpl.fetchUserConversations, h]

/-- The response lists the conversations that the user has sent or received a message in, each
once. -/
structure ListsOwn (store : Store) (p u : String) (response : FetchUserConversationsResponse) :
    Prop where
  once : response.listed.Nodup
  own : ∀ c, c ∈ response.listed ↔ store.HasMessageOf p u c

/-- **The list of conversations**: after any write requests, each carried out or not, in any
order and as often as they are made again, a user whose name is not empty is shown the
conversations that have a message of theirs in their project, each once, and nothing else; and
a project has an entry for exactly the rooms with a message. -/
theorem conversation_index {db : Db} {writes : WriteLog} {fault : Option Fault}
    (hd : writes.DistinctIds) (hq : db.query fault selectUserConversations = .ok ()) :
    (∀ p u, u ≠ "" → ListsOwn (writes.serve db .empty) p u
      (ChatServiceImpl.fetchUserConversations db fault (writes.serve db .empty) ⟨some ⟨p, u⟩⟩)) ∧
    (∀ p, ChatServiceImpl.fetchUserConversations db fault (writes.serve db .empty)
      ⟨some ⟨p, ""⟩⟩ = .failure "project_id and user_id are required") ∧
    ∀ p r, (∃ t, (r, t) ∈ ((writes.serve db .empty).projectRooms p).rows) ↔
      (writes.serve db .empty).HasRoomMessage p r := by
  have hi : ServedOk writes (writes.serve db .empty) := servedOk hd
  refine ⟨fun p u hu => ?_, fun p => fetchUserConversations_refused (.inr rfl), hi.indexed.rooms⟩
  by_cases hp : p = ""
  · -- Nothing is stored for a project without a name.
    rw [fetchUserConversations_refused (.inl hp)]
    refine ⟨List.nodup_nil, fun c => ⟨fun h => (nomatch h), fun h => ?_⟩⟩
    obtain ⟨id, row, hrow, -⟩ := h
    exact absurd hp (hi.rows p c id row hrow).1
  · refine ⟨?_, fun c => ?_⟩
    · rw [listed_of_query hp hu hq]
      exact Clustered.nodup_keys _
    · rw [listed_of_query hp hu hq, ← hi.indexed.users p u c]
      simp

/-- The request is for a message to nobody. -/
def toNobody : WriteDmRequest := ⟨"acme", "c", "alice", "", "hi", (Uuid.ofTime 1).toString, 5⟩

/-- It is written, but nobody's list is refused. -/
theorem nobody_is_refused :
    (ChatServiceImpl.writeDm lenientDb none .empty toNobody).1 = ⟨true, ""⟩ ∧
      WriteLog.DistinctIds [(.dm toNobody, none)] ∧
      lenientDb.query none selectUserConversations = .ok () ∧
      ChatServiceImpl.fetchUserConversations lenientDb none
        (WriteLog.serve lenientDb [(.dm toNobody, none)] .empty) ⟨some ⟨"acme", ""⟩⟩ =
          .failure "project_id and user_id are required" ∧
      ¬ ListsOwn (WriteLog.serve lenientDb [(.dm toNobody, none)] .empty) "acme" ""
        (ChatServiceImpl.fetchUserConversations lenientDb none
          (WriteLog.serve lenientDb [(.dm toNobody, none)] .empty) ⟨some ⟨"acme", ""⟩⟩) := by
  refine ⟨rfl, ?_, rfl, rfl, ?_⟩
  · intro w hw w' hw' req req' id hreq hreq' _ _
    obtain rfl := List.mem_singleton.mp hw
    obtain rfl := List.mem_singleton.mp hw'
    rw [← WriteRequest.dm.inj hreq, ← WriteRequest.dm.inj hreq']
  · intro h
    have hmem := (h.own "c").mpr ⟨.ofTime 1, ⟨"alice", "", "hi", 5⟩, List.mem_cons_self, .inr rfl⟩
    exact nomatch hmem

def noteToSelf : WriteDmRequest :=
  ⟨"acme", "d", "carol", "carol", "note", (Uuid.ofTime 3).toString, 7⟩

/-- A message that is written twice, one to oneself, and one in a room. -/
def mixedWrites : WriteLog :=
  [(.dm greeting, none), (.room roomGreeting, none), (.dm greeting, none), (.dm noteToSelf, none)]

theorem mixedWrites_distinctIds : mixedWrites.DistinctIds := by
  have hdm : ∀ w ∈ mixedWrites, ∀ req, w.1 = .dm req → req = greeting ∨ req = noteToSelf := by
    intro w hw req hreq
    simp only [mixedWrites, List.mem_cons, List.not_mem_nil, or_false] at hw
    rcases hw with rfl | rfl | rfl | rfl
    · exact .inl (WriteRequest.dm.inj hreq).symm
    · cases hreq
    · exact .inl (WriteRequest.dm.inj hreq).symm
    · exact .inr (WriteRequest.dm.inj hreq).symm
  have hids : Uuid.parseStr greeting.messageId ≠ Uuid.parseStr noteToSelf.messageId := by
    simp only [greeting, noteToSelf, Uuid.parseStr_toString]
    decide
  intro w hw w' hw' req req' id hreq hreq' hid hid'
  rcases hdm w hw req hreq with rfl | rfl <;> rcases hdm w' hw' req' hreq' with rfl | rfl
  · rfl
  · exact absurd (hid.trans hid'.symm) hids
  · exact absurd (hid'.trans hid.symm) hids
  · rfl

theorem conversation_index_mixedWrites :
    (∀ p u, u ≠ "" → ListsOwn (mixedWrites.serve lenientDb .empty) p u
      (ChatServiceImpl.fetchUserConversations lenientDb none (mixedWrites.serve lenientDb .empty)
        ⟨some ⟨p, u⟩⟩)) ∧
    (∀ p, ChatServiceImpl.fetchUserConversations lenientDb none
      (mixedWrites.serve lenientDb .empty) ⟨some ⟨p, ""⟩⟩ =
        .failure "project_id and user_id are required") ∧
    ∀ p r, (∃ t, (r, t) ∈ ((mixedWrites.serve lenientDb .empty).projectRooms p).rows) ↔
      (mixedWrites.serve lenientDb .empty).HasRoomMessage p r :=
  conversation_index mixedWrites_distinctIds rfl

end PerOxo
