import Mathlib.Data.Set.Finite.Range
import Mathlib.Data.Sym.Sym2.Order
import PerOxo.MongoDb

/-!
# What the `mongo_db` build reads back

The writer names a conversation after its two users and stores their ids as numbers; the reader
asks for the conversation by the name the client has for it, and gives the numbers back as text
(`reads_back_iff`).
-/

set_option autoImplicit false

namespace PerOxo.MongoDb

/-! ## A document as the client gets it -/

theorem isSome_parseStr (t : MessageIdText) : (Uuid.parseStr t).isSome := by
  obtain ⟨_, u, rfl⟩ := t
  simp

/-- The id whose text this is. -/
def messageIdOf (t : MessageIdText) : Uuid := (Uuid.parseStr t).get (isSome_parseStr t)

@[simp] theorem messageIdOf_messageIdText (u : Uuid) : messageIdOf (messageIdText u) = u := by
  simp [messageIdOf, messageIdText, Set.rangeFactorization]

@[simp] theorem messageIdText_messageIdOf (t : MessageIdText) :
    messageIdText (messageIdOf t) = t := by
  obtain ⟨_, u, rfl⟩ := t
  exact congrArg messageIdText (messageIdOf_messageIdText u)

def clientMessage (conversationId : String) (doc : MessageIdText × DirectMessage) :
    ResponseDirectMessage where
  conversationId := conversationId
  messageId := messageIdOf doc.1
  senderId := toString doc.2.senderId
  recipientId := toString doc.2.recipientId
  messageText := doc.2.messageText
  createdAt := doc.2.createdAt

/-- The id survives the trip as text, so no id is ever made up. -/
@[simp] theorem responseDirectMessage_eq (newV4 : MessageIdText → Uuid) (conversationId : String) :
    responseDirectMessage newV4 conversationId = clientMessage conversationId := by
  funext doc
  have hid : (Uuid.parseStr doc.1).getD (newV4 doc.1) = messageIdOf doc.1 :=
    (Option.get_eq_getD _).symm
  simp [responseDirectMessage, clientMessage, hid]

/-- A page as the client gets it. -/
def historyPage (conversationId : String) (docs : List (MessageIdText × DirectMessage)) :
    PaginatedMessagesResponse where
  messages := docs.map (clientMessage conversationId)
  nextCursor := docs.getLast?.map fun doc => (messageIdOf doc.1).toString
  hasMore := docs.length = 50

section Read

variable {fault : Option ReadFault} {newV4 : MessageIdText → Uuid} {db : Database}
  {projectId conversationId : String} {cursor : Option Uuid}

/-- **The result of a read**: the project plays no part. -/
theorem handleGetPaginatedMessages_ok {r : PaginatedMessagesResponse}
    (h : handleGetPaginatedMessages fault newV4 db projectId cursor conversationId = .ok r) :
    r = historyPage conversationId
      ((db.directMessages conversationId).page 50 (cursor.map messageIdText)) := by
  unfold handleGetPaginatedMessages fetchPaginatedMessagesFromMongo at h
  split at h
  · cases h
  · cases h
  · obtain rfl := Except.ok.inj h
    simp [historyPage, clientMessage, List.getLast?_map, Function.comp_def]

theorem handleGetPaginatedMessages_none (newV4 : MessageIdText → Uuid) :
    handleGetPaginatedMessages none newV4 db projectId cursor conversationId =
      .ok (historyPage conversationId
        ((db.directMessages conversationId).page 50 (cursor.map messageIdText))) := by
  obtain ⟨r, hr⟩ : ∃ r,
      handleGetPaginatedMessages none newV4 db projectId cursor conversationId = .ok r := ⟨_, rfl⟩
  rw [hr, handleGetPaginatedMessages_ok hr]

end Read

/-! ## Walking -/

section Walk

variable {db : Database} {projectId conversationId : String}

/-- Page after page until one says there is no more. -/
inductive MongoWalk (db : Database) (projectId conversationId : String) :
    Option Uuid → List ResponseDirectMessage → Prop
  | last {cursor : Option Uuid} {fault : Option ReadFault} {newV4 : MessageIdText → Uuid}
      {r : PaginatedMessagesResponse}
      (reply : handleGetPaginatedMessages fault newV4 db projectId cursor conversationId = .ok r)
      (done : r.hasMore = false) :
      MongoWalk db projectId conversationId cursor r.messages
  | more {cursor : Option Uuid} {fault : Option ReadFault} {newV4 : MessageIdText → Uuid}
      {r : PaginatedMessagesResponse} {out : List ResponseDirectMessage}
      (reply : handleGetPaginatedMessages fault newV4 db projectId cursor conversationId = .ok r)
      (more : r.hasMore = true)
      (rest : MongoWalk db projectId conversationId (r.nextCursor.bind Uuid.parseStr) out) :
      MongoWalk db projectId conversationId cursor (r.messages ++ out)

/-- A full page has a last document, and its id is the cursor for the next page. -/
theorem historyPage_full {docs : List (MessageIdText × DirectMessage)}
    (h : (historyPage conversationId docs).hasMore = true) :
    docs.length = 50 ∧ ∃ last, docs.getLast? = some last ∧
      (historyPage conversationId docs).nextCursor.bind Uuid.parseStr =
        some (messageIdOf last.1) := by
  have hlen : docs.length = 50 := of_decide_eq_true h
  refine ⟨hlen, ?_⟩
  cases hl : docs.getLast? with
  | none =>
    obtain rfl := List.getLast?_eq_none_iff.mp hl
    cases hlen
  | some last => exact ⟨last, rfl, by simp [historyPage, hl]⟩

/-- A walk receives the documents below its cursor, in descending order of the text of their
ids. -/
theorem mongoWalk_eq {cursor : Option Uuid} {out : List ResponseDirectMessage}
    (h : MongoWalk db projectId conversationId cursor out) :
    out = ((db.directMessages conversationId).downFrom (cursor.map messageIdText)).map
      (clientMessage conversationId) := by
  induction h with
  | @last cursor _ _ _ reply done =>
    obtain rfl := handleGetPaginatedMessages_ok reply
    have hle : ((db.directMessages conversationId).page 50 (cursor.map messageIdText)).length ≤ 50 :=
      List.length_take_le 50 _
    have hne : ((db.directMessages conversationId).page 50 (cursor.map messageIdText)).length ≠ 50 :=
      of_decide_eq_false done
    simp only [historyPage, Clustered.page_of_length_lt (lt_of_le_of_ne hle hne)]
  | more reply more rest ih =>
    obtain rfl := handleGetPaginatedMessages_ok reply
    obtain ⟨-, last, hlast, hnext⟩ := historyPage_full more
    rw [ih, hnext, Option.map_some, messageIdText_messageIdOf, Clustered.downFrom_last hlast]
    simp only [historyPage, Clustered.page]
    rw [← List.map_append, List.take_append_drop]

/-- There is a walk from every cursor: the walk that goes on to an empty page stops earlier. -/
theorem exists_mongoWalk (db : Database) (projectId conversationId : String)
    (cursor : Option Uuid) : ∃ out, MongoWalk db projectId conversationId cursor out := by
  have key : ∀ {before : Option MessageIdText} {ts : List (Clustered MessageIdText DirectMessage)}
      {rows : List (MessageIdText × DirectMessage)}, Clustered.Walk 50 before ts rows →
      (∀ t ∈ ts, t = db.directMessages conversationId) →
      ∀ cursor : Option Uuid, cursor.map messageIdText = before →
        ∃ out, MongoWalk db projectId conversationId cursor out := by
    intro before ts rows h
    induction h with
    | stop empty =>
      intro hts cursor hcursor
      refine ⟨_, .last (handleGetPaginatedMessages_none fun _ => .ofTime 0) ?_⟩
      rw [hcursor, ← hts _ List.mem_cons_self, empty]
      rfl
    | @turn before t ts last out page rest ih =>
      intro hts cursor hcursor
      obtain rfl := hts t List.mem_cons_self
      cases hmore : (historyPage conversationId
          ((db.directMessages conversationId).page 50 (cursor.map messageIdText))).hasMore with
      | false =>
        exact ⟨_, .last (handleGetPaginatedMessages_none fun _ => .ofTime 0) hmore⟩
      | true =>
        obtain ⟨-, last', hlast, hnext⟩ := historyPage_full hmore
        rw [hcursor, page] at hlast
        obtain rfl := Option.some.inj hlast
        obtain ⟨out, hout⟩ := ih (fun t ht => hts t (List.mem_cons_of_mem _ ht))
          (some (messageIdOf last.1)) (by simp)
        exact ⟨_, .more (handleGetPaginatedMessages_none fun _ => .ofTime 0) hmore (hnext ▸ hout)⟩
  obtain ⟨n, rows, hwalk⟩ := Clustered.Walk.exists_of_wellFounded 50 (cursor.map messageIdText)
    fun _ => db.directMessages conversationId
  apply key hwalk _ cursor rfl
  intro t ht
  obtain ⟨_, -, rfl⟩ := List.mem_map.mp ht
  rfl

end Walk

/-! ## What is stored -/

section Stored

variable {server : Server} {db db' : Database}

/-- The row of `direct_messages` that a call adds. -/
def PersistDirectMessage.row (m : PersistDirectMessage) : MessageIdText × DirectMessage :=
  (messageIdText m.messageId, m.document)

theorem insertOne_ok {id : DirectMessageId} {message : DirectMessage}
    (h : db.insertOne server id message = .ok db') :
    id.messageId ∉ (db.directMessages id.conversationId).rows.map (·.1) ∧
      db'.directMessages = Clustered.upsertAt id.conversationId id.messageId message
        db.directMessages := by
  unfold Database.insertOne at h
  split at h
  · cases h
  · rename_i hfree
    obtain rfl := Except.ok.inj h
    exact ⟨hfree, rfl⟩

theorem updateOne_ok {id : UserConversationId} {lastMessage : Int}
    (h : db.updateOne server id lastMessage = .ok db') :
    db'.directMessages = db.directMessages := by
  unfold Database.updateOne at h
  split at h
  · obtain rfl := Except.ok.inj h
    rfl
  · cases hu : server.upsert id with
    | error e =>
      rw [hu] at h
      cases h
    | ok =>
      rw [hu] at h
      obtain rfl := Except.ok.inj h
      rfl

theorem insertMessageInMongo_ok {fault : Option Fault} {id : DirectMessageId}
    {message : DirectMessage} (h : insertMessageInMongo server fault db id message = (.ok (), db')) :
    id.messageId ∉ (db.directMessages id.conversationId).rows.map (·.1) ∧
      db'.directMessages = Clustered.upsertAt id.conversationId id.messageId message
        db.directMessages := by
  unfold insertMessageInMongo at h
  cases hinsert : db.insertOne server id message with
  | error e => cases fault <;> simp [hinsert, bind, Except.bind] at h
  | ok db₁ =>
    cases hsender : db₁.updateOne server ⟨message.senderId, id.conversationId⟩
        message.createdAt with
    | error e => cases fault <;> simp [hinsert, hsender, bind, Except.bind] at h
    | ok db₂ =>
      cases hrecipient : db₂.updateOne server ⟨message.recipientId, id.conversationId⟩
          message.createdAt with
      | error e => cases fault <;> simp [hinsert, hsender, hrecipient, bind, Except.bind] at h
      | ok db₃ =>
        cases fault with
        | some f => simp [hinsert, hsender, hrecipient, bind, Except.bind] at h
        | none =>
          have hdb : db₃ = db' := by
            simpa [hinsert, hsender, hrecipient, bind, Except.bind] using h
          obtain ⟨hfree, hrows⟩ := insertOne_ok hinsert
          refine ⟨hfree, ?_⟩
          rw [← hdb, updateOne_ok hrecipient, updateOne_ok hsender, hrows]

/-- A call that returns `Ok` has added its document under the key of its users. -/
theorem persisted {call : PersistDirectMessage × Option Fault} {db₀ : Database}
    (h : (mongoSystem server db₀).step db call = some db') :
    (messageIdText call.1.messageId) ∉ (db.directMessages call.1.key).rows.map (·.1) ∧
      db'.directMessages = Clustered.upsertAt call.1.key (messageIdText call.1.messageId)
        call.1.document db.directMessages := by
  simp only [mongoSystem, handlePersistDirectMessage] at h
  cases hi : insertMessageInMongo server call.2 db ⟨call.1.key, messageIdText call.1.messageId⟩
      call.1.document with
  | mk result db₁ =>
    rw [hi] at h
    cases result with
    | error e => cases h
    | ok =>
      obtain rfl := Option.some.inj h
      exact insertMessageInMongo_ok hi

theorem perm_of_persisted {call : PersistDirectMessage × Option Fault} {db₀ : Database}
    (h : (mongoSystem server db₀).step db call = some db') (conversationId : String) :
    (db'.directMessages conversationId).rows.Perm
      ((if call.1.key = conversationId then [call.1.row] else []) ++
        (db.directMessages conversationId).rows) := by
  obtain ⟨hfree, hrows⟩ := persisted h
  rw [hrows, Clustered.upsertAt]
  by_cases hkey : call.1.key = conversationId
  · subst hkey
    rw [Function.update_self, if_pos rfl]
    exact Clustered.perm_upsert _ hfree
  · rw [Function.update_of_ne (Ne.symm hkey), if_neg hkey]
    exact .refl _

/-- **What a run stores** in a conversation: the messages whose users have its name for key. -/
theorem stored_perm {db₀ : Database} {calls : List (PersistDirectMessage × Option Fault)}
    (h : (mongoSystem server db₀).Run db calls db') (conversationId : String) :
    (db'.directMessages conversationId).rows.Perm
      (((calls.map Prod.fst).filter fun m => m.key = conversationId).map PersistDirectMessage.row ++
        (db.directMessages conversationId).rows) := by
  induction h with
  | nil => exact .refl _
  | @cons _ _ _ call calls step rest ih =>
    refine ih.trans (((perm_of_persisted step conversationId).append_left _).trans ?_)
    by_cases hkey : call.1.key = conversationId
    · simp [hkey]
    · simp [hkey]

end Stored

/-! ## The round trip -/

section RoundTrip

variable {calls : List PersistDirectMessage} {projectId conversationId : String}

namespace PersistDirectMessage

/-- Persisted for this project, the sender's, and this conversation. -/
def Within (m : PersistDirectMessage) (projectId conversationId : String) : Prop :=
  m.tenantSenderId.projectId = projectId ∧ m.conversationId = conversationId

instance (m : PersistDirectMessage) (projectId conversationId : String) :
    Decidable (m.Within projectId conversationId) :=
  inferInstanceAs (Decidable (_ ∧ _))

def users (m : PersistDirectMessage) : List String :=
  [m.tenantSenderId.userId, m.tenantReceiverId.userId]

def pair (m : PersistDirectMessage) : Sym2 String :=
  s(m.tenantSenderId.userId, m.tenantReceiverId.userId)

/-- The two users, the lesser text first. -/
def Names (m : PersistDirectMessage) (conversationId : String) : Prop :=
  min m.tenantSenderId.userId m.tenantReceiverId.userId ++ "_" ++
    max m.tenantSenderId.userId m.tenantReceiverId.userId = conversationId

theorem key_eq_iff {m : PersistDirectMessage} {conversationId : String} :
    m.key = conversationId ↔ m.Names conversationId := by
  unfold key conversationKey Names
  split
  · rename_i hlt
    rw [min_eq_left hlt.le, max_eq_right hlt.le]
  · rename_i hle
    rw [min_eq_right (not_lt.mp hle), max_eq_left (not_lt.mp hle)]

/-- What a reader is to get of a message. -/
def content (m : PersistDirectMessage) : Uuid × String × String × String :=
  (m.messageId, m.tenantSenderId.userId, m.tenantReceiverId.userId, m.messageContent)

end PersistDirectMessage

/-- What it does get of one. -/
def responseContent (m : ResponseDirectMessage) : Uuid × String × String × String :=
  (m.messageId, m.senderId, m.recipientId, m.messageText)

/-- The walk has received what was persisted for the project and the conversation, and nobody
else's conversation or id has got into it. -/
structure ReadsBack (calls : List PersistDirectMessage) (projectId conversationId : String)
    (out : List ResponseDirectMessage) : Prop where
  exact : (out.map responseContent).Perm
    ((calls.filter fun m => m.Within projectId conversationId).map PersistDirectMessage.content)
  onePair : ∀ m ∈ calls, ∀ m' ∈ calls, m.key = conversationId → m'.key = conversationId →
    m.tenantSenderId.projectId = m'.tenantSenderId.projectId ∧ m.pair = m'.pair
  oneUser : ∀ m ∈ calls, ∀ m' ∈ calls,
    m.Within projectId conversationId ∨ m.key = conversationId →
    m'.Within projectId conversationId ∨ m'.key = conversationId →
    ∀ u ∈ m.users, ∀ v ∈ m'.users, storedUserId u = storedUserId v → u = v

/-- A number as `to_string` writes it. -/
def IsNumber (userId : String) : Prop := ∃ n : Int32, userId = toString n

/-- The client's name for the conversation is the two users', and is so for no other messages;
and these two are numbers. -/
structure NamedByItsUsers (calls : List PersistDirectMessage)
    (projectId conversationId : String) : Prop where
  names : ∀ m ∈ calls, m.Within projectId conversationId ↔ m.Names conversationId
  numbers : ∀ m ∈ calls, m.Names conversationId → ∀ u ∈ m.users, IsNumber u

@[simp] theorem storedUserId_toString (n : Int32) : storedUserId (toString n) = n := by
  simp [storedUserId]

theorem isNumber_iff {userId : String} : IsNumber userId ↔ toString (storedUserId userId) = userId := by
  constructor
  · intro hn
    obtain ⟨n, rfl⟩ := hn
    rw [storedUserId_toString]
  · intro hu
    exact ⟨storedUserId userId, hu.symm⟩

/-- Numbers have no underscore. -/
theorem underscore_notMem {m : PersistDirectMessage} (hn : ∀ u ∈ m.users, IsNumber u) :
    '_' ∉ (min m.tenantSenderId.userId m.tenantReceiverId.userId).toList ∧
      '_' ∉ (max m.tenantSenderId.userId m.tenantReceiverId.userId).toList := by
  have huser : ∀ u ∈ m.users, '_' ∉ u.toList := by
    intro u hu
    obtain ⟨n, rfl⟩ := hn u hu
    exact Int32.underscore_notMem_toString n
  obtain ⟨hsender, hreceiver⟩ : '_' ∉ m.tenantSenderId.userId.toList ∧
      '_' ∉ m.tenantReceiverId.userId.toList := by simpa [PersistDirectMessage.users] using huser
  rcases le_total m.tenantSenderId.userId m.tenantReceiverId.userId with hle | hle
  · simp [hle, hsender, hreceiver]
  · simp [hle, hsender, hreceiver]

/-- So the name of a conversation can be taken apart again. -/
theorem pair_of_names {m m' : PersistDirectMessage} (hm : m.Names conversationId)
    (hm' : m'.Names conversationId) (hn : ∀ u ∈ m.users, IsNumber u) : m.pair = m'.pair := by
  have hlists := congrArg String.toList (Eq.trans hm (Eq.symm hm'))
  simp only [String.toList_append, List.append_assoc] at hlists
  obtain ⟨hlesser, hgreater⟩ := underscore_notMem hn
  obtain ⟨hmin, -, hmax⟩ := (List.append_cons_inj_of_notMem hlesser hgreater).mp hlists
  exact Sym2.inf_eq_inf_and_sup_eq_sup.mp
    ⟨String.toList_inj.mp hmin, String.toList_inj.mp hmax⟩

/-- What a reader does get of a message: its users as they have been stored. -/
def PersistDirectMessage.stored (m : PersistDirectMessage) : Uuid × String × String × String :=
  (m.messageId, toString (storedUserId m.tenantSenderId.userId),
    toString (storedUserId m.tenantReceiverId.userId), m.messageContent)

@[simp] theorem responseContent_row (m : PersistDirectMessage) :
    responseContent (clientMessage conversationId m.row) = m.stored := by
  simp [responseContent, clientMessage, PersistDirectMessage.row, PersistDirectMessage.stored,
    PersistDirectMessage.document]

theorem stored_eq_content {m : PersistDirectMessage} (hn : ∀ u ∈ m.users, IsNumber u) :
    m.stored = m.content := by
  have hsender := isNumber_iff.mp (hn m.tenantSenderId.userId (by simp [PersistDirectMessage.users]))
  have hreceiver :=
    isNumber_iff.mp (hn m.tenantReceiverId.userId (by simp [PersistDirectMessage.users]))
  rw [PersistDirectMessage.stored, hsender, hreceiver, PersistDirectMessage.content]

/-- A message that is received as another one was sent has the users of that one, if no two of
them have the same number. -/
theorem users_of_content {m m' : PersistDirectMessage} (h : m'.stored = m.content)
    (huser : ∀ u ∈ m'.users, ∀ v ∈ m.users, storedUserId u = storedUserId v → u = v) :
    m'.messageId = m.messageId ∧ m'.pair = m.pair ∧ m'.users = m.users ∧
      ∀ u ∈ m.users, IsNumber u := by
  simp only [PersistDirectMessage.stored, PersistDirectMessage.content, Prod.mk.injEq] at h
  obtain ⟨hid, hsender, hreceiver, -⟩ := h
  have hs : m'.tenantSenderId.userId = m.tenantSenderId.userId := by
    apply huser _ (by simp [PersistDirectMessage.users]) _ (by simp [PersistDirectMessage.users])
    rw [← hsender, storedUserId_toString]
  have hr : m'.tenantReceiverId.userId = m.tenantReceiverId.userId := by
    apply huser _ (by simp [PersistDirectMessage.users]) _ (by simp [PersistDirectMessage.users])
    rw [← hreceiver, storedUserId_toString]
  refine ⟨hid, ?_, ?_, ?_⟩
  · rw [PersistDirectMessage.pair, PersistDirectMessage.pair, hs, hr]
  · rw [PersistDirectMessage.users, PersistDirectMessage.users, hs, hr]
  · intro u hu
    simp only [PersistDirectMessage.users, List.mem_cons, List.not_mem_nil, or_false] at hu
    rcases hu with rfl | rfl
    · exact ⟨_, hsender.symm⟩
    · exact ⟨_, hreceiver.symm⟩

/-- What a run stores in a conversation has an id of its own. -/
theorem nodup_messageIds {server : Server} {db₀ db db' : Database}
    {calls : List (PersistDirectMessage × Option Fault)}
    (h : (mongoSystem server db₀).Run db calls db') (conversationId : String) :
    (((calls.map Prod.fst).filter fun m => m.key = conversationId).map (·.messageId)).Nodup := by
  have hkeys := (db'.directMessages conversationId).nodup_keys
  rw [((stored_perm h conversationId).map (·.1)).nodup_iff, List.map_append, List.map_map] at hkeys
  apply List.Nodup.of_map messageIdText
  rw [List.map_map]
  exact (List.nodup_append.mp hkeys).1

theorem names_congr {m m' : PersistDirectMessage} (h : m.pair = m'.pair) :
    m.Names conversationId ↔ m'.Names conversationId := by
  show m.pair.inf ++ "_" ++ m.pair.sup = conversationId ↔
    m'.pair.inf ++ "_" ++ m'.pair.sup = conversationId
  rw [h]

/-- What is received is faithful if the conversation is named by its users. -/
theorem readsBack_of_named {out : List ResponseDirectMessage}
    (hout : (out.map responseContent).Perm
      ((calls.filter fun m => m.key = conversationId).map PersistDirectMessage.stored))
    (h : NamedByItsUsers calls projectId conversationId) :
    ReadsBack calls projectId conversationId out := by
  have htouch : ∀ m ∈ calls, m.Within projectId conversationId ∨ m.key = conversationId →
      m.Within projectId conversationId ∧ ∀ u ∈ m.users, IsNumber u := by
    intro m hm ht
    have hnames : m.Names conversationId :=
      ht.elim (h.names m hm).mp PersistDirectMessage.key_eq_iff.mp
    exact ⟨(h.names m hm).mpr hnames, h.numbers m hm hnames⟩
  refine ⟨?_, ?_, ?_⟩
  · have hsame : (calls.filter fun m => m.key = conversationId) =
        calls.filter fun m => m.Within projectId conversationId := by
      apply List.filter_congr
      intro m hm
      rw [decide_eq_decide, h.names m hm, PersistDirectMessage.key_eq_iff]
    rw [hsame] at hout
    apply hout.trans (List.Perm.of_eq _)
    apply List.map_congr_left
    intro m hm
    obtain ⟨hm, hin⟩ := List.mem_filter.mp hm
    exact stored_eq_content (htouch m hm (.inl (of_decide_eq_true hin))).2
  · intro m hm m' hm' hkey hkey'
    obtain ⟨hin, hnumbers⟩ := htouch m hm (.inr hkey)
    obtain ⟨hin', -⟩ := htouch m' hm' (.inr hkey')
    exact ⟨hin.1.trans hin'.1.symm, pair_of_names (PersistDirectMessage.key_eq_iff.mp hkey)
      (PersistDirectMessage.key_eq_iff.mp hkey') hnumbers⟩
  · intro m hm m' hm' ht ht' u hu v hv he
    have hnum := isNumber_iff.mp ((htouch m hm ht).2 u hu)
    have hnum' := isNumber_iff.mp ((htouch m' hm' ht').2 v hv)
    rw [← hnum, ← hnum', he]

/-- And only then: each message that is to be received is one of those that are stored in the
conversation, and the other way round. -/
theorem named_of_readsBack {out : List ResponseDirectMessage}
    (hids : ((calls.filter fun m => m.key = conversationId).map (·.messageId)).Nodup)
    (hout : (out.map responseContent).Perm
      ((calls.filter fun m => m.key = conversationId).map PersistDirectMessage.stored))
    (h : ReadsBack calls projectId conversationId out) :
    NamedByItsUsers calls projectId conversationId := by
  have hperm := hout.symm.trans h.exact
  have hsent : ∀ m ∈ calls, m.Within projectId conversationId →
      m.Names conversationId ∧ ∀ u ∈ m.users, IsNumber u := by
    intro m hm hin
    have hmem : m.content ∈ (calls.filter fun m => m.key = conversationId).map
        PersistDirectMessage.stored := by
      rw [hperm.mem_iff]
      exact List.mem_map_of_mem (List.mem_filter.mpr ⟨hm, decide_eq_true hin⟩)
    obtain ⟨m', hm', hcontent⟩ := List.mem_map.mp hmem
    obtain ⟨hm', hkey⟩ := List.mem_filter.mp hm'
    have hkey := of_decide_eq_true hkey
    obtain ⟨-, hpair, -, hnumbers⟩ := users_of_content hcontent
      (h.oneUser m' hm' m hm (.inr hkey) (.inl hin))
    exact ⟨(names_congr hpair).mp (PersistDirectMessage.key_eq_iff.mp hkey), hnumbers⟩
  have hstored : ∀ m ∈ calls, m.Names conversationId →
      m.Within projectId conversationId ∧ ∀ u ∈ m.users, IsNumber u := by
    intro m hm hnames
    have hkey := PersistDirectMessage.key_eq_iff.mpr hnames
    have hfilter : m ∈ calls.filter fun m => m.key = conversationId :=
      List.mem_filter.mpr ⟨hm, decide_eq_true hkey⟩
    have hmem : m.stored ∈ (calls.filter fun m => m.Within projectId conversationId).map
        PersistDirectMessage.content := by
      rw [← hperm.mem_iff]
      exact List.mem_map_of_mem hfilter
    obtain ⟨m', hm', hcontent⟩ := List.mem_map.mp hmem
    obtain ⟨hm', hin⟩ := List.mem_filter.mp hm'
    have hin := of_decide_eq_true hin
    obtain ⟨hid, hpair, husers, hnumbers⟩ := users_of_content hcontent.symm
      (h.oneUser m hm m' hm' (.inr hkey) (.inl hin))
    -- Both stand in the same conversation under the same id.
    have hkey' := PersistDirectMessage.key_eq_iff.mpr ((names_congr hpair).mp hnames)
    obtain rfl : m = m' := List.inj_on_of_nodup_map hids hfilter
      (List.mem_filter.mpr ⟨hm', decide_eq_true hkey'⟩) hid
    exact ⟨hin, hnumbers⟩
  refine ⟨?_, ?_⟩
  · intro m hm
    exact ⟨fun hin => (hsent m hm hin).1, fun hnames => (hstored m hm hnames).1⟩
  · intro m hm hnames
    exact (hstored m hm hnames).2

/-- **What the build reads back.** After any run of calls that have returned `Ok`, a client can
walk through any conversation of any project; what it receives is what was persisted for that
project and conversation, and no two pairs or users have become one in it, exactly if its name
for the conversation is `a_b` for the users `a ≤ b` of these messages and of no others, and
these users are 32-bit numbers as `to_string` writes them. -/
theorem reads_back_iff {server : Server} {db₀ db : Database}
    {calls : List (PersistDirectMessage × Option Fault)}
    (hempty : ∀ conversationId, db₀.directMessages conversationId = .empty)
    (hr : (mongoSystem server db₀).Run db₀ calls db) (projectId conversationId : String) :
    (∃ out, MongoWalk db projectId conversationId none out) ∧
    ((∀ out, MongoWalk db projectId conversationId none out →
        ReadsBack (calls.map Prod.fst) projectId conversationId out) ↔
      NamedByItsUsers (calls.map Prod.fst) projectId conversationId) := by
  have hids := nodup_messageIds hr conversationId
  have hrows : (db.directMessages conversationId).rows.Perm
      (((calls.map Prod.fst).filter fun m => m.key = conversationId).map
        PersistDirectMessage.row) := by
    simpa [hempty] using stored_perm hr conversationId
  have hout : ∀ out, MongoWalk db projectId conversationId none out →
      (out.map responseContent).Perm (((calls.map Prod.fst).filter fun m =>
        m.key = conversationId).map PersistDirectMessage.stored) := by
    intro out hwalk
    rw [mongoWalk_eq hwalk, Option.map_none, Clustered.downFrom_none, List.map_map]
    apply ((List.reverse_perm _).map _).trans ((hrows.map _).trans (List.Perm.of_eq _))
    simp [Function.comp_def]
  obtain ⟨out, hwalk⟩ := exists_mongoWalk db projectId conversationId none
  refine ⟨⟨out, hwalk⟩, ?_, ?_⟩
  · intro h
    exact named_of_readsBack hids (hout out hwalk) (h out hwalk)
  · intro h out hwalk
    exact readsBack_of_named (hout out hwalk) h

end RoundTrip

/-- A server as it is documented, where all documents of `user_conversations` are there already. -/
def documented : Server where
  duplicateKey _ := "E11000 duplicate key error"
  upsert _ := .error "field at '_id' must be exactly specified, cannot be a sub-field"

def noMessages : Database where
  directMessages _ := .empty
  userConversations _ := some 0

def aliceToBob : PersistDirectMessage :=
  ⟨"c", ⟨"acme", "alice"⟩, ⟨"acme", "bob"⟩, "hi", .ofTime 1, 5⟩

/-- The client asks for the conversation it wrote to, and it is empty. -/
theorem not_readsBack_aliceToBob :
    ∃ db, (mongoSystem documented noMessages).exec noMessages [(aliceToBob, none)] = some db ∧
      MongoWalk db "acme" "c" none [] ∧ ¬ ReadsBack [aliceToBob] "acme" "c" [] := by
  obtain ⟨db, hdb, hrows⟩ := Option.map_eq_some_iff.mp
    (show ((mongoSystem documented noMessages).exec noMessages [(aliceToBob, none)]).map
        (fun db => (db.directMessages "c").rows) = some [] from rfl)
  refine ⟨db, hdb, ?_, ?_⟩
  · obtain ⟨out, hwalk⟩ := exists_mongoWalk db "acme" "c" none
    have hout := mongoWalk_eq hwalk
    rw [Option.map_none, Clustered.downFrom_none, hrows] at hout
    obtain rfl : out = [] := hout
    exact hwalk
  · intro h
    have hlength := h.exact.length_eq
    revert hlength
    decide

def sevenToTwelve : PersistDirectMessage :=
  ⟨"12_7", ⟨"acme", "7"⟩, ⟨"acme", "12"⟩, "hi", .ofTime 1, 5⟩

theorem reads_back_iff_numbers :
    ∃ db, (mongoSystem documented noMessages).exec noMessages [(sevenToTwelve, none)] = some db ∧
      (∃ out, MongoWalk db "acme" "12_7" none out) ∧
      ((∀ out, MongoWalk db "acme" "12_7" none out →
          ReadsBack [sevenToTwelve] "acme" "12_7" out) ↔
        NamedByItsUsers [sevenToTwelve] "acme" "12_7") := by
  obtain ⟨db, hdb, -⟩ := Option.map_eq_some_iff.mp
    (show ((mongoSystem documented noMessages).exec noMessages [(sevenToTwelve, none)]).map
        (fun _ => ()) = some () from rfl)
  exact ⟨db, hdb, reads_back_iff (fun _ => rfl) (Machine.run_of_exec hdb) "acme" "12_7"⟩

end PerOxo.MongoDb
