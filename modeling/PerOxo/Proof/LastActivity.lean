import Mathlib
import PerOxo.Lib.Latest
import PerOxo.Proof.Writes

/-!
# The times of the last activity

`user_conversations.last_message` and `project_rooms.last_activity` are set by the batch that
writes a message, to the time of this message, whatever is there. The tasks that persist run
side by side and repeat their calls, so a batch may be applied after that of a later message,
and then takes the time back. `last_activity_iff` says when it does not.
-/

set_option autoImplicit false

namespace PerOxo

open ChatService PersistenceService

namespace ChatService

namespace Store

/-- The times of the stored messages of a conversation that the user has sent or received. -/
def userActivity (store : Store) (projectId userId conversationId : String) :
    Set CqlTimestamp :=
  (store.directMessages (projectId, conversationId)).image
    (fun row => row.senderId = userId ∨ row.recipientId = userId) (·.createdAt)

/-- The times of the stored messages of a room. -/
def roomActivity (store : Store) (projectId roomId : String) : Set CqlTimestamp :=
  (store.roomMessages (projectId, roomId)).image (fun _ => True) (·.createdAt)

/-- `last_message` and `last_activity` are the greatest of these times. -/
structure LastActivity (store : Store) : Prop where
  conversations : ∀ projectId userId, (store.userConversations (projectId, userId)).Latest
    (store.userActivity projectId userId)
  rooms : ∀ projectId, (store.projectRooms projectId).Latest (store.roomActivity projectId)

theorem LastActivity.empty : LastActivity .empty where
  conversations p u := by
    have hnone : Store.empty.userActivity p u = fun _ => ∅ := funext fun c => Clustered.image_empty
    rw [hnone]
    exact Clustered.Latest.empty
  rooms p := by
    have hnone : Store.empty.roomActivity p = fun _ => ∅ := funext fun r => Clustered.image_empty
    rw [hnone]
    exact Clustered.Latest.empty

/-! ## A message is stored -/

section Direct

variable {store : Store} {m : DirectMessage}

theorem userActivity_self (hid : m.OwnsId store) {u : String} (hu : u = m.senderId ∨ u = m.recipientId) :
    (store.applyDirectMessage m).userActivity m.projectId u m.conversationId =
      insert m.createdAt (store.userActivity m.projectId u m.conversationId) := by
  rw [userActivity, applyDirectMessage_directMessages, Function.update_self]
  exact Clustered.image_upsert_of_pos hid (hu.imp Eq.symm Eq.symm)

theorem userActivity_other (hid : m.OwnsId store) {p u c : String}
    (hne : p = m.projectId → c = m.conversationId → ¬ (u = m.senderId ∨ u = m.recipientId)) :
    (store.applyDirectMessage m).userActivity p u c = store.userActivity p u c := by
  rw [userActivity, applyDirectMessage_directMessages]
  by_cases hkey : (p, c) = (m.projectId, m.conversationId)
  · obtain ⟨rfl, rfl⟩ := Prod.mk.inj hkey
    rw [Function.update_self]
    refine Clustered.image_upsert_of_neg hid fun hu => ?_
    exact hne rfl rfl (hu.imp Eq.symm Eq.symm)
  · rw [Function.update_of_ne hkey, userActivity]

/-- A direct message keeps the times right exactly if no stored message of the conversation that
its sender or its recipient has to do with is later. -/
theorem lastActivity_applyDirectMessage (hid : m.OwnsId store) (h : store.LastActivity) :
    (store.applyDirectMessage m).LastActivity ↔
      ∀ u, u = m.senderId ∨ u = m.recipientId →
        m.createdAt ∈ upperBounds (store.userActivity m.projectId u m.conversationId) := by
  have hlist : ∀ u, u = m.senderId ∨ u = m.recipientId →
      (((store.applyDirectMessage m).userConversations (m.projectId, u)).Latest
        ((store.applyDirectMessage m).userActivity m.projectId u) ↔
      m.createdAt ∈ upperBounds (store.userActivity m.projectId u m.conversationId)) := by
    intro u hu
    apply (h.conversations m.projectId u).upsert_iff (userActivity_self hid hu)
    · intro c hc
      exact userActivity_other hid fun _ hc' => absurd hc' hc
    · exact applyDirectMessage_entry hu
  constructor
  · intro h' u hu
    exact (hlist u hu).mp (h'.conversations m.projectId u)
  · intro hnew
    refine ⟨fun p u => ?_, h.rooms⟩
    by_cases hu : p = m.projectId ∧ (u = m.senderId ∨ u = m.recipientId)
    · obtain ⟨rfl, hu⟩ := hu
      exact (hlist u hu).mpr (hnew u hu)
    · refine (Clustered.Latest.congr (fun c => ?_) ?_).mpr (h.conversations p u)
      · exact userActivity_other hid fun hp _ hu' => hu ⟨hp, hu'⟩
      · apply applyDirectMessage_entry_of_ne
        · rintro ⟨⟩
          exact hu ⟨rfl, .inl rfl⟩
        · rintro ⟨⟩
          exact hu ⟨rfl, .inr rfl⟩

end Direct

section Room

variable {store : Store} {m : DbRoomMessageEx}

/-- A room message keeps the times right exactly if no stored message of its room is later. -/
theorem lastActivity_applyRoomMessage (hid : m.OwnsId store) (h : store.LastActivity) :
    (store.applyRoomMessage m).LastActivity ↔
      m.createdAt ∈ upperBounds (store.roomActivity m.projectId m.roomId) := by
  have hself : (store.applyRoomMessage m).roomActivity m.projectId m.roomId =
      insert m.createdAt (store.roomActivity m.projectId m.roomId) := by
    rw [roomActivity, applyRoomMessage_roomMessages, Function.update_self]
    exact Clustered.image_upsert_of_pos hid trivial
  have hother : ∀ p r, (p, r) ≠ (m.projectId, m.roomId) →
      (store.applyRoomMessage m).roomActivity p r = store.roomActivity p r := by
    intro p r hne
    rw [roomActivity, applyRoomMessage_roomMessages, Function.update_of_ne hne, roomActivity]
  have hroom : ((store.applyRoomMessage m).projectRooms m.projectId).Latest
      ((store.applyRoomMessage m).roomActivity m.projectId) ↔
      m.createdAt ∈ upperBounds (store.roomActivity m.projectId m.roomId) := by
    apply (h.rooms m.projectId).upsert_iff hself
    · intro r hr
      exact hother _ _ (by simp [hr])
    · intro r t
      simp
  constructor
  · intro h'
    exact hroom.mp (h'.rooms m.projectId)
  · intro hnew
    refine ⟨h.conversations, fun p => ?_⟩
    by_cases hp : p = m.projectId
    · subst hp
      exact hroom.mpr hnew
    · refine (Clustered.Latest.congr (fun r => hother _ _ (by simp [hp])) ?_).mpr (h.rooms p)
      rw [applyRoomMessage_projectRooms, Function.update_of_ne hp]

end Room

end Store

end ChatService

/-! ## Write requests -/

namespace WriteRequest

/-- No stored message is later than the one of the request: of its conversation, sent or
received by one of its two users, or of its room. -/
def Newest (store : Store) : WriteRequest → Prop
  | .dm req => ∀ u, u = req.senderId ∨ u = req.receiverId →
      req.timestamp ∈ upperBounds (store.userActivity req.projectId u req.conversationId)
  | .room req => req.timestamp ∈ upperBounds (store.roomActivity req.projectId req.roomId)

theorem lastActivity_apply {store : Store} {id : Uuid} {request : WriteRequest}
    (hid : request.OwnsId id store) (h : store.LastActivity) :
    (request.apply id store).LastActivity ↔ request.Newest store := by
  cases request with
  | dm req => exact Store.lastActivity_applyDirectMessage hid h
  | room req => exact Store.lastActivity_applyRoomMessage hid h

end WriteRequest

/-! ## Runs -/

/-- `Uuid::now_v1` returns no id that a message is stored under. -/
def DrawsNewId (s : State) (act : Action) : Prop :=
  ∀ sid text id, act = .frame sid text id → s.store.Lacks id

/-- A batch that is carried out is for the newest message. -/
def AppliesNewest (db : Db) (s : State) (act : Action) : Prop :=
  ∀ c fault request, act = .serveWrite c fault → s.writes.get? c = some ⟨request, none⟩ →
    request.Carried db fault → request.Newest s.store

section Runs

variable {db : Db} {store : Store} {s s' : State} {act : Action}

theorem DrawsNewId.lacks (hn : DrawsNewId s act) (h : s.step db act = some s') {id : Uuid}
    (hid : id ∈ s'.sentIds) (hnew : id ∉ s.sentIds) : s.store.Lacks id := by
  rcases sentIds_step h with he | ⟨sid, text, id', action, -, he⟩
  · exact absurd (he ▸ hid) hnew
  · rw [he] at hid
    rcases List.mem_append.mp hid with hid | hid
    · exact absurd hid hnew
    · rw [List.mem_singleton.mp hid]
      exact hn sid text id' action

/-- **One step keeps the times right exactly if it applies no batch late.** -/
theorem lastActivity_step (hi : RowsOk s) (h : s.step db act = some s')
    (hp : s.store.LastActivity) : s'.store.LastActivity ↔ AppliesNewest db s act := by
  obtain ⟨d, hd, hst, -⟩ := State.delivery_moved h
  rw [hst]
  cases act with
  | serveWrite c fault =>
    obtain ⟨request, hc, rfl⟩ := State.serveWrite_some h
    have hcond : AppliesNewest db s (.serveWrite c fault) ↔
        (request.Carried db fault → request.Newest s.store) := by
      constructor
      · intro hall
        exact hall c fault request rfl hc
      · rintro hone c' fault' request' ⟨⟩ hc'
        obtain ⟨rfl, -⟩ := WriteCall.mk.inj (Option.some.inj (hc'.symm.trans hc))
        exact hone
    rw [hcond, ← hst]
    rcases request.serve_store db fault s.store with ⟨hcar, id, hid, he⟩ | ⟨hcar, he⟩
    · rw [he, WriteRequest.lastActivity_apply (hi.ownsId hc hid) hp]
      exact ⟨fun hn _ => hn, fun hn => hn hcar⟩
    · rw [he]
      exact ⟨fun _ hc => absurd hc hcar, fun _ => hp⟩
  | _ =>
    have hsame : d.store = s.store := by
      cases hd with
      | served action found => cases action
      | _ => rfl
    rw [hsame]
    constructor
    · rintro - c fault request ⟨⟩
    · exact fun _ => hp

/-- **When the times of the last activity are right**: from a store where they are, in every
state of a run exactly if no batch of the run is applied after that of a later message. -/
theorem last_activity_iff {acts : List Action} {t : State} (h₀ : store.LastActivity)
    (h : (system db store).Run (.start store) acts t)
    (hnew : (system db store).Meets DrawsNewId (.start store) acts) :
    (system db store).Always (fun s => s.store.LastActivity) (.start store) acts ↔
      (system db store).Meets (AppliesNewest db) (.start store) acts :=
  h.always_iff_meets_of_meets (J := RowsOk) (fun _ _ _ hs hn hi => hi.step (fun _ => hn.lacks hs) hs)
    (fun _ _ _ hs hi hp => lastActivity_step hi hs hp) hnew (.start store) h₀

end Runs

/-! ## From an empty store -/

/-- Whatever is stored has been sent. -/
structure StoredSent (s : State) : Prop where
  ids : Ids s
  lacks : ∀ id, id ∉ s.sentIds → s.store.Lacks id

section Empty

variable {db : Db} {s s' : State} {act : Action}

theorem StoredSent.step (hi : StoredSent s) (h : s.step db act = some s') : StoredSent s' := by
  refine ⟨hi.ids.step h, fun id hid => ?_⟩
  have hold : id ∉ s.sentIds := fun hs => hid (mem_sentIds_step h hs)
  exact lacks_step hi.ids h (hi.lacks id hold) hold

theorem StoredSent.drawsNewId (hi : StoredSent s) (h : s.step db act = some s') :
    DrawsNewId s act := by
  rintro sid text id rfl
  cases State.stepped h with
  | framed found active fresh result =>
    exact hi.lacks id fun hid => fresh (hi.ids.sent.mem_issuedIds hid)

/-- Where the store is empty at first, an id that is drawn for the first time is not stored. -/
theorem meets_drawsNewId {acts : List Action} {t : State}
    (h : (system db .empty).Run (.start .empty) acts t) :
    (system db .empty).Meets DrawsNewId (.start .empty) acts :=
  h.meets (I := StoredSent) (fun _ _ _ hs hi => hi.step hs) (fun _ _ _ hs hi => hi.drawsNewId hs)
    ⟨.start .empty, fun id _ => Store.lacks_empty id⟩

end Empty

/-! ## Two messages, the first written last -/

/-- `alice` sends two messages, and the call of the second is served before that of the first. -/
def outOfOrder : List Action :=
  [.connect alice, .router 0 0, .finishCreation 0,
    .frame 0 (some (.sendDirectMessage "c" ⟨"acme", "carol"⟩ "one" (.ofTime 8))) (.ofTime 1),
    .frame 0 (some (.sendDirectMessage "c" ⟨"acme", "carol"⟩ "two" (.ofTime 9))) (.ofTime 2),
    .router 5 5, .router 6 6, .serveWrite 1 none, .serveWrite 0 none]

/-- The conversation of both shows the time of the first message, while the second is stored. -/
theorem last_message_goes_back :
    ∃ t, (system mainDb .empty).exec (.start .empty) outOfOrder = some t ∧
      (t.store.userConversations ("acme", "carol")).rows = [("c", 5)] ∧
      (t.store.directMessages ("acme", "c")).rows =
        [(.ofTime 1, ⟨"alice", "carol", "one", 5⟩), (.ofTime 2, ⟨"alice", "carol", "two", 6⟩)] ∧
      ¬ t.store.LastActivity := by
  obtain ⟨t, ht, hf⟩ := Option.map_eq_some_iff.mp
    (show ((system mainDb .empty).exec (.start .empty) outOfOrder).map (fun s =>
        ((s.store.userConversations ("acme", "carol")).rows,
          (s.store.directMessages ("acme", "c")).rows)) =
      some ([("c", 5)], [(.ofTime 1, ⟨"alice", "carol", "one", 5⟩),
        (.ofTime 2, ⟨"alice", "carol", "two", 6⟩)]) from rfl)
  obtain ⟨hlist, hrows⟩ := Prod.mk.inj hf
  refine ⟨t, ht, hlist, hrows, fun hlast => ?_⟩
  have hmax := (hlast.conversations "acme" "carol" "c" 5).mp (by rw [hlist]; exact .head _)
  have hle : (6 : CqlTimestamp) ≤ 5 := hmax.2
    ⟨.ofTime 2, ⟨"alice", "carol", "two", 6⟩, by rw [hrows]; exact .tail _ (.head _), .inr rfl, rfl⟩
  exact absurd hle (by decide)

/-- The equivalence for that run. -/
theorem last_activity_iff_outOfOrder :
    ∃ t, (system mainDb .empty).exec (.start .empty) outOfOrder = some t ∧
      ((system mainDb .empty).Always (fun s => s.store.LastActivity) (.start .empty) outOfOrder ↔
        (system mainDb .empty).Meets (AppliesNewest mainDb) (.start .empty) outOfOrder) := by
  obtain ⟨t, ht, -⟩ := Option.map_eq_some_iff.mp
    (show ((system mainDb .empty).exec (.start .empty) outOfOrder).map (·.mailbox) = some [] from rfl)
  have hr := Machine.run_of_exec ht
  exact ⟨t, ht, last_activity_iff .empty hr (meets_drawsNewId hr)⟩

end PerOxo
