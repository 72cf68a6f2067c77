import PerOxo.Proof.Partition
import PerOxo.Proof.Writes
import PerOxo.Retry

/-!
# The history of a room

A `RoomActor` asks for its history as for that of a conversation with the room's id. Room
messages are not stored there, and direct messages are: what the actor serves is the history of
the room only where both histories are empty (`room_history_iff`).
-/

set_option autoImplicit false

namespace PerOxo

open ChatService PersistenceService

/-! ## What was persisted -/

namespace PersistenceService

/-- The message is the one that `handle_persist_direct_message` writes. -/
def Persist.IsDirect (m : ResponseDirectMessage) : Persist → Prop
  | .direct conversationId tenantSenderId tenantReceiverId messageContent messageId timestamp =>
      m = ⟨conversationId, messageId, tenantSenderId.userId, tenantReceiverId.userId,
        messageContent, timestamp⟩
  | .room .. => False

/-- `handle_persist_room_message` has returned `Ok` for a message of the room. -/
def PersistState.PersistedRoom (s : PersistState) (projectId roomId : String) (id : Uuid)
    (senderId content : String) : Prop :=
  ∃ k call timestamp, s.calls.get? k = some call ∧ call.result = some (.ok ()) ∧
    call.message = .room roomId ⟨projectId, senderId⟩ content id timestamp

/-- What is to be expected of the history of a room. -/
structure PersistState.IsRoomHistory (s : PersistState) (projectId roomId : String)
    (out : List ResponseDirectMessage) : Prop where
  newestFirst : out.Pairwise fun a b => b.messageId < a.messageId
  messages : ∀ id senderId content, (∃ m ∈ out, m.messageId = id ∧ m.senderId = senderId ∧
    m.messageText = content) ↔ s.PersistedRoom projectId roomId id senderId content
  noDirect : ∀ m ∈ out, ∀ k call, s.calls.get? k = some call → ¬ call.message.IsDirect m

section Step

variable {db : Db} {s s' : PersistState} {act : PersistAction}

/-- A step changes the store only by the batch of a call's request, and calls keep their
messages. -/
theorem persist_step (h : s.step db act = some s') :
    (∀ k call, s.calls.get? k = some call →
      ∃ call', s'.calls.get? k = some call' ∧ call'.message = call.message) ∧
    (s'.store = s.store ∨ ∃ k call id, s.calls.get? k = some call ∧
      Uuid.parseStr call.message.request.messageId = some id ∧
      s'.store = call.message.request.apply id s.store) := by
  cases act with
  | persist message =>
    obtain rfl := Option.some.inj h
    exact ⟨fun k call hk => ⟨call, Arena.get?_alloc_of_some hk, rfl⟩, .inl rfl⟩
  | attempt k trip =>
    obtain ⟨call, hk, -, rfl⟩ := PersistState.attempt_some h
    refine ⟨fun j call' hj => ?_, ?_⟩
    · exact Arena.exists_modify hj rfl fun _ => PersistCall.turn_message _ _
    · have hserve : ∀ fault, (call.message.request.serve db fault s.store).2 = s.store ∨
          ∃ k call' id, s.calls.get? k = some call' ∧
            Uuid.parseStr call'.message.request.messageId = some id ∧
            (call.message.request.serve db fault s.store).2 =
              call'.message.request.apply id s.store := by
        intro fault
        rcases call.message.request.serve_store db fault s.store with ⟨-, id, hid, he⟩ | ⟨-, he⟩
        · exact .inr ⟨k, call, id, hk, hid, he⟩
        · exact .inl he
      cases trip with
      | lost status => exact .inl rfl
      | unanswered fault status => exact hserve fault
      | answered fault => exact hserve fault

/-- Every direct message in the store was written for a call. -/
def RowsWritten (s : PersistState) : Prop :=
  ∀ p c x, x ∈ (conversation p c s.store).rows → ∃ k call, s.calls.get? k = some call ∧
    call.message.IsDirect (clientMessage (dbMessage c x))

theorem RowsWritten.step (hi : RowsWritten s) (h : s.step db act = some s') : RowsWritten s' := by
  obtain ⟨hcalls, hstore⟩ := persist_step h
  intro p c x hx
  obtain ⟨xid, row⟩ := x
  have hold : (xid, row) ∈ (conversation p c s.store).rows → ∃ k call,
      s'.calls.get? k = some call ∧
        call.message.IsDirect (clientMessage (dbMessage c (xid, row))) := by
    intro hx
    obtain ⟨k, call, hk, hdirect⟩ := hi p c _ hx
    obtain ⟨call', hk', hm⟩ := hcalls k call hk
    exact ⟨k, call', hk', hm ▸ hdirect⟩
  rcases hstore with he | ⟨k, call, id, hk, hid, he⟩
  · exact hold (he ▸ hx)
  · rw [conversation, he] at hx
    rcases WriteRequest.mem_apply_directMessages hx with hx | ⟨req, hreq, hkey, hxid, hrow⟩
    · exact hold hx
    · obtain ⟨call', hk', hm⟩ := hcalls k call hk
      refine ⟨k, call', hk', ?_⟩
      rw [hm]
      cases hmsg : call.message with
      | room roomId senderId messageContent messageId timestamp =>
        rw [hmsg] at hreq
        cases hreq
      | direct conversationId tenantSenderId tenantReceiverId messageContent messageId timestamp =>
        rw [hmsg] at hreq hid
        obtain rfl := WriteRequest.dm.inj hreq
        obtain rfl : messageId = id := by
          simpa [Persist.request, WriteRequest.messageId, persistDirectMessageRequest] using hid
        obtain ⟨rfl, rfl⟩ := Prod.mk.inj hkey
        subst hxid hrow
        rfl

theorem rowsWritten (h : (persistSystem db .empty).Reachable s) : RowsWritten s := by
  refine h.invariant (fun p c x hx => nomatch hx) ?_
  intro s act s' _ hs hi
  exact hi.step hs

end Step

end PersistenceService

/-! ## What the room serves -/

section Served

variable {db : Db} {s : PersistState}

/-- **The history of a room**: the handler asks for the conversation that has the room's id. So,
with all reads succeeding, a walk through all pages receives the room's persisted messages and
no direct message exactly if no message of the room has been persisted and no direct message is
stored under its id. -/
theorem room_history_iff (h : (persistSystem db .empty).Reachable s) (r : RoomActor)
    (projectId : String)
    (hok : ∀ cursor, ∃ fault newV4 m, ReadKind.history.reply db fault newV4 s.store
      (getPaginatedMessagesRequest projectId cursor r.roomId) = .ok m) :
    (∀ (t : State) a now cursor k,
      t.handleMessage a r now (.getPaginatedMessages projectId cursor k) =
        t.spawnHistoryRead (getPaginatedMessagesRequest projectId cursor r.roomId) k) ∧
    ((∀ n out, ClientWalk db projectId r.roomId none (List.replicate n s.store) out →
        s.IsRoomHistory projectId r.roomId out) ↔
      (∀ id senderId content, ¬ s.PersistedRoom projectId r.roomId id senderId content) ∧
        (conversation projectId r.roomId s.store).rows = []) := by
  refine ⟨fun t a now cursor k => rfl, ?_, ?_⟩
  · intro hall
    obtain ⟨n, out, hwalk⟩ := exists_clientWalk hok none
    have hhistory := hall n out hwalk
    have hout := clientWalk_const hwalk
    have hrows : (conversation projectId r.roomId s.store).rows = [] := by
      -- A row would be served, and every row is a direct message.
      apply List.eq_nil_iff_forall_not_mem.mpr
      intro x hx
      obtain ⟨k, call, hk, hdirect⟩ := rowsWritten h projectId r.roomId x hx
      refine hhistory.noDirect _ ?_ k call hk hdirect
      rw [hout, Clustered.downFrom_none]
      exact List.mem_map_of_mem (List.mem_reverse.mpr hx)
    refine ⟨fun id senderId content hpersisted => ?_, hrows⟩
    obtain ⟨m, hm, -⟩ := (hhistory.messages id senderId content).mpr hpersisted
    rw [hout, Clustered.downFrom_none, hrows] at hm
    cases hm
  · intro hempty n out hwalk
    obtain ⟨hnone, hrows⟩ := hempty
    have hout := clientWalk_const hwalk
    rw [Clustered.downFrom_none, hrows] at hout
    subst hout
    refine ⟨.nil, fun id senderId content => ⟨fun hm => ?_, fun hp => ?_⟩, fun m hm => nomatch hm⟩
    · obtain ⟨m, hm, -⟩ := hm
      cases hm
    · exact absurd hp (hnone id senderId content)

end Served

def lobby : RoomActor := ⟨"lobby", [], ∅, true, []⟩

/-- A message in a room, and a direct message in a conversation of the same id. -/
def roomAndDirect : List PersistAction :=
  [.persist (.room "lobby" alice "hi" (.ofTime 1) 5),
    .persist (.direct "lobby" alice carol "secret" (.ofTime 2) 6),
    .attempt 0 (.answered none), .attempt 1 (.answered none)]

theorem history_reply_lenient (store : Store) (projectId conversationId : String)
    (cursor : Option Uuid) (hp : projectId ≠ "") (hc : conversationId ≠ "") :
    ReadKind.history.reply lenientDb none (fun _ => .ofTime 0) store
        (getPaginatedMessagesRequest projectId cursor conversationId) =
      .ok (historyPage conversationId
        ((store.directMessages (projectId, conversationId)).page pageLimit cursor)) := by
  have hquery : ∀ b, lenientDb.query none (selectPaginatedMessages b) = .ok () := by decide
  have hne : ¬ (projectId = "" ∨ conversationId = "") := fun h => h.elim hp hc
  rw [history_reply, if_neg hne, hquery]

/-- The room's history is the direct message. -/
theorem room_serves_direct_message :
    ∃ s, (persistSystem lenientDb .empty).exec ⟨.empty, .empty⟩ roomAndDirect = some s ∧
      s.PersistedRoom "acme" "lobby" (.ofTime 1) "alice" "hi" ∧
      ClientWalk lenientDb "acme" lobby.roomId none (List.replicate 2 s.store)
        [⟨"lobby", .ofTime 2, "alice", "carol", "secret", 6⟩] ∧
      ¬ s.IsRoomHistory "acme" lobby.roomId
        [⟨"lobby", .ofTime 2, "alice", "carol", "secret", 6⟩] := by
  obtain ⟨s, hs, hf⟩ := Option.map_eq_some_iff.mp
    (show ((persistSystem lenientDb .empty).exec ⟨.empty, .empty⟩ roomAndDirect).map (fun s =>
        (s.calls.get? 0, s.calls.get? 1, (conversation "acme" "lobby" s.store).rows)) =
      some (some ⟨.room "lobby" alice "hi" (.ofTime 1) 5, 0, some (.ok ())⟩,
        some ⟨.direct "lobby" alice carol "secret" (.ofTime 2) 6, 0, some (.ok ())⟩,
        [(.ofTime 2, ⟨"alice", "carol", "secret", 6⟩)]) from rfl)
  simp only [Prod.mk.injEq] at hf
  obtain ⟨hroom, hdirect, hrows⟩ := hf
  refine ⟨s, hs, ⟨0, _, 5, hroom, rfl, rfl⟩, ?_, ?_⟩
  · have hwalk : Clustered.Walk pageLimit none
        ((List.replicate 2 s.store).map (conversation "acme" "lobby"))
        ([(.ofTime 2, ⟨"alice", "carol", "secret", 6⟩)] ++ []) := by
      have hpage : (conversation "acme" "lobby" s.store).page pageLimit none =
          [(.ofTime 2, ⟨"alice", "carol", "secret", 6⟩)] := by
        rw [Clustered.page, Clustered.downFrom, hrows]
        rfl
      have hlast : (conversation "acme" "lobby" s.store).page pageLimit (some (.ofTime 2)) = [] := by
        rw [Clustered.page, Clustered.downFrom, hrows]
        rfl
      rw [← hpage]
      exact .turn (by rw [hpage]; rfl) (.stop hlast)
    exact clientWalk_of_walk hwalk fun store _ cursor =>
      ⟨none, _, _, history_reply_lenient store "acme" "lobby" cursor (by decide) (by decide)⟩
  · intro h
    exact h.noDirect _ List.mem_cons_self 1 _ hdirect rfl

/-- The equivalence after these two, and both of its sides fail. -/
theorem room_history_iff_lobby :
    ∃ s, (persistSystem lenientDb .empty).exec ⟨.empty, .empty⟩ roomAndDirect = some s ∧
      s.PersistedRoom "acme" "lobby" (.ofTime 1) "alice" "hi" ∧
      (conversation "acme" "lobby" s.store).rows =
        [(.ofTime 2, ⟨"alice", "carol", "secret", 6⟩)] ∧
      (∀ (t : State) a now cursor k,
        t.handleMessage a lobby now (.getPaginatedMessages "acme" cursor k) =
          t.spawnHistoryRead (getPaginatedMessagesRequest "acme" cursor lobby.roomId) k) ∧
      ((∀ n out, ClientWalk lenientDb "acme" lobby.roomId none (List.replicate n s.store) out →
          s.IsRoomHistory "acme" lobby.roomId out) ↔
        (∀ id senderId content, ¬ s.PersistedRoom "acme" lobby.roomId id senderId content) ∧
          (conversation "acme" lobby.roomId s.store).rows = []) := by
  obtain ⟨s, hs, hf⟩ := Option.map_eq_some_iff.mp
    (show ((persistSystem lenientDb .empty).exec ⟨.empty, .empty⟩ roomAndDirect).map (fun s =>
        (s.calls.get? 0, (conversation "acme" "lobby" s.store).rows)) =
      some (some ⟨.room "lobby" alice "hi" (.ofTime 1) 5, 0, some (.ok ())⟩,
        [(.ofTime 2, ⟨"alice", "carol", "secret", 6⟩)]) from rfl)
  obtain ⟨hroom, hrows⟩ := Prod.mk.inj hf
  refine ⟨s, hs, ⟨0, _, 5, hroom, rfl, rfl⟩, hrows, ?_⟩
  exact room_history_iff (Machine.reachable_of_exec hs) lobby "acme" fun cursor =>
    ⟨none, _, _, history_reply_lenient s.store "acme" "lobby" cursor (by decide) (by decide)⟩

end PerOxo
