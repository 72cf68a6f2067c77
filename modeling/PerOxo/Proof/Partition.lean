import PerOxo.Proof.Paging

/-!
# Two ways to read a conversation

From a cursor, a client can walk down page by page (`GetPaginatedMessages`) or ask for all that
comes after it (`SyncMessages`). The two are written as different queries, in opposite
directions. Together with the message at the cursor they give the conversation back
(`walk_and_sync_split`).
-/

set_option autoImplicit false

namespace PerOxo

open ChatService PersistenceService

section Split

variable {db : Db} {projectId conversationId : String} {store : Store}

/-- The messages of a conversation in the order of their ids. -/
abbrev allMessages (projectId conversationId : String) (store : Store) :
    List ResponseDirectMessage :=
  clientMessages conversationId (conversation projectId conversationId store).rows

/-- The message with this id, if it is stored in the conversation. -/
abbrev messageAt (projectId conversationId : String) (store : Store) (id : Uuid) :
    List ResponseDirectMessage :=
  clientMessages conversationId ((conversation projectId conversationId store).rowAt id)

theorem allMessages_ascending (projectId conversationId : String) (store : Store) :
    (allMessages projectId conversationId store).Pairwise fun a b => a.messageId < b.messageId :=
  List.pairwise_map.mpr (conversation projectId conversationId store).sorted

theorem mem_allMessages {m : ResponseDirectMessage} :
    m ∈ allMessages projectId conversationId store ↔ StoredIn store projectId conversationId m := by
  constructor
  · intro hm
    obtain ⟨x, hx, rfl⟩ := List.mem_map.mp hm
    exact ⟨x, hx, rfl⟩
  · intro hm
    obtain ⟨x, hx, rfl⟩ := hm
    exact List.mem_map_of_mem hx

theorem mem_messageAt {m : ResponseDirectMessage} {id : Uuid} :
    m ∈ messageAt projectId conversationId store id ↔
      StoredIn store projectId conversationId m ∧ m.messageId = id := by
  constructor
  · intro hm
    obtain ⟨x, hx, rfl⟩ := List.mem_map.mp hm
    obtain ⟨hstored, hid⟩ := Clustered.mem_rowAt.mp hx
    exact ⟨⟨x, hstored, rfl⟩, hid⟩
  · intro h
    obtain ⟨⟨x, hx, rfl⟩, hid⟩ := h
    exact List.mem_map_of_mem (Clustered.mem_rowAt.mpr ⟨hx, hid⟩)

/-- A walk over an unchanged store receives the messages below its cursor. -/
theorem clientWalk_const {cursor : Option Uuid} {n : Nat} {out : List ResponseDirectMessage}
    (h : ClientWalk db projectId conversationId cursor (List.replicate n store) out) :
    out = clientMessages conversationId
      ((conversation projectId conversationId store).downFrom cursor) := by
  obtain ⟨rows, hwalk, rfl⟩ := walk_of_clientWalk h
  rw [hwalk.eq_of_const (by decide : 0 < pageLimit)]
  intro t ht
  rw [List.map_replicate] at ht
  exact List.eq_of_mem_replicate ht

/-- Where all calls succeed, there is a walk from every cursor. -/
theorem exists_clientWalk
    (hok : ∀ cursor, ∃ fault newV4 m, ReadKind.history.reply db fault newV4 store
      (getPaginatedMessagesRequest projectId cursor conversationId) = .ok m)
    (cursor : Option Uuid) : ∃ n out,
      ClientWalk db projectId conversationId cursor (List.replicate n store) out := by
  obtain ⟨n, rows, hwalk⟩ := Clustered.Walk.exists_of_wellFounded pageLimit cursor
    fun _ => conversation projectId conversationId store
  have hwalk' : Clustered.Walk pageLimit cursor
      ((List.replicate n store).map (conversation projectId conversationId)) rows := by
    rw [List.map_const', List.length_range] at hwalk
    rw [List.map_replicate]
    exact hwalk
  refine ⟨n, _, clientWalk_of_walk hwalk' ?_⟩
  intro store' hs
  obtain rfl := List.eq_of_mem_replicate hs
  exact hok

/-- A read that succeeds has named a project and a conversation. -/
theorem named_of_history_reply {fault : Option Fault} {newV4 : Proto.DirectMessage → Uuid}
    {cursor : Option Uuid} {m : ChatMessage} (h : ReadKind.history.reply db fault newV4 store
      (getPaginatedMessagesRequest projectId cursor conversationId) = .ok m) :
    ¬ (projectId = "" ∨ conversationId = "") := by
  intro hempty
  rw [history_reply, if_pos hempty] at h
  cases h

/-- **Pages and sync split the conversation.** Whatever is stored, and whatever id is taken as the
cursor: what a walk of pages from it receives, turned around, then the message with this id if
there is one, then what a sync from it brings, is the whole conversation in ascending order
of the ids, with the same fields on either way. Such a walk exists, and so does the reply to the
sync where the database takes its statement; every message of the conversation is there once. -/
theorem walk_and_sync_split
    (hok : ∀ cursor, ∃ fault newV4 m, ReadKind.history.reply db fault newV4 store
      (getPaginatedMessagesRequest projectId cursor conversationId) = .ok m)
    (cursor : Uuid) :
    (∃ n out, ClientWalk db projectId conversationId (some cursor) (List.replicate n store) out) ∧
    (∀ fault newV4, db.query fault qFetchAfterMessageId = .ok () → ∃ synced,
      ReadKind.sync.reply db fault newV4 store
        (syncMessagesRequest projectId conversationId cursor) =
          .ok (.syncMessagesResponse synced)) ∧
    (∀ n out fault newV4 synced,
      ClientWalk db projectId conversationId (some cursor) (List.replicate n store) out →
      ReadKind.sync.reply db fault newV4 store
        (syncMessagesRequest projectId conversationId cursor) = .ok (.syncMessagesResponse synced) →
      out.reverse ++ messageAt projectId conversationId store cursor ++ synced =
        allMessages projectId conversationId store) ∧
    (allMessages projectId conversationId store).Pairwise
      (fun a b => a.messageId < b.messageId) ∧
    (∀ m, m ∈ allMessages projectId conversationId store ↔
      StoredIn store projectId conversationId m) ∧
    ∀ m, m ∈ messageAt projectId conversationId store cursor ↔
      StoredIn store projectId conversationId m ∧ m.messageId = cursor := by
  refine ⟨exists_clientWalk hok _, fun fault newV4 hquery => ?_, ?_, allMessages_ascending _ _ _,
    fun m => mem_allMessages, fun m => mem_messageAt⟩
  · obtain ⟨fault', newV4', m, hreply⟩ := hok none
    rw [sync_reply, if_neg (named_of_history_reply hreply), hquery]
    exact ⟨_, rfl⟩
  intro n out fault newV4 synced hwalk hsync
  have hout := clientWalk_const hwalk
  have hms := ChatMessage.syncMessagesResponse.inj (sync_reply_ok hsync)
  have hsplit := (conversation projectId conversationId store).downFrom_rowAt_after cursor
  rw [hout, hms, allMessages, ← hsplit]
  simp [clientMessages, conversation]

end Split

/-- A store of three messages, and the one in the middle as the cursor. -/
def threeMessages : Store :=
  (oneMessage.applyDirectMessage ⟨"acme", "c", .ofTime 2, "carol", "alice", "hello", 6⟩)
    |>.applyDirectMessage ⟨"acme", "c", .ofTime 3, "alice", "carol", "bye", 7⟩

/-- A walk and a sync from there, and what they bring. -/
theorem walk_and_sync_split_threeMessages :
    (∃ n out synced,
      ClientWalk lenientDb "acme" "c" (some (.ofTime 2)) (List.replicate n threeMessages) out ∧
      ReadKind.sync.reply lenientDb none (fun _ => .ofTime 0) threeMessages
        (syncMessagesRequest "acme" "c" (.ofTime 2)) = .ok (.syncMessagesResponse synced) ∧
      out.reverse ++ messageAt "acme" "c" threeMessages (.ofTime 2) ++ synced =
        allMessages "acme" "c" threeMessages) ∧
    allMessages "acme" "c" threeMessages =
      [⟨"c", .ofTime 1, "alice", "carol", "hi", 5⟩, ⟨"c", .ofTime 2, "carol", "alice", "hello", 6⟩,
        ⟨"c", .ofTime 3, "alice", "carol", "bye", 7⟩] := by
  refine ⟨?_, by decide⟩
  have hok : ∀ cursor, ∃ fault newV4 m, ReadKind.history.reply lenientDb fault newV4 threeMessages
      (getPaginatedMessagesRequest "acme" cursor "c") = .ok m :=
    lenient_history_ok (by decide) (by decide)
  obtain ⟨⟨n, out, hwalk⟩, hreply, hsplit, -⟩ := walk_and_sync_split hok (.ofTime 2)
  obtain ⟨synced, hsync⟩ := hreply none (fun _ => .ofTime 0) (by decide)
  exact ⟨n, out, synced, hwalk, hsync, hsplit n out none _ synced hwalk hsync⟩

end PerOxo
