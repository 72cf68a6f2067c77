import PerOxo.Proof.Fate
import PerOxo.Proof.History

/-!
# Live delivery and sync together

A client that has missed something asks for what comes after a cursor. The reply has whatever
is stored above the cursor (`sync_sound`). Below it, only the live way could have brought a
message, and that may have dropped it: the greatest id a client has received says nothing about
the smaller ones (`sync_loses_message`).
-/

set_option autoImplicit false

namespace PerOxo

open ChatService PersistenceService

/-! ## What a sync brings -/

/-- What the syncs of a run bring, and what has become of the messages they need not bring. -/
structure SyncSound (db : Db) (store : Store) (s : State) : Prop where
  /-- A response a session gets is the reply to a sync of its own. -/
  logged : ∀ sid ms, (sid, .syncMessagesResponse ms) ∈ s.acks.log →
    ∃ k w, s.syncRelays.get? k = some w ∧ w.context.session = sid ∧ w.reply = .sent (.ok ms)
  /-- The reply was made when the sync was under way. A direct message of the conversation whose
  write was then complete is in it if its id is above the cursor; and whatever its id, it
  has had one of the fates of live messages. -/
  replied : ∀ k w projectId conversationId cursor ms, s.syncRelays.get? k = some w →
    w.context.frame = .syncMessages projectId conversationId cursor → w.reply = .sent (.ok ms) →
    ∃ s₀, Earlier db store s₀ s ∧ ReadKind.sync.Awaits s₀ k ∧
      ∀ m : Direct, m.Persisted s₀ → m.fromUser.projectId = projectId →
        m.conversationId = conversationId →
        (cursor < m.id → ∃ createdAt, ⟨conversationId, m.id, m.fromUser.userId, m.toUser.userId,
          m.content, createdAt⟩ ∈ ms) ∧ LiveFate db store m s₀

section Sound

variable {db : Db} {store : Store} {s : State}

theorem sync_sound (h : (system db store).Reachable s) : SyncSound db store s := by
  constructor
  · intro sid ms hm
    obtain ⟨k, w, ms', hw, hsid, hrep, he⟩ := (reads_of_reachable ReadKind.sync_runs h).log sid ms hm
    obtain rfl : ms' = ms := ChatMessage.syncMessagesResponse.inj he
    exact ⟨k, w, hw, hsid, hrep⟩
  · intro k w projectId conversationId cursor ms hw hf hrep
    obtain ⟨request, s₀, fault, newV4, hreq, hearlier, hawaits, hreply⟩ :=
      reads_replied ReadKind.sync_runs h hw hrep
    refine ⟨s₀, hearlier, hawaits, ?_⟩
    rintro m hm rfl rfl
    obtain rfl : syncMessagesRequest m.fromUser.projectId m.conversationId cursor = request := by
      rw [hf] at hreq
      exact Option.some.inj hreq
    have hms := ChatMessage.syncMessagesResponse.inj (sync_reply_ok hreply)
    refine ⟨fun hlt => ?_, live_fate hearlier.1 hm⟩
    obtain ⟨-, row, hrow, hsender, hrecipient, htext⟩ :=
      hm.traces (written hearlier.1) (acked hearlier.1).log
    refine ⟨row.createdAt, ?_⟩
    rw [hms, ← hsender, ← hrecipient, ← htext]
    exact List.mem_map.mpr ⟨_, Clustered.mem_after.mpr ⟨hrow, hlt⟩, rfl⟩

end Sound

/-! ## What it does not -/

/-- A client of `r` has received the message with this id, live or by a sync. -/
inductive State.HasReceived (s : State) (r : TenantUserId) (id : Uuid) : Prop
  | live {sid : SessionId} {fromUser : TenantUserId} {content : String} {time : Int}
      (user : s.UserOf sid r) (written : (sid, .directMessage fromUser content id time) ∈ s.socket)
  | synced {sid : SessionId} {ms : List ResponseDirectMessage} {m : ResponseDirectMessage}
      (user : s.UserOf sid r) (written : (sid, .syncMessagesResponse ms) ∈ s.socket) (mem : m ∈ ms)
      (same : m.messageId = id)

/-- The greatest id of a conversation that `r` has received. -/
structure State.GreatestReceived (s : State) (r : TenantUserId) (conversationId : String)
    (cursor : Uuid) : Prop where
  message : ∃ (m : Direct) (t : AckTicket), m.Ticket s t ∧ m.conversationId = conversationId ∧
    m.id = cursor
  received : s.HasReceived r cursor
  greatest : ∀ (m : Direct) (t : AckTicket), m.Ticket s t → m.conversationId = conversationId →
    s.HasReceived r m.id → m.id ≤ cursor

/-- `alice` writes to `carol`, who is not online, and once more when she is. -/
def missed : List Action :=
  [.connect alice, .router 0 0, .finishCreation 0,
    .frame 0 (some (.sendDirectMessage "c" carol "hi" (.ofTime 8))) (.ofTime 1), .router 5 5,
    .serveWrite 0 none, .connect carol, .router 0 0, .finishCreation 1,
    .frame 0 (some (.sendDirectMessage "c" carol "hello" (.ofTime 9))) (.ofTime 2), .router 6 6,
    .serveWrite 1 none, .send 1 false true]

/-- `carol` syncs with the id of the message she has got. -/
def syncAfter : Action := .frame 1 (some (.syncMessages "acme" "c" (.ofTime 2))) (.ofTime 3)

def synced : List Action :=
  [.router 0 0, .serveSync 0 none, .syncRead 0 none fun _ => .ofTime 0, .syncRelay 0,
    .send 1 true true]

def firstMessage : Direct := ⟨alice, carol, "c", "hi", .ofTime 1⟩

/-- The first message is stored, but `carol` has not got it, and does not get it by the sync. -/
theorem sync_loses_message :
    ∃ s s' t, (system lenientDb .empty).exec (.start .empty) missed = some s ∧
      s.step lenientDb syncAfter = some s' ∧ (system lenientDb .empty).exec s' synced = some t ∧
      firstMessage.Persisted s ∧ s.GreatestReceived carol "c" (.ofTime 2) ∧
      t.socket = s.socket ++ [(1, .syncMessagesResponse [])] ∧ t.UserOf 1 carol ∧
      ¬ t.HasReceived carol (.ofTime 1) := by
  obtain ⟨s, hs, hf⟩ := Option.map_eq_some_iff.mp
    (show ((system lenientDb .empty).exec (.start .empty) missed).map (fun s =>
        ((s.sessions.get? 0).map (·.tenantUserId), (s.sessions.get? 1).map (·.tenantUserId),
          (s.ackRelays.get? 0).map (·.context), (s.ackRelays.get? 1).map (·.context),
          s.writes.get? 0, s.issuedIds, s.socket)) =
      some (some alice, some carol,
        some ⟨0, .ofTime 8, .sendDirectMessage "c" carol "hi" (.ofTime 8), .ofTime 1⟩,
        some ⟨0, .ofTime 9, .sendDirectMessage "c" carol "hello" (.ofTime 9), .ofTime 2⟩,
        some ⟨.dm (persistDirectMessageRequest "c" alice carol "hi" (.ofTime 1) 5), some ⟨true, ""⟩⟩,
        [.ofTime 1, .ofTime 2], [(1, .directMessage alice "hello" (.ofTime 2) 6)]) from rfl)
  obtain ⟨t, ht, hg⟩ := Option.map_eq_some_iff.mp
    (show ((system lenientDb .empty).exec (.start .empty) (missed ++ syncAfter :: synced)).map
        (fun s => ((s.sessions.get? 1).map (·.tenantUserId), s.socket)) =
      some (some carol, [(1, .directMessage alice "hello" (.ofTime 2) 6),
        (1, .syncMessagesResponse [])]) from rfl)
  simp only [Prod.mk.injEq] at hf hg
  obtain ⟨halice, hcarol, hfirst, hsecond, hwrite, hissued, hsocket⟩ := hf
  obtain ⟨hcarol', hsocket'⟩ := hg
  obtain ⟨w₁, hw₁, hc₁⟩ := Option.map_eq_some_iff.mp hfirst
  obtain ⟨w₂, hw₂, hc₂⟩ := Option.map_eq_some_iff.mp hsecond
  have ha : s.UserOf 0 alice := Option.map_eq_some_iff.mp halice
  have hc : s.UserOf 1 carol := Option.map_eq_some_iff.mp hcarol
  rw [Machine.exec_append, hs, Option.bind_some] at ht
  obtain ⟨s', hs', ht⟩ := Option.bind_eq_some_iff.mp ht
  refine ⟨s, s', t, hs, hs', ht, ?_, ?_, ?_, Option.map_eq_some_iff.mp hcarol', ?_⟩
  · exact ⟨_, ⟨⟨0, w₁, hw₁, hc₁⟩, ha, rfl, rfl⟩, 0, _, _, hwrite, rfl, rfl, .direct 5 rfl⟩
  · refine ⟨⟨⟨alice, carol, "c", "hello", .ofTime 2⟩, _, ⟨⟨1, w₂, hw₂, hc₂⟩, ha, rfl, rfl⟩, rfl,
      rfl⟩, .live hc (hsocket ▸ List.mem_cons_self), ?_⟩
    rintro m t ⟨⟨k, w, hw, rfl⟩, -, -, hid⟩ - -
    have hmem := mem_issuedIds hw
    rw [hissued, hid] at hmem
    rcases List.mem_cons.mp hmem with he | hmem
    · rw [he]
      decide
    · rw [List.mem_singleton.mp hmem]
  · rw [hsocket, hsocket']
    rfl
  · intro hrec
    cases hrec with
    | live user written =>
      rw [hsocket'] at written
      rcases List.mem_cons.mp written with he | he
      · have hid := (ChatMessage.directMessage.inj (Prod.mk.inj he).2).2.2.1
        exact absurd hid (by decide)
      · cases List.mem_singleton.mp he
    | synced user written mem same =>
      rw [hsocket'] at written
      rcases List.mem_cons.mp written with he | he
      · cases he
      · cases List.mem_singleton.mp he
        cases mem

/-- What that sync guarantees. -/
theorem sync_sound_missed :
    ∃ s, (system lenientDb .empty).exec (.start .empty) (missed ++ syncAfter :: synced) = some s ∧
      SyncSound lenientDb .empty s := by
  obtain ⟨s, hs, -⟩ := Option.map_eq_some_iff.mp
    (show ((system lenientDb .empty).exec (.start .empty) (missed ++ syncAfter :: synced)).map
      (fun s => s.socket.length) = some 2 from rfl)
  exact ⟨s, hs, sync_sound (Machine.reachable_of_exec hs)⟩

end PerOxo
