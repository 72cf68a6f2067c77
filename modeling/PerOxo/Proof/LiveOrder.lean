import PerOxo.Proof.Direct
import PerOxo.Proof.Drafts
import PerOxo.Proof.History

/-!
# Live messages and the history

What a session receives live of one stream was sent in this order to the router and given its
time in this order. It is in the order of the history as well, which is that of the ids, if the
ids were drawn in the order of sending; between two sessions they need not be (`live_order`).
-/

set_option autoImplicit false

namespace PerOxo

open ChatService PersistenceService

/-- Whom the messages are for that a session of `v` gets of the stream. -/
def Stream.target (v : TenantUserId) : Stream → Target
  | .direct => .user v
  | .room roomId => .room roomId

namespace ChatService.Store

/-- A message of the stream is stored with this time. -/
def StoredAt (store : Store) (id : Uuid) (createdAt : CqlTimestamp) : Stream → Prop
  | .direct => ∃ key row, (id, row) ∈ (store.directMessages key).rows ∧ row.createdAt = createdAt
  | .room roomId => ∃ projectId row, (id, row) ∈ (store.roomMessages (projectId, roomId)).rows ∧
      row.createdAt = createdAt

/-- In every history of the stream that has both messages, `id₁` is before `id₂`. -/
def InHistoryOrder (store : Store) (id₁ id₂ : Uuid) : Stream → Prop
  | .direct => ∀ key row₁ row₂, (id₁, row₁) ∈ (store.directMessages key).rows →
      (id₂, row₂) ∈ (store.directMessages key).rows →
        List.Sublist [(id₁, row₁), (id₂, row₂)] (store.directMessages key).rows
  | .room roomId => ∀ projectId row₁ row₂,
      (id₁, row₁) ∈ (store.roomMessages (projectId, roomId)).rows →
      (id₂, row₂) ∈ (store.roomMessages (projectId, roomId)).rows →
        List.Sublist [(id₁, row₁), (id₂, row₂)] (store.roomMessages (projectId, roomId)).rows

theorem inHistoryOrder_of_lt {store : Store} {id₁ id₂ : Uuid} (h : id₁ < id₂) (σ : Stream) :
    store.InHistoryOrder id₁ id₂ σ := by
  cases σ with
  | direct => exact fun key row₁ row₂ h₁ h₂ => Clustered.sublist_of_lt h₁ h₂ h
  | room roomId => exact fun projectId row₁ row₂ h₁ h₂ => Clustered.sublist_of_lt h₁ h₂ h

end ChatService.Store

/-- Two messages that a session of `v` has received live of the stream, in this order, in a run
that has led to `t`. -/
structure LiveOrder (db : Db) (store : Store) (lastId : Uuid) (clock : Int)
    (acts : List ClockedAction) (t : ClockedState) (v : TenantUserId) (σ : Stream)
    (id₁ id₂ : Uuid) : Prop where
  /-- Their times are in this order. -/
  times : ∀ c₁ c₂, t.server.store.StoredAt id₁ c₁ σ → t.server.store.StoredAt id₂ c₂ σ → c₁ ≤ c₂
  /-- If one session has sent both, so is the history. -/
  oneSession : ∀ o, t.server.CausedBy id₁ o → t.server.CausedBy id₂ o →
    t.server.store.InHistoryOrder id₁ id₂ σ
  /-- And if no session draws an id for the same room, or the same user, while another one has
  drawn one and not sent it yet. -/
  noOverlap : (clockedSystem db store lastId clock).Meets (NoOverlap fun _ τ => τ = σ.target v)
    (.start store lastId clock) acts → t.server.store.InHistoryOrder id₁ id₂ σ

section Run

variable {db : Db} {store : Store} {s : State}

/-- The message has entered the mailbox, for the room or for the user of the session. -/
theorem live_source (h : (system db store).Reachable s) {sid : SessionId} {v : TenantUserId}
    (hv : s.UserOf sid v) {m : ChatMessage} {σ : Stream} {id : Uuid}
    (hm : (sid, m) ∈ s.queues.log) (hlive : m.live? = some (σ, id)) :
    ∃ e ∈ s.entered, e.message.messageId? = some id ∧ e.message.target? = some (σ.target v) := by
  cases σ with
  | direct =>
    have hdirect : ∃ f content, m.direct? = some (f, content, id) := by
      cases m with
      | directMessage f content i n =>
        obtain ⟨-, rfl⟩ := Prod.mk.inj (Option.some.inj hlive)
        exact ⟨f, content, rfl⟩
      | roomMessage roomId f content i => cases hlive
      | _ => cases hlive
    obtain ⟨f, content, hd⟩ := hdirect
    have hlog : m ∈ s.directLog sid :=
      List.mem_map.mpr ⟨(sid, m), List.mem_filter.mpr ⟨hm, by simp [hd]⟩, rfl⟩
    obtain ⟨e, he, hed⟩ := List.mem_filterMap.mp
      ((fedDirect h sid v hv).mem (List.mem_filterMap.mpr ⟨m, hlog, hd⟩))
    refine ⟨e, List.mem_append_left _ he, RouterMessage.direct?_messageId hed, ?_⟩
    obtain ⟨o, x⟩ := e
    cases x with
    | sendDirectMessage c f' w content' i k =>
      simp only [RouterMessage.direct?, Option.ite_none_right_eq_some] at hed
      rw [RouterMessage.target?, Stream.target, hed.1]
    | _ => cases hed
  | room roomId =>
    obtain ⟨request, n, hp, hσ⟩ := (timeline h).enqueued sid m _ id hm hlive
    obtain ⟨a, r, hr, rfl, hid⟩ := (ids h).room_of_persists hp hσ
    obtain ⟨e', he', hid'⟩ := List.mem_filterMap.mp hid
    obtain ⟨e, he, hroom, -, hfwd⟩ :=
      (ids h).rooms.source hr (List.mem_append_left _ he')
    have heid : e.message.messageId? = some id := hfwd.messageId.symm.trans hid'
    refine ⟨e, List.mem_append_left _ he, heid, ?_⟩
    obtain ⟨o, x⟩ := e
    cases x with
    | sendRoomMessage R f content i k =>
      obtain rfl := Option.some.inj hroom
      rfl
    | sendDirectMessage => cases hroom
    | _ => cases heid

/-- A stored message has the time of its task. -/
theorem RowsOk.createdAt_eq (hi : RowsOk s) {request : WriteRequest} {id : Uuid} {n : Nat}
    (hp : s.Persists request id n) {c : CqlTimestamp} (hc : s.store.StoredAt id c request.stream) :
    c = request.timestamp := by
  have hsent : id ∈ s.sentIds :=
    ((List.sublist_append_left _ _).filterMap _).mem (hi.ids.taken_of_persists hp)
  have hrequest : ∀ {k call}, s.writes.get? k = some call →
      Uuid.parseStr call.request.messageId = some id → call.request = request := by
    intro k call hk hid
    obtain ⟨-, n', p', hn', hreq', hid'⟩ := hi.ids.task_of_call hk hid
    obtain ⟨p, hn, rfl, rfl⟩ := hp
    obtain rfl := hi.ids.tasks.distinct n' n p' p hn' hn hid'
    obtain rfl := Option.some.inj (hn'.symm.trans hn)
    exact hreq'.symm
  cases request with
  | dm req =>
    obtain ⟨key, row, hrow, rfl⟩ := hc
    obtain ⟨k, call, req', hk, hreq, hid, rfl⟩ := hi.direct key id row hrow hsent
    obtain rfl := WriteRequest.dm.inj
      (hreq.symm.trans (hrequest hk (by rw [hreq]; exact hid)))
    rfl
  | room req =>
    obtain ⟨projectId, row, hrow, rfl⟩ := hc
    obtain ⟨k, call, req', hk, hreq, hid, rfl⟩ := hi.room _ id row hrow hsent
    obtain rfl := WriteRequest.room.inj
      (hreq.symm.trans (hrequest hk (by rw [hreq]; exact hid)))
    rfl

/-- Two messages of the class, in the order in which they have entered the mailbox. -/
theorem InLine.lt {C : SessionId → Target → Prop} {s : ClockedState} (hi : InLine C s)
    (hids : SentOk s.server) {id₁ id₂ : Uuid} (hsent : List.Sublist [id₁, id₂] s.server.sentIds)
    {e₁ e₂ : Envelope RouterMessage} (he₁ : e₁ ∈ s.server.entered) (he₂ : e₂ ∈ s.server.entered)
    (hid₁ : e₁.message.messageId? = some id₁) (hid₂ : e₂.message.messageId? = some id₂)
    (hin₁ : e₁.In C) (hin₂ : e₂.In C) : id₁ < id₂ := by
  have hline : s.server.sentIds.Pairwise fun i i' => i = id₁ → i' = id₂ → i < i' := by
    refine List.pairwise_filterMap.mpr (hi.line.imp_of_mem ?_)
    rintro x y hx hy hlt i hi' i' hi'' rfl rfl
    obtain rfl := hids.unique hx he₁ hi' hid₁
    obtain rfl := hids.unique hy he₂ hi'' hid₂
    exact hlt hin₁ hin₂ _ _ hid₁ hid₂
  exact (List.pairwise_cons.mp (hline.sublist hsent)).1 id₂ (by simp) rfl rfl

end Run

/-- **Live order and history order**, for every run: `store` holds nothing that is younger than
`lastId`. -/
theorem live_order {db : Db} {store : Store} {lastId : Uuid} {clock : Int}
    (hstore : ∀ id, lastId < id → store.Lacks id) {acts : List ClockedAction} {t : ClockedState}
    (h : (clockedSystem db store lastId clock).Run (.start store lastId clock) acts t)
    {sid : SessionId} {v : TenantUserId} (hv : t.server.UserOf sid v) {m₁ m₂ : ChatMessage}
    {σ : Stream} {id₁ id₂ : Uuid} (hne : id₁ ≠ id₂)
    (hlive : List.Sublist [(sid, m₁), (sid, m₂)] t.server.socket)
    (h₁ : m₁.live? = some (σ, id₁)) (h₂ : m₂.live? = some (σ, id₂)) :
    LiveOrder db store lastId clock acts t v σ id₁ id₂ := by
  have hreach : (clockedSystem db store lastId clock).Reachable t := ⟨acts, h⟩
  have hserver := clocked_reachable hreach
  have hsent := (ids hserver).sent
  obtain ⟨hlog, r₁, r₂, n₁, n₂, hp₁, hσ₁, hp₂, hσ₂, hle⟩ :=
    (timeline hserver).live_ordered (receiving hserver) hlive h₁ h₂
  have hlt : n₁ < n₂ := by
    refine lt_of_le_of_ne hle ?_
    rintro rfl
    obtain ⟨p, hn, rfl, -⟩ := hp₁
    obtain ⟨p', hn', rfl, -⟩ := hp₂
    exact hne (congrArg _ (Option.some.inj (hn.symm.trans hn')))
  have horder : List.Sublist [id₁, id₂] t.server.sentIds :=
    (timeline hserver).sent r₁ r₂ id₁ id₂ n₁ n₂ hlt hp₁ hp₂ (hσ₁.trans hσ₂.symm)
  obtain ⟨e₁, he₁, hid₁, htarget₁⟩ := live_source hserver hv (hlog.mem (by simp)) h₁
  obtain ⟨e₂, he₂, hid₂, htarget₂⟩ := live_source hserver hv (hlog.mem (by simp)) h₂
  -- In a class that both belong to the ids are in the order of sending.
  have hclass : ∀ C : SessionId → Target → Prop,
      (clockedSystem db store lastId clock).Meets (NoOverlap C) (.start store lastId clock) acts →
      C e₁.origin (σ.target v) → C e₂.origin (σ.target v) →
      t.server.store.InHistoryOrder id₁ id₂ σ := by
    intro C hmeets hC₁ hC₂
    have hline : InLine C t :=
      h.invariant_of_meets (I := InLine C) (fun _ _ _ hs hc hi => hi.step hc hs) hmeets
        (.start store lastId clock)
    exact Store.inHistoryOrder_of_lt (hline.lt hsent horder he₁ he₂ hid₁ hid₂
      ⟨_, htarget₁, hC₁⟩ ⟨_, htarget₂, hC₂⟩) σ
  refine ⟨fun c₁ c₂ hc₁ hc₂ => ?_, fun o ho₁ ho₂ => ?_, fun hmeets => hclass _ hmeets rfl rfl⟩
  · have hrows := (minted hstore hreach).rows
    have ht₁ : c₁ = r₁.timestamp := hrows.createdAt_eq hp₁ (hσ₁ ▸ hc₁)
    have ht₂ : c₂ = r₂.timestamp := hrows.createdAt_eq hp₂ (hσ₂ ▸ hc₂)
    rw [ht₁, ht₂]
    exact (timed hreach).order r₁ r₂ id₁ id₂ n₁ n₂ hle hp₁ hp₂
  · have horigin : ∀ {e : Envelope RouterMessage} {i}, e ∈ t.server.entered →
        e.message.messageId? = some i → t.server.CausedBy i o → e.origin = o := fun he hid hc =>
      (no_spoofing hserver).causedBy_unique _ _ _ (hsent.causedBy he hid) hc
    refine hclass (fun o' _ => o' = o) ?_ (horigin he₁ hid₁ ho₁) (horigin he₂ hid₂ ho₂)
    -- A session with a draft draws no second id.
    refine h.meets (I := fun _ => True) (fun _ _ _ _ _ => trivial) ?_ trivial
    rintro s act s' hs - sid' frame id rfl ⟨_, -, rfl⟩ o' d hd ⟨_, -, rfl⟩
    have hstep : s.step db (.draw o' frame id) = some s' := hs
    cases ClockedState.stepped hstep with
    | drew found active free draws later => cases free.symm.trans hd

/-! ## Two ids drawn, the second one sent first -/

def dave : TenantUserId := ⟨"acme", "dave"⟩

/-- `alice` and `dave` each draw an id for a message to `carol`; `dave`, who has the later one,
is the first to send. -/
def crossing : List ClockedAction :=
  [.server (.connect alice), .server (.router 0 0), .server (.finishCreation 0),
    .server (.connect carol), .server (.router 0 0), .server (.finishCreation 1),
    .server (.connect dave), .server (.router 0 0), .server (.finishCreation 2),
    .draw 0 (.sendDirectMessage "c" carol "one" (.ofTime 8)) (.ofTime 1),
    .draw 2 (.sendDirectMessage "c" carol "two" (.ofTime 9)) (.ofTime 2), .send 2, .send 0,
    .server (.router 5 5), .server (.router 6 6), .server (.send 1 false true),
    .server (.send 1 false true), .server (.serveWrite 0 none), .server (.serveWrite 1 none)]

/-- The same in a room: `alice` and `carol`, both members. -/
def crossingRoom : List ClockedAction :=
  [.server (.connect alice), .server (.router 0 0), .server (.finishCreation 0),
    .server (.connect carol), .server (.router 0 0), .server (.finishCreation 1),
    .server (.frame 0 (some (.joinRoom "lobby")) (.ofTime 0)), .server (.router 0 0),
    .server (.frame 1 (some (.joinRoom "lobby")) (.ofTime 0)), .server (.router 0 0),
    .server (.room 0 0), .server (.room 0 0),
    .draw 0 (.roomMessage "lobby" alice "one" (.ofTime 8)) (.ofTime 1),
    .draw 1 (.roomMessage "lobby" carol "two" (.ofTime 9)) (.ofTime 2), .send 1, .send 0,
    .server (.router 4 4), .server (.router 4 4), .server (.room 0 5), .server (.room 0 6),
    .server (.send 0 false true), .server (.send 0 false true), .server (.serveWrite 0 none),
    .server (.serveWrite 1 none)]

/-- Who gets the second message first finds it last in the history. -/
theorem live_order_reversed :
    (∃ t, (clockedSystem mainDb .empty (.ofTime 0) 0).exec (.start .empty (.ofTime 0) 0) crossing =
        some t ∧
      t.server.socket = [(1, .directMessage dave "two" (.ofTime 2) 5),
        (1, .directMessage alice "one" (.ofTime 1) 6)] ∧
      (t.server.store.directMessages ("acme", "c")).rows =
        [(.ofTime 1, ⟨"alice", "carol", "one", 6⟩), (.ofTime 2, ⟨"dave", "carol", "two", 5⟩)] ∧
      ¬ t.server.store.InHistoryOrder (.ofTime 2) (.ofTime 1) .direct) ∧
    ∃ t, (clockedSystem lenientDb .empty (.ofTime 0) 0).exec (.start .empty (.ofTime 0) 0)
        crossingRoom = some t ∧
      t.server.socket = [(0, .roomMessage "lobby" carol "two" (.ofTime 2)),
        (0, .roomMessage "lobby" alice "one" (.ofTime 1))] ∧
      (t.server.store.roomMessages ("acme", "lobby")).rows =
        [(.ofTime 1, ⟨"alice", "one", 6⟩), (.ofTime 2, ⟨"carol", "two", 5⟩)] ∧
      ¬ t.server.store.InHistoryOrder (.ofTime 2) (.ofTime 1) (.room "lobby") := by
  constructor
  · obtain ⟨t, ht, hf⟩ := Option.map_eq_some_iff.mp
      (show ((clockedSystem mainDb .empty (.ofTime 0) 0).exec (.start .empty (.ofTime 0) 0)
          crossing).map (fun t =>
            (t.server.socket, (t.server.store.directMessages ("acme", "c")).rows)) =
        some ([(1, .directMessage dave "two" (.ofTime 2) 5),
            (1, .directMessage alice "one" (.ofTime 1) 6)],
          [(.ofTime 1, ⟨"alice", "carol", "one", 6⟩),
            (.ofTime 2, ⟨"dave", "carol", "two", 5⟩)]) from rfl)
    obtain ⟨hsocket, hrows⟩ := Prod.mk.inj hf
    refine ⟨t, ht, hsocket, hrows, fun horder => ?_⟩
    have hsub := horder ("acme", "c") ⟨"dave", "carol", "two", 5⟩ ⟨"alice", "carol", "one", 6⟩
      (by rw [hrows]; exact .tail _ (.head _)) (by rw [hrows]; exact .head _)
    rw [hrows] at hsub
    exact absurd hsub (by decide)
  · obtain ⟨t, ht, hf⟩ := Option.map_eq_some_iff.mp
      (show ((clockedSystem lenientDb .empty (.ofTime 0) 0).exec (.start .empty (.ofTime 0) 0)
          crossingRoom).map (fun t =>
            (t.server.socket, (t.server.store.roomMessages ("acme", "lobby")).rows)) =
        some ([(0, .roomMessage "lobby" carol "two" (.ofTime 2)),
            (0, .roomMessage "lobby" alice "one" (.ofTime 1))],
          [(.ofTime 1, ⟨"alice", "one", 6⟩), (.ofTime 2, ⟨"carol", "two", 5⟩)]) from rfl)
    obtain ⟨hsocket, hrows⟩ := Prod.mk.inj hf
    refine ⟨t, ht, hsocket, hrows, fun horder => ?_⟩
    have hsub := horder "acme" ⟨"carol", "two", 5⟩ ⟨"alice", "one", 6⟩
      (by rw [hrows]; exact .tail _ (.head _)) (by rw [hrows]; exact .head _)
    rw [hrows] at hsub
    exact absurd hsub (by decide)

theorem live_order_crossing :
    ∃ t, (clockedSystem mainDb .empty (.ofTime 0) 0).exec (.start .empty (.ofTime 0) 0) crossing =
        some t ∧
      LiveOrder mainDb .empty (.ofTime 0) 0 crossing t carol .direct (.ofTime 2) (.ofTime 1) := by
  obtain ⟨t, ht, hf⟩ := Option.map_eq_some_iff.mp
    (show ((clockedSystem mainDb .empty (.ofTime 0) 0).exec (.start .empty (.ofTime 0) 0)
        crossing).map (fun t => (t.server.socket,
          (t.server.sessions.get? 1).map (·.tenantUserId))) =
      some ([(1, .directMessage dave "two" (.ofTime 2) 5),
        (1, .directMessage alice "one" (.ofTime 1) 6)], some carol) from rfl)
  obtain ⟨hsocket, hcarol⟩ := Prod.mk.inj hf
  obtain ⟨u, hu, hv⟩ := Option.map_eq_some_iff.mp hcarol
  have hlive : List.Sublist [(1, .directMessage dave "two" (.ofTime 2) 5),
      (1, .directMessage alice "one" (.ofTime 1) 6)] t.server.socket := by
    rw [hsocket]
  exact ⟨t, ht, live_order (fun id _ => Store.lacks_empty id) (Machine.run_of_exec ht) ⟨u, hu, hv⟩
    (by decide) hlive rfl rfl⟩

end PerOxo
