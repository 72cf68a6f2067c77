import PerOxo.Proof.Writes

/-!
# Live messages and the tasks that persist them

A message is sent to its receivers in the step in which the task that persists it is spawned.
So the order in which messages are enqueued, and in which a session receives them, is the order
of their tasks (`Timeline.live_ordered`); and for two messages of one room, or two direct
messages, this is the order in which they have entered the router's mailbox (`Timeline.sent`).
-/

set_option autoImplicit false

namespace PerOxo

open ChatService PersistenceService

namespace WriteRequest

def stream : WriteRequest → Stream
  | .dm _ => .direct
  | .room req => .room req.roomId

def timestamp : WriteRequest → Int
  | .dm req => req.timestamp
  | .room req => req.timestamp

end WriteRequest

/-- Task `n` persists the message of this id, by this request. -/
def State.Persists (s : State) (request : WriteRequest) (id : Uuid) (n : Nat) : Prop :=
  ∃ p, s.persists.get? n = some p ∧ p.messageId = id ∧ p.request = request

/-! ## What a step does -/

/-- What a step does to the log of the queues and to the tasks that persist. -/
inductive LiveStep (s s' : State) (act : Action) : Prop
  | quiet (log : s'.queues.log = s.queues.log)
      (tasks : ∀ request id n, s'.Persists request id n ↔ s.Persists request id n)
  /-- The router has a direct message persisted, and delivers it. -/
  | direct {e : Envelope RouterMessage} {rest : List (Envelope RouterMessage)}
      {conversationId content : String} {fromUser toUser : TenantUserId} {id : Uuid} {k : AckId}
      {persistAt now : Int} (action : act = .router persistAt now) (next : s.mailbox = e :: rest)
      (message : e.message =
        .sendDirectMessage conversationId fromUser toUser content id (some k))
      (tasks : s'.persists = s.persists.alloc ⟨.dm (persistDirectMessageRequest conversationId
        fromUser toUser content id persistAt), id, k, 0, s.writes.next, false⟩)
      (sids : List SessionId) (receiver : ∀ sid ∈ sids, s.router.users.lookup toUser = some sid)
      (log : s'.queues.log = s.queues.log ++
        sids.map fun sid => (sid, .directMessage fromUser content id now))
  /-- A room has a message persisted, and delivers it to its members. -/
  | room {a : ActorId} {r : RoomActor} {e : Envelope RoomMessage}
      {rest : List (Envelope RoomMessage)} {fromUser : TenantUserId} {content : String} {id : Uuid}
      {k : AckId} {persistAt : Int} (action : act = .room a persistAt)
      (found : s.actors.get? a = some r) (next : r.mailbox = e :: rest)
      (message : e.message = .sendMessage fromUser content id (some k))
      (tasks : s'.persists = s.persists.alloc ⟨.room (persistRoomMessageRequest r.roomId
        fromUser content id persistAt), id, k, 0, s.writes.next, false⟩)
      (sids : List SessionId) (log : s'.queues.log = s.queues.log ++
        sids.map fun sid => (sid, .roomMessage r.roomId fromUser content id))

section Step

variable {db : Db} {s s' : State} {act : Action}

/-- A message that is to be delivered comes with the responder of its acknowledgement. -/
theorem SentOk.responder (hi : SentOk s) {e : Envelope RouterMessage} (he : e ∈ s.entered)
    {conversationId content : String} {fromUser toUser : TenantUserId} {id : Uuid}
    {k : Option AckId}
    (hm : e.message = .sendDirectMessage conversationId fromUser toUser content id k) :
    ∃ j, k = some j := by
  obtain ⟨j, w, u, -, -, -, hack⟩ := hi.ticket e he id (by rw [hm]; rfl)
  rw [hm] at hack
  generalize w.context = t at hack
  cases hack with
  | direct frame => exact ⟨j, rfl⟩

/-- So does one that a room is to deliver. -/
theorem Ids.room_responder (hi : Ids s) {a : ActorId} {r : RoomActor}
    (hr : s.actors.get? a = some r) {e : Envelope RoomMessage} (he : e ∈ r.mailbox)
    {fromUser : TenantUserId} {content : String} {id : Uuid} {k : Option AckId}
    (hm : e.message = .sendMessage fromUser content id k) : ∃ j, k = some j := by
  obtain ⟨x, hx, -, -, hfwd⟩ := hi.rooms.source hr (List.mem_append_right _ he)
  obtain ⟨o, m⟩ := x
  rw [hm] at hfwd
  cases hfwd with
  | sendRoomMessage roomId v content id k =>
    obtain ⟨j, w, u, -, -, -, hack⟩ := hi.sent.ticket _ (List.mem_append_left _ hx) id rfl
    generalize w.context = t at hack
    cases hack with
    | room frame => exact ⟨j, rfl⟩

theorem live_router (hi : Ids s) {p n : Int} (h : s.step db (.router p n) = some s') :
    LiveStep s s' (.router p n) := by
  obtain ⟨e, rest, hm, -⟩ := State.routerStep_some h
  have hhandled := State.handledByRouter (State.router_result h hm)
  obtain ⟨o, m⟩ := e
  cases hhandled with
  | @direct c content f v id k w persist =>
    obtain ⟨j, rfl⟩ := hi.sent.responder
      (List.mem_append_right s.processed (hm ▸ List.mem_cons_self)) rfl
    subst persist
    have hlog : ∃ sids : List SessionId,
        (∀ sid ∈ sids, s.router.users.lookup v = some sid) ∧
        (s.deliver v (.directMessage f content id n)).log =
          s.queues.log ++ sids.map fun sid => (sid, .directMessage f content id n) := by
      unfold State.deliver
      split
      · next sid hl =>
        rcases s.queues.trySend_cases sid (.directMessage f content id n) with
          ⟨-, hlog, -⟩ | ⟨-, he⟩
        · exact ⟨[sid], by simpa using hl, hlog⟩
        · exact ⟨[], nofun, by rw [he]; exact (List.append_nil _).symm⟩
      · exact ⟨[], nofun, (List.append_nil _).symm⟩
    obtain ⟨sids, hreceiver, hlog⟩ := hlog
    exact .direct rfl hm rfl rfl sids hreceiver hlog
  | _ => exact .quiet rfl fun _ _ _ => Iff.rfl

theorem live_room (hi : Ids s) {a : ActorId} {p : Int} (h : s.step db (.room a p) = some s') :
    LiveStep s s' (.room a p) := by
  obtain ⟨r, e, rest, hr, hal, hm, -⟩ := State.roomStep_some h
  have hhandled := State.handledByRoom (State.room_result h hr hm)
  obtain ⟨o, m⟩ := e
  cases hhandled with
  | @sent f content id k w persist =>
    obtain ⟨j, rfl⟩ := hi.room_responder hr (hm ▸ List.mem_cons_self) rfl
    subst persist
    obtain ⟨sids, hlog⟩ := Outbox.exists_broadcast_log s.queues (HashMap.values r.members)
      (.roomMessage r.roomId f content id)
    exact .room rfl hr hm rfl rfl sids hlog
  | _ => exact .quiet rfl fun _ _ _ => Iff.rfl

theorem live_step (hi : Ids s) (h : s.step db act = some s') : LiveStep s s' act := by
  cases act with
  | router p n => exact live_router hi h
  | room a p => exact live_room hi h
  | _ =>
    have hlog : s'.queues.log = s.queues.log := by
      obtain ⟨t, hq, hqu, -⟩ := State.queues_moved h
      rw [hqu]
      cases hq with
      | direct action => cases action
      | broadcast action => cases action
      | _ => rfl
    have hmod : ∀ (t : Nat) (f : PersistTask → PersistTask),
        s'.persists = s.persists.modify t f →
        (∀ p, (f p).messageId = p.messageId ∧ (f p).request = p.request) →
        ∀ request id n, s'.Persists request id n ↔ s.Persists request id n := by
      intro t f he hf request id n
      rw [State.Persists, he, State.Persists]
      constructor
      · rintro ⟨p', hp', hid, hreq⟩
        rcases Arena.get?_modify_eq_some.mp hp' with ⟨-, p, hp, rfl⟩ | ⟨-, hp⟩
        · exact ⟨p, hp, (hf p).1 ▸ hid, (hf p).2 ▸ hreq⟩
        · exact ⟨p', hp, hid, hreq⟩
      · rintro ⟨p, hp, hid, hreq⟩
        exact Arena.exists_modify hp ⟨hid, hreq⟩ fun _ =>
          ⟨(hf p).1.trans hid, (hf p).2.trans hreq⟩
    obtain ⟨d, hd, -, -, hper, -⟩ := State.delivery_moved h
    cases hd with
    | direct action => cases action
    | room action => cases action
    | retried found running => exact .quiet hlog (hmod _ _ hper fun p => ⟨rfl, rfl⟩)
    | answered action found running ended returned => exact .quiet hlog (hmod _ _ hper fun p => ⟨rfl, rfl⟩)
    | _ => exact .quiet hlog fun request id n => by rw [State.Persists, hper, State.Persists]; rfl

/-- The tasks after a new one has been spawned. -/
theorem persists_alloc {task : PersistTask} (h : s'.persists = s.persists.alloc task)
    {request : WriteRequest} {id : Uuid} {n : Nat} :
    s'.Persists request id n ↔ s.Persists request id n ∨
      (n = s.persists.next ∧ task.messageId = id ∧ task.request = request) := by
  rw [State.Persists, h, State.Persists]
  constructor
  · rintro ⟨p, hp, hid, hreq⟩
    rcases Arena.get?_alloc_eq_some.mp hp with ⟨rfl, rfl⟩ | hp
    · exact .inr ⟨rfl, hid, hreq⟩
    · exact .inl ⟨p, hp, hid, hreq⟩
  · rintro (⟨p, hp, hid, hreq⟩ | ⟨rfl, hid, hreq⟩)
    · exact ⟨p, Arena.get?_alloc_of_some hp, hid, hreq⟩
    · exact ⟨task, Arena.get?_alloc_self, hid, hreq⟩

theorem State.Persists.lt_next {request : WriteRequest} {id : Uuid} {n : Nat}
    (h : s.Persists request id n) : n < s.persists.next :=
  let ⟨_, hp, _⟩ := h
  Arena.lt_next_of_get? hp

end Step

/-! ## The order of the tasks -/

structure Timeline (s : State) : Prop where
  ids : Ids s
  /-- What has been enqueued is being persisted. -/
  enqueued : ∀ sid m σ id, (sid, m) ∈ s.queues.log → m.live? = some (σ, id) →
    ∃ request n, s.Persists request id n ∧ request.stream = σ
  /-- What has been enqueued later, has been given to a later task. -/
  live : s.queues.log.Pairwise fun x y => ∀ σ σ' id id' request request' n n',
    x.2.live? = some (σ, id) → y.2.live? = some (σ', id') → s.Persists request id n →
      s.Persists request' id' n' → n ≤ n'
  /-- A later task of the same stream is for a message that has entered the mailbox later. -/
  sent : ∀ request request' id id' n n', n < n' → s.Persists request id n →
    s.Persists request' id' n' → request.stream = request'.stream →
      List.Sublist [id, id'] s.sentIds

section Step

variable {db : Db} {s s' : State} {act : Action}

/-- Two ids, the first of them from what stands before. -/
theorem sublist_snoc {α : Type} {a b : α} {l l' : List α} (ha : a ∈ l)
    (h : List.Sublist (l ++ [b]) l') : List.Sublist [a, b] l' :=
  ((List.singleton_sublist.mpr ha).append (List.Sublist.refl [b])).trans h

/-- A new task, and the message it persists is enqueued. `hbefore` says that the messages of the
same stream that are being persisted already have entered the mailbox before this one. -/
theorem Timeline.spawn (hi : Timeline s) (h : s.step db act = some s') {request : WriteRequest}
    {id : Uuid} {k : AckId} {c : CallId} {m : ChatMessage} {sids : List SessionId}
    (tasks : s'.persists = s.persists.alloc ⟨request, id, k, 0, c, false⟩)
    (log : s'.queues.log = s.queues.log ++ sids.map fun sid => (sid, m))
    (hm : m.live? = some (request.stream, id))
    (hbefore : ∀ request₀ id₀ n, s.Persists request₀ id₀ n → request₀.stream = request.stream →
      List.Sublist [id₀, id] s'.sentIds) : Timeline s' := by
  have hids := hi.ids.step h
  have htask : ∀ {request' id' n}, s'.Persists request' id' n ↔ s.Persists request' id' n ∨
      (n = s.persists.next ∧ id = id' ∧ request = request') := persists_alloc tasks
  have hself : s'.Persists request id s.persists.next := htask.mpr (.inr ⟨rfl, rfl, rfl⟩)
  have hone : ∀ {request₁ request₂ i n₁ n₂}, s'.Persists request₁ i n₁ →
      s'.Persists request₂ i n₂ → n₁ = n₂ := by
    rintro request₁ request₂ i n₁ n₂ ⟨p₁, hp₁, hid₁, -⟩ ⟨p₂, hp₂, hid₂, -⟩
    exact hids.tasks.distinct n₁ n₂ p₁ p₂ hp₁ hp₂ (hid₁.trans hid₂.symm)
  -- What has been enqueued before has its task among the old ones.
  have hold : ∀ {x σ i request' n}, x ∈ s.queues.log → x.2.live? = some (σ, i) →
      s'.Persists request' i n → s.Persists request' i n := by
    intro x σ i request' n hx hlive hp
    obtain ⟨request₀, n₀, hp₀, -⟩ := hi.enqueued x.1 x.2 σ i hx hlive
    have hn := hone (htask.mpr (.inl hp₀)) hp
    rcases htask.mp hp with hp | ⟨he, -⟩
    · exact hp
    · exact absurd (hn.trans he) (Nat.ne_of_lt hp₀.lt_next)
  have hnew : ∀ {x σ i request' n}, x ∈ sids.map (fun sid => (sid, m)) →
      x.2.live? = some (σ, i) → s'.Persists request' i n → n = s.persists.next := by
    intro x σ i request' n hx hlive hp
    obtain ⟨sid, -, rfl⟩ := List.mem_map.mp hx
    obtain ⟨-, rfl⟩ := Prod.mk.inj (Option.some.inj (hlive.symm.trans hm))
    exact hone hp hself
  refine ⟨hids, fun sid m' σ i hmem hlive => ?_, ?_, ?_⟩
  · rw [log] at hmem
    rcases List.mem_append.mp hmem with hmem | hmem
    · obtain ⟨request₀, n, hp, hσ⟩ := hi.enqueued sid m' σ i hmem hlive
      exact ⟨request₀, n, htask.mpr (.inl hp), hσ⟩
    · obtain ⟨sid', -, he⟩ := List.mem_map.mp hmem
      obtain ⟨-, rfl⟩ := Prod.mk.inj he
      obtain ⟨rfl, rfl⟩ := Prod.mk.inj (Option.some.inj (hlive.symm.trans hm))
      exact ⟨request, _, hself, rfl⟩
  · rw [log]
    refine List.pairwise_append.mpr ⟨?_, ?_, ?_⟩
    · refine hi.live.imp_of_mem fun hx hy hxy σ σ' i i' r r' n n' hl hl' hp hp' => ?_
      exact hxy σ σ' i i' r r' n n' hl hl' (hold hx hl hp) (hold hy hl' hp')
    · refine List.pairwise_of_forall_mem_list fun x hx y hy σ σ' i i' r r' n n' hl hl' hp hp' => ?_
      rw [hnew hx hl hp, hnew hy hl' hp']
    · intro x hx y hy σ σ' i i' r r' n n' hl hl' hp hp'
      rw [hnew hy hl' hp']
      exact (hold hx hl hp).lt_next.le
  · intro r r' i i' n n' hlt hp hp' hσ
    rcases htask.mp hp' with hp' | ⟨rfl, rfl, rfl⟩
    · rcases htask.mp hp with hp | ⟨rfl, -⟩
      · obtain ⟨l, hl⟩ := sentIds_prefix h
        rw [hl]
        exact (hi.sent r r' i i' n n' hlt hp hp' hσ).trans (List.sublist_append_left _ _)
      · exact absurd hlt (Nat.lt_asymm hp'.lt_next)
    · rcases htask.mp hp with hp | ⟨rfl, -⟩
      · exact hbefore r i n hp hσ
      · exact absurd hlt (Nat.lt_irrefl _)

theorem Timeline.quiet (hi : Timeline s) (h : s.step db act = some s')
    (log : s'.queues.log = s.queues.log)
    (tasks : ∀ request id n, s'.Persists request id n ↔ s.Persists request id n) :
    Timeline s' := by
  refine ⟨hi.ids.step h, fun sid m σ id hmem hlive => ?_, ?_, fun r r' i i' n n' hlt hp hp' hσ => ?_⟩
  · obtain ⟨request, n, hp, hσ⟩ := hi.enqueued sid m σ id (log ▸ hmem) hlive
    exact ⟨request, n, (tasks _ _ _).mpr hp, hσ⟩
  · rw [log]
    refine hi.live.imp fun hxy σ σ' i i' r r' n n' hl hl' hp hp' => ?_
    exact hxy σ σ' i i' r r' n n' hl hl' ((tasks _ _ _).mp hp) ((tasks _ _ _).mp hp')
  · obtain ⟨l, hl⟩ := sentIds_prefix h
    rw [hl]
    refine List.Sublist.trans ?_ (List.sublist_append_left _ _)
    exact hi.sent r r' i i' n n' hlt ((tasks _ _ _).mp hp) ((tasks _ _ _).mp hp') hσ

/-- The message of a task has been taken by the router. -/
theorem Ids.taken_of_persists (hi : Ids s) {request : WriteRequest} {id : Uuid} {n : Nat}
    (h : s.Persists request id n) : id ∈ s.processed.filterMap (·.message.messageId?) := by
  obtain ⟨p, hp, rfl, -⟩ := h
  obtain ⟨x, hx, hid, -⟩ := (hi.tasks.persisting n p hp).source hi.rooms
  exact List.mem_filterMap.mpr ⟨x, hx, hid⟩

/-- And, if it is for a room, by the room. -/
theorem Ids.room_of_persists (hi : Ids s) {request : WriteRequest} {id : Uuid} {n : Nat}
    (h : s.Persists request id n) {roomId : String} (hσ : request.stream = .room roomId) :
    ∃ a r, s.actors.get? a = some r ∧ r.roomId = roomId ∧
      id ∈ r.processed.filterMap (·.message.messageId?) := by
  obtain ⟨p, hp, rfl, rfl⟩ := h
  cases hi.tasks.persisting n p hp with
  | direct timestamp mem request =>
    rw [request] at hσ
    cases hσ
  | @room a r o content fromUser timestamp found mem request =>
    rw [request] at hσ
    exact ⟨a, r, found, Stream.room.inj hσ, List.mem_filterMap.mpr ⟨_, mem, rfl⟩⟩

theorem Timeline.step (hi : Timeline s) (h : s.step db act = some s') : Timeline s' := by
  cases live_step hi.ids h with
  | quiet log tasks => exact hi.quiet h log tasks
  | @direct e rest c content f v id k p n action next message tasks sids receiver log =>
    subst action
    refine hi.spawn h tasks log rfl fun request₀ id₀ n₀ hp hσ => ?_
    obtain ⟨e', hm, hproc⟩ := router_mail h
    obtain ⟨rfl, -⟩ := List.cons.inj (hm.symm.trans next)
    refine sublist_snoc (hi.ids.taken_of_persists hp) ?_
    have hid : e'.message.messageId? = some id := by rw [message]; rfl
    have hids : s'.processed.filterMap (·.message.messageId?) =
        s.processed.filterMap (·.message.messageId?) ++ [id] := by
      rw [hproc, List.filterMap_append]
      simp [hid]
    rw [← hids]
    exact List.Sublist.filterMap _ (List.sublist_append_left _ _)
  | @room a r e rest f content id k p action found next message tasks sids log =>
    refine hi.spawn h tasks log rfl fun request₀ id₀ n₀ hp hσ => ?_
    obtain ⟨b, r', hr', hroom, hid₀⟩ := hi.ids.room_of_persists hp hσ
    -- There is one actor for the room.
    have hba : b = a := by
      have hb := (hi.ids.rooms.listed b r' hr').2
      rw [hroom] at hb
      exact Option.some.inj (hb.symm.trans (hi.ids.rooms.listed a r found).2)
    subst hba
    obtain rfl := Option.some.inj (hr'.symm.trans found)
    have hid : e.message.messageId? = some id := by rw [message]; rfl
    have hgot : List.Sublist (r'.processed.filterMap (·.message.messageId?) ++ [id])
        ((r'.processed ++ r'.mailbox).filterMap (·.message.messageId?)) := by
      rw [List.filterMap_append, next]
      refine (List.Sublist.refl _).append ?_
      simp [hid]
    obtain ⟨l, hl⟩ := sentIds_prefix h
    rw [hl]
    refine (sublist_snoc hid₀ (hgot.trans ?_)).trans (List.sublist_append_left _ _)
    rw [Relayed.filterMap_messageId (hi.ids.rooms.relayed b r' found)]
    refine List.Sublist.filterMap _ ?_
    exact ((List.dropWhile_sublist _).trans List.filter_sublist).trans (List.sublist_append_left _ _)

end Step

theorem Timeline.start (store : Store) : Timeline (.start store) where
  ids := .start store
  enqueued sid m σ id hm := absurd hm (by simp [State.start, Outbox.idle])
  live := by simp [State.start, Outbox.idle]
  sent request request' id id' n n' hlt hp := absurd hp (by simp [State.Persists, State.start])

theorem timeline {db : Db} {store : Store} {s : State} (h : (system db store).Reachable s) :
    Timeline s :=
  h.invariant (I := Timeline) (.start store) fun _ _ _ _ hs hi => hi.step hs

/-! ## What is received -/

/-- What a session has received live, it has received in the order in which it was enqueued. -/
structure Receiving (s : State) : Prop where
  plain : ∀ sid, ∀ m ∈ (s.acks.chan sid).buf, m.live? = none
  order : s.queues.InOrder (fun m => m.live?.isSome) s.socket

section Step

variable {db : Db} {s s' : State} {act : Action}

theorem Receiving.step_plain (hi : Receiving s) (h : s.step db act = some s') :
    ∀ sid, ∀ m ∈ (s'.acks.chan sid).buf, m.live? = none := by
  have hset : ∀ (i : SessionId) (c : Chan ChatMessage channelBufferSize), s'.acks = s.acks.set i c →
      (∀ m ∈ c.buf, m.live? = none) → ∀ sid, ∀ m ∈ (s'.acks.chan sid).buf, m.live? = none := by
    intro i c he hc sid m hm
    rw [he] at hm
    by_cases hs : sid = i
    · subst hs
      rw [Outbox.set_chan_self] at hm
      exact hc m hm
    · rw [Outbox.set_chan_ne _ _ hs] at hm
      exact hi.plain sid m hm
  have hsend : ∀ (i : SessionId) (a : ChatMessage), s'.acks = s.acks.trySend i a →
      a.live? = none → ∀ sid, ∀ m ∈ (s'.acks.chan sid).buf, m.live? = none := by
    intro i a he ha sid m hm
    rw [he] at hm
    rcases s.acks.trySend_cases i a with ⟨-, -, hbuf, -, hne⟩ | ⟨-, hsame⟩
    · by_cases hs : sid = i
      · subst hs
        rw [hbuf] at hm
        rcases List.mem_append.mp hm with hm | hm
        · exact hi.plain sid m hm
        · rw [List.mem_singleton.mp hm]
          exact ha
      · rw [hne sid hs] at hm
        exact hi.plain sid m hm
    · rw [hsame] at hm
      exact hi.plain sid m hm
  obtain ⟨d, hd, -, -, -, -, hack⟩ := State.delivery_moved h
  cases hd with
  | opened found creating => exact hset _ _ hack nofun
  | closed sid => exact hset _ _ hack nofun
  | @taken sid m c recv =>
    refine hset _ _ hack fun m hm => hi.plain sid m ?_
    rw [(Chan.recv_some recv).1]
    exact List.mem_cons_of_mem _ hm
  | acked action found running reply room => exact hsend _ _ hack rfl
  | other notAck notLive => exact hsend _ _ hack notLive
  | _ =>
    rw [hack]
    exact hi.plain

theorem Receiving.step (hi : Receiving s) (h : s.step db act = some s') : Receiving s' := by
  refine ⟨hi.step_plain h, ?_⟩
  obtain ⟨t, hq, hqu, hso⟩ := State.queues_moved h
  rw [hqu, hso]
  cases hq with
  | same => exact hi.order
  | opened action => exact hi.order.set _ rfl
  | closed found => exact hi.order.set _ rfl
  | @wrote sid m action =>
    refine hi.order.other sid ?_
    subst action
    cases State.stepped h with
    | @ackWritten _ _ m' c found active recv =>
      have hm : m' = m := by
        have hsock := List.append_cancel_left (hso : s.socket ++ [(sid, m')] = s.socket ++ [(sid, m)])
        exact (Prod.mk.inj (List.singleton_inj.mp hsock)).2
      have hplain := hi.plain sid m' (by rw [(Chan.recv_some recv).1]; exact List.mem_cons_self)
      rw [← hm, hplain]
      rfl
  | taken action found recv => exact hi.order.recv recv
  | direct action next message found => exact hi.order.trySend _ _
  | broadcast action found alive next message => exact hi.order.broadcast _ _

end Step

theorem receiving {db : Db} {store : Store} {s : State} (h : (system db store).Reachable s) :
    Receiving s :=
  h.invariant (I := Receiving)
    ⟨fun sid m hm => absurd hm (by simp [system, State.start, Outbox.idle]), .idle⟩ fun _ _ _ _ hs hi => hi.step hs

/-- **What a session receives live is in the order of the tasks that persist it.** -/
theorem Timeline.live_ordered {s : State} (hi : Timeline s) (hr : Receiving s) {sid : SessionId}
    {m₁ m₂ : ChatMessage} {σ₁ σ₂ : Stream} {id₁ id₂ : Uuid}
    (hlive : List.Sublist [(sid, m₁), (sid, m₂)] s.socket) (h₁ : m₁.live? = some (σ₁, id₁))
    (h₂ : m₂.live? = some (σ₂, id₂)) :
    List.Sublist [(sid, m₁), (sid, m₂)] s.queues.log ∧
      ∃ r₁ r₂ n₁ n₂, s.Persists r₁ id₁ n₁ ∧ r₁.stream = σ₁ ∧ s.Persists r₂ id₂ n₂ ∧
        r₂.stream = σ₂ ∧ n₁ ≤ n₂ := by
  have hreceived : List.Sublist [m₁, m₂]
      ((Outbox.itemsOf sid s.socket).filter fun m => m.live?.isSome) := by
    have hitems : List.Sublist [m₁, m₂] (Outbox.itemsOf sid s.socket) :=
      Outbox.sublist_itemsOf.mpr hlive
    simpa [h₁, h₂] using hitems.filter fun m => m.live?.isSome
  have hlog : List.Sublist [(sid, m₁), (sid, m₂)] s.queues.log :=
    Outbox.sublist_itemsOf.mp (hreceived.trans (hr.order.received_sublist sid))
  obtain ⟨r₁, n₁, hp₁, hσ₁⟩ := hi.enqueued sid m₁ σ₁ id₁ (hlog.mem (by simp)) h₁
  obtain ⟨r₂, n₂, hp₂, hσ₂⟩ := hi.enqueued sid m₂ σ₂ id₂ (hlog.mem (by simp)) h₂
  have hpair := (List.pairwise_cons.mp (hi.live.sublist hlog)).1 (sid, m₂) (by simp)
  exact ⟨hlog, r₁, r₂, n₁, n₂, hp₁, hσ₁, hp₂, hσ₂, hpair σ₁ σ₂ id₁ id₂ r₁ r₂ n₁ n₂ h₁ h₂ hp₁ hp₂⟩

end PerOxo
