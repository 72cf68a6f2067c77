import PerOxo.Proof.Delivery

/-!
# The way of a message that is to be acknowledged

A frame that asks for a message to be sent creates a ticket, the task that awaits the
acknowledgement, and a message with the responder of that ticket. The responder goes through
the router's mailbox, perhaps a room's mailbox, and a task that persists the message. By
`Routing`, whoever holds it deals with the message of just that ticket.
-/

set_option autoImplicit false

namespace PerOxo

open ChatService PersistenceService

/-! ## Tickets -/

/-- The write request for the message of a ticket of `u`. -/
inductive Writes (u : TenantUserId) (t : AckTicket) : WriteRequest → Prop
  | direct {conversationId content : String} {toUser : TenantUserId} (timestamp : Int)
      (frame : t.frame = .sendDirectMessage conversationId toUser content t.clientMessageId) :
      Writes u t (.dm (persistDirectMessageRequest conversationId u toUser content
        t.serverMessageId timestamp))
  | room {roomId content : String} (timestamp : Int)
      (frame : t.frame = .roomMessage roomId u content t.clientMessageId) :
      Writes u t (.room (persistRoomMessageRequest roomId u content t.serverMessageId timestamp))

namespace State

/-- There is a ticket `k`, of a user `u`, and the two are as `P` says. -/
def Serves (s : State) (k : AckId) (P : TenantUserId → AckTicket → Prop) : Prop :=
  ∃ w u, s.ackRelays.get? k = some w ∧ s.UserOf w.context.session u ∧ P u w.context

/-- Somebody holds the responder of ticket `k`. -/
inductive Held (s : State) (k : AckId) : Prop
  | mailbox {e : Envelope RouterMessage} (mem : e ∈ s.mailbox)
      (holds : e.message.responder? = some k)
  | room {a : ActorId} {r : RoomActor} {e : Envelope RoomMessage}
      (found : s.actors.get? a = some r) (mem : e ∈ r.mailbox)
      (holds : e.message.responder? = some k)
  | task {t : Nat} {p : PersistTask} (found : s.persists.get? t = some p)
      (running : p.done = false) (holds : p.respondTo = k)

end State

section Step

variable {db : Db} {s s' : State} {act : Action}

/-- A ticket keeps its session and frame; its reply, once sent, and its end stay. -/
theorem relay_step (h : s.step db act = some s') {k : AckId}
    {w : Waiter AckTicket MessageAckResponse} (hw : s.ackRelays.get? k = some w) :
    ∃ w', s'.ackRelays.get? k = some w' ∧ w'.context = w.context ∧
      (∀ r, w.reply = .sent r → w'.reply = .sent r) ∧ (w.done = true → w'.done = true) := by
  obtain ⟨d, hd, -, -, -, hrel, -⟩ := State.delivery_moved h
  rw [hrel]
  have hsame : ∃ w', s.ackRelays.get? k = some w' ∧ w'.context = w.context ∧
      (∀ r, w.reply = .sent r → w'.reply = .sent r) ∧ (w.done = true → w'.done = true) :=
    ⟨w, hw, rfl, fun _ hr => hr, fun hd => hd⟩
  have hmod : ∀ (j : AckId) (f : Waiter AckTicket MessageAckResponse →
      Waiter AckTicket MessageAckResponse), (f w).context = w.context →
      (∀ r, w.reply = .sent r → (f w).reply = .sent r) → (w.done = true → (f w).done = true) →
      ∃ w', (s.ackRelays.modify j f).get? k = some w' ∧ w'.context = w.context ∧
        (∀ r, w.reply = .sent r → w'.reply = .sent r) ∧ (w.done = true → w'.done = true) := by
    intro j f hctx hrep hdone
    exact Arena.exists_modify hw ⟨rfl, fun _ hr => hr, fun hd => hd⟩ fun _ => ⟨hctx, hrep, hdone⟩
  cases hd with
  | asked action found active fresh session serverId acknowledges =>
    exact ⟨w, Arena.get?_alloc_of_some hw, rfl, fun _ hr => hr, fun hd => hd⟩
  | refused action next message unknown =>
    exact hmod _ _ rfl (fun r hr => by simp [Waiter.send, hr]) fun hd => hd
  | lost action next message known dead =>
    exact hmod _ _ rfl (fun r hr => by simp [Waiter.drop, hr, Oneshot.drop]) fun hd => hd
  | answered action found running ended returned =>
    exact hmod _ _ rfl (fun r hr => by simp [Waiter.send, hr]) fun hd => hd
  | acked action found running reply room => exact hmod _ _ rfl (fun r hr => hr) fun _ => rfl
  | gaveUp found running dropped => exact hmod _ _ rfl (fun r hr => hr) fun _ => rfl
  | _ => exact hsame

theorem State.Serves.step (h : s.step db act = some s') {k : AckId}
    {P : TenantUserId → AckTicket → Prop} (hk : s.Serves k P) : s'.Serves k P := by
  obtain ⟨w, u, hw, hu, hp⟩ := hk
  obtain ⟨w', hw', hctx, -, -⟩ := relay_step h hw
  exact ⟨w', u, hw', hctx ▸ userOf_step h hu, hctx ▸ hp⟩

/-! ## Mail -/

/-- What a frame does to the router's mailbox: nothing, or it posts a message, which has the
responder of a ticket exactly if one is created with it. -/
theorem frame_mail {t : State} {sid : SessionId} {u : TenantUserId} {id : Uuid}
    {text : Option ChatMessage} (h : s.handleFrame sid u id text = t) :
    t.mailbox = s.mailbox ∧ t.ackRelays = s.ackRelays ∨
    ∃ m, t.mailbox = s.mailbox ++ [⟨sid, m⟩] ∧
      (m.responder? = none ∧ t.ackRelays = s.ackRelays ∨
        ∃ ticket, ticket.session = sid ∧ Acknowledges u ticket s.ackRelays.next m ∧
          t.ackRelays = s.ackRelays.alloc (.start ticket)) := by
  cases State.framed h with
  | ignored text => exact .inl ⟨rfl, rfl⟩
  | direct c v m i => exact .inr ⟨_, rfl, .inr ⟨_, rfl, .direct rfl, rfl⟩⟩
  | room roomId content i => exact .inr ⟨_, rfl, .inr ⟨_, rfl, .room rfl, rfl⟩⟩
  | _ => exact .inr ⟨_, rfl, .inl ⟨rfl, rfl⟩⟩

theorem RouterMessage.responder?_of_registration {m : RouterMessage}
    (h : m.isRegister = true ∨ m.isUnregister = true) : m.responder? = none := by
  cases m <;> simp_all [responder?, isRegister, isUnregister]

theorem Acknowledges.responder {u : TenantUserId} {t : AckTicket} {k : AckId} {m : RouterMessage}
    (h : Acknowledges u t k m) : m.responder? = some k := by
  cases h <;> rfl

end Step

/-! ## Routing -/

/-- Whoever holds a responder serves its ticket. -/
structure Routing (s : State) : Prop where
  mailbox : ∀ e ∈ s.mailbox, ∀ k, e.message.responder? = some k →
    s.Serves k fun u t => Acknowledges u t k e.message
  /-- A message to a room is one the router would have got for this room, so that the name of the
  room need not be in the message. -/
  rooms : ∀ a r, s.actors.get? a = some r → ∀ e ∈ r.mailbox, ∀ f c i k,
    e.message = .sendMessage f c i (some k) →
    s.Serves k fun u t => Acknowledges u t k (.sendRoomMessage r.roomId f c i (some k))
  /-- The table of rooms leads to running actors of these rooms. -/
  table : ∀ roomId a, s.router.rooms.lookup roomId = some a →
    ∃ r, s.actors.get? a = some r ∧ r.alive = true ∧ r.roomId = roomId
  /-- What is written is the message of the ticket, under the id that the ticket has. -/
  tasks : ∀ n p, s.persists.get? n = some p →
    s.Serves p.respondTo fun u t => Writes u t p.request ∧ p.messageId = t.serverMessageId
  /-- A task repeats its own request: what chat-service answers is about this message. -/
  calls : ∀ n p, s.persists.get? n = some p →
    ∃ call, s.writes.get? p.call = some call ∧ call.request = p.request

theorem Acknowledges.writes_direct {u fromUser toUser : TenantUserId} {t : AckTicket}
    {k j : AckId} {conversationId content : String} {id : Uuid} (timestamp : Int)
    (h : Acknowledges u t k (.sendDirectMessage conversationId fromUser toUser content id (some j))) :
    Writes u t (.dm (persistDirectMessageRequest conversationId fromUser toUser content id
      timestamp)) ∧ id = t.serverMessageId := by
  cases h with
  | direct frame => exact ⟨.direct timestamp frame, rfl⟩

theorem Acknowledges.writes_room {u fromUser : TenantUserId} {t : AckTicket} {k j : AckId}
    {roomId content : String} {id : Uuid} (timestamp : Int)
    (h : Acknowledges u t k (.sendRoomMessage roomId fromUser content id (some j))) :
    Writes u t (.room (persistRoomMessageRequest roomId fromUser content id timestamp)) ∧
      id = t.serverMessageId := by
  cases h with
  | room frame => exact ⟨.room timestamp frame, rfl⟩

theorem State.Serves.mono {s : State} {k : AckId} {P Q : TenantUserId → AckTicket → Prop}
    (h : s.Serves k P) (hpq : ∀ u t, P u t → Q u t) : s.Serves k Q :=
  let ⟨w, u, hw, hu, hp⟩ := h
  ⟨w, u, hw, hu, hpq u _ hp⟩

namespace Routing

variable {db : Db} {s s' : State} {act : Action}

theorem step_mailbox (hi : Routing s) (h : s.step db act = some s') :
    ∀ e ∈ s'.mailbox, ∀ k, e.message.responder? = some k →
      s'.Serves k fun u t => Acknowledges u t k e.message := by
  intro e he k hk
  have hold : e ∈ s.mailbox → s'.Serves k fun u t => Acknowledges u t k e.message :=
    fun he => (hi.mailbox e he k hk).step h
  cases mail_step h with
  | kept mailbox processed => exact hold (mailbox ▸ he)
  | registration mailbox processed about =>
    rw [mailbox] at he
    rcases List.mem_append.mp he with he | he
    · exact hold he
    · rw [List.mem_singleton.mp he] at hk
      rw [RouterMessage.responder?_of_registration about] at hk
      cases hk
  | @framed sid ses text id action found result processed =>
    have huser : s'.UserOf sid ses.tenantUserId := userOf_step h ⟨ses, found, rfl⟩
    rcases frame_mail result.symm with ⟨hm, -⟩ | ⟨m, hm, hcase⟩ <;> rw [hm] at he
    · exact hold he
    · rcases List.mem_append.mp he with he | he
      · exact hold he
      · rw [List.mem_singleton.mp he] at hk ⊢
        rcases hcase with ⟨hn, -⟩ | ⟨t, rfl, hack, hrel⟩
        · rw [hn] at hk
          cases hk
        · obtain rfl := Option.some.inj (hack.responder.symm.trans hk)
          exact ⟨_, _, by rw [hrel]; exact Arena.get?_alloc_self, huser, hack⟩
  | taken action mailbox processed => exact hold (mailbox ▸ List.mem_cons_of_mem _ he)

theorem step_rooms (hi : Routing s) (h : s.step db act = some s') :
    ∀ a r, s'.actors.get? a = some r → ∀ e ∈ r.mailbox, ∀ f c i k,
      e.message = .sendMessage f c i (some k) →
      s'.Serves k fun u t => Acknowledges u t k (.sendRoomMessage r.roomId f c i (some k)) := by
  intro a r hr
  suffices hsuff : ∀ e ∈ r.mailbox, ∀ f c i k, e.message = .sendMessage f c i (some k) →
      s.Serves k fun u t => Acknowledges u t k (.sendRoomMessage r.roomId f c i (some k)) from
    fun e he f c i k hm => (hsuff e he f c i k hm).step h
  cases State.room_moved h hr with
  | same found => exact hi.rooms a r found
  | @posted e rest x r₀ roomId next forwards room known found =>
    intro y hy f c i k hm
    rcases List.mem_append.mp hy with hy | hy
    · exact hi.rooms a r₀ found y hy f c i k hm
    · rw [List.mem_singleton.mp hy] at hm
      -- It is the room message at the head of the router's mailbox, for this room.
      obtain ⟨r₂, hr₂, -, hroom⟩ := hi.table roomId a known
      obtain rfl := Option.some.inj (hr₂.symm.trans found)
      obtain ⟨o, m⟩ := e
      dsimp only at forwards hm room
      subst hm
      cases forwards with
      | sendRoomMessage room' =>
        obtain rfl := Option.some.inj room
        have hs := hi.mailbox _ (next ▸ List.mem_cons_self) k rfl
        subst hroom
        exact hs
  | spawned next join new =>
    intro y hy f c i k hm
    rw [List.mem_singleton.mp hy] at hm
    cases hm
  | handled action found next =>
    intro y hy
    exact hi.rooms a _ found y (next ▸ List.mem_cons_of_mem _ hy)
  | @ticked r₀ found => exact hi.rooms a r₀ found
  | @stopped r₀ found => exact hi.rooms a r₀ found

theorem step_table (hi : Routing s) (h : s.step db act = some s') :
    ∀ roomId a, s'.router.rooms.lookup roomId = some a →
      ∃ r, s'.actors.get? a = some r ∧ r.alive = true ∧ r.roomId = roomId := by
  intro roomId a hl
  obtain ⟨t, hrooms, htab, hact⟩ := State.rooms_moved h
  rw [hact]
  rw [htab] at hl
  -- What a step does to a room leaves it running, under its name.
  have hmod : ∀ (b : ActorId) (f : RoomActor → RoomActor), s.router.rooms.lookup roomId = some a →
      (a = b → ∀ r, (f r).alive = r.alive) → (∀ r, (f r).roomId = r.roomId) →
      ∃ r, (s.actors.modify b f).get? a = some r ∧ r.alive = true ∧ r.roomId = roomId := by
    intro b f hl halive hroom
    obtain ⟨r, hr, hal, hid⟩ := hi.table roomId a hl
    exact Arena.exists_modify hr ⟨hal, hid⟩ fun hb =>
      ⟨(halive hb r).trans hal, (hroom r).trans hid⟩
  cases hrooms with
  | same => exact hi.table roomId a hl
  | posted action next forwards room known found alive =>
    exact hmod _ _ hl (fun _ _ => rfl) fun _ => rfl
  | @spawned e rest u room' sender j k p n action next join unknown =>
    dsimp only at hl ⊢
    rw [HashMap.lookup_insert_eq] at hl
    by_cases hroom : roomId = room'
    · rw [if_pos hroom] at hl
      obtain rfl := Option.some.inj hl
      exact ⟨_, Arena.get?_alloc_self, rfl, hroom.symm⟩
    · rw [if_neg hroom] at hl
      obtain ⟨r, hr, hal, hid⟩ := hi.table roomId a hl
      exact ⟨r, Arena.get?_alloc_of_some hr, hal, hid⟩
  | handled action found alive next => exact hmod _ _ hl (fun _ _ => rfl) fun _ => rfl
  | ticked action found alive => exact hmod _ _ hl (fun _ _ => rfl) fun _ => rfl
  | stopped action found alive drained unused =>
    refine hmod _ _ hl (fun hb => ?_) fun _ => rfl
    exact absurd (HashMap.mem_values.mpr ⟨roomId, hb ▸ hl⟩) unused

theorem step_tasks (hi : Routing s) (h : s.step db act = some s') :
    ∀ n p, s'.persists.get? n = some p →
      s'.Serves p.respondTo fun u t => Writes u t p.request ∧ p.messageId = t.serverMessageId := by
  intro n p hp
  suffices hsuff : s.Serves p.respondTo fun u t =>
      Writes u t p.request ∧ p.messageId = t.serverMessageId from hsuff.step h
  obtain ⟨d, hd, -, -, hper, -⟩ := State.delivery_moved h
  rw [hper] at hp
  cases hd with
  | @direct e rest c content f v id k persistAt now action next message =>
    rcases Arena.get?_alloc_eq_some.mp hp with ⟨-, rfl⟩ | hp
    · have hs := hi.mailbox e (next ▸ List.mem_cons_self) k (by rw [message]; rfl)
      rw [message] at hs
      exact hs.mono fun u t hack => hack.writes_direct persistAt
    · exact hi.tasks n p hp
  | @room a r e rest f content id k persistAt action found next message =>
    rcases Arena.get?_alloc_eq_some.mp hp with ⟨-, rfl⟩ | hp
    · have hs := hi.rooms a r found e (next ▸ List.mem_cons_self) f content id k message
      exact hs.mono fun u t hack => hack.writes_room persistAt
    · exact hi.tasks n p hp
  | retried found running =>
    rcases Arena.get?_modify_eq_some.mp hp with ⟨-, q, hq, rfl⟩ | ⟨-, hp⟩
    · exact hi.tasks _ q hq
    · exact hi.tasks n p hp
  | answered action found running ended returned =>
    rcases Arena.get?_modify_eq_some.mp hp with ⟨-, q, hq, rfl⟩ | ⟨-, hp⟩
    · exact hi.tasks _ q hq
    · exact hi.tasks n p hp
  | _ => exact hi.tasks n p hp

/-- A write request stays what it is. -/
theorem write_step (h : s.step db act = some s') {c : CallId} {call : WriteCall}
    (hc : s.writes.get? c = some call) : ∃ call', s'.writes.get? c = some call' ∧
      call'.request = call.request ∧ ∀ r, call.answer = some r → call'.answer = some r := by
  obtain ⟨d, hd, -, hwr, -⟩ := State.delivery_moved h
  rw [hwr]
  cases hd with
  | direct action next message =>
    exact ⟨call, Arena.get?_alloc_of_some hc, rfl, fun _ hr => hr⟩
  | room action found next message =>
    exact ⟨call, Arena.get?_alloc_of_some hc, rfl, fun _ hr => hr⟩
  | @served c' request fault action found =>
    by_cases he : c = c'
    · subst he
      obtain rfl := Option.some.inj (hc.symm.trans found)
      exact ⟨_, Arena.get?_modify_self found, rfl, fun _ hr => by cases hr⟩
    · exact ⟨call, (Arena.get?_modify_ne he).trans hc, rfl, fun _ hr => hr⟩
  | retried found running => exact ⟨call, Arena.get?_alloc_of_some hc, rfl, fun _ hr => hr⟩
  | _ => exact ⟨call, hc, rfl, fun _ hr => hr⟩

theorem step_calls (hi : Routing s) (h : s.step db act = some s') :
    ∀ n p, s'.persists.get? n = some p →
      ∃ call, s'.writes.get? p.call = some call ∧ call.request = p.request := by
  intro n p hp
  have hold : ∀ q, s.persists.get? n = some q →
      ∃ call, s'.writes.get? q.call = some call ∧ call.request = q.request := by
    intro q hq
    obtain ⟨call, hc, hreq⟩ := hi.calls n q hq
    obtain ⟨call', hc', hreq', -⟩ := write_step h hc
    exact ⟨call', hc', hreq'.trans hreq⟩
  obtain ⟨d, hd, -, hwr, hper, -⟩ := State.delivery_moved h
  rw [hper] at hp
  cases hd with
  | direct action next message =>
    rcases Arena.get?_alloc_eq_some.mp hp with ⟨-, rfl⟩ | hp
    · exact ⟨_, by rw [hwr]; exact Arena.get?_alloc_self, rfl⟩
    · exact hold p hp
  | room action found next message =>
    rcases Arena.get?_alloc_eq_some.mp hp with ⟨-, rfl⟩ | hp
    · exact ⟨_, by rw [hwr]; exact Arena.get?_alloc_self, rfl⟩
    · exact hold p hp
  | retried found running =>
    rcases Arena.get?_modify_eq_some.mp hp with ⟨rfl, q, hq, rfl⟩ | ⟨-, hp⟩
    · obtain rfl := Option.some.inj (hq.symm.trans found)
      exact ⟨_, by rw [hwr]; exact Arena.get?_alloc_self, rfl⟩
    · exact hold p hp
  | answered action found running ended returned =>
    rcases Arena.get?_modify_eq_some.mp hp with ⟨rfl, q, hq, rfl⟩ | ⟨-, hp⟩
    · exact hold q hq
    · exact hold p hp
  | _ => exact hold p hp

theorem step (hi : Routing s) (h : s.step db act = some s') : Routing s' :=
  ⟨hi.step_mailbox h, hi.step_rooms h, hi.step_table h, hi.step_tasks h, hi.step_calls h⟩

theorem start (store : Store) : Routing (.start store) where
  mailbox e he := absurd he (by simp [State.start])
  rooms a r hr := absurd hr (by simp [State.start])
  table roomId a hl := absurd hl (by simp [State.start, MessageRouter.new])
  tasks n p hp := absurd hp (by simp [State.start])
  calls n p hp := absurd hp (by simp [State.start])

end Routing

end PerOxo
