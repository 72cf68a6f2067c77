import PerOxo.Proof.Routing

/-!
# The acknowledgement protocol

A frame that asks for a message to be sent is answered by one `MessageAck`, which crosses up
to four tasks. On top of `Routing` the invariant has two parts:

* `Answers`: a responder is never dropped, and while nothing has been sent through it
  somebody holds it; a reply is about the ticket's own message, and says `Persisted` only
  after chat-service has said so;
* `AckLog`: what the ack channels have been sent, ticket by ticket.
-/

set_option autoImplicit false

namespace PerOxo

open ChatService PersistenceService

namespace State

/-- Something has become of the responder of ticket `k`. -/
def Answered (s : State) (k : AckId) : Prop :=
  ∀ w, s.ackRelays.get? k = some w → w.reply ≠ .pending

/-- chat-service has answered a write request for the message of a ticket of `u` with success. -/
def Stored (s : State) (u : TenantUserId) (t : AckTicket) : Prop :=
  ∃ c call r, s.writes.get? c = some call ∧ call.answer = some r ∧ r.success = true ∧
    Writes u t call.request

/-- How many acknowledgements with a server message id the ack channels have been sent. -/
def ackCount (s : State) (id : Uuid) : Nat :=
  s.acks.log.countP fun x => match x.2 with
    | .messageAck _ id' _ _ => decide (id' = id)
    | _ => false

end State

/-! ## The responder is never lost -/

section Step

variable {db : Db} {s s' : State} {act : Action}

/-- The router passes a responder on, or answers. -/
theorem held_router (hi : Routing s) {e : Envelope RouterMessage}
    {rest : List (Envelope RouterMessage)} {k : AckId} (hk : e.message.responder? = some k)
    {p n : Int}
    (h : (s.takeRouterMessage e rest).handleRouterMessage e.origin p n e.message = s') :
    s'.Held k ∨ s'.Answered k := by
  obtain ⟨o, m⟩ := e
  cases State.handledByRouter h with
  | @direct c m f v i j w persist =>
    obtain rfl : j = some k := hk
    subst persist
    have hspawned : (s.persists.alloc ⟨.dm (persistDirectMessageRequest c f v m i p), i, k, 0,
        s.writes.next, false⟩).get? s.persists.next = some _ := Arena.get?_alloc_self
    exact .inl (.task hspawned rfl rfl)
  | sending known found alive =>
    exact .inl (.room (Arena.get?_modify_self found)
      (List.mem_append.mpr (.inr List.mem_cons_self)) hk)
  | @messageLost room c f i j a known gone =>
    -- The table leads to running actors only.
    obtain ⟨r, hr, hal, -⟩ := hi.table room a known
    exact absurd (gone r hr) (by simp [hal])
  | @messageRefused room c f i j unknown =>
    obtain rfl : j = k := Option.some.inj hk
    refine .inr fun w hw => ?_
    rcases Arena.get?_modify_eq_some.mp hw with ⟨-, w₀, -, rfl⟩ | ⟨hne, -⟩
    · exact Oneshot.send_ne_pending _ _
    · exact absurd rfl hne
  | _ => cases hk

/-- So does a room. -/
theorem held_room {a : ActorId} {r : RoomActor} {e : Envelope RoomMessage}
    {rest : List (Envelope RoomMessage)} {k : AckId} (hk : e.message.responder? = some k)
    {p : Int} (h : (s.takeRoomMessage a e rest).handleMessage a r p e.message = s') :
    s'.Held k := by
  obtain ⟨o, m⟩ := e
  cases State.handledByRoom h with
  | @sent f c i j w persist =>
    obtain rfl : j = some k := hk
    subst persist
    have hspawned : (s.persists.alloc ⟨.room (persistRoomMessageRequest r.roomId f c i p), i, k, 0,
        s.writes.next, false⟩).get? s.persists.next = some _ := Arena.get?_alloc_self
    exact .task hspawned rfl rfl
  | _ => cases hk

theorem held_room_step (h : s.step db act = some s') {a : ActorId} {r : RoomActor}
    {e : Envelope RoomMessage} {k : AckId} (hr : s.actors.get? a = some r) (he : e ∈ r.mailbox)
    (hk : e.message.responder? = some k) : s'.Held k := by
  obtain ⟨t, hrooms, -, hact⟩ := State.rooms_moved h
  -- The room keeps the message.
  have hmod : ∀ (b : ActorId) (f : RoomActor → RoomActor), s'.actors = s.actors.modify b f →
      (a = b → e ∈ (f r).mailbox) → s'.Held k := by
    intro b f hb hf
    by_cases hab : a = b
    · have hmem : e ∈ (f r).mailbox := hf hab
      subst hab
      exact .room (by rw [hb]; exact Arena.get?_modify_self hr) hmem hk
    · exact .room (by rw [hb]; exact (Arena.get?_modify_ne hab).trans hr) he hk
  cases hrooms with
  | same => exact .room (by rw [hact]; exact hr) he hk
  | posted action next forwards room known found alive =>
    exact hmod _ _ hact fun _ => List.mem_append.mpr (.inl he)
  | spawned action next join unknown =>
    exact .room (by rw [hact]; exact Arena.get?_alloc_of_some hr) he hk
  | @handled b r₁ x rest p action found alive next =>
    by_cases hab : a = b
    · subst hab
      obtain rfl := Option.some.inj (hr.symm.trans found)
      rw [next] at he
      rcases List.mem_cons.mp he with rfl | he
      · subst action
        exact held_room hk (State.room_result h hr next)
      · exact hmod _ _ hact fun _ => he
    · exact hmod _ _ hact fun hc => absurd hc hab
  | ticked action found alive => exact hmod _ _ hact fun _ => he
  | stopped action found alive drained unused => exact hmod _ _ hact fun _ => he

theorem held_task_step (h : s.step db act = some s') {n : Nat} {p : PersistTask}
    (hp : s.persists.get? n = some p) (hd : p.done = false) :
    s'.Held p.respondTo ∨ s'.Answered p.respondTo := by
  obtain ⟨d, hdel, -, -, hper, hrel, -⟩ := State.delivery_moved h
  cases hdel with
  | direct action next message =>
    exact .inl (.task (by rw [hper]; exact Arena.get?_alloc_of_some hp) hd rfl)
  | room action found next message =>
    exact .inl (.task (by rw [hper]; exact Arena.get?_alloc_of_some hp) hd rfl)
  | @retried t q attempts found running =>
    left
    by_cases hn : n = t
    · subst hn
      have hp' : s'.persists.get? n = some { p with attempts := attempts, call := s.writes.next } := by
        rw [hper]
        exact Arena.get?_modify_self hp
      exact .task hp' hd rfl
    · exact .task (by rw [hper]; exact (Arena.get?_modify_ne hn).trans hp) hd rfl
  | @answered t q failure now outcome result action found running ended returned =>
    by_cases hn : n = t
    · subst hn
      obtain rfl := Option.some.inj (hp.symm.trans found)
      refine .inr fun w hw => ?_
      rw [hrel] at hw
      rcases Arena.get?_modify_eq_some.mp hw with ⟨-, w₀, -, rfl⟩ | ⟨hne, -⟩
      · exact Oneshot.send_ne_pending _ _
      · exact absurd rfl hne
    · exact .inl (.task (by rw [hper]; exact (Arena.get?_modify_ne hn).trans hp) hd rfl)
  | _ => exact .inl (.task (by rw [hper]; exact hp) hd rfl)

/-- **A responder is passed on until something is sent through it.** -/
theorem State.Held.step (h : s.step db act = some s') (hi : Routing s) {k : AckId}
    (hk : s.Held k) : s'.Held k ∨ s'.Answered k := by
  cases hk with
  | mailbox mem holds =>
    have hkeep : ∀ l, s'.mailbox = s.mailbox ++ l → s'.Held k := by
      intro l hl
      exact .mailbox (hl ▸ List.mem_append.mpr (.inl mem)) holds
    cases mail_step h with
    | kept mailbox processed => exact .inl (.mailbox (mailbox ▸ mem) holds)
    | registration mailbox processed about => exact .inl (hkeep _ mailbox)
    | @framed sid ses text id action found result processed =>
      rcases frame_mail result.symm with ⟨hm, -⟩ | ⟨m, hm, -⟩
      · exact .inl (.mailbox (hm ▸ mem) holds)
      · exact .inl (hkeep _ hm)
    | taken action mailbox processed =>
      rw [mailbox] at mem
      rcases List.mem_cons.mp mem with rfl | mem
      · subst action
        exact held_router hi holds (State.router_result h mailbox)
      · exact .inl (.mailbox mem holds)
  | room found mem holds => exact .inl (held_room_step h found mem holds)
  | task found running holds => exact holds ▸ held_task_step h found running

/-- A new ticket begins with its message in the router's mailbox. -/
theorem held_new (h : s.step db act = some s') {k : AckId}
    {w : Waiter AckTicket MessageAckResponse} (hw : s'.ackRelays.get? k = some w)
    (hnew : s.ackRelays.get? k = none) : s'.Held k := by
  have hmod : ∀ (j : AckId) (f : Waiter AckTicket MessageAckResponse →
      Waiter AckTicket MessageAckResponse), s'.ackRelays = s.ackRelays.modify j f →
      s'.Held k := by
    intro j f he
    rw [he, Arena.get?_modify, hnew] at hw
    simp at hw
  have hold : s'.ackRelays ≠ s.ackRelays := fun he => by
    rw [he, hnew] at hw
    cases hw
  obtain ⟨d, hd, -, -, -, hrel, -⟩ := State.delivery_moved h
  cases hd with
  | asked action found active fresh session serverId acknowledges =>
    subst action
    cases State.stepped h with
    | framed found active fresh result =>
      rcases frame_mail result with ⟨-, he⟩ | ⟨m, hm, ⟨-, he⟩ | ⟨t, -, hack, he⟩⟩
      · exact absurd he hold
      · exact absurd he hold
      · rw [he] at hw
        rcases Arena.get?_alloc_eq_some.mp hw with ⟨rfl, -⟩ | hw
        · exact .mailbox (hm ▸ List.mem_append.mpr (.inr List.mem_cons_self)) hack.responder
        · rw [hnew] at hw
          cases hw
  | refused action next message unknown => exact hmod _ _ hrel
  | lost action next message known dead => exact hmod _ _ hrel
  | answered action found running ended returned => exact hmod _ _ hrel
  | acked action found running reply room => exact hmod _ _ hrel
  | gaveUp found running dropped => exact hmod _ _ hrel
  | _ => exact absurd hrel hold

end Step

/-! ## Replies -/

/-- What becomes of the responders. -/
structure Answers (s : State) : Prop where
  /-- Every task that holds a responder ends by sending through it, also where its write has failed
  or its room is gone. -/
  undropped : ∀ k w, s.ackRelays.get? k = some w → w.reply ≠ .dropped
  held : ∀ k w, s.ackRelays.get? k = some w → w.reply = .pending → s.Held k
  /-- The id in a reply is the one the frame was given, so that an acknowledgement can be traced to
  its ticket by it. -/
  replies : ∀ k w r, s.ackRelays.get? k = some w → w.reply = .sent r →
    r.messageId = w.context.serverMessageId ∧
      (r.status = .persisted → ∃ u, s.UserOf w.context.session u ∧ s.Stored u w.context)

/-- Only an answer leaves the retry loop with a response. -/
theorem retryTurn_ok {ρ : Type} {n m : Nat} {o : Except Status ρ} {r : ρ}
    (h : retryTurn n m o = .returned (.ok r)) : o = .ok r := by
  cases o with
  | ok r' =>
    simp only [retryTurn, RetryLoop.returned.injEq] at h
    exact h
  | error e =>
    simp only [retryTurn] at h
    split at h <;> cases h

namespace Answers

variable {db : Db} {s s' : State} {act : Action}

theorem step_undropped (hi : Answers s) (hr : Routing s) (h : s.step db act = some s') :
    ∀ k w, s'.ackRelays.get? k = some w → w.reply ≠ .dropped := by
  intro k w hw
  have hsend : ∀ (j : AckId) (r : MessageAckResponse), (s.ackRelays.modify j (·.send r)).get? k =
      some w → w.reply ≠ .dropped := by
    intro j r hw
    rcases Arena.get?_modify_eq_some.mp hw with ⟨-, w₀, hw₀, rfl⟩ | ⟨-, hw⟩
    · have hu := hi.undropped k w₀ hw₀
      cases hrep : w₀.reply with
      | dropped => exact absurd hrep hu
      | _ => simp [Waiter.send, hrep]
    · exact hi.undropped k w hw
  have hfinish : ∀ j : AckId, (s.ackRelays.modify j (·.finish)).get? k = some w →
      w.reply ≠ .dropped := by
    intro j hw
    rcases Arena.get?_modify_eq_some.mp hw with ⟨-, w₀, hw₀, rfl⟩ | ⟨-, hw⟩
    · exact hi.undropped k w₀ hw₀
    · exact hi.undropped k w hw
  obtain ⟨d, hd, -, -, -, hrel, -⟩ := State.delivery_moved h
  rw [hrel] at hw
  cases hd with
  | asked action found active fresh session serverId acknowledges =>
    rcases Arena.get?_alloc_eq_some.mp hw with ⟨-, rfl⟩ | hw
    · simp [Waiter.start]
    · exact hi.undropped k w hw
  | refused action next message unknown => exact hsend _ _ hw
  | lost action next message known dead =>
    -- The table of rooms leads to running actors only.
    obtain ⟨r, hr, hal, -⟩ := hr.table _ _ known
    exact absurd (dead r hr) (by simp [hal])
  | answered action found running ended returned => exact hsend _ _ hw
  | acked action found running reply room => exact hfinish _ hw
  | gaveUp found running dropped => exact hfinish _ hw
  | _ => exact hi.undropped k w hw

theorem step_held (hi : Answers s) (hr : Routing s) (h : s.step db act = some s') :
    ∀ k w, s'.ackRelays.get? k = some w → w.reply = .pending → s'.Held k := by
  intro k w hw hp
  cases hold : s.ackRelays.get? k with
  | none => exact held_new h hw hold
  | some w₀ =>
    obtain ⟨w', hw', -, hsent, -⟩ := relay_step h hold
    obtain rfl := Option.some.inj (hw'.symm.trans hw)
    have hp₀ : w₀.reply = .pending := by
      cases hrep : w₀.reply with
      | pending => rfl
      | sent r => exact absurd (hsent r hrep) (by simp [hp])
      | dropped => exact absurd hrep (hi.undropped k w₀ hold)
    rcases (hi.held k w₀ hold hp₀).step h hr with hk | hk
    · exact hk
    · exact absurd hp (hk w' hw)

/-- What was stored stays stored. -/
theorem stored_step (h : s.step db act = some s') {u : TenantUserId} {t : AckTicket}
    (hs : s.Stored u t) : s'.Stored u t := by
  obtain ⟨c, call, r, hc, ha, hr, hw⟩ := hs
  obtain ⟨call', hc', hreq, hans⟩ := Routing.write_step h hc
  exact ⟨c, call', r, hc', hans r ha, hr, hreq ▸ hw⟩

theorem step_replies (hi : Answers s) (hr : Routing s) (h : s.step db act = some s') :
    ∀ k w r, s'.ackRelays.get? k = some w → w.reply = .sent r →
      r.messageId = w.context.serverMessageId ∧
        (r.status = .persisted → ∃ u, s'.UserOf w.context.session u ∧ s'.Stored u w.context) := by
  intro k w r hw hrep
  suffices hsuff : r.messageId = w.context.serverMessageId ∧
      (r.status = .persisted → ∃ u, s.UserOf w.context.session u ∧ s.Stored u w.context) from
    ⟨hsuff.1, fun hp =>
      let ⟨u, hu, hst⟩ := hsuff.2 hp
      ⟨u, userOf_step h hu, stored_step h hst⟩⟩
  obtain ⟨d, hd, -, -, -, hrel, -⟩ := State.delivery_moved h
  rw [hrel] at hw
  -- A reply is an older one, or the one that is being sent.
  have hsend : ∀ (j : AckId) (x : MessageAckResponse),
      (s.ackRelays.modify j (·.send x)).get? k = some w →
      (∃ w₀, s.ackRelays.get? k = some w₀ ∧ w₀.context = w.context ∧ w₀.reply = .sent r) ∨
        k = j ∧ r = x ∧ ∃ w₀, s.ackRelays.get? k = some w₀ ∧ w₀.context = w.context := by
    intro j x hw
    rcases Arena.get?_modify_eq_some.mp hw with ⟨rfl, w₀, hw₀, rfl⟩ | ⟨-, hw⟩
    · rcases Oneshot.send_eq_sent.mp hrep with hrep | ⟨-, hx⟩
      · exact .inl ⟨w₀, hw₀, rfl, hrep⟩
      · exact .inr ⟨rfl, hx.symm, w₀, hw₀, rfl⟩
    · exact .inl ⟨w, hw, rfl, hrep⟩
  have hfinish : ∀ j : AckId, (s.ackRelays.modify j (·.finish)).get? k = some w →
      ∃ w₀, s.ackRelays.get? k = some w₀ ∧ w₀.context = w.context ∧ w₀.reply = .sent r := by
    intro j hw
    rcases Arena.get?_modify_eq_some.mp hw with ⟨-, w₀, hw₀, rfl⟩ | ⟨-, hw⟩
    · exact ⟨w₀, hw₀, rfl, hrep⟩
    · exact ⟨w, hw, rfl, hrep⟩
  have hold : (∃ w₀, s.ackRelays.get? k = some w₀ ∧ w₀.context = w.context ∧
      w₀.reply = .sent r) → r.messageId = w.context.serverMessageId ∧
      (r.status = .persisted → ∃ u, s.UserOf w.context.session u ∧ s.Stored u w.context) := by
    rintro ⟨w₀, hw₀, hctx, hrep₀⟩
    exact hctx ▸ hi.replies k w₀ r hw₀ hrep₀
  cases hd with
  | asked action found active fresh session serverId acknowledges =>
    rcases Arena.get?_alloc_eq_some.mp hw with ⟨-, rfl⟩ | hw
    · cases hrep
    · exact hold ⟨w, hw, rfl, hrep⟩
  | @refused e rest roomId content f id j p now action next message unknown =>
    rcases hsend _ _ hw with ho | ⟨rfl, rfl, w₀, hw₀, hctx⟩
    · exact hold ho
    · refine ⟨?_, fun hp => by cases hp⟩
      have hs := hr.mailbox e (next ▸ List.mem_cons_self) k (by rw [message]; rfl)
      obtain ⟨w₁, u, hw₁, -, hack⟩ := hs
      obtain rfl := Option.some.inj (hw₁.symm.trans hw₀)
      rw [message] at hack
      exact hctx ▸ (hack.writes_room 0).2
  | lost action next message known dead =>
    obtain ⟨r, hr, hal, -⟩ := hr.table _ _ known
    exact absurd (dead r hr) (by simp [hal])
  | @answered n p failure now outcome result action found running ended returned =>
    rcases hsend _ _ hw with ho | ⟨rfl, rfl, w₀, hw₀, hctx⟩
    · exact hold ho
    · obtain ⟨w₁, u, hw₁, hu, hwrites, hid⟩ := hr.tasks n p found
      obtain rfl := Option.some.inj (hw₁.symm.trans hw₀)
      refine ⟨hctx ▸ hid, fun hp => ⟨u, hctx ▸ hu, ?_⟩⟩
      -- Nothing but an answered success is reported as `Persisted`.
      obtain ⟨response, rfl, hsucc⟩ := ackStatus_persistResult.mp hp
      obtain rfl := retryTurn_ok returned
      rcases State.callOutcome_some ended with ⟨x, hx⟩ | ⟨r', hans, hx⟩
      · cases hx
      · obtain rfl := Except.ok.inj hx
        obtain ⟨call, hc, hreq⟩ := hr.calls n p found
        rw [hc] at hans
        exact ⟨p.call, call, response, hc, hans, hsucc, hctx ▸ hreq ▸ hwrites⟩
  | acked action found running reply room => exact hold (hfinish _ hw)
  | gaveUp found running dropped => exact hold (hfinish _ hw)
  | _ => exact hold ⟨w, hw, rfl, hrep⟩

theorem step (hi : Answers s) (hr : Routing s) (h : s.step db act = some s') : Answers s' :=
  ⟨hi.step_undropped hr h, hi.step_held hr h, hi.step_replies hr h⟩

theorem start (store : Store) : Answers (.start store) where
  undropped k w hw := absurd hw (by simp [State.start])
  held k w hw := absurd hw (by simp [State.start])
  replies k w r hw := absurd hw (by simp [State.start])

end Answers

/-! ## What the ack channels have been sent -/

/-- A session whose creation is over. -/
def State.Created (s : State) (sid : SessionId) : Prop :=
  ∃ ses, s.sessions.get? sid = some ses ∧ ses.phase ≠ .creating

theorem created_step {db : Db} {s s' : State} {act : Action} (h : s.step db act = some s')
    {sid : SessionId} (hc : s.Created sid) : s'.Created sid := by
  obtain ⟨ses, hs, hp⟩ := hc
  obtain ⟨ses', hs', rfl | hmove⟩ := session_kept h hs
  · exact ⟨ses', hs', hp⟩
  · refine ⟨ses', hs', ?_⟩
    cases hmove with
    | answered r => exact hp
    | started creating => exact absurd creating hp
    | failed creating e => exact absurd creating hp
    | recvEnded active => exact hp
    | sendEnded active => exact hp
    | ended running finished => simp

/-- The ack channel of a session whose creation is over is not opened again. -/
theorem acks_stillOpen {db : Db} {s s' : State} {act : Action} (h : s.step db act = some s')
    {sid : SessionId} (hc : s.Created sid) (ho : (s'.acks.chan sid).isOpen = true) :
    (s.acks.chan sid).isOpen = true := by
  obtain ⟨d, hd, -, -, -, -, hack⟩ := State.delivery_moved h
  rw [hack] at ho
  have hset : ∀ (sid' : SessionId) (c : Chan ChatMessage channelBufferSize),
      ((s.acks.set sid' c).chan sid).isOpen = true →
      (sid = sid' → c.isOpen = true → (s.acks.chan sid).isOpen = true) →
      (s.acks.chan sid).isOpen = true := by
    intro sid' c ho hself
    by_cases hs : sid = sid'
    · subst hs
      rw [Outbox.set_chan_self] at ho
      exact hself rfl ho
    · rwa [Outbox.set_chan_ne _ _ hs] at ho
  cases hd with
  | opened found creating =>
    apply hset _ _ ho
    intro hs _
    obtain ⟨ses, hses, hp⟩ := hc
    obtain rfl := Option.some.inj (hses.symm.trans (hs ▸ found))
    exact absurd creating hp
  | closed sid' => exact hset _ _ ho fun _ hc => nomatch hc
  | taken recv =>
    apply hset _ _ ho
    intro hs hc
    rw [hs, ← (Chan.recv_some recv).2]
    exact hc
  | acked action found running reply room => rwa [Outbox.trySend_isOpen] at ho
  | other notAck notLive => rwa [Outbox.trySend_isOpen] at ho
  | _ => exact ho

/-- The entry of ticket `w` in the log of the ack channels, for the reply `r`. -/
def ackEntry (t : AckTicket) (r : MessageAckResponse) : SessionId × ChatMessage :=
  (t.session, .messageAck t.clientMessageId r.messageId r.timestamp r.status)

/-- The log of the ack channels, read by the server message ids of the tickets. -/
structure AckLog (s : State) : Prop where
  /-- No two tickets have one server message id. -/
  distinct : ∀ k k' w w', s.ackRelays.get? k = some w → s.ackRelays.get? k' = some w' →
    w.context.serverMessageId = w'.context.serverMessageId → k = k'
  /-- A session sends frames only once its ack channel is there. The channel is not opened again, so
  what is put into it is not lost behind a later one. -/
  created : ∀ k w, s.ackRelays.get? k = some w → s.Created w.context.session
  /-- Nobody but the waiting task of a ticket writes an acknowledgement, and it does so last. -/
  logged : ∀ sid c id t st, (sid, .messageAck c id t st) ∈ s.acks.log →
    ∃ k w r, s.ackRelays.get? k = some w ∧ w.done = true ∧ w.reply = .sent r ∧
      (sid, .messageAck c id t st) = ackEntry w.context r
  /-- With `distinct` this is why the acknowledgement that comes is the first one. -/
  waiting : ∀ k w, s.ackRelays.get? k = some w → w.done = false →
    s.ackCount w.context.serverMessageId = 0
  atMostOne : ∀ k w, s.ackRelays.get? k = some w → s.ackCount w.context.serverMessageId ≤ 1
  /-- A task that is over has put its acknowledgement into the channel, unless this was closed; and a
  channel that is open now was open then. -/
  done : ∀ k w, s.ackRelays.get? k = some w → w.done = true →
    (s.acks.chan w.context.session).isOpen = true → s.ackCount w.context.serverMessageId = 1

theorem mem_issuedIds {s : State} {k : AckId} {w : Waiter AckTicket MessageAckResponse}
    (h : s.ackRelays.get? k = some w) : w.context.serverMessageId ∈ s.issuedIds :=
  List.mem_map.mpr ⟨w, List.mem_of_getElem? h, rfl⟩

/-- What a step does to the log of acknowledgements, told by ticket. -/
inductive AckStep (s s' : State) : Prop
  /-- No ticket comes or ends, and no acknowledgement is sent. -/
  | quiet (count : ∀ id, s'.ackCount id = s.ackCount id)
      (log : ∀ sid c id t st, (sid, .messageAck c id t st) ∈ s'.acks.log →
        (sid, .messageAck c id t st) ∈ s.acks.log)
      (tickets : ∀ k w', s'.ackRelays.get? k = some w' → ∃ w, s.ackRelays.get? k = some w ∧
        w.context = w'.context ∧ w.done = w'.done)
      (stillOpen : ∀ sid, s.Created sid → (s'.acks.chan sid).isOpen = true →
        (s.acks.chan sid).isOpen = true)
  | asked {t : AckTicket} (acks : s'.acks = s.acks) (fresh : t.serverMessageId ∉ s.issuedIds)
      (created : s.Created t.session) (relays : s'.ackRelays = s.ackRelays.alloc (.start t))
  /-- A relay task ends; where the channel is open it has passed its reply on. -/
  | acked {k : AckId} {w : Waiter AckTicket MessageAckResponse} {r : MessageAckResponse}
      (found : s.ackRelays.get? k = some w) (running : w.done = false) (reply : w.reply = .sent r)
      (relays : s'.ackRelays = s.ackRelays.modify k (·.finish))
      (stillOpen : ∀ sid, (s'.acks.chan sid).isOpen = (s.acks.chan sid).isOpen)
      (sent : s'.acks.log = s.acks.log ++ [ackEntry w.context r] ∨
        s'.acks.log = s.acks.log ∧ (s.acks.chan w.context.session).isOpen = false)

theorem State.ackCount_append {s s' : State} {x : SessionId × ChatMessage}
    (h : s'.acks.log = s.acks.log ++ [x]) (id : Uuid) : s'.ackCount id = s.ackCount id +
      match x.2 with
      | .messageAck _ id' _ _ => if id' = id then 1 else 0
      | _ => 0 := by
  simp only [State.ackCount, h, List.countP_append, List.countP_singleton]
  cases x.2 <;> simp

theorem ack_step {db : Db} {s s' : State} {act : Action} (h : s.step db act = some s')
    (hw : Wired s) (hi : Answers s) : AckStep s s' := by
  obtain ⟨d, hd, -, -, -, hrel, hack⟩ := State.delivery_moved h
  have hcount : s'.acks.log = s.acks.log → ∀ id, s'.ackCount id = s.ackCount id :=
    fun hl id => by rw [State.ackCount, hl, State.ackCount]
  have hlog : s'.acks.log = s.acks.log → ∀ sid c id t st,
      (sid, ChatMessage.messageAck c id t st) ∈ s'.acks.log →
        (sid, ChatMessage.messageAck c id t st) ∈ s.acks.log :=
    fun hl _ _ _ _ _ hm => hl ▸ hm
  -- A step that touches the tickets only by sending to one of them, or not at all.
  have hquiet : s'.acks = s.acks → (∀ k w', s'.ackRelays.get? k = some w' →
      ∃ w, s.ackRelays.get? k = some w ∧ w.context = w'.context ∧ w.done = w'.done) →
      AckStep s s' := by
    intro ha htick
    have hl : s'.acks.log = s.acks.log := congrArg Outbox.log ha
    exact .quiet (hcount hl) (hlog hl) htick fun _ => acks_stillOpen h
  have hsend : ∀ (j : AckId) (f : Waiter AckTicket MessageAckResponse →
      Waiter AckTicket MessageAckResponse), s'.ackRelays = s.ackRelays.modify j f →
      (∀ w, (f w).context = w.context ∧ (f w).done = w.done) →
      ∀ k w', s'.ackRelays.get? k = some w' →
      ∃ w, s.ackRelays.get? k = some w ∧ w.context = w'.context ∧ w.done = w'.done := by
    intro j f he hf k w' hw'
    rw [he] at hw'
    rcases Arena.get?_modify_eq_some.mp hw' with ⟨-, w₀, hw₀, rfl⟩ | ⟨-, hw₀⟩
    · exact ⟨w₀, hw₀, (hf w₀).1.symm, (hf w₀).2.symm⟩
    · exact ⟨w', hw₀, rfl, rfl⟩
  have hsame : s'.ackRelays = s.ackRelays → ∀ k w', s'.ackRelays.get? k = some w' →
      ∃ w, s.ackRelays.get? k = some w ∧ w.context = w'.context ∧ w.done = w'.done :=
    fun he k w' hw' => ⟨w', he ▸ hw', rfl, rfl⟩
  -- A step that replaces one channel.
  have hset : ∀ (sid : SessionId) (c : Chan ChatMessage channelBufferSize),
      s'.acks = s.acks.set sid c → s'.ackRelays = s.ackRelays → AckStep s s' := by
    intro sid c ha hr
    have hl : s'.acks.log = s.acks.log := by rw [ha, Outbox.set_log]
    exact .quiet (hcount hl) (hlog hl) (hsame hr) fun _ => acks_stillOpen h
  cases hd with
  | asked action found active fresh session serverId acknowledges =>
    refine .asked hack (serverId ▸ fresh) (session ▸ ⟨_, found, fun hc => ?_⟩) hrel
    have hidle := (hw.registry.session _ _ found).idle hc
    rw [hidle] at active
    exact absurd active (by decide)
  | refused action next message unknown =>
    exact hquiet hack (hsend _ _ hrel fun _ => ⟨rfl, rfl⟩)
  | lost action next message known dead =>
    exact hquiet hack (hsend _ _ hrel fun _ => ⟨rfl, rfl⟩)
  | answered action found running ended returned =>
    exact hquiet hack (hsend _ _ hrel fun _ => ⟨rfl, rfl⟩)
  | opened found creating => exact hset _ _ hack hrel
  | closed sid => exact hset _ _ hack hrel
  | taken recv => exact hset _ _ hack hrel
  | @acked k w r action found running reply room =>
    refine .acked found running reply hrel (fun sid => by rw [hack]; exact Outbox.trySend_isOpen ..) ?_
    rw [hack]
    by_cases hacc : (s.acks.chan w.context.session).Accepts
    · exact .inl (Outbox.trySend_of_accepts hacc _)
    · refine .inr ⟨congrArg Outbox.log (Outbox.trySend_of_not_accepts hacc _), ?_⟩
      exact Bool.eq_false_iff.mpr fun ho => hacc (room ho)
  | gaveUp found running dropped => exact absurd dropped (hi.undropped _ _ found)
  | @other sid m notAck notLive =>
    rcases s.acks.trySend_cases sid m with ⟨-, hl, -⟩ | ⟨-, he⟩
    · have hl' : s'.acks.log = s.acks.log ++ [(sid, m)] := by rw [hack]; exact hl
      refine .quiet (fun id => ?_) (fun sid' c id t st hm => ?_) (hsame hrel)
        fun _ => acks_stillOpen h
      · rw [State.ackCount_append hl']
        cases m with
        | messageAck c id' t st => exact absurd rfl (notAck c id' t st)
        | _ => rfl
      · rw [hl'] at hm
        rcases List.mem_append.mp hm with hm | hm
        · exact hm
        · exact absurd (congrArg Prod.snd (List.mem_singleton.mp hm)).symm (notAck c id t st)
    · exact hquiet (hack.trans he) (hsame hrel)
  | _ => exact hquiet hack (hsame hrel)

namespace AckLog

variable {db : Db} {s s' : State} {act : Action}

theorem quiet (hi : AckLog s) (h : s.step db act = some s')
    (count : ∀ id, s'.ackCount id = s.ackCount id)
    (log : ∀ sid c id t st, (sid, .messageAck c id t st) ∈ s'.acks.log →
      (sid, .messageAck c id t st) ∈ s.acks.log)
    (tickets : ∀ k w', s'.ackRelays.get? k = some w' → ∃ w, s.ackRelays.get? k = some w ∧
      w.context = w'.context ∧ w.done = w'.done)
    (stillOpen : ∀ sid, s.Created sid → (s'.acks.chan sid).isOpen = true →
      (s.acks.chan sid).isOpen = true) : AckLog s' := by
  refine ⟨fun k k' w w' hk hk' hid => ?_, fun k w hk => ?_, fun sid c id t st hm => ?_,
    fun k w hk hd => ?_, fun k w hk => ?_, fun k w hk hd ho => ?_⟩
  · obtain ⟨v, hv, hc, -⟩ := tickets k w hk
    obtain ⟨v', hv', hc', -⟩ := tickets k' w' hk'
    exact hi.distinct k k' v v' hv hv' (by rw [hc, hc', hid])
  · obtain ⟨v, hv, hc, -⟩ := tickets k w hk
    exact hc ▸ created_step h (hi.created k v hv)
  · obtain ⟨k, w, r, hk, hd, hr, he⟩ := hi.logged sid c id t st (log _ _ _ _ _ hm)
    obtain ⟨w', hk', hc, hsent, hdone⟩ := relay_step h hk
    exact ⟨k, w', r, hk', hdone hd, hsent r hr, hc ▸ he⟩
  · obtain ⟨v, hv, hc, hdv⟩ := tickets k w hk
    rw [count, ← hc]
    exact hi.waiting k v hv (hdv.trans hd)
  · obtain ⟨v, hv, hc, -⟩ := tickets k w hk
    rw [count, ← hc]
    exact hi.atMostOne k v hv
  · obtain ⟨v, hv, hc, hdv⟩ := tickets k w hk
    rw [← hc] at ho ⊢
    rw [count]
    exact hi.done k v hv (hdv.trans hd) (stillOpen _ (hi.created k v hv) ho)

/-- Nothing has been sent for an id that is fresh. -/
theorem ackCount_fresh (hi : AckLog s) (ha : Answers s) {id : Uuid} (fresh : id ∉ s.issuedIds) :
    s.ackCount id = 0 := by
  refine List.countP_eq_zero.mpr fun ⟨sid, m⟩ hm hp => ?_
  cases m with
  | messageAck c id' time st =>
    obtain rfl : id' = id := by simpa using hp
    obtain ⟨k, w, r, hk, -, hr, he⟩ := hi.logged sid c _ time st hm
    have hid : id' = r.messageId := by
      simp only [ackEntry, Prod.mk.injEq, ChatMessage.messageAck.injEq] at he
      exact he.2.2.1
    rw [hid, (ha.replies k w r hk hr).1] at fresh
    exact fresh (mem_issuedIds hk)
  | _ => cases hp

theorem asked (hi : AckLog s) (ha : Answers s) (h : s.step db act = some s') {t : AckTicket}
    (acks : s'.acks = s.acks) (fresh : t.serverMessageId ∉ s.issuedIds)
    (created : s.Created t.session) (relays : s'.ackRelays = s.ackRelays.alloc (.start t)) :
    AckLog s' := by
  have hcount : ∀ id, s'.ackCount id = s.ackCount id := fun id => by
    rw [State.ackCount, acks, State.ackCount]
  have hnew := hi.ackCount_fresh ha fresh
  refine ⟨fun k k' w w' hk hk' hid => ?_, fun k w hk => ?_, fun sid c id t st hm => ?_,
    fun k w hk hd => ?_, fun k w hk => ?_, fun k w hk hd ho => ?_⟩ <;>
    rw [relays] at *
  · rcases Arena.get?_alloc_eq_some.mp hk with ⟨rfl, rfl⟩ | hk <;>
      rcases Arena.get?_alloc_eq_some.mp hk' with ⟨rfl, rfl⟩ | hk'
    · rfl
    · exact absurd (hid ▸ mem_issuedIds hk') fresh
    · exact absurd (hid ▸ mem_issuedIds hk) fresh
    · exact hi.distinct k k' w w' hk hk' hid
  · rcases Arena.get?_alloc_eq_some.mp hk with ⟨-, rfl⟩ | hk
    · exact created_step h created
    · exact created_step h (hi.created k w hk)
  · rw [acks] at hm
    obtain ⟨k, w, r, hk, hd, hr, he⟩ := hi.logged sid c id t st hm
    exact ⟨k, w, r, Arena.get?_alloc_of_some hk, hd, hr, he⟩
  · rw [hcount]
    rcases Arena.get?_alloc_eq_some.mp hk with ⟨-, rfl⟩ | hk
    · exact hnew
    · exact hi.waiting k w hk hd
  · rw [hcount]
    rcases Arena.get?_alloc_eq_some.mp hk with ⟨-, rfl⟩ | hk
    · exact hnew ▸ Nat.zero_le 1
    · exact hi.atMostOne k w hk
  · rw [hcount]
    rcases Arena.get?_alloc_eq_some.mp hk with ⟨-, rfl⟩ | hk
    · cases hd
    · rw [acks] at ho
      exact hi.done k w hk hd ho

theorem acked (hi : AckLog s) (ha : Answers s) (h : s.step db act = some s') {j : AckId}
    {v : Waiter AckTicket MessageAckResponse} {r : MessageAckResponse}
    (found : s.ackRelays.get? j = some v) (running : v.done = false) (reply : v.reply = .sent r)
    (relays : s'.ackRelays = s.ackRelays.modify j (·.finish))
    (stillOpen : ∀ sid, (s'.acks.chan sid).isOpen = (s.acks.chan sid).isOpen)
    (sent : s'.acks.log = s.acks.log ++ [ackEntry v.context r] ∨
      s'.acks.log = s.acks.log ∧ (s.acks.chan v.context.session).isOpen = false) : AckLog s' := by
  have hid := (ha.replies j v r found reply).1
  have hzero := hi.waiting j v found running
  -- The count of `v` goes from nought to one, or stays where the channel is closed.
  have hself : s'.ackCount v.context.serverMessageId ≤ 1 ∧
      ((s.acks.chan v.context.session).isOpen = true →
        s'.ackCount v.context.serverMessageId = 1) := by
    rcases sent with hl | ⟨hl, hcl⟩
    · rw [State.ackCount_append hl, hzero]
      simp [ackEntry, hid]
    · rw [State.ackCount, hl, ← State.ackCount, hzero]
      exact ⟨Nat.zero_le 1, fun ho => by rw [hcl] at ho; cases ho⟩
  have hother : ∀ k w, s.ackRelays.get? k = some w → k ≠ j →
      s'.ackCount w.context.serverMessageId = s.ackCount w.context.serverMessageId := by
    intro k w hk hkj
    rcases sent with hl | ⟨hl, -⟩
    · have hne : ¬ v.context.serverMessageId = w.context.serverMessageId :=
        fun he => hkj (hi.distinct j k v w found hk he).symm
      rw [State.ackCount_append hl]
      simp [ackEntry, hid, hne]
    · rw [State.ackCount, hl, State.ackCount]
  have hcases : ∀ k w, s'.ackRelays.get? k = some w → (k = j ∧ w = v.finish) ∨
      (k ≠ j ∧ s.ackRelays.get? k = some w) := by
    intro k w hk
    rw [relays] at hk
    rcases Arena.get?_modify_eq_some.mp hk with ⟨rfl, v', hv', rfl⟩ | hk
    · obtain rfl := Option.some.inj (hv'.symm.trans found)
      exact .inl ⟨rfl, rfl⟩
    · exact .inr hk
  have hctx : ∀ k w, s'.ackRelays.get? k = some w →
      ∃ w₀, s.ackRelays.get? k = some w₀ ∧ w₀.context = w.context := by
    intro k w hk
    rcases hcases k w hk with ⟨rfl, rfl⟩ | ⟨-, hk⟩
    · exact ⟨v, found, rfl⟩
    · exact ⟨w, hk, rfl⟩
  refine ⟨fun k k' w w' hk hk' hid => ?_, fun k w hk => ?_, fun sid c id t st hm => ?_,
    fun k w hk hd => ?_, fun k w hk => ?_, fun k w hk hd ho => ?_⟩
  · obtain ⟨w₀, hk₀, hc₀⟩ := hctx k w hk
    obtain ⟨w₁, hk₁, hc₁⟩ := hctx k' w' hk'
    exact hi.distinct k k' w₀ w₁ hk₀ hk₁ (by rw [hc₀, hc₁, hid])
  · obtain ⟨w₀, hk₀, hc₀⟩ := hctx k w hk
    exact hc₀ ▸ created_step h (hi.created k w₀ hk₀)
  · have hold : (sid, ChatMessage.messageAck c id t st) ∈ s.acks.log ∨
        (sid, ChatMessage.messageAck c id t st) = ackEntry v.context r := by
      rcases sent with hl | ⟨hl, -⟩
      · rw [hl] at hm
        exact (List.mem_append.mp hm).imp_right List.mem_singleton.mp
      · exact .inl (hl ▸ hm)
    rcases hold with hm | he
    · obtain ⟨k, w, r', hk, hd, hr, he⟩ := hi.logged sid c id t st hm
      obtain ⟨w', hk', hc, hsent, hdone⟩ := relay_step h hk
      exact ⟨k, w', r', hk', hdone hd, hsent r' hr, hc ▸ he⟩
    · exact ⟨j, v.finish, r, by rw [relays]; exact Arena.get?_modify_self found, rfl, reply, he⟩
  · rcases hcases k w hk with ⟨rfl, rfl⟩ | ⟨hkj, hk⟩
    · cases hd
    · rw [hother k w hk hkj]
      exact hi.waiting k w hk hd
  · rcases hcases k w hk with ⟨rfl, rfl⟩ | ⟨hkj, hk⟩
    · exact hself.1
    · rw [hother k w hk hkj]
      exact hi.atMostOne k w hk
  · rw [stillOpen] at ho
    rcases hcases k w hk with ⟨rfl, rfl⟩ | ⟨hkj, hk⟩
    · exact hself.2 ho
    · rw [hother k w hk hkj]
      exact hi.done k w hk hd ho

theorem step (hi : AckLog s) (ha : Answers s) (hw : Wired s) (h : s.step db act = some s') :
    AckLog s' := by
  cases ack_step h hw ha with
  | quiet count log tickets stillOpen => exact hi.quiet h count log tickets stillOpen
  | asked acks fresh created relays => exact hi.asked ha h acks fresh created relays
  | acked found running reply relays stillOpen sent =>
    exact hi.acked ha h found running reply relays stillOpen sent

theorem start (store : Store) : AckLog (.start store) where
  distinct k k' w w' hk := absurd hk (by simp [State.start])
  created k w hk := absurd hk (by simp [State.start])
  logged sid c id t st hm := absurd hm (by simp [State.start, Outbox.idle])
  waiting k w hk := absurd hk (by simp [State.start])
  atMostOne k w hk := absurd hk (by simp [State.start])
  done k w hk := absurd hk (by simp [State.start])

end AckLog

/-! ## The protocol -/

/-- The parts of the invariant together. -/
structure Acked (s : State) : Prop where
  wired : Wired s
  routing : Routing s
  answers : Answers s
  log : AckLog s

theorem acked {db : Db} {store : Store} {s : State} (h : (system db store).Reachable s) :
    Acked s :=
  h.invariant (I := Acked)
    ⟨wired_start store, .start store, .start store, .start store⟩
    fun _ _ _ _ hs hi => ⟨hi.wired.step hs, hi.routing.step hs, hi.answers.step hi.routing hs,
      hi.log.step hi.answers hi.wired hs⟩

/-- A frame of a session of `u` that is to be acknowledged, with its client message id. -/
inductive AsksAck (u : TenantUserId) : ChatMessage → Uuid → Prop
  | direct (conversationId : String) (toUser : TenantUserId) (content : String) (id : Uuid) :
      AsksAck u (.sendDirectMessage conversationId toUser content id) id
  | room (roomId content : String) (id : Uuid) : AsksAck u (.roomMessage roomId u content id) id

/-- All tasks of the ticket have run: nobody holds its responder any more, and the task that
waits for the reply is over. -/
def State.Settled (s : State) (t : AckTicket) : Prop :=
  ∀ k w, s.ackRelays.get? k = some w → w.context = t → ¬ s.Held k ∧ w.done = true

/-- What has become of a frame of `u` that is to be acknowledged. -/
structure AckOutcome (s : State) (u : TenantUserId) (t : AckTicket) : Prop where
  atMostOne : s.ackCount t.serverMessageId ≤ 1
  own : ∀ sid c time st, (sid, .messageAck c t.serverMessageId time st) ∈ s.acks.log →
    sid = t.session ∧ c = t.clientMessageId
  persisted : ∀ sid c time,
    (sid, .messageAck c t.serverMessageId time .persisted) ∈ s.acks.log → s.Stored u t
  exactlyOne : s.Settled t → (s.acks.chan t.session).isOpen = true →
    s.ackCount t.serverMessageId = 1
  /-- As long as the waiting task is not over, somebody holds the responder, or the reply is
  there. -/
  unsettled : ∃ k w, s.ackRelays.get? k = some w ∧ w.context = t ∧
    (w.done = false → s.Held k ∨ ∃ r, w.reply = .sent r)

theorem handleFrame_ticket (s : State) {sid : SessionId} {u : TenantUserId} {f : ChatMessage}
    {cid : Uuid} (hf : AsksAck u f cid) (id : Uuid) :
    (s.handleFrame sid u id (some f)).ackRelays =
      s.ackRelays.alloc (.start ⟨sid, cid, f, id⟩) := by
  cases hf with
  | direct => rfl
  | room roomId content => simp [State.handleFrame, State.sendRoomMessage]

theorem outcome_of_ticket {s : State} (hi : Acked s) {t : AckTicket} {u : TenantUserId}
    (hu : s.UserOf t.session u) {k : AckId} {w : Waiter AckTicket MessageAckResponse}
    (hk : s.ackRelays.get? k = some w) (hw : w.context = t) : AckOutcome s u t := by
  subst hw
  -- An acknowledgement with the ticket's id has come from the ticket.
  have hown : ∀ sid c time st, (sid, ChatMessage.messageAck c w.context.serverMessageId time st) ∈
      s.acks.log → ∃ r, w.reply = .sent r ∧
        (sid, ChatMessage.messageAck c w.context.serverMessageId time st) =
          ackEntry w.context r := by
    intro sid c time st hm
    obtain ⟨k', w', r, hk', -, hr, he⟩ := hi.log.logged sid c _ time st hm
    have hid : w.context.serverMessageId = r.messageId := by
      simp only [ackEntry, Prod.mk.injEq, ChatMessage.messageAck.injEq] at he
      exact he.2.2.1
    have hid' := (hi.answers.replies k' w' r hk' hr).1
    obtain rfl := hi.log.distinct k k' w w' hk hk' (hid.trans hid')
    obtain rfl := Option.some.inj (hk.symm.trans hk')
    exact ⟨r, hr, he⟩
  refine ⟨hi.log.atMostOne k w hk, fun sid c time st hm => ?_, fun sid c time hm => ?_,
    fun hs ho => hi.log.done k w hk (hs k w hk rfl).2 ho, k, w, hk, rfl, fun _ => ?_⟩
  · obtain ⟨r, -, he⟩ := hown sid c time st hm
    simp only [ackEntry, Prod.mk.injEq, ChatMessage.messageAck.injEq] at he
    exact ⟨he.1, he.2.1⟩
  · obtain ⟨r, hr, he⟩ := hown sid c time _ hm
    simp only [ackEntry, Prod.mk.injEq, ChatMessage.messageAck.injEq] at he
    obtain ⟨v, hv, hst⟩ := (hi.answers.replies k w r hk hr).2 he.2.2.2.2.symm
    exact hu.unique hv ▸ hst
  · cases hr : w.reply with
    | pending => exact .inl (hi.answers.held k w hk hr)
    | sent r => exact .inr ⟨r, rfl⟩
    | dropped => exact absurd hr (hi.answers.undropped k w hk)

/-- **The acknowledgement protocol.** A `SendDirectMessage` of a session, or a `RoomMessage`
in the name of its own user, is acknowledged at most once, on the session's own channel and
under its own ids; exactly once when all its tasks have run and the channel is still there;
and as `Persisted` only if chat-service has accepted the write of just this message. This
holds in every state of every run that goes on from the frame. -/
theorem acknowledgement_protocol {db : Db} {store : Store} {s s' t : State} {sid : SessionId}
    {ses : UserSession} {f : ChatMessage} {cid id : Uuid} {run : List Action}
    (h : (system db store).Reachable s) (hses : s.sessions.get? sid = some ses)
    (hf : AsksAck ses.tenantUserId f cid) (hs : s.step db (.frame sid (some f) id) = some s')
    (hrun : (system db store).Run s' run t) :
    AckOutcome t ses.tenantUserId ⟨sid, cid, f, id⟩ := by
  -- The ticket the frame creates is there for good.
  have hticket : ∃ k w, s'.ackRelays.get? k = some w ∧ w.context = ⟨sid, cid, f, id⟩ := by
    cases State.stepped hs with
    | framed found active fresh result =>
      obtain rfl := Option.some.inj (found.symm.trans hses)
      exact ⟨_, _, by rw [← result, handleFrame_ticket s hf]; exact Arena.get?_alloc_self, rfl⟩
  have huser : s'.UserOf sid ses.tenantUserId := userOf_step hs ⟨ses, hses, rfl⟩
  have hlater : (∃ k w, t.ackRelays.get? k = some w ∧ w.context = ⟨sid, cid, f, id⟩) ∧
      t.UserOf sid ses.tenantUserId := by
    refine hrun.invariant (I := fun s => (∃ k w, s.ackRelays.get? k = some w ∧
      w.context = ⟨sid, cid, f, id⟩) ∧ s.UserOf sid ses.tenantUserId) ?_ ⟨hticket, huser⟩
    rintro s a s' hs ⟨⟨k, w, hk, hw⟩, hu⟩
    obtain ⟨w', hk', hc, -, -⟩ := relay_step hs hk
    exact ⟨⟨k, w', hk', hc.trans hw⟩, userOf_step hs hu⟩
  obtain ⟨⟨k, w, hk, hw⟩, hu⟩ := hlater
  have hreach : (system db store).Reachable s' := h.step (a := .frame sid (some f) id) hs
  exact outcome_of_ticket (acked (hreach.run hrun)) hu hk hw

/-- `alice` is connected. -/
def connected : List Action := [.connect alice, .router 0 0, .finishCreation 0]

/-- A message of hers is stored, and acknowledged. -/
def acknowledged : List Action := [.router 5 6, .serveWrite 0 none, .persist 0 none 7, .ackRelay 0]

theorem acknowledgement_protocol_directMessage :
    ∃ s s' t, (system lenientDb .empty).exec (.start .empty) connected = some s ∧
      s.step lenientDb (.frame 0 (some (.sendDirectMessage "c" bob "hi" (.ofTime 9)))
        (.ofTime 1)) = some s' ∧
      (system lenientDb .empty).exec s' acknowledged = some t ∧
      t.acks.log = [(0, .messageAck (.ofTime 9) (.ofTime 1) 7 .persisted)] ∧
      AckOutcome t alice
        ⟨0, .ofTime 9, .sendDirectMessage "c" bob "hi" (.ofTime 9), .ofTime 1⟩ := by
  obtain ⟨s, hs, hu⟩ := Option.map_eq_some_iff.mp
    (show ((system lenientDb .empty).exec (.start .empty) connected).map (fun s =>
      (s.sessions.get? 0).map (·.tenantUserId)) = some (some alice) from rfl)
  obtain ⟨ses, hses, hal⟩ := Option.map_eq_some_iff.mp hu
  obtain ⟨t, ht, hlog⟩ := Option.map_eq_some_iff.mp
    (show ((system lenientDb .empty).exec (.start .empty) (connected ++
        .frame 0 (some (.sendDirectMessage "c" bob "hi" (.ofTime 9))) (.ofTime 1) ::
          acknowledged)).map (·.acks.log) =
      some [(0, .messageAck (.ofTime 9) (.ofTime 1) 7 .persisted)] from rfl)
  rw [Machine.exec_append, hs, Option.bind_some] at ht
  obtain ⟨s', hs', ht⟩ := Option.bind_eq_some_iff.mp ht
  have hout := acknowledgement_protocol (Machine.reachable_of_exec hs) hses (.direct "c" bob "hi" _)
    hs' (Machine.run_of_exec ht)
  exact ⟨s, s', t, hs, hs', ht, hlog, hal ▸ hout⟩

end PerOxo
