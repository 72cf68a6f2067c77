import PerOxo.Proof.Acks
import PerOxo.Proof.Owed
import PerOxo.Proof.Work

/-!
# The server at rest

What the server does by itself comes to an end (`own_steps_bounded`). Where it has, nothing is
left undone, unless something has failed from outside: `State.quiet` reads off each step that is
not enabled what there is not any more, and the invariants of `Unforgotten` say that there is no
other way of being stuck. So no two parts of the server wait for each other, and a client that
stays connected gets everything it is due (`comes_to_rest`).
-/

set_option autoImplicit false

namespace PerOxo

open ChatService PersistenceService

/-! ## Steps in which nothing fails -/

/-- The server does this by itself, and nothing around it fails: what is written arrives, no call
fails, and the cluster has no fault. -/
def Action.smooth : Action → Bool
  | .connect _ => false
  | .frame _ _ _ => false
  | .cleanupTick _ => false
  | .send _ _ written => written
  | .serveWrite _ fault => fault.isNone
  | .serveHistory _ fault => fault.isNone
  | .serveSync _ fault => fault.isNone
  | .persist _ failure _ => failure.isNone
  | .historyRead _ failure _ => failure.isNone
  | .syncRead _ failure _ => failure.isNone
  | _ => true

/-- The clients stay connected: a receive task ends only if it has been aborted. -/
def State.Smooth (s : State) (act : Action) : Prop :=
  act.smooth = true ∧ ∀ sid ses, act = .recvTaskEnd sid → s.sessions.get? sid = some ses →
    ses.recvTask = .aborting

theorem Action.own_of_smooth {act : Action} (h : act.smooth = true) : act.own = true := by
  cases act with
  | connect u => cases h
  | frame sid text id => cases h
  | cleanupTick a => cases h
  | _ => rfl

/-! ## Rest -/

/-- A session that has nothing left to do: it is there, it has ended, or it never was. -/
inductive UserSession.Still (ses : UserSession) : Prop
  | running (phase : ses.phase = .running) (send : ses.sendTask = .running)
      (recv : ses.recvTask = .running)
  | ended (phase : ses.phase = .ended) (send : ses.sendTask = .finished)
      (recv : ses.recvTask = .finished)
  | failed (e : String) (phase : ses.phase = .failed e)

/-- Nothing is queued, waits or is under way. -/
structure State.Quiet (s : State) : Prop where
  mailbox : s.mailbox = []
  rooms : ∀ a r, s.actors.get? a = some r → r.mailbox = []
  writes : ∀ c call, s.writes.get? c = some call → call.answer ≠ none
  persists : ∀ t p, s.persists.get? t = some p → p.done = true
  historyReads : ∀ t task, s.historyReads.get? t = some task → task.done = true
  syncReads : ∀ t task, s.syncReads.get? t = some task → task.done = true
  ackRelays : ∀ k w, s.ackRelays.get? k = some w → w.done = true
  historyRelays : ∀ k w, s.historyRelays.get? k = some w → w.done = true
  syncRelays : ∀ k w, s.syncRelays.get? k = some w → w.done = true
  joinBridges : ∀ j w, s.joinBridges.get? j = some w → w.done = true
  memberBridges : ∀ j w, s.memberBridges.get? j = some w → w.done = true
  sessions : ∀ sid ses, s.sessions.get? sid = some ses → ses.Still
  queues : ∀ sid, (s.queues.chan sid).buf = []
  acks : ∀ sid, (s.acks.chan sid).buf = []
  /-- Exactly the sessions that are still there are registered. -/
  online : ∀ u sid, s.router.users.lookup u = some sid ↔
    ∃ ses, s.sessions.get? sid = some ses ∧ ses.tenantUserId = u ∧ ses.phase = .running

section Rest

variable {db : Db} {store : Store} {s : State}

/-- A step that is not taken is not enabled. -/
theorem step_none (hrest : (system db store).AtRest State.Smooth s) (act : Action)
    (hsmooth : act.smooth = true) (hrecv : ∀ sid, act ≠ .recvTaskEnd sid) :
    s.step db act = none :=
  hrest.not_enabled (a := act) ⟨hsmooth, fun sid _ he => absurd he (hrecv sid)⟩

section Enabled

variable (hrest : (system db store).AtRest State.Smooth s)

include hrest

theorem rest_mailbox : s.mailbox = [] := by
  have hnone : s.routerStep 0 0 = none := step_none hrest (.router 0 0) rfl (by simp)
  unfold State.routerStep at hnone
  split at hnone
  · next hm => exact hm
  · cases hnone

theorem rest_room (hi : Owed s) {a : ActorId} {r : RoomActor} (hr : s.actors.get? a = some r) :
    r.mailbox = [] := by
  have hnone : s.roomStep a 0 = none := step_none hrest (.room a 0) rfl (by simp)
  cases hal : r.alive with
  | false => exact hi.stopped a r hr hal
  | true =>
    simp only [State.roomStep, hr, hal, if_true] at hnone
    split at hnone
    · next hm => exact hm
    · cases hnone

theorem rest_write {c : CallId} {call : WriteCall} (hc : s.writes.get? c = some call) :
    call.answer ≠ none := by
  intro ha
  have hnone : s.serveWrite db c none = none := step_none hrest (.serveWrite c none) rfl (by simp)
  obtain ⟨request, answer⟩ := call
  dsimp only at ha
  subst ha
  simp only [State.serveWrite, hc] at hnone
  cases hnone

theorem rest_persist (hr : Routing s) {t : Nat} {p : PersistTask}
    (hp : s.persists.get? t = some p) : p.done = true := by
  cases hd : p.done with
  | true => rfl
  | false =>
    have hnone : s.persistStep t none 0 = none := step_none hrest (.persist t none 0) rfl (by simp)
    -- Its call has been answered.
    obtain ⟨call, hc, -⟩ := hr.calls t p hp
    obtain ⟨response, ha⟩ := Option.ne_none_iff_exists'.mp (rest_write hrest hc)
    simp only [State.persistStep, hp, hd, hc, ha, State.callOutcome, Option.bind_some,
      Option.map_some, retryTurn] at hnone
    cases hnone

theorem rest_historyRead {t : Nat}
    {task : ReadTask GetPaginatedMessagesRequest GetPaginatedMessagesResponse}
    (ht : s.historyReads.get? t = some task) : task.done = true := by
  obtain ⟨request, answer, respondTo, done⟩ := task
  cases answer with
  | none =>
    have hnone : s.serveHistory db t none = none :=
      step_none hrest (.serveHistory t none) rfl (by simp)
    simp only [State.serveHistory, ht] at hnone
    cases hnone
  | some a =>
    cases done with
    | true => rfl
    | false =>
      have hnone : s.historyReadStep t none (fun _ => .ofTime 0) = none :=
        step_none hrest (.historyRead t none fun _ => .ofTime 0) rfl (by simp)
      simp only [State.historyReadStep, ht, State.callOutcome, Option.map_some] at hnone
      cases hnone

theorem rest_syncRead {t : Nat} {task : ReadTask SyncMessagesRequest SyncMessagesResponse}
    (ht : s.syncReads.get? t = some task) : task.done = true := by
  obtain ⟨request, answer, respondTo, done⟩ := task
  cases answer with
  | none =>
    have hnone : s.serveSync db t none = none := step_none hrest (.serveSync t none) rfl (by simp)
    simp only [State.serveSync, ht] at hnone
    cases hnone
  | some a =>
    cases done with
    | true => rfl
    | false =>
      have hnone : s.syncReadStep t none (fun _ => .ofTime 0) = none :=
        step_none hrest (.syncRead t none fun _ => .ofTime 0) rfl (by simp)
      simp only [State.syncReadStep, ht, State.callOutcome, Option.map_some] at hnone
      cases hnone

/-- A send task that still runs has emptied its channels. -/
theorem rest_send {sid : SessionId} {ses : UserSession} (hs : s.sessions.get? sid = some ses)
    (active : ses.sendTask.Active) :
    (s.queues.chan sid).buf = [] ∧ (s.acks.chan sid).buf = [] := by
  have hnone : ∀ fromAcks, s.sendStep sid fromAcks true = none :=
    fun fromAcks => step_none hrest (.send sid fromAcks true) rfl (by simp)
  have hempty : ∀ c : Chan ChatMessage channelBufferSize, c.recv = none → c.buf = [] := by
    rintro ⟨buf, isOpen, bound⟩ hc
    cases buf with
    | nil => rfl
    | cons m rest => cases hc
  constructor
  · have hq := hnone false
    simp only [State.sendStep, hs, active, if_true, State.takeMessage, Bool.false_eq_true, if_false,
      Option.map_eq_none_iff] at hq
    exact hempty _ hq
  · have ha := hnone true
    simp only [State.sendStep, hs, active, if_true, State.takeMessage,
      Option.map_eq_none_iff] at ha
    exact hempty _ ha

theorem rest_session (hi : Unforgotten s) {sid : SessionId} {ses : UserSession}
    (hs : s.sessions.get? sid = some ses) : ses.Still := by
  have hfinish : s.finishCreation sid = none := step_none hrest (.finishCreation sid) rfl (by simp)
  have hend : s.endSession sid = none := step_none hrest (.endSession sid) rfl (by simp)
  have hsendEnd : s.sendTaskEnd sid = none := step_none hrest (.sendTaskEnd sid) rfl (by simp)
  obtain ⟨hsend, hrecv⟩ := hi.manned.tasks sid ses hs
  cases hp : ses.phase with
  | creating =>
    simp only [State.finishCreation, hs, hp, if_true] at hfinish
    split at hfinish
    · next hpending =>
      -- Its `RegisterUser` would still be in the mailbox.
      have hcount := (hi.wired.registry.session sid ses hs).registers
      have hm : s.registry.mailbox = [] := rest_mailbox hrest
      rw [if_pos hpending, hm] at hcount
      cases hcount
    · cases hfinish
    · cases hfinish
    · cases hfinish
  | failed e => exact .failed e hp
  | running =>
    rw [hp] at hsend hrecv
    simp only [State.endSession, hs, hp, true_and] at hend
    split at hend
    · cases hend
    · next hover =>
      rw [not_or] at hover
      exact .running hp (hsend.resolve_right hover.1) (hrecv.resolve_right hover.2)
  | ended =>
    rw [hp] at hsend hrecv
    refine .ended hp (hsend.resolve_left fun ha => ?_) (hrecv.resolve_left fun ha => ?_)
    · simp only [State.sendTaskEnd, hs, ha, true_or, if_true] at hsendEnd
      cases hsendEnd
    · have hrecvEnd : s.recvTaskEnd sid = none := by
        refine hrest.not_enabled (a := .recvTaskEnd sid) ⟨rfl, fun sid' ses' he hs' => ?_⟩
        cases he
        exact Option.some.inj (hs.symm.trans hs') ▸ ha
      have hactive : ses.recvTask.Active := .inr ha
      simp only [State.recvTaskEnd, hs, hactive, if_true] at hrecvEnd
      cases hrecvEnd

/-- What is queued has somebody to take it, who would. -/
theorem rest_queues (hi : Unforgotten s) (sid : SessionId) : (s.queues.chan sid).buf = [] := by
  cases ho : (s.queues.chan sid).isOpen with
  | false => exact hi.paid.queues sid ho
  | true =>
    obtain ⟨ses, hs, hl⟩ := (hi.manned.queues sid).mp ho
    refine (rest_send hrest hs (hl.resolve_left fun hc => ?_)).1
    cases rest_session hrest hi hs with
    | running phase => exact absurd (hc.symm.trans phase) (by simp)
    | ended phase => exact absurd (hc.symm.trans phase) (by simp)
    | failed e phase => exact absurd (hc.symm.trans phase) (by simp)

theorem rest_acks (hi : Unforgotten s) (sid : SessionId) : (s.acks.chan sid).buf = [] := by
  cases ho : (s.acks.chan sid).isOpen with
  | false => exact hi.paid.acks sid ho
  | true =>
    obtain ⟨ses, hs, ha⟩ := (hi.manned.acks sid).mp ho
    exact (rest_send hrest hs ha).2

/-- Nobody waits for room in a channel. -/
theorem rest_pushAck (hi : Unforgotten s) (sid : SessionId) (m : ChatMessage) :
    s.pushAck sid m = some (s.acks.trySend sid m) := by
  refine if_neg fun hc => hc.2 ⟨hc.1, ?_⟩
  rw [rest_acks hrest hi]
  decide

theorem rest_ackRelay (hi : Unforgotten s) (hr : Routing s) (ha : Answers s) {k : AckId}
    {w : Waiter AckTicket MessageAckResponse} (hk : s.ackRelays.get? k = some w) :
    w.done = true := by
  cases hd : w.done with
  | true => rfl
  | false =>
    have hnone : s.ackRelayStep k = none := step_none hrest (.ackRelay k) rfl (by simp)
    cases hreply : w.reply with
    | pending =>
      cases ha.held k w hk hreply with
      | mailbox mem holds =>
        rw [rest_mailbox hrest] at mem
        cases mem
      | room found mem holds =>
        rw [rest_room hrest hi.owed found] at mem
        cases mem
      | task found running holds =>
        exact absurd (rest_persist hrest hr found) (by simp [running])
    | sent r =>
      simp [State.ackRelayStep, hk, hd, hreply, rest_pushAck hrest hi] at hnone
    | dropped => simp [State.ackRelayStep, hk, hd, hreply] at hnone

theorem rest_held {ρ σ τ : Type} {K : ReadKind ρ σ τ}
    (hreads : ∀ t task, (K.reads s).get? t = some task → task.done = true) (k : Nat) :
    ¬ K.Held s k := by
  rintro (⟨e, he, -⟩ | ⟨t, task, ht, hd, -⟩)
  · rw [rest_mailbox hrest] at he
    cases he
  · exact absurd (hreads t task ht) (by simp [hd])

theorem rest_historyRelay (hi : Unforgotten s) {k : HistoryId}
    {w : Waiter ReadTicket (Except String PaginatedMessagesResponse)}
    (hk : s.historyRelays.get? k = some w) : w.done = true := by
  cases hd : w.done with
  | true => rfl
  | false =>
    have hnone : s.historyRelayStep k = none := step_none hrest (.historyRelay k) rfl (by simp)
    cases hreply : w.reply with
    | pending =>
      exact absurd (hi.owed.history k w hk hreply)
        (rest_held hrest (K := .history) (fun t task ht => rest_historyRead hrest ht) k)
    | sent r =>
      cases r with
      | ok page => simp [State.historyRelayStep, hk, hd, hreply, rest_pushAck hrest hi] at hnone
      | error e => simp [State.historyRelayStep, hk, hd, hreply] at hnone
    | dropped => simp [State.historyRelayStep, hk, hd, hreply] at hnone

theorem rest_syncRelay (hi : Unforgotten s) {k : SyncId}
    {w : Waiter ReadTicket (Except String (List ResponseDirectMessage))}
    (hk : s.syncRelays.get? k = some w) : w.done = true := by
  cases hd : w.done with
  | true => rfl
  | false =>
    have hnone : s.syncRelayStep k = none := step_none hrest (.syncRelay k) rfl (by simp)
    cases hreply : w.reply with
    | pending =>
      exact absurd (hi.owed.sync k w hk hreply)
        (rest_held hrest (K := .sync) (fun t task ht => rest_syncRead hrest ht) k)
    | sent r =>
      cases r with
      | ok messages => simp [State.syncRelayStep, hk, hd, hreply, rest_pushAck hrest hi] at hnone
      | error e => simp [State.syncRelayStep, hk, hd, hreply] at hnone
    | dropped => simp [State.syncRelayStep, hk, hd, hreply] at hnone

theorem rest_asked (hi : Owed s) {id? : RoomMessage → Option Nat} (k : Nat) : ¬ s.Asked id? k := by
  rintro ⟨a, r, e, hr, he, -⟩
  rw [rest_room hrest hi hr] at he
  cases he

theorem rest_joinBridge (hi : Owed s) {j : RoomJoinId} {w : Waiter JoinId (Except String Unit)}
    (hj : s.joinBridges.get? j = some w) : w.done = true := by
  cases hd : w.done with
  | true => rfl
  | false =>
    have hnone : s.joinBridgeStep j = none := step_none hrest (.joinBridge j) rfl (by simp)
    cases hreply : w.reply with
    | pending => exact absurd (hi.joins j w hj hreply) (rest_asked hrest hi j)
    | _ => simp [State.joinBridgeStep, hj, hd, hreply] at hnone

theorem rest_memberBridge (hi : Owed s) {j : RoomMembersId}
    {w : Waiter MembersId (List TenantUserId)} (hj : s.memberBridges.get? j = some w) :
    w.done = true := by
  cases hd : w.done with
  | true => rfl
  | false =>
    have hnone : s.memberBridgeStep j = none := step_none hrest (.memberBridge j) rfl (by simp)
    cases hreply : w.reply with
    | pending => exact absurd (hi.members j w hj hreply) (rest_asked hrest hi j)
    | _ => simp [State.memberBridgeStep, hj, hd, hreply] at hnone

/-- With an empty mailbox the registry is up to date. -/
theorem rest_online (hi : Unforgotten s) (u : TenantUserId) (sid : SessionId) :
    s.router.users.lookup u = some sid ↔
      ∃ ses, s.sessions.get? sid = some ses ∧ ses.tenantUserId = u ∧ ses.phase = .running := by
  have hok := hi.wired.registry
  have hm : s.registry.mailbox = [] := rest_mailbox hrest
  have hcount : ∀ {sid ses}, s.sessions.get? sid = some ses →
      (Registry.countFrom RouterMessage.isUnregister sid s.registry.processed = 0 ↔
        ses.phase ≠ .ended) := by
    intro sid ses hs
    have hun := (hok.session sid ses hs).unregisters
    rw [hm] at hun
    simp only [Registry.countFrom, List.countP_nil, Nat.zero_add] at hun
    rw [Registry.countFrom, hun]
    by_cases hp : ses.phase = .ended <;> simp [hp]
  refine (hok.users u sid).trans ⟨?_, ?_⟩
  · rintro ⟨⟨ses, hs, hu, hreg⟩, hzero⟩
    refine ⟨ses, hs, hu, ?_⟩
    cases rest_session hrest hi hs with
    | running phase => exact phase
    | ended phase => exact absurd phase ((hcount hs).mp hzero)
    | failed e phase => exact absurd hreg ((hok.session sid ses hs).rejected e phase).2
  · rintro ⟨ses, hs, hu, hp⟩
    refine ⟨⟨ses, hs, hu, (hok.session sid ses hs).accepted (.inl hp)⟩, (hcount hs).mpr ?_⟩
    rw [hp]
    simp

end Enabled

/-- **Where nothing can go on, nothing is left to do.** -/
theorem State.quiet (h : (system db store).Reachable s)
    (hrest : (system db store).AtRest State.Smooth s) : s.Quiet :=
  let hi := unforgotten h
  let ha := acked h
  { mailbox := rest_mailbox hrest
    rooms := fun _ _ => rest_room hrest hi.owed
    writes := fun _ _ => rest_write hrest
    persists := fun _ _ => rest_persist hrest ha.routing
    historyReads := fun _ _ => rest_historyRead hrest
    syncReads := fun _ _ => rest_syncRead hrest
    ackRelays := fun _ _ => rest_ackRelay hrest hi ha.routing ha.answers
    historyRelays := fun _ _ => rest_historyRelay hrest hi
    syncRelays := fun _ _ => rest_syncRelay hrest hi
    joinBridges := fun _ _ => rest_joinBridge hrest hi.owed
    memberBridges := fun _ _ => rest_memberBridge hrest hi.owed
    sessions := fun _ _ => rest_session hrest hi
    queues := rest_queues hrest hi
    acks := rest_acks hrest hi
    online := rest_online hrest hi }

end Rest

/-! ## What a client is due -/

/-- The message acknowledges what has been sent under the id. -/
def ChatMessage.acknowledges (id : Uuid) : ChatMessage → Bool
  | .messageAck _ id' _ _ => decide (id' = id)
  | _ => false

/-- The clients that are still connected have got what is theirs. -/
structure State.Served (s : State) : Prop where
  /-- Whatever was put into a channel of the session has been written to its socket, once. -/
  written : ∀ sid ses, s.sessions.get? sid = some ses → ses.phase = .running →
    (Outbox.itemsOf sid s.socket).Perm
      (Outbox.itemsOf sid s.queues.log ++ Outbox.itemsOf sid s.acks.log)
  /-- Each message the session has sent has been acknowledged to it, once. -/
  acknowledged : ∀ k w ses, s.ackRelays.get? k = some w →
    s.sessions.get? w.context.session = some ses → ses.phase = .running →
    (Outbox.itemsOf w.context.session s.socket).countP
      (ChatMessage.acknowledges w.context.serverMessageId) = 1

section Served

variable {db : Db} {store : Store} {s t : State} {acts : List Action}

theorem countP_itemsOf {p : ChatMessage → Bool} {sid : SessionId}
    {l : List (SessionId × ChatMessage)} (h : ∀ x ∈ l, p x.2 = true → x.1 = sid) :
    (Outbox.itemsOf sid l).countP p = l.countP fun x => p x.2 := by
  rw [Outbox.itemsOf, List.countP_map, List.countP_filter]
  refine List.countP_congr fun x hx => ?_
  simp only [Function.comp_apply, Bool.and_eq_true, decide_eq_true_eq]
  exact ⟨fun hp => hp.1, fun hp => ⟨hp, h x hx hp⟩⟩

/-- A quiet server owes its clients nothing. -/
theorem State.Quiet.served (h : (system db store).Reachable s) (hq : s.Quiet) : s.Served := by
  have hi := unforgotten h
  have ha := acked h
  have hopen : ∀ {sid ses}, s.sessions.get? sid = some ses → ses.phase = .running →
      (s.queues.chan sid).isOpen = true ∧ (s.acks.chan sid).isOpen = true := by
    intro sid ses hs hp
    have hactive : ses.sendTask.Active := by
      cases hq.sessions sid ses hs with
      | running phase send recv => exact .inl send
      | ended phase => exact absurd (hp.symm.trans phase) (by simp)
      | failed e phase => exact absurd (hp.symm.trans phase) (by simp)
    exact ⟨(hi.manned.queues sid).mpr ⟨ses, hs, .inr hactive⟩,
      (hi.manned.acks sid).mpr ⟨ses, hs, hactive⟩⟩
  have hwritten : ∀ sid ses, s.sessions.get? sid = some ses → ses.phase = .running →
      (Outbox.itemsOf sid s.socket).Perm
        (Outbox.itemsOf sid s.queues.log ++ Outbox.itemsOf sid s.acks.log) := by
    intro sid ses hs hp
    have hbalanced := hi.paid.balanced sid (hopen hs hp).1
    rw [Outbox.Balanced, hq.queues, hq.acks, List.append_nil, List.append_nil] at hbalanced
    exact hbalanced
  refine ⟨hwritten, fun k w ses hk hs hp => ?_⟩
  have hout := outcome_of_ticket ha ⟨ses, hs, rfl⟩ hk rfl
  -- Every task of the ticket has run, so it has its acknowledgement, in the session's own channel.
  have hone : s.ackCount w.context.serverMessageId = 1 := by
    refine hout.exactlyOne (fun k' w' hk' _ => ⟨fun hheld => ?_, hq.ackRelays k' w' hk'⟩)
      (hopen hs hp).2
    cases hheld with
    | mailbox mem holds =>
      rw [hq.mailbox] at mem
      cases mem
    | room found mem holds =>
      rw [hq.rooms _ _ found] at mem
      cases mem
    | task found running holds => exact absurd (hq.persists _ _ found) (by simp [running])
  have hacks : (Outbox.itemsOf w.context.session s.acks.log).countP
      (ChatMessage.acknowledges w.context.serverMessageId) = 1 := by
    refine (countP_itemsOf fun x hx hack => ?_).trans ?_
    · obtain ⟨sid, m⟩ := x
      cases m with
      | messageAck c id time st =>
        obtain rfl := of_decide_eq_true hack
        exact (hout.own sid c time st hx).1
      | _ => cases hack
    · exact hone
  have hqueues : (Outbox.itemsOf w.context.session s.queues.log).countP
      (ChatMessage.acknowledges w.context.serverMessageId) = 0 := by
    refine List.countP_eq_zero.mpr fun m hm hack => ?_
    obtain ⟨x, hx, rfl⟩ := List.mem_map.mp hm
    have hlive := hi.paid.live x (List.mem_of_mem_filter hx)
    obtain ⟨sid, m⟩ := x
    cases m <;> simp_all [ChatMessage.acknowledges, ChatMessage.isAck]
  rw [(hwritten _ ses hs hp).countP_eq, List.countP_append, hqueues, hacks]

/-- **The server does not go on for ever by itself**: the steps it takes without a client and
without the clocks of the rooms are not more than what it has left to do. -/
theorem own_steps_bounded (h : (system db store).Reachable s)
    (hrun : (system db store).Run s acts t) (hown : ∀ act ∈ acts, act.own = true) :
    acts.length + t.work ≤ s.work :=
  hrun.length_le (J := Wired) (C := fun _ act => act.own = true)
    (fun _ _ _ hs hi => hi.step hs) (fun _ _ _ hs hi ho => work_step hi hs ho)
    (Machine.meets_of_forall (fun act ha _ => hown act ha) s) (wired h)

/-- `alice`, who is connected, has sent `bob` a message. -/
def sent : List Action :=
  connected ++ [.frame 0 (some (.sendDirectMessage "c" bob "hi" (.ofTime 9))) (.ofTime 1)]

theorem own_steps_bounded_sent :
    ∃ s t, (system lenientDb .empty).exec (.start .empty) sent = some s ∧
      (system lenientDb .empty).exec s (acknowledged ++ [Action.send 0 true true]) = some t ∧
      (acknowledged ++ [Action.send 0 true true]).length + t.work ≤ s.work := by
  obtain ⟨t, ht, -⟩ := Option.map_eq_some_iff.mp
    (show ((system lenientDb .empty).exec (.start .empty)
        (sent ++ (acknowledged ++ [Action.send 0 true true]))).map (·.mailbox) = some [] from rfl)
  rw [Machine.exec_append] at ht
  obtain ⟨s, hs, ht⟩ := Option.bind_eq_some_iff.mp ht
  exact ⟨s, t, hs, ht, own_steps_bounded (Machine.reachable_of_exec hs) (Machine.run_of_exec ht)
    (by decide)⟩

/-- **The server comes to rest.** From every reachable state it does so by itself, where nothing
around it fails, and whenever it cannot go on by itself, no message, no reply and no task is left:
every client that is still connected has got each message queued for it once, and one
acknowledgement for each message it has sent. -/
theorem comes_to_rest (h : (system db store).Reachable s) :
    (∃ acts t, (system db store).Run s acts t ∧ (system db store).Meets State.Smooth s acts ∧
      acts.length + t.work ≤ s.work ∧ t.Quiet ∧ t.Served) ∧
    ∀ acts t, (system db store).Run s acts t → (system db store).AtRest State.Smooth t →
      t.Quiet ∧ t.Served := by
  have hrest : ∀ acts t, (system db store).Run s acts t →
      (system db store).AtRest State.Smooth t → t.Quiet ∧ t.Served := by
    intro acts t hrun ht
    have hq := State.quiet (h.run hrun) ht
    exact ⟨hq, hq.served (h.run hrun)⟩
  have hstep : ∀ s act s', (system db store).step s act = some s' → Wired s → s.Smooth act →
      s'.work < s.work := fun _ _ _ hs hi ho => work_step hi hs (Action.own_of_smooth ho.1)
  have hkeep : ∀ s act s', (system db store).step s act = some s' → Wired s → Wired s' :=
    fun _ _ _ hs hi => hi.step hs
  obtain ⟨acts, t, hrun, hmeets, ht⟩ := Machine.exists_atRest hkeep hstep (wired h)
  exact ⟨⟨acts, t, hrun, hmeets, hrun.length_le hkeep hstep hmeets (wired h), hrest acts t hrun ht⟩,
    hrest⟩

theorem comes_to_rest_sent :
    ∃ s, (system lenientDb .empty).exec (.start .empty) sent = some s ∧
      (s.ackRelays.get? 0).map (·.done) = some false ∧
      ∃ acts t, (system lenientDb .empty).Run s acts t ∧ t.Quiet ∧ t.Served := by
  obtain ⟨s, hs, hdone⟩ := Option.map_eq_some_iff.mp
    (show ((system lenientDb .empty).exec (.start .empty) sent).map (fun s =>
      (s.ackRelays.get? 0).map (·.done)) = some (some false) from rfl)
  obtain ⟨⟨acts, t, hrun, -, -, hrest⟩, -⟩ := comes_to_rest (Machine.reachable_of_exec hs)
  exact ⟨s, hs, hdone, acts, t, hrun, hrest⟩

end Served

end PerOxo
