import PerOxo.Lib.Work
import PerOxo.Proof.Senders

/-!
# The server comes to rest

Clients connect and send frames, and the rooms have their clock; everything else the server does
by itself, and it does not go on for ever: each such step takes its share of `State.work`, so from
any state there are at most that many (`own_steps_bounded`). What is paid in advance: a message
in a mailbox pays for the task it may spawn and for the queues it may fill, a session for the
`UnregisterUser` it leaves behind.

A step may lower one part of the measure and raise another, so each part is dearer than what it may
turn into:

* a message to the router may found a room, which stops some time, and may be passed on to it while
  somebody waits for the answer: `routerMessageWork` is three more than `roomMessageWork`;
* a message to a room may be queued for each member, and may spawn a task that writes it down, with
  an answer of chat-service and a turn of the task for each attempt: `roomMessageWork`;
* a session that is being created pays for the tasks that it may start, and for its
  `UnregisterUser`.

How many members a room has is not bounded by itself, but they are different sessions
(`Wired.members_length_le`), and no step of the server's own makes a new one: so the number of
sessions is a constant of the measure, and only a client can raise the price.
-/

set_option autoImplicit false

namespace PerOxo

open ChatService PersistenceService

/-- The server does this by itself. -/
def Action.own : Action → Bool
  | .connect _ => false
  | .frame _ _ _ => false
  | .cleanupTick _ => false
  | _ => true

/-! ## What is left to do -/

/-- A task of a session ends, by itself or after it is aborted. -/
def TaskState.work : TaskState → Nat
  | .running => 1
  | .aborting => 1
  | _ => 0

/-- For each attempt that is left a turn of the task, which calls again, and the answer to the call;
and the last turn. -/
def PersistTask.work (p : PersistTask) : Nat :=
  if p.done then 0 else 2 * (maxRetries - p.attempts) + 1

/-- chat-service answers once. -/
def WriteCall.work (c : WriteCall) : Nat := if c.answer.isNone then 1 else 0

/-- A read is answered by chat-service, and passes this on. -/
def ReadTask.work {ρ σ : Type} (t : ReadTask ρ σ) : Nat :=
  (if t.done then 0 else 1) + if t.answer.isNone then 1 else 0

/-- A message to a room may be written down, and is queued for each member. -/
def roomMessageWork (sessions : Nat) : Nat := sessions + 2 * maxRetries + 3

/-- A message to the router may be passed on to a room that is not there yet. -/
def routerMessageWork (sessions : Nat) : Nat := roomMessageWork sessions + 3

/-- A room takes its messages, and stops. -/
def RoomActor.work (sessions : Nat) (r : RoomActor) : Nat :=
  r.mailbox.length * roomMessageWork sessions + if r.alive then 1 else 0

/-- The `UnregisterUser` at the end, and before the start the two tasks as well. -/
def Phase.work (sessions : Nat) : Phase → Nat
  | .creating => routerMessageWork sessions + 4
  | .running => routerMessageWork sessions + 1
  | _ => 0

def UserSession.work (sessions : Nat) (u : UserSession) : Nat :=
  u.phase.work sessions + u.sendTask.work + u.recvTask.work

/-- A bound on what the server has left to do by itself. -/
def State.work (s : State) : Nat :=
  let n := s.sessions.next
  s.sessions.total (·.work n) + s.mailbox.length * routerMessageWork n + s.actors.total (·.work n) +
    s.persists.total (·.work) + s.writes.total (·.work) + s.historyReads.total (·.work) +
    s.syncReads.total (·.work) + s.ackRelays.total (·.work 2) + s.historyRelays.total (·.work 2) +
    s.syncRelays.total (·.work 2) + s.joinBridges.total (·.work 1) +
    s.memberBridges.total (·.work 1) + s.queues.queued (.range n) + s.acks.queued (.range n)

/-! ## What a step does -/

theorem TaskState.work_finished : TaskState.finished.work = 0 := rfl

theorem TaskState.work_abort (t : TaskState) : t.abort.work = t.work := by cases t <;> rfl

theorem TaskState.work_of_active {t : TaskState} (h : t.Active) : t.work = 1 := by
  obtain rfl | rfl := h <;> rfl

section Step

variable {db : Db} {s s' : State} {act : Action}

/-- A message that is to be acknowledged costs a task, and its first call. -/
theorem work_persistFor (request : WriteRequest) (id : Uuid) (k : Option AckId) :
    (s.persistFor request id k).persists.total (·.work) +
        (s.persistFor request id k).writes.total (·.work) ≤
      s.persists.total (·.work) + s.writes.total (·.work) + (2 * maxRetries + 2) := by
  cases k with
  | none => exact Nat.le_add_right _ _
  | some k =>
    simp only [State.persistFor, State.spawnPersist, Arena.total_alloc, PersistTask.work,
      WriteCall.work]
    simp only [Bool.false_eq_true, if_false, Option.isNone_none, if_true]
    omega

/-- The members of a room are different sessions. -/
theorem Wired.members_length_le (hw : Wired s) {a : ActorId} {r : RoomActor}
    (hr : s.actors.get? a = some r) : (HashMap.values r.members).length ≤ s.sessions.next := by
  have hlt : ∀ sid ∈ HashMap.values r.members, sid ∈ List.range s.sessions.next := by
    intro sid hsid
    obtain ⟨u, hu⟩ := HashMap.mem_values.mp hsid
    exact List.mem_range.mpr (hw.addressed.members a r u sid hr hu).lt_next
  have hlength := ((hw.addressed.values_nodup hr).subperm hlt).length_le
  rwa [List.length_range] at hlength

/-- A direct message is queued for one session, if for any. -/
theorem work_queued_deliver_le (u : TenantUserId) (m : ChatMessage) {n : Nat} :
    (s.deliver u m).queued (.range n) ≤ s.queues.queued (.range n) + 1 := by
  unfold State.deliver
  split
  · exact Outbox.queued_trySend_le m
  · exact Nat.le_succ _

theorem RoomActor.work_post {n : Nat} (r : RoomActor) (e : Envelope RoomMessage) :
    (r.post e).work n = r.work n + roomMessageWork n := by
  have hlength : (r.post e).mailbox.length = r.mailbox.length + 1 := List.length_append
  rw [RoomActor.work, RoomActor.work, hlength, Nat.succ_mul, Nat.add_right_comm]
  rfl

/-- The router pays with the message. -/
theorem work_router {e : Envelope RouterMessage} {rest : List (Envelope RouterMessage)}
    (hm : s.mailbox = e :: rest) {p n : Int}
    (h : (s.takeRouterMessage e rest).handleRouterMessage e.origin p n e.message = s') :
    s'.work < s.work := by
  obtain ⟨o, m⟩ := e
  have hmail : s.mailbox.length * routerMessageWork s.sessions.next =
      rest.length * routerMessageWork s.sessions.next +
        (s.sessions.next + 2 * maxRetries + 6) := by
    rw [hm, List.length_cons, Nat.succ_mul]
    rfl
  have hpost : ∀ {a : ActorId} {r : RoomActor} {x : Envelope RoomMessage},
      s.actors.get? a = some r →
      (s.actors.modify a (·.post x)).total (·.work s.sessions.next) =
        s.actors.total (·.work s.sessions.next) + roomMessageWork s.sessions.next := by
    intro a r x hr
    have hsum := Arena.total_modify (f := (·.work s.sessions.next)) (g := (·.post x)) hr
    rw [RoomActor.work_post] at hsum
    omega
  have hregister : ∀ (sid : SessionId) (r : Except String Unit),
      (s.sessions.modify sid fun u => { u with registration := u.registration.send r }).total
        (·.work s.sessions.next) = s.sessions.total (·.work s.sessions.next) :=
    fun _ _ => Arena.total_modify_eq fun _ => rfl
  have hsend : ∀ (k : AckId) (r : MessageAckResponse),
      (s.ackRelays.modify k (·.send r)).total (·.work 2) = s.ackRelays.total (·.work 2) :=
    fun _ _ => Arena.total_modify_eq fun _ => rfl
  have hdrop : ∀ k : AckId,
      (s.ackRelays.modify k (·.drop)).total (·.work 2) = s.ackRelays.total (·.work 2) :=
    fun _ => Arena.total_modify_eq fun _ => rfl
  cases State.handledByRouter h with
  | refusedRegistration sender respondTo online =>
    simp only [State.work, State.respondRegister, Arena.next_modify, State.takeRouterMessage,
      hregister]
    omega
  | registered sender respondTo offline =>
    simp only [State.work, State.respondRegister, Arena.next_modify, State.takeRouterMessage,
      hregister]
    omega
  | @direct c content f v id k w persist =>
    subst persist
    have hspawn := work_persistFor (s := s)
      (.dm (persistDirectMessageRequest c f v content id p)) id k
    have hqueue := work_queued_deliver_le (s := s) v (.directMessage f content id n)
      (n := s.sessions.next)
    have hw : ((s.takeRouterMessage ⟨o, .sendDirectMessage c f v content id k⟩ rest).persistFor
        (.dm (persistDirectMessageRequest c f v content id p)) id k).writes =
        (s.persistFor (.dm (persistDirectMessageRequest c f v content id p)) id k).writes := by
      cases k <;> rfl
    have hp : ((s.takeRouterMessage ⟨o, .sendDirectMessage c f v content id k⟩ rest).persistFor
        (.dm (persistDirectMessageRequest c f v content id p)) id k).persists =
        (s.persistFor (.dm (persistDirectMessageRequest c f v content id p)) id k).persists := by
      cases k <;> rfl
    have hd : (s.takeRouterMessage ⟨o, .sendDirectMessage c f v content id k⟩ rest).deliver v
        (.directMessage f content id n) = s.deliver v (.directMessage f content id n) := rfl
    simp only [State.work, hw, hp, hd]
    simp only [State.takeRouterMessage]
    omega
  | history projectId messageId conversationId k =>
    simp only [State.work, State.handleGetPaginatedChatHistory, State.spawnHistoryRead,
      State.takeRouterMessage, Arena.total_alloc, ReadTask.work, Bool.false_eq_true, if_false,
      Option.isNone_none, if_true]
    omega
  | sync projectId conversationId messageId k =>
    simp only [State.work, State.handleSyncMessages, State.spawnSyncRead,
      State.takeRouterMessage, Arena.total_alloc, ReadTask.work, Bool.false_eq_true, if_false,
      Option.isNone_none, if_true]
    omega
  | joining known found alive =>
    simp only [State.work, State.takeRouterMessage, hpost found, Arena.total_alloc, Waiter.work,
      Waiter.start, Bool.false_eq_true, if_false, roomMessageWork]
    omega
  | founding unknown =>
    simp only [State.work, State.takeRouterMessage, Arena.total_alloc, Waiter.work, Waiter.start,
      RoomActor.work_post, Bool.false_eq_true, if_false, roomMessageWork]
    simp only [RoomActor.work, RoomActor.new, List.length_nil, if_true]
    omega
  | leaving known found alive =>
    simp only [State.work, State.takeRouterMessage, hpost found, roomMessageWork]
    omega
  | sending known found alive =>
    simp only [State.work, State.takeRouterMessage, hpost found, roomMessageWork]
    omega
  | asking known found alive =>
    simp only [State.work, State.takeRouterMessage, hpost found, Arena.total_alloc, Waiter.work,
      Waiter.start, Bool.false_eq_true, if_false, roomMessageWork]
    omega
  | messageLost known gone =>
    simp only [State.work, State.dropAck, State.takeRouterMessage, hdrop]
    omega
  | messageRefused unknown =>
    simp only [State.work, State.respondAck, State.takeRouterMessage, hsend]
    omega
  | _ =>
    simp only [State.work, State.takeRouterMessage, State.handleGetOnlineUsers, State.respondJoin,
      State.respondMembers]
    omega

/-- So does a room. -/
theorem work_room (hw : Wired s) {a : ActorId} {r : RoomActor} {e : Envelope RoomMessage}
    {rest : List (Envelope RoomMessage)} (hr : s.actors.get? a = some r)
    (hm : r.mailbox = e :: rest) {p : Int}
    (h : (s.takeRoomMessage a e rest).handleMessage a r p e.message = s') :
    s'.work < s.work := by
  obtain ⟨o, m⟩ := e
  have hmembers := hw.members_length_le hr
  have hpaid : rest.length * roomMessageWork s.sessions.next + (if r.alive then 1 else 0) +
      roomMessageWork s.sessions.next = r.work s.sessions.next := by
    rw [RoomActor.work, hm, List.length_cons, Nat.succ_mul, Nat.add_right_comm]
  have hactors : s'.actors.total (·.work s.sessions.next) +
      (s.sessions.next + 2 * maxRetries + 3) = s.actors.total (·.work s.sessions.next) := by
    obtain ⟨g, hg, hself⟩ : ∃ g : RoomActor → RoomActor, s'.actors = s.actors.modify a g ∧
        (g r).work s.sessions.next + roomMessageWork s.sessions.next = r.work s.sessions.next :=
      ⟨_, congrArg Prod.snd (State.rooms_room hr ⟨o, m⟩ rest h), hpaid⟩
    have hsum := Arena.total_modify (f := (·.work s.sessions.next)) (g := g) hr
    rw [hg]
    simp only [roomMessageWork] at hself hsum ⊢
    omega
  have hjoin : ∀ (k : RoomJoinId) (r : Except String Unit),
      (s.joinBridges.modify k (·.send r)).total (·.work 1) = s.joinBridges.total (·.work 1) :=
    fun _ _ => Arena.total_modify_eq fun _ => rfl
  have hlist : ∀ (k : RoomMembersId) (members : List TenantUserId),
      (s.memberBridges.modify k (·.send members)).total (·.work 1) =
        s.memberBridges.total (·.work 1) := fun _ _ => Arena.total_modify_eq fun _ => rfl
  cases State.handledByRoom h with
  | @sent u content id k w persist =>
    subst persist
    have hspawn := work_persistFor (s := s)
      (.room (persistRoomMessageRequest r.roomId u content id p)) id k
    have hqueue := s.queues.queued_broadcast_le (S := .range s.sessions.next)
      (HashMap.values r.members) (.roomMessage r.roomId u content id)
    have hwrites : ((s.takeRoomMessage a ⟨o, .sendMessage u content id k⟩ rest).persistFor
        (.room (persistRoomMessageRequest r.roomId u content id p)) id k).writes =
        (s.persistFor (.room (persistRoomMessageRequest r.roomId u content id p)) id k).writes := by
      cases k <;> rfl
    have hpersists : ((s.takeRoomMessage a ⟨o, .sendMessage u content id k⟩ rest).persistFor
        (.room (persistRoomMessageRequest r.roomId u content id p)) id k).persists =
        (s.persistFor (.room (persistRoomMessageRequest r.roomId u content id p)) id k).persists := by
      cases k <;> rfl
    simp only [State.work, hwrites, hpersists]
    simp only [State.takeRoomMessage] at hactors ⊢
    omega
  | history projectId messageId k =>
    simp only [State.work, State.handleRoomGetPaginatedMessages, State.spawnHistoryRead,
      State.takeRoomMessage, Arena.total_alloc, ReadTask.work, Bool.false_eq_true, if_false,
      Option.isNone_none, if_true] at hactors ⊢
    omega
  | alreadyMember member =>
    simp only [State.work, State.takeRoomMessage, hjoin] at hactors ⊢
    omega
  | added newcomer =>
    simp only [State.work, State.takeRoomMessage, hjoin] at hactors ⊢
    omega
  | removed u =>
    simp only [State.work, State.handleRemoveMember, State.takeRoomMessage] at hactors ⊢
    omega
  | listed k =>
    simp only [State.work, State.takeRoomMessage, hlist] at hactors ⊢
    omega

/-- A session that changes pays for what it does. -/
theorem work_session {sid : SessionId} {ses : UserSession} (hs : s.sessions.get? sid = some ses)
    (f : UserSession → UserSession) (paid : Nat)
    (hpaid : (f ses).work s.sessions.next + paid ≤ ses.work s.sessions.next) :
    (s.sessions.modify sid f).total (·.work s.sessions.next) + paid ≤
      s.sessions.total (·.work s.sessions.next) := by
  have hsum := Arena.total_modify (f := (·.work s.sessions.next)) (g := f) hs
  omega

/-- The send task takes both channels with it. -/
theorem work_endSendTask {sid : SessionId} {ses : UserSession}
    (hs : s.sessions.get? sid = some ses) (active : ses.sendTask.Active) :
    (s.endSendTask sid).work < s.work := by
  have hsum := work_session hs (fun u => { u with sendTask := .finished }) 1
    (by simp only [UserSession.work, TaskState.work_of_active active, TaskState.work_finished]; omega)
  have hqueues := s.queues.queued_set_le (S := .range s.sessions.next) (i := sid) (c := .closed) rfl
  have hacks := s.acks.queued_set_le (S := .range s.sessions.next) (i := sid) (c := .closed) rfl
  simp only [State.work, State.endSendTask, Arena.next_modify]
  omega

theorem work_answer {c : CallId} {request : WriteRequest}
    (hc : s.writes.get? c = some ⟨request, none⟩) (r : WriteResponse) :
    (s.writes.modify c fun call => { call with answer := some r }).total (·.work) + 1 =
      s.writes.total (·.work) :=
  Arena.total_modify (f := (·.work)) hc

theorem ReadTask.work_answer {ρ σ : Type} {t : Arena (ReadTask ρ σ)} {n : Nat}
    {task : ReadTask ρ σ} (ht : t.get? n = some task) (unanswered : task.answer = none) (r : σ) :
    (t.modify n fun task => { task with answer := some r }).total (·.work) + 1 =
      t.total (·.work) := by
  have hsum := Arena.total_modify (f := (·.work))
    (g := fun task => { task with answer := some r }) ht
  have hpaid : ({ task with answer := some r } : ReadTask ρ σ).work + 1 = task.work := by
    simp [ReadTask.work, unanswered]
  omega

theorem ReadTask.work_done {ρ σ : Type} {t : Arena (ReadTask ρ σ)} {n : Nat}
    {task : ReadTask ρ σ} (ht : t.get? n = some task) (running : task.done = false) :
    (t.modify n fun task => { task with done := true }).total (·.work) + 1 = t.total (·.work) := by
  have hsum := Arena.total_modify (f := (·.work))
    (g := fun task => { task with done := true }) ht
  have hpaid : ({ task with done := true } : ReadTask ρ σ).work + 1 = task.work := by
    simp only [ReadTask.work, running, Bool.false_eq_true, if_true, if_false]
    omega
  omega

theorem Waiter.work_finish {κ ρ : Type} (cost : Nat) {t : Arena (Waiter κ ρ)} {k : Nat}
    {w : Waiter κ ρ} (hk : t.get? k = some w) (running : w.done = false) :
    (t.modify k (·.finish)).total (·.work cost) + cost = t.total (·.work cost) := by
  have hsum := Arena.total_modify (f := (·.work cost)) (g := (·.finish)) hk
  have hpaid : w.finish.work cost + cost = w.work cost := by simp [Waiter.work, Waiter.finish, running]
  omega

theorem retryTurn_calling {ρ : Type} {n m attempts : Nat} {o : Except Status ρ}
    (h : retryTurn n m o = .calling attempts) : attempts = m + 1 ∧ m + 1 ≤ n := by
  cases o with
  | ok r => cases h
  | error e =>
    simp only [retryTurn] at h
    split at h
    · next hle => exact ⟨(RetryLoop.calling.inj h).symm, hle⟩
    · cases h

/-- **Each step of its own takes something off the server's work.** -/
theorem work_step (hw : Wired s) (h : s.step db act = some s') (hown : act.own = true) :
    s'.work < s.work := by
  cases State.stepped h with
  | connected u => cases hown
  | framed found active fresh result => cases hown
  | ticked found alive => cases hown
  | routed next result => exact work_router next result
  | roomHandled found alive next result => exact work_room hw found next result
  | @started sid ses found creating accepted =>
    have hsum := work_session found (fun u =>
      { u with phase := .running, sendTask := .running, recvTask := .running }) 1
      (by simp only [UserSession.work, creating, Phase.work, TaskState.work]; omega)
    have hacks := s.acks.queued_set_le (S := .range s.sessions.next) (i := sid) (c := .empty) rfl
    simp only [State.work, State.startSession, Arena.next_modify]
    omega
  | @failed sid ses e found creating answered rejected =>
    have hsum := work_session found (fun u => { u with phase := .failed e }) 1
      (by simp only [UserSession.work, creating, Phase.work]; omega)
    have hqueues := s.queues.queued_set_le (S := .range s.sessions.next) (i := sid) (c := .closed)
      rfl
    simp only [State.work, State.failSession, Arena.next_modify]
    omega
  | @recvEnded sid ses found active =>
    have hsum := work_session found (fun u => { u with recvTask := .finished }) 1
      (by simp only [UserSession.work, TaskState.work_of_active active, TaskState.work_finished]; omega)
    simp only [State.work, State.endRecvTask, Arena.next_modify]
    omega
  | ackWritten found active recv =>
    have hacks := s.acks.queued_recv (Finset.mem_range.mpr (Arena.lt_next_of_get? found)) recv
    simp only [State.work]
    omega
  | queueWritten found active recv =>
    have hqueues := s.queues.queued_recv (Finset.mem_range.mpr (Arena.lt_next_of_get? found)) recv
    simp only [State.work]
    omega
  | sendFailed found active => exact work_endSendTask found active
  | sendEnded found active => exact work_endSendTask found active
  | @ended sid ses found running finished =>
    -- What the session has kept for its `UnregisterUser`.
    have hsum := work_session found (fun u =>
      { u with phase := .ended, sendTask := u.sendTask.abort, recvTask := u.recvTask.abort })
      (routerMessageWork s.sessions.next + 1)
      (by simp only [UserSession.work, running, Phase.work, TaskState.work_abort]; omega)
    simp only [State.work, State.sendRouter, State.abortTasks, Arena.next_modify,
      List.length_append, List.length_singleton, Nat.add_mul, Nat.one_mul]
    omega
  | @roomStopped a r found alive drained unused =>
    have hsum := Arena.total_modify (f := (·.work s.sessions.next))
      (g := fun r : RoomActor => { r with alive := false }) found
    simp only [RoomActor.work, alive, drained, List.length_nil, if_true, Bool.false_eq_true,
      if_false] at hsum
    simp only [State.work, RoomActor.work]
    omega
  | @servedWrite c request fault found =>
    have hsum := work_answer found (request.serve db fault s.store).1
    simp only [State.work]
    omega
  | @servedHistory n fault task found unanswered =>
    have hsum := ReadTask.work_answer found unanswered
      (ChatServiceImpl.getPaginatedMessages db fault s.store task.request)
    simp only [State.work]
    omega
  | @servedSync n fault task found unanswered =>
    have hsum := ReadTask.work_answer found unanswered
      (ChatServiceImpl.syncMessages db fault s.store task.request)
    simp only [State.work]
    omega
  | @retried n p failure now outcome attempts found running ended again =>
    have hattempts := retryTurn_calling again
    have hsum := Arena.total_modify (f := (·.work)) (g := fun p : PersistTask =>
      { p with attempts := attempts, call := s.writes.next }) found
    have hpaid : ({ p with attempts := attempts, call := s.writes.next } : PersistTask).work + 2 =
        p.work := by
      simp only [PersistTask.work, running, Bool.false_eq_true, if_false]
      omega
    have hcall : (⟨p.request, none⟩ : WriteCall).work = 1 := rfl
    simp only [State.work, Arena.total_alloc, hcall]
    omega
  | @persisted n p failure now outcome result found running ended returned =>
    have hsum := Arena.total_modify (f := (·.work))
      (g := fun p : PersistTask => { p with done := true }) found
    have hpaid : ({ p with done := true } : PersistTask).work < p.work := by
      simp only [PersistTask.work, running, Bool.false_eq_true, if_true, if_false]
      omega
    have hrelay : ∀ r : MessageAckResponse, (s.ackRelays.modify p.respondTo (·.send r)).total
        (·.work 2) = s.ackRelays.total (·.work 2) := fun _ => Arena.total_modify_eq fun _ => rfl
    simp only [State.work, State.respondAck, hrelay]
    omega
  | @historyReturned n task failure newV4 outcome found running ended =>
    have hsum := ReadTask.work_done found running
    have hrelay : ∀ r, (s.historyRelays.modify task.respondTo (·.send r)).total (·.work 2) =
        s.historyRelays.total (·.work 2) := fun _ => Arena.total_modify_eq fun _ => rfl
    simp only [State.work, hrelay]
    omega
  | @syncReturned n task failure newV4 outcome found running ended =>
    have hsum := ReadTask.work_done found running
    have hrelay : ∀ r, (s.syncRelays.modify task.respondTo (·.send r)).total (·.work 2) =
        s.syncRelays.total (·.work 2) := fun _ => Arena.total_modify_eq fun _ => rfl
    simp only [State.work, hrelay]
    omega
  | ackGaveUp found running dropped =>
    have hsum := Waiter.work_finish 2 found running
    simp only [State.work]
    omega
  | @acked k w r found running reply room =>
    have hsum := Waiter.work_finish 2 found running
    have hacks := s.acks.queued_trySend_le (S := .range s.sessions.next)
      (i := w.context.session)
      (.messageAck w.context.clientMessageId r.messageId r.timestamp r.status)
    simp only [State.work]
    omega
  | historyDone found running =>
    have hsum := Waiter.work_finish 2 found running
    simp only [State.work]
    omega
  | @historyRelayed k w r found running reply =>
    have hsum := Waiter.work_finish 2 found running
    have hacks := s.acks.queued_trySend_le (S := .range s.sessions.next)
      (i := w.context.session) (State.chatHistoryResponse r)
    simp only [State.work]
    omega
  | syncDone found running =>
    have hsum := Waiter.work_finish 2 found running
    simp only [State.work]
    omega
  | @syncRelayed k w messages found running reply =>
    have hsum := Waiter.work_finish 2 found running
    have hacks := s.acks.queued_trySend_le (S := .range s.sessions.next)
      (i := w.context.session) (.syncMessagesResponse messages)
    simp only [State.work]
    omega
  | joinBridged found running =>
    have hsum := Waiter.work_finish 1 found running
    simp only [State.work]
    omega
  | membersBridged found running =>
    have hsum := Waiter.work_finish 1 found running
    simp only [State.work]
    omega

end Step

end PerOxo
