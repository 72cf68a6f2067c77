import PerOxo.Actors.Metrics
import PerOxo.Proof.OnlineUsers
import PerOxo.Proof.Rest

/-!
# What the metrics say

The gauge is the number of sessions that are running. Of the counters, `sent` counts the chat
messages that have been written to sockets, and `received` the direct messages that clients have
sent; `persisted` lags behind `received` by the messages on their way, and catches up whether they
have been stored or not.

The state knows nothing of the metrics, and no step of the server reads one. So each is compared
with a number that is read off the state (`State.running`, `State.chatWritten` and so on), and one
lemma says that a step moves both alike (`Metered.step`). A direct message is counted three times
on its way, in the mailbox, as a task and as a task that is over; the three add up to the frames
that have asked for one (`Metered.flow`), and at rest only the last is left.
-/

set_option autoImplicit false

namespace PerOxo

open ChatService PersistenceService

/-! ## What is counted -/

/-- What other users say, and no response to the session's own requests. -/
def ChatMessage.isChat : ChatMessage → Bool
  | .directMessage _ _ _ _ => true
  | .roomMessage _ _ _ _ => true
  | _ => false

def ChatMessage.sendsDirect : ChatMessage → Bool
  | .sendDirectMessage _ _ _ _ => true
  | _ => false

/-- A direct message whose sender waits for the acknowledgement. -/
def RouterMessage.asksDirect : RouterMessage → Bool
  | .sendDirectMessage _ _ _ _ _ (some _) => true
  | _ => false

def WriteRequest.isDm : WriteRequest → Bool
  | .dm _ => true
  | .room _ => false

namespace State

/-- Sessions that have been created and have not ended. -/
def running (s : State) : Nat := s.sessions.count fun u => decide (u.phase = .running)

/-- Direct messages that clients have sent. -/
def directAsked (s : State) : Nat := s.ackRelays.count fun w => w.context.frame.sendsDirect

/-- Those that the router has not taken yet. -/
def directQueued (s : State) : Nat := s.mailbox.countP fun e => e.message.asksDirect

/-- Those that are being persisted. -/
def directBegun (s : State) : Nat := s.persists.count fun p => p.request.isDm && !p.done

/-- Those that have been persisted, or could not be. -/
def directEnded (s : State) : Nat := s.persists.count fun p => p.request.isDm && p.done

/-- What others have said, as far as it has been written to a socket. -/
def chatWritten (s : State) : Nat := s.socket.countP fun x => x.2.isChat

end State

/-- Each of the two channels to a send task has its own kinds of messages: the counter is raised by
what is taken from the one, and what is taken from the other would not count. -/
structure Sorted (s : State) : Prop where
  queues : s.queues.Every fun m => m.isChat = true
  acks : s.acks.Every fun m => m.isChat = false

/-- The metrics say what the state does. -/
structure Metered (s : State) (m : Metrics) : Prop where
  connections : m.connectionsActive = s.running
  sent : m.sent = s.chatWritten
  received : m.received = s.directAsked
  persisted : m.persisted = s.directEnded
  /-- No direct message is lost on its way to a task, nor persisted by two. -/
  flow : s.directAsked = s.directQueued + s.directBegun + s.directEnded

section Step

variable {db : Db} {s s' : State} {act : Action} {m : Metrics}

theorem Sorted.step (hi : Sorted s) (h : s.step db act = some s') : Sorted s' := by
  have hkeep : ∀ {t : State}, t.queues = s.queues → t.acks = s.acks → Sorted t := by
    intro t hq ha
    exact ⟨hq ▸ hi.queues, ha ▸ hi.acks⟩
  have hclose : ∀ c : Chan ChatMessage channelBufferSize, c.buf = [] →
      ∀ {p : ChatMessage → Prop}, ∀ m ∈ c.buf, p m := fun c hc p m hm => by simp [hc] at hm
  cases State.stepped h with
  | connected u => exact ⟨hi.queues.set _ (hclose .empty rfl), hi.acks⟩
  | started found creating accepted => exact ⟨hi.queues, hi.acks.set _ (hclose .empty rfl)⟩
  | failed e found creating answered rejected =>
    exact ⟨hi.queues.set _ (hclose .closed rfl), hi.acks⟩
  | framed found active fresh result => cases State.framed result <;> exact hkeep rfl rfl
  | ackWritten found active recv => exact ⟨hi.queues, (hi.acks.recv recv).2⟩
  | queueWritten found active recv => exact ⟨(hi.queues.recv recv).2, hi.acks⟩
  | sendFailed found active =>
    exact ⟨hi.queues.set _ (hclose .closed rfl), hi.acks.set _ (hclose .closed rfl)⟩
  | sendEnded found active =>
    exact ⟨hi.queues.set _ (hclose .closed rfl), hi.acks.set _ (hclose .closed rfl)⟩
  | @routed e rest p n t next result =>
    obtain ⟨o, m⟩ := e
    cases State.handledByRouter result with
    | @direct c content f v id k w persist =>
      refine ⟨?_, hi.acks⟩
      dsimp only [State.deliver]
      split
      · exact hi.queues.trySend _ rfl
      · exact hi.queues
    | _ => exact hkeep rfl rfl
  | @roomHandled a r e rest p t found alive next result =>
    obtain ⟨o, m⟩ := e
    cases State.handledByRoom result with
    | sent persist => exact ⟨hi.queues.broadcast _ rfl, hi.acks⟩
    | _ => exact hkeep rfl rfl
  | acked found running reply room => exact ⟨hi.queues, hi.acks.trySend _ rfl⟩
  | historyRelayed found running reply => exact ⟨hi.queues, hi.acks.trySend _ rfl⟩
  | syncRelayed found running reply => exact ⟨hi.queues, hi.acks.trySend _ rfl⟩
  | _ => exact hkeep rfl rfl

/-- A step that counts nothing. -/
theorem Metered.same (hi : Metered s m) (hrunning : s'.running = s.running)
    (hwritten : s'.chatWritten = s.chatWritten) (hasked : s'.directAsked = s.directAsked)
    (hended : s'.directEnded = s.directEnded)
    (hflow : s'.directQueued + s'.directBegun = s.directQueued + s.directBegun) :
    Metered s' m := by
  refine ⟨?_, ?_, ?_, ?_, ?_⟩
  · rw [hrunning]
    exact hi.connections
  · rw [hwritten]
    exact hi.sent
  · rw [hasked]
    exact hi.received
  · rw [hended]
    exact hi.persisted
  · rw [hasked, hflow, hended]
    exact hi.flow

/-- The router takes a message: one that is to be acknowledged is persisted from now on. -/
theorem Metered.router (hi : Metered s m) {e : Envelope RouterMessage}
    {rest : List (Envelope RouterMessage)} (hm : s.mailbox = e :: rest) {p n : Int}
    (h : (s.takeRouterMessage e rest).handleRouterMessage e.origin p n e.message = s') :
    Metered s' m := by
  obtain ⟨o, x⟩ := e
  have hqueued : s.directQueued =
      (rest.countP fun e => e.message.asksDirect) + x.asksDirect.toNat := by
    rw [State.directQueued, hm, List.countP_cons]
    cases x.asksDirect <;> rfl
  have hrest : x.asksDirect = false → s.directQueued = rest.countP fun e => e.message.asksDirect :=
    fun hx => by rw [hqueued, hx, Bool.toNat_false, Nat.add_zero]
  have hregister : ∀ (sid : SessionId) (r : Except String Unit),
      (s.sessions.modify sid fun u => { u with registration := u.registration.send r }).count
        (fun u => decide (u.phase = .running)) = s.running :=
    fun _ _ => Arena.count_modify_eq fun _ => rfl
  have hrelay : ∀ (k : AckId) (f : Waiter AckTicket MessageAckResponse →
      Waiter AckTicket MessageAckResponse), (∀ w, (f w).context = w.context) →
      (s.ackRelays.modify k f).count (fun w => w.context.frame.sendsDirect) = s.directAsked :=
    fun _ _ hf => Arena.count_modify_eq fun w => by rw [hf]
  have hkeep : ∀ {t : State}, x.asksDirect = false → t.mailbox = rest →
      t.running = s.running → t.socket = s.socket → t.directAsked = s.directAsked →
      t.persists = s.persists → Metered t m := by
    intro t hx hmail hrun hsock hask hper
    refine hi.same hrun (by rw [State.chatWritten, hsock]; rfl) hask
      (by rw [State.directEnded, hper]; rfl) ?_
    rw [hrest hx, State.directQueued, hmail, State.directBegun, hper]
    rfl
  cases State.handledByRouter h with
  | refusedRegistration sender respondTo online =>
    exact hkeep rfl rfl (hregister _ _) rfl rfl rfl
  | registered sender respondTo offline => exact hkeep rfl rfl (hregister _ _) rfl rfl rfl
  | @direct c content f v id k w persist =>
    subst persist
    cases k with
    | none => exact hkeep rfl rfl rfl rfl rfl rfl
    | some k =>
      refine hi.same rfl rfl rfl Arena.count_alloc ?_
      have hbegun : (s.persists.alloc ⟨.dm (persistDirectMessageRequest c f v content id p), id, k,
          0, s.writes.next, false⟩).count (fun p => p.request.isDm && !p.done) =
            s.directBegun + 1 := Arena.count_alloc
      refine (congrArg (rest.countP (fun e => e.message.asksDirect) + ·) hbegun).trans ?_
      rw [hqueued, Nat.add_right_comm]
      rfl
  | messageLost known gone => exact hkeep rfl rfl rfl rfl (hrelay _ _ fun _ => rfl) rfl
  | messageRefused unknown => exact hkeep rfl rfl rfl rfl (hrelay _ _ fun _ => rfl) rfl
  | _ => exact hkeep rfl rfl rfl rfl rfl rfl

theorem Metered.room (hi : Metered s m) {a : ActorId} {r : RoomActor} {e : Envelope RoomMessage}
    {rest : List (Envelope RoomMessage)} {p : Int}
    (h : (s.takeRoomMessage a e rest).handleMessage a r p e.message = s') : Metered s' m := by
  obtain ⟨o, x⟩ := e
  cases State.handledByRoom h with
  | @sent u content id k w persist =>
    -- What a room has persisted is no direct message.
    subst persist
    cases k with
    | none => exact hi.same rfl rfl rfl rfl rfl
    | some k =>
      refine hi.same rfl rfl rfl Arena.count_alloc (congrArg (s.directQueued + ·) ?_)
      exact Arena.count_alloc
  | _ => exact hi.same rfl rfl rfl rfl rfl

/-- A frame of a client: a direct message is counted. -/
theorem Metered.frame (hi : Metered s m) {sid : SessionId} {u : TenantUserId} {id : Uuid}
    {text : Option ChatMessage} (h : s.handleFrame sid u id text = s') :
    Metered s' (s.count m (.frame sid text id)) := by
  have hmail : ∀ x : RouterMessage,
      (s.mailbox ++ [Envelope.mk sid x]).countP (fun e => e.message.asksDirect) =
        s.directQueued + x.asksDirect.toNat := fun x => by
    rw [List.countP_append, List.countP_singleton]
    cases x.asksDirect <;> rfl
  by_cases hdirect : ∃ c t b i, text = some (.sendDirectMessage c t b i)
  · obtain ⟨c, t, b, i, rfl⟩ := hdirect
    subst h
    have hasked : (s.sendDirectMessage sid u c t b i id).directAsked = s.directAsked + 1 :=
      Arena.count_alloc
    have hqueued : (s.sendDirectMessage sid u c t b i id).directQueued = s.directQueued + 1 :=
      hmail _
    refine ⟨hi.connections, hi.sent, ?_, hi.persisted, ?_⟩
    · exact (congrArg (· + 1) hi.received).trans hasked.symm
    · have hflow : s.directAsked + 1 = s.directQueued + 1 + s.directBegun + s.directEnded := by
        rw [hi.flow]
        omega
      exact hasked.trans (hflow.trans (congrArg (· + s.directBegun + s.directEnded) hqueued.symm))
  · have hcount : s.count m (.frame sid text id) = m := by
      cases text with
      | none => rfl
      | some x =>
        cases x with
        | sendDirectMessage c t b i => exact absurd ⟨c, t, b, i, rfl⟩ hdirect
        | _ => rfl
    rw [hcount]
    have hkeep : ∀ (x : RouterMessage), x.asksDirect = false →
        s'.mailbox = s.mailbox ++ [⟨sid, x⟩] → s'.sessions = s.sessions → s'.socket = s.socket →
        s'.directAsked = s.directAsked → s'.persists = s.persists → Metered s' m := by
      intro x hx hm hs hsock hask hper
      refine hi.same (by rw [State.running, hs]; rfl) (by rw [State.chatWritten, hsock]; rfl) hask
        (by rw [State.directEnded, hper]; rfl) ?_
      rw [State.directQueued, hm, hmail, hx, State.directBegun, hper]
      rfl
    cases State.framed h with
    | ignored text => exact hi
    | direct c t b i => exact absurd ⟨c, t, b, i, rfl⟩ hdirect
    | history p i c => exact hkeep _ rfl rfl rfl rfl rfl rfl
    | room r c i => exact hkeep _ rfl rfl rfl rfl Arena.count_alloc rfl
    | join r => exact hkeep _ rfl rfl rfl rfl rfl rfl
    | sync p c i => exact hkeep _ rfl rfl rfl rfl rfl rfl

/-- A session whose phase changes. -/
theorem running_modify {sid : SessionId} {ses : UserSession} (hs : s.sessions.get? sid = some ses)
    (f : UserSession → UserSession) :
    (s.sessions.modify sid f).count (fun u => decide (u.phase = .running)) +
        (decide (ses.phase = .running)).toNat =
      s.running + (decide ((f ses).phase = .running)).toNat :=
  Arena.count_modify hs

theorem Metered.step (hi : Metered s m) (hk : Sorted s) (h : s.step db act = some s') :
    Metered s' (s.count m act) := by
  have hphase : ∀ (sid : SessionId) (f : UserSession → UserSession),
      (∀ u, (f u).phase = u.phase) →
      (s.sessions.modify sid f).count (fun u => decide (u.phase = .running)) = s.running :=
    fun _ _ hf => Arena.count_modify_eq fun u => by rw [hf]
  have hrelay : ∀ (k : AckId) (f : Waiter AckTicket MessageAckResponse →
      Waiter AckTicket MessageAckResponse), (∀ w, (f w).context = w.context) →
      (s.ackRelays.modify k f).count (fun w => w.context.frame.sendsDirect) = s.directAsked :=
    fun _ _ hf => Arena.count_modify_eq fun w => by rw [hf]
  cases State.stepped h with
  | connected u =>
    refine hi.same Arena.count_alloc rfl rfl rfl (congrArg (· + s.directBegun) ?_)
    rw [State.directQueued]
    change List.countP _ (s.mailbox ++ [_]) = _
    rw [List.countP_append]
    rfl
  | routed next result => exact hi.router next result
  | roomHandled found alive next result => exact hi.room result
  | framed found active fresh result => exact hi.frame result
  | @started sid ses found creating accepted =>
    have hcount : s.count m (.finishCreation sid) = m.websocketConnected := by
      simp only [State.count, found, accepted]
    have hrunning : (s.startSession sid).running = s.running + 1 := by
      have hsum := running_modify found fun u =>
        { u with phase := .running, sendTask := .running, recvTask := .running }
      simp only [creating, decide_true, reduceCtorEq, decide_false, Bool.toNat_false,
        Bool.toNat_true, Nat.add_zero] at hsum
      exact hsum
    rw [hcount]
    refine ⟨?_, hi.sent, hi.received, hi.persisted, hi.flow⟩
    rw [hrunning, Metrics.websocketConnected, hi.connections]
    rfl
  | @failed sid ses e found creating answered rejected =>
    have hcount : s.count m (.finishCreation sid) = m := by
      simp only [State.count, found]
    have hrunning : (s.failSession sid e).running = s.running := by
      have hsum := running_modify found fun u => { u with phase := .failed e }
      simp only [creating, reduceCtorEq, decide_false, Bool.toNat_false, Nat.add_zero] at hsum
      exact hsum
    rw [hcount]
    exact hi.same hrunning rfl rfl rfl rfl
  | recvEnded found active => exact hi.same (hphase _ _ fun _ => rfl) rfl rfl rfl rfl
  | @ackWritten sid ses x c found active recv =>
    have hx : x.isChat = false := (hk.acks.recv recv).1
    refine hi.same rfl ?_ rfl rfl rfl
    simp [State.chatWritten, List.countP_append, hx]
  | @queueWritten sid ses x c found active recv =>
    have hx : x.isChat = true := (hk.queues.recv recv).1
    refine ⟨hi.connections, ?_, hi.received, hi.persisted, hi.flow⟩
    refine (congrArg (· + 1) hi.sent).trans ?_
    simp [State.chatWritten, List.countP_append, hx]
  | @sendFailed sid ses fromAcks found active =>
    have hcount : s.count m (.send sid fromAcks false) = m := by cases fromAcks <;> rfl
    rw [hcount]
    exact hi.same (hphase _ _ fun _ => rfl) rfl rfl rfl rfl
  | sendEnded found active => exact hi.same (hphase _ _ fun _ => rfl) rfl rfl rfl rfl
  | @ended sid ses found running finished =>
    have hrunning : State.running ((s.abortTasks sid).sendRouter sid
        (.unregisterUser ses.tenantUserId)) + 1 = s.running := by
      have hsum := running_modify found fun u =>
        { u with phase := .ended, sendTask := u.sendTask.abort, recvTask := u.recvTask.abort }
      simp only [running, decide_true, reduceCtorEq, decide_false, Bool.toNat_false,
        Bool.toNat_true, Nat.add_zero] at hsum
      exact hsum
    refine ⟨?_, hi.sent, hi.received, hi.persisted, ?_⟩
    · change m.connectionsActive - 1 = _
      rw [hi.connections, ← hrunning]
      omega
    · refine hi.flow.trans (congrArg (· + s.directBegun + s.directEnded) ?_)
      change _ = List.countP _ (s.mailbox ++ [_])
      rw [List.countP_append]
      rfl
  | @retried n p failure now outcome attempts found running ended again =>
    have hcount : s.count m (.persist n failure now) = m := by
      cases hp : p.request <;> simp [State.count, State.dmReturns, found, ended, again, hp]
    rw [hcount]
    exact hi.same rfl rfl rfl (Arena.count_modify_eq fun _ => rfl)
      (congrArg (s.directQueued + ·) (Arena.count_modify_eq fun _ => rfl))
  | @persisted n p failure now outcome result found running ended returned =>
    have hasked : (s.respondAck p.respondTo ⟨p.messageId, now, ackStatus (persistResult result)⟩
        ).directAsked = s.directAsked := hrelay _ _ fun _ => rfl
    have hbegun : (s.persists.modify n fun p => { p with done := true }).count
        (fun p => p.request.isDm && !p.done) + (p.request.isDm && !p.done).toNat =
          s.directBegun + (p.request.isDm && !true).toNat := Arena.count_modify found
    have hended : (s.persists.modify n fun p => { p with done := true }).count
        (fun p => p.request.isDm && p.done) + (p.request.isDm && p.done).toNat =
          s.directEnded + (p.request.isDm && true).toNat := Arena.count_modify found
    simp only [running, Bool.not_false, Bool.not_true, Bool.and_true, Bool.and_false,
      Bool.toNat_false, Nat.add_zero] at hbegun hended
    cases hp : p.request with
    | dm request =>
      have hcount : s.count m (.persist n failure now) = m.websocketMessagePersisted := by
        simp [State.count, State.dmReturns, found, ended, returned, hp]
      have hdm : p.request.isDm = true := by rw [hp]; rfl
      rw [hdm, Bool.toNat_true] at hbegun hended
      have hflow : ∀ begun ended, begun + 1 = s.directBegun → ended = s.directEnded + 1 →
          s.directAsked = s.directQueued + begun + ended := by
        intro begun ended hb he
        rw [hi.flow]
        omega
      rw [hcount]
      refine ⟨hi.connections, hi.sent, hi.received.trans hasked.symm, ?_, ?_⟩
      · exact (congrArg (· + 1) hi.persisted).trans hended.symm
      · exact hasked.trans (hflow _ _ hbegun hended)
    | room request =>
      -- What a room has persisted is counted nowhere.
      have hcount : s.count m (.persist n failure now) = m := by
        simp [State.count, State.dmReturns, found, hp]
      have hroom : p.request.isDm = false := by rw [hp]; rfl
      rw [hroom, Bool.toNat_false, Nat.add_zero] at hbegun hended
      rw [hcount]
      exact hi.same rfl rfl hasked hended (congrArg (s.directQueued + ·) hbegun)
  | ackGaveUp found running dropped => exact hi.same rfl rfl (hrelay _ _ fun _ => rfl) rfl rfl
  | acked found running reply room => exact hi.same rfl rfl (hrelay _ _ fun _ => rfl) rfl rfl
  | _ => exact hi.same rfl rfl rfl rfl rfl

end Step

theorem Sorted.start (store : Store) : Sorted (.start store) := ⟨.idle, .idle⟩

theorem Metered.start (store : Store) : Metered (.start store) .new := ⟨rfl, rfl, rfl, rfl, rfl⟩

/-! ## Every reachable state -/

section Reachable

variable {db : Db} {store : Store}

theorem metered {s : MeteredState} (h : (meteredSystem db store).Reachable s) :
    Sorted s.server ∧ Metered s.server s.metrics := by
  refine h.invariant (I := fun s => Sorted s.server ∧ Metered s.server s.metrics)
    ⟨.start store, .start store⟩ fun s act s' _ hs hi => ?_
  obtain ⟨t, ht, rfl⟩ := Option.map_eq_some_iff.mp hs
  exact ⟨hi.1.step ht, hi.2.step hi.1 ht⟩

variable {s : State}

/-- Where all has settled, the users who are online are those of the running sessions. -/
theorem State.Quiet.running_eq (h : (system db store).Reachable s) (hq : s.Quiet) :
    s.running = s.router.onlineUsers.length := by
  obtain ⟨acts, hrun⟩ := h
  have ho := (server_registry hrun).online
  refine Arena.count_eq_length (f := UserSession.tenantUserId) ho.nodup ?_ ?_
  · intro u
    rw [ho.keys]
    simp only [hq.online, decide_eq_true_eq]
    exact exists_congr fun sid => exists_congr fun ses => and_congr_right fun _ => and_comm
  · intro i j a b ha hb hpa hpb he
    have hi := (hq.online a.tenantUserId i).mpr ⟨a, ha, rfl, of_decide_eq_true hpa⟩
    have hj := (hq.online a.tenantUserId j).mpr ⟨b, hb, he.symm, of_decide_eq_true hpb⟩
    exact Option.some.inj (hi.symm.trans hj)

theorem State.Quiet.directQueued_eq (hq : s.Quiet) : s.directQueued = 0 := by
  rw [State.directQueued, hq.mailbox]
  rfl

theorem State.Quiet.directBegun_eq (hq : s.Quiet) : s.directBegun = 0 := by
  refine Arena.count_eq_zero fun t p hp => ?_
  rw [hq.persists t p hp, Bool.not_true, Bool.and_false]

/-- The gauge and the counters at every moment, and where nothing is under way. -/
theorem metrics_account {s : MeteredState} (h : (meteredSystem db store).Reachable s) :
    s.metrics.connectionsActive = s.server.running ∧
      s.metrics.sent = s.server.chatWritten ∧
      s.metrics.received = s.server.directAsked ∧
      s.metrics.received =
        s.server.directQueued + s.server.directBegun + s.metrics.persisted ∧
      (s.server.Quiet → s.metrics.persisted = s.metrics.received ∧
        s.metrics.connectionsActive = s.server.router.onlineUsers.length) := by
  have hi := (metered h).2
  have hflow : s.metrics.received =
      s.server.directQueued + s.server.directBegun + s.metrics.persisted := by
    rw [hi.received, hi.persisted, hi.flow]
  refine ⟨hi.connections, hi.sent, hi.received, hflow, fun hq => ⟨?_, ?_⟩⟩
  · rw [hflow, hq.directQueued_eq, hq.directBegun_eq, Nat.zero_add]
  · rw [hi.connections, hq.running_eq (metered_reachable h)]

def lost : List Action :=
  sent ++ [.router 5 6] ++ List.replicate 4 (.persist 0 (some "unavailable") 7)

/-- Her message cannot be stored, and is counted nevertheless. -/
theorem metrics_account_lost :
    ∃ s, (meteredSystem lenientDb .empty).exec ⟨.start .empty, .new⟩ lost = some s ∧
      s.metrics = ⟨1, 0, 1, 1⟩ ∧
      (s.server.ackRelays.get? 0).map (·.reply) =
        some (.sent ⟨.ofTime 1, 7, .failed "gRPC call failed: unavailable"⟩) ∧
      s.metrics.received =
        s.server.directQueued + s.server.directBegun + s.metrics.persisted := by
  obtain ⟨s, hs, hm⟩ := Option.map_eq_some_iff.mp
    (show ((meteredSystem lenientDb .empty).exec ⟨.start .empty, .new⟩ lost).map (fun s =>
      (s.metrics, (s.server.ackRelays.get? 0).map (·.reply))) = some (⟨1, 0, 1, 1⟩,
        some (.sent ⟨.ofTime 1, 7, .failed "gRPC call failed: unavailable"⟩)) from rfl)
  obtain ⟨hmetrics, hreply⟩ := Prod.ext_iff.mp hm
  exact ⟨s, hs, hmetrics, hreply, (metrics_account (Machine.reachable_of_exec hs)).2.2.2.1⟩

end Reachable

end PerOxo
