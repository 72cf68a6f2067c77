import PerOxo.Actors.Router
import PerOxo.Actors.Room
import PerOxo.Actors.Session
import PerOxo.Lib.Machine

/-!
# The running system

All the parts together as one `Machine`: an action says which of them takes its next step,
and brings along what the step learns from outside (the clock, a fresh id, a frame, whether
the network or the cluster failed). Between two `await`s a task runs without a break, so one
action is what a task does up to its next `await`; the two mailboxes are FIFO. One action is
coarser than that: `send` is both the `recv` of a send task and the write to the socket, which
the source awaits one after the other (`State.sendStep` says what becomes of the time between).

`db` is the database session chat-service uses, with the tables it finds.
-/

set_option autoImplicit false

namespace PerOxo

open ChatService

namespace State

/-! ## chat-service, and the tasks that wait for it -/

/-- chat-service handles a write request that has reached it. -/
def serveWrite (db : Db) (s : State) (c : CallId) (fault : Option Fault) : Option State :=
  match s.writes.get? c with
  | some ⟨request, none⟩ =>
      let (answer, store) := request.serve db fault s.store
      some { s with
        store := store
        writes := s.writes.modify c fun call => { call with answer := some answer } }
  | _ => none

def serveHistory (db : Db) (s : State) (t : Nat) (fault : Option Fault) : Option State :=
  match s.historyReads.get? t with
  | some ⟨request, none, _, _⟩ =>
      let answer := ChatServiceImpl.getPaginatedMessages db fault s.store request
      some { s with historyReads := s.historyReads.modify t fun task =>
        { task with answer := some answer } }
  | _ => none

def serveSync (db : Db) (s : State) (t : Nat) (fault : Option Fault) : Option State :=
  match s.syncReads.get? t with
  | some ⟨request, none, _, _⟩ =>
      let answer := ChatServiceImpl.syncMessages db fault s.store request
      some { s with syncReads := s.syncReads.modify t fun task =>
        { task with answer := some answer } }
  | _ => none

/-- How a call ends for its caller: with the answer, or with the status of a failed call.
A call may fail before it has reached chat-service, or after it was answered. -/
def callOutcome {σ : Type} (answer : Option σ) : Option Status → Option (Except Status σ)
  | some e => some (.error e)
  | none => answer.map .ok

/-- The task that persists a message sees its call end: it calls again, or tells the session
how it went. -/
def persistStep (s : State) (t : Nat) (failure : Option Status) (now : Int) : Option State :=
  match s.persists.get? t with
  | none => none
  | some p =>
      if p.done then none
      else
        match callOutcome ((s.writes.get? p.call).bind (·.answer)) failure with
        | none => none
        | some outcome =>
            match PersistenceService.retryTurn PersistenceService.maxRetries p.attempts outcome with
            | .calling attempts =>
                some { s with
                  writes := s.writes.alloc ⟨p.request, none⟩
                  persists := s.persists.modify t fun p =>
                    { p with attempts := attempts, call := s.writes.next } }
            | .returned result =>
                let status := PersistenceService.ackStatus (PersistenceService.persistResult result)
                let s := s.respondAck p.respondTo ⟨p.messageId, now, status⟩
                some { s with persists := s.persists.modify t fun p => { p with done := true } }

def historyReadStep (s : State) (t : Nat) (failure : Option Status)
    (newV4 : Proto.DirectMessage → Uuid) : Option State :=
  match s.historyReads.get? t with
  | none => none
  | some task =>
      if task.done then none
      else
        (callOutcome task.answer failure).map fun outcome =>
          { s with
            historyRelays := s.historyRelays.modify task.respondTo
              (·.send (PersistenceService.paginatedMessagesResult newV4 outcome))
            historyReads := s.historyReads.modify t fun task => { task with done := true } }

def syncReadStep (s : State) (t : Nat) (failure : Option Status)
    (newV4 : Proto.DirectMessage → Uuid) : Option State :=
  match s.syncReads.get? t with
  | none => none
  | some task =>
      if task.done then none
      else
        (callOutcome task.answer failure).map fun outcome =>
          { s with
            syncRelays := s.syncRelays.modify task.respondTo
              (·.send (PersistenceService.syncMessagesResult newV4 outcome))
            syncReads := s.syncReads.modify t fun task => { task with done := true } }

/-- The task that hands a room's reply to a join on. -/
def joinBridgeStep (s : State) (j : RoomJoinId) : Option State :=
  match s.joinBridges.get? j with
  | none => none
  | some w =>
      if w.done then none
      else
        let s' := { s with joinBridges := s.joinBridges.modify j (·.finish) }
        match w.reply with
        | .pending => none
        | .sent result => some (s'.respondJoin w.context result)
        | .dropped => some (s'.respondJoin w.context (.error "Room response timeout"))

/-- The task that hands a room's member list on. -/
def memberBridgeStep (s : State) (j : RoomMembersId) : Option State :=
  match s.memberBridges.get? j with
  | none => none
  | some w =>
      if w.done then none
      else
        let s' := { s with memberBridges := s.memberBridges.modify j (·.finish) }
        match w.reply with
        | .pending => none
        | .sent members => some (s'.respondMembers w.context (some members))
        | .dropped => some (s'.respondMembers w.context none)

/-! ## What each of them does -/

theorem serveWrite_some {db : Db} {s s' : State} {c : CallId} {fault : Option Fault}
    (h : s.serveWrite db c fault = some s') :
    ∃ request, s.writes.get? c = some ⟨request, none⟩ ∧
      s' = { s with
        store := (request.serve db fault s.store).2
        writes := s.writes.modify c fun call =>
          { call with answer := some (request.serve db fault s.store).1 } } := by
  unfold serveWrite at h
  split at h
  · next request hw => exact ⟨request, hw, (Option.some.inj h).symm⟩
  · cases h

theorem serveHistory_some {db : Db} {s s' : State} {t : Nat} {fault : Option Fault}
    (h : s.serveHistory db t fault = some s') :
    ∃ task, s.historyReads.get? t = some task ∧ task.answer = none ∧
      s' = { s with historyReads := s.historyReads.modify t fun task' => { task' with
        answer := some (ChatServiceImpl.getPaginatedMessages db fault s.store task.request) } } := by
  unfold serveHistory at h
  split at h
  · next request respondTo done ht => exact ⟨_, ht, rfl, (Option.some.inj h).symm⟩
  · cases h

theorem serveSync_some {db : Db} {s s' : State} {t : Nat} {fault : Option Fault}
    (h : s.serveSync db t fault = some s') :
    ∃ task, s.syncReads.get? t = some task ∧ task.answer = none ∧
      s' = { s with syncReads := s.syncReads.modify t fun task' => { task' with
        answer := some (ChatServiceImpl.syncMessages db fault s.store task.request) } } := by
  unfold serveSync at h
  split at h
  · next request respondTo done ht => exact ⟨_, ht, rfl, (Option.some.inj h).symm⟩
  · cases h

/-- Where a call has ended, either it failed or it was answered. -/
theorem callOutcome_some {σ : Type} {answer : Option σ} {failure : Option Status}
    {outcome : Except Status σ} (h : callOutcome answer failure = some outcome) :
    (∃ e, outcome = .error e) ∨ ∃ r, answer = some r ∧ outcome = .ok r := by
  cases failure with
  | some e => exact .inl ⟨e, (Option.some.inj h).symm⟩
  | none =>
    obtain ⟨r, hr, he⟩ := Option.map_eq_some_iff.mp h
    exact .inr ⟨r, hr, he.symm⟩

theorem persistStep_some {s s' : State} {t : Nat} {failure : Option Status} {now : Int}
    (h : s.persistStep t failure now = some s') :
    ∃ p outcome, s.persists.get? t = some p ∧ p.done = false ∧
      callOutcome ((s.writes.get? p.call).bind (·.answer)) failure = some outcome ∧
      ((∃ attempts, PersistenceService.retryTurn PersistenceService.maxRetries p.attempts outcome =
            .calling attempts ∧
          s' = { s with
            writes := s.writes.alloc ⟨p.request, none⟩
            persists := s.persists.modify t fun p =>
              { p with attempts := attempts, call := s.writes.next } }) ∨
        ∃ result, PersistenceService.retryTurn PersistenceService.maxRetries p.attempts outcome =
            .returned result ∧
          s' = { s.respondAck p.respondTo ⟨p.messageId, now,
              PersistenceService.ackStatus (PersistenceService.persistResult result)⟩ with
            persists := s.persists.modify t fun p => { p with done := true } }) := by
  unfold persistStep at h
  split at h
  · cases h
  · next p hp =>
    split at h
    · cases h
    · next hd =>
      split at h
      · cases h
      · next outcome ho =>
        refine ⟨p, outcome, hp, by simpa using hd, ho, ?_⟩
        split at h
        · next attempts hr => exact .inl ⟨attempts, hr, (Option.some.inj h).symm⟩
        · next result hr => exact .inr ⟨result, hr, (Option.some.inj h).symm⟩

theorem historyReadStep_some {s s' : State} {t : Nat} {failure : Option Status}
    {newV4 : Proto.DirectMessage → Uuid} (h : s.historyReadStep t failure newV4 = some s') :
    ∃ task outcome, s.historyReads.get? t = some task ∧ task.done = false ∧
      callOutcome task.answer failure = some outcome ∧
      s' = { s with
        historyRelays := s.historyRelays.modify task.respondTo
          (·.send (PersistenceService.paginatedMessagesResult newV4 outcome))
        historyReads := s.historyReads.modify t fun task => { task with done := true } } := by
  unfold historyReadStep at h
  split at h
  · cases h
  · next task ht =>
    split at h
    · cases h
    · next hd =>
      obtain ⟨outcome, ho, he⟩ := Option.map_eq_some_iff.mp h
      exact ⟨task, outcome, ht, by simpa using hd, ho, he.symm⟩

theorem syncReadStep_some {s s' : State} {t : Nat} {failure : Option Status}
    {newV4 : Proto.DirectMessage → Uuid} (h : s.syncReadStep t failure newV4 = some s') :
    ∃ task outcome, s.syncReads.get? t = some task ∧ task.done = false ∧
      callOutcome task.answer failure = some outcome ∧
      s' = { s with
        syncRelays := s.syncRelays.modify task.respondTo
          (·.send (PersistenceService.syncMessagesResult newV4 outcome))
        syncReads := s.syncReads.modify t fun task => { task with done := true } } := by
  unfold syncReadStep at h
  split at h
  · cases h
  · next task ht =>
    split at h
    · cases h
    · next hd =>
      obtain ⟨outcome, ho, he⟩ := Option.map_eq_some_iff.mp h
      exact ⟨task, outcome, ht, by simpa using hd, ho, he.symm⟩

/-- A bridging task touches its own entry and the reply it hands on. -/
theorem joinBridgeStep_some {s s' : State} {j : RoomJoinId}
    (h : s.joinBridgeStep j = some s') :
    ∃ w r, s.joinBridges.get? j = some w ∧ w.done = false ∧
      s' = { s with
        joinBridges := s.joinBridges.modify j (·.finish)
        joins := s.joins.modify w.context (·.send r) } := by
  unfold joinBridgeStep at h
  split at h
  · cases h
  · next w hw =>
    split at h
    · cases h
    · next hd =>
      split at h
      · cases h
      · next r hr => exact ⟨w, r, hw, by simpa using hd, (Option.some.inj h).symm⟩
      · exact ⟨w, _, hw, by simpa using hd, (Option.some.inj h).symm⟩

theorem memberBridgeStep_some {s s' : State} {j : RoomMembersId}
    (h : s.memberBridgeStep j = some s') :
    ∃ w r, s.memberBridges.get? j = some w ∧ w.done = false ∧
      s' = { s with
        memberBridges := s.memberBridges.modify j (·.finish)
        memberLists := s.memberLists.modify w.context (·.send r) } := by
  unfold memberBridgeStep at h
  split at h
  · cases h
  · next w hw =>
    split at h
    · cases h
    · next hd =>
      split at h
      · cases h
      · next members hr => exact ⟨w, _, hw, by simpa using hd, (Option.some.inj h).symm⟩
      · exact ⟨w, _, hw, by simpa using hd, (Option.some.inj h).symm⟩

end State

/-! ## Actions -/

inductive Action
  | connect (tenantUserId : TenantUserId)
  | finishCreation (sid : SessionId)
  | frame (sid : SessionId) (text : Option ChatMessage) (serverMessageId : Uuid)
  | recvTaskEnd (sid : SessionId)
  | send (sid : SessionId) (fromAcks written : Bool)
  | sendTaskEnd (sid : SessionId)
  | endSession (sid : SessionId)
  | router (persistAt now : Int)
  | room (a : ActorId) (persistAt : Int)
  | cleanupTick (a : ActorId)
  | roomStop (a : ActorId)
  | serveWrite (c : CallId) (fault : Option Fault)
  | serveHistory (t : Nat) (fault : Option Fault)
  | serveSync (t : Nat) (fault : Option Fault)
  | persist (t : Nat) (failure : Option Status) (now : Int)
  | historyRead (t : Nat) (failure : Option Status) (newV4 : Proto.DirectMessage → Uuid)
  | syncRead (t : Nat) (failure : Option Status) (newV4 : Proto.DirectMessage → Uuid)
  | ackRelay (k : AckId)
  | historyRelay (k : HistoryId)
  | syncRelay (k : SyncId)
  | joinBridge (j : RoomJoinId)
  | memberBridge (j : RoomMembersId)

def State.step (db : Db) (s : State) : Action → Option State
  | .connect tenantUserId => some (s.connect tenantUserId)
  | .finishCreation sid => s.finishCreation sid
  | .frame sid text serverMessageId => s.frameStep sid text serverMessageId
  | .recvTaskEnd sid => s.recvTaskEnd sid
  | .send sid fromAcks written => s.sendStep sid fromAcks written
  | .sendTaskEnd sid => s.sendTaskEnd sid
  | .endSession sid => s.endSession sid
  | .router persistAt now => s.routerStep persistAt now
  | .room a persistAt => s.roomStep a persistAt
  | .cleanupTick a => s.cleanupTick a
  | .roomStop a => s.roomStop a
  | .serveWrite c fault => s.serveWrite db c fault
  | .serveHistory t fault => s.serveHistory db t fault
  | .serveSync t fault => s.serveSync db t fault
  | .persist t failure now => s.persistStep t failure now
  | .historyRead t failure newV4 => s.historyReadStep t failure newV4
  | .syncRead t failure newV4 => s.syncReadStep t failure newV4
  | .ackRelay k => s.ackRelayStep k
  | .historyRelay k => s.historyRelayStep k
  | .syncRelay k => s.syncRelayStep k
  | .joinBridge j => s.joinBridgeStep j
  | .memberBridge j => s.memberBridgeStep j

/-- The system over a database session, from a server that has just started on a store. -/
def system (db : Db) (store : Store) : Machine State Action where
  init := .start store
  step := State.step db

/-- A step of the server, or a `get_sert_conversation` that somebody else calls meanwhile, with
nothing between its statements. -/
inductive ChatAction
  | server (act : Action)
  | getSert (request : GetSertConversationRequest) (selectFault insertFault : Option Fault)
      (newId : Uuid) (now : CqlTimestamp)

def State.chatStep (db : Db) (s : State) : ChatAction → Option State
  | .server act => s.step db act
  | .getSert request selectFault insertFault newId now => some { s with
      store := (ChatServiceImpl.getSertConversation db selectFault insertFault newId now s.store
        request).2 }

def chatSystem (db : Db) (store : Store) : Machine State ChatAction where
  init := .start store
  step := State.chatStep db

/-- Whom a `JoinRoom` asks to let in: the user, and the session whose queue it brings along. -/
def RouterMessage.joiner? : RouterMessage → Option (TenantUserId × SessionId)
  | .joinRoom tenantUserId _ sender _ => some (tenantUserId, sender)
  | _ => none

/-- Whoever a message asks to let in is the user of the session. -/
def State.MayPost (s : State) (m : RouterMessage) : Prop :=
  ∀ x ∈ m.joiner?, (s.sessions.get? x.2).map (·.tenantUserId) = some x.1

instance (s : State) (m : RouterMessage) : Decidable (s.MayPost m) :=
  inferInstanceAs (Decidable (∀ x ∈ m.joiner?, _))

/-- A step of the server, or whoever holds a sender of the router sends it a message, such as a
`LeaveRoom`, which no session sends. -/
inductive PostAction
  | server (act : Action)
  | post (origin : SessionId) (message : RouterMessage)

def State.postStep (db : Db) (s : State) : PostAction → Option State
  | .server act => s.step db act
  | .post origin message =>
      if s.MayPost message then some (s.sendRouter origin message) else none

theorem State.postStep_some {db : Db} {s s' : State} {act : PostAction}
    (h : s.postStep db act = some s') :
    (∃ a, act = .server a ∧ s.step db a = some s') ∨
      ∃ origin m, act = .post origin m ∧ s.MayPost m ∧ s' = s.sendRouter origin m := by
  cases act with
  | server a => exact .inl ⟨a, rfl, h⟩
  | post origin m =>
    simp only [State.postStep] at h
    split at h
    · next hm => exact .inr ⟨origin, m, rfl, hm, (Option.some.inj h).symm⟩
    · cases h

/-- The server, with a router that may receive any message. -/
def postSystem (db : Db) (store : Store) : Machine State PostAction where
  init := .start store
  step := State.postStep db

end PerOxo
