import PerOxo.Actors.System

/-!
# Everything a step can do

The outcomes of a step of the system, each with what it requires and the state it leads to:
`State.Framed` for the frame of a client, `State.HandledByRouter` and `State.HandledByRoom` for
a message that is handled, and `State.Stepped` for a step. What a step does to one part of the
state or another is read off here, so that no later proof opens a step function.

A handler that may leave a field alone writes it in all cases here: the other fields are then
the old ones without a case distinction.
-/

set_option autoImplicit false

namespace PerOxo

open ChatService

def RoomActor.post (r : RoomActor) (e : Envelope RoomMessage) : RoomActor :=
  { r with mailbox := r.mailbox ++ [e] }

namespace State

/-! ## Frames -/

/-- What the receive task of a session of `u` does with a frame: it ignores it, or it sends one
message to the router and keeps a place for the reply. -/
inductive Framed (s : State) (sid : SessionId) (u : TenantUserId) (id : Uuid) :
    Option ChatMessage → State → Prop
  | ignored (text : Option ChatMessage) : s.Framed sid u id text s
  | direct (conversationId : String) (toUser : TenantUserId) (content : String)
      (clientMessageId : Uuid) :
      s.Framed sid u id (some (.sendDirectMessage conversationId toUser content clientMessageId))
        (s.sendDirectMessage sid u conversationId toUser content clientMessageId id)
  | history (projectId : String) (messageId : Option Uuid) (conversationId : String) :
      s.Framed sid u id (some (.getPaginatedMessages projectId messageId conversationId))
        (s.requestHistory sid projectId messageId conversationId)
  /-- The frame names the user of the session. -/
  | room (roomId content : String) (clientMessageId : Uuid) :
      s.Framed sid u id (some (.roomMessage roomId u content clientMessageId))
        { s.sendRouter sid (.sendRoomMessage roomId u content id (some s.ackRelays.next)) with
          ackRelays := s.ackRelays.alloc (.start
            ⟨sid, clientMessageId, .roomMessage roomId u content clientMessageId, id⟩) }
  | join (roomId : String) :
      s.Framed sid u id (some (.joinRoom roomId)) (s.requestJoin sid u roomId)
  | sync (projectId conversationId : String) (messageId : Uuid) :
      s.Framed sid u id (some (.syncMessages projectId conversationId messageId))
        (s.requestSync sid projectId conversationId messageId)

theorem framed {s t : State} {sid : SessionId} {u : TenantUserId} {id : Uuid}
    {text : Option ChatMessage} (h : s.handleFrame sid u id text = t) :
    s.Framed sid u id text t := by
  subst h
  unfold handleFrame
  split
  · exact .direct _ _ _ _
  · exact .history _ _ _
  · next roomId fromUser content messageId =>
    unfold sendRoomMessage
    by_cases hf : fromUser ≠ u
    · rw [if_pos hf]
      exact .ignored _
    · rw [if_neg hf]
      obtain rfl : fromUser = u := not_not.mp hf
      exact .room roomId content messageId
  · exact .join _
  · exact .sync _ _ _
  · exact .ignored _
  · exact .ignored _

/-! ## The router -/

/-- There is no actor left to take a message to a room. -/
def Gone (s : State) (a : ActorId) : Prop := ∀ r, s.actors.get? a = some r → r.alive = false

/-- The two outcomes of sending to a room, with everything that changes. -/
theorem sendRoom_cases (s : State) (a : ActorId) (o : SessionId) (m : RoomMessage) :
    (s.sendRoom a o m = none ∧ s.Gone a) ∨
    ∃ r, s.actors.get? a = some r ∧ r.alive = true ∧
      s.sendRoom a o m = some { s with actors := s.actors.modify a (·.post ⟨o, m⟩) } := by
  unfold sendRoom
  cases hr : s.actors.get? a with
  | none => exact .inl ⟨rfl, fun r h => by rw [hr] at h; cases h⟩
  | some r =>
    cases ha : r.alive with
    | true => exact .inr ⟨r, rfl, ha, by simp [ha]; rfl⟩
    | false =>
      refine .inl ⟨by simp [ha], fun r' h => ?_⟩
      rw [hr] at h
      cases h
      exact ha

/-- A message is persisted if someone waits for the acknowledgement. -/
def persistFor (s : State) (request : WriteRequest) (messageId : Uuid) : Option AckId → State
  | some responder => s.spawnPersist request messageId responder
  | none => s

/-- The queues after a direct message has been sent to whoever is registered for `toUser`. -/
def deliver (s : State) (toUser : TenantUserId) (m : ChatMessage) :
    Outbox SessionId ChatMessage channelBufferSize :=
  match s.router.users.lookup toUser with
  | some sid => s.queues.trySend sid m
  | none => s.queues

/-- What the router does with a message. -/
inductive HandledByRouter (s : State) (o : SessionId) (persistAt now : Int) :
    RouterMessage → State → Prop
  | refusedRegistration {u : TenantUserId} {sid : SessionId} (sender respondTo : SessionId)
      (online : s.router.users.lookup u = some sid) :
      s.HandledByRouter o persistAt now (.registerUser u sender respondTo)
        (s.respondRegister respondTo (.error "User already online"))
  | registered {u : TenantUserId} (sender respondTo : SessionId)
      (offline : s.router.users.lookup u = none) :
      s.HandledByRouter o persistAt now (.registerUser u sender respondTo)
        ({ s with router := { s.router with
          users := s.router.users.insert u sender
          onlineUsers := s.router.onlineUsers ++ [u] } }.respondRegister respondTo (.ok ()))
  | unregistered {u : TenantUserId} {sid : SessionId}
      (online : s.router.users.lookup u = some sid) :
      s.HandledByRouter o persistAt now (.unregisterUser u)
        { s with router := { s.router with
          users := s.router.users.erase u
          onlineUsers := s.router.onlineUsers.filter (· ≠ u) } }
  | notRegistered {u : TenantUserId} (offline : s.router.users.lookup u = none) :
      s.HandledByRouter o persistAt now (.unregisterUser u) s
  | direct {conversationId content : String} {fromUser toUser : TenantUserId} {id : Uuid}
      {k : Option AckId} {w : State}
      (persist : w = s.persistFor (.dm (PersistenceService.persistDirectMessageRequest
        conversationId fromUser toUser content id persistAt)) id k) :
      s.HandledByRouter o persistAt now
        (.sendDirectMessage conversationId fromUser toUser content id k)
        { s with
          writes := w.writes
          persists := w.persists
          queues := s.deliver toUser (.directMessage fromUser content id now) }
  | listed (k : OnlineId) :
      s.HandledByRouter o persistAt now (.getOnlineUsers k) (s.handleGetOnlineUsers k)
  | history (projectId : String) (messageId : Option Uuid) (conversationId : String)
      (k : HistoryId) :
      s.HandledByRouter o persistAt now
        (.getPaginatedMessages projectId messageId conversationId k)
        (s.handleGetPaginatedChatHistory projectId messageId conversationId k)
  | sync (projectId conversationId : String) (messageId : Uuid) (k : SyncId) :
      s.HandledByRouter o persistAt now (.syncMessages projectId conversationId messageId k)
        (s.handleSyncMessages projectId conversationId messageId k)
  | joining {u : TenantUserId} {roomId : String} {sender : SessionId} {j : JoinId} {a : ActorId}
      {r : RoomActor} (known : s.router.rooms.lookup roomId = some a)
      (found : s.actors.get? a = some r) (alive : r.alive = true) :
      s.HandledByRouter o persistAt now (.joinRoom u roomId sender j) { s with
        actors := s.actors.modify a (·.post ⟨o, .addMember u sender s.joinBridges.next⟩)
        joinBridges := s.joinBridges.alloc (.start j) }
  | joinLost {u : TenantUserId} {roomId : String} {sender : SessionId} {j : JoinId} {a : ActorId}
      (known : s.router.rooms.lookup roomId = some a) (gone : s.Gone a) :
      s.HandledByRouter o persistAt now (.joinRoom u roomId sender j)
        (s.respondJoin j (.error "Failed to communicate with room"))
  /-- The first join of a room spawns its actor. -/
  | founding {u : TenantUserId} {roomId : String} {sender : SessionId} {j : JoinId}
      (unknown : s.router.rooms.lookup roomId = none) :
      s.HandledByRouter o persistAt now (.joinRoom u roomId sender j) { s with
        router := { s.router with rooms := s.router.rooms.insert roomId s.actors.next }
        actors := s.actors.alloc
          ((RoomActor.new roomId).post ⟨o, .addMember u sender s.joinBridges.next⟩)
        joinBridges := s.joinBridges.alloc (.start j) }
  | leaving {u : TenantUserId} {roomId : String} {a : ActorId} {r : RoomActor}
      (known : s.router.rooms.lookup roomId = some a) (found : s.actors.get? a = some r)
      (alive : r.alive = true) :
      s.HandledByRouter o persistAt now (.leaveRoom u roomId)
        { s with actors := s.actors.modify a (·.post ⟨o, .removeMember u⟩) }
  | leaveLost {u : TenantUserId} {roomId : String}
      (gone : ∀ a, s.router.rooms.lookup roomId = some a → s.Gone a) :
      s.HandledByRouter o persistAt now (.leaveRoom u roomId) s
  | sending {roomId content : String} {u : TenantUserId} {id : Uuid} {k : Option AckId}
      {a : ActorId} {r : RoomActor} (known : s.router.rooms.lookup roomId = some a)
      (found : s.actors.get? a = some r) (alive : r.alive = true) :
      s.HandledByRouter o persistAt now (.sendRoomMessage roomId u content id k)
        { s with actors := s.actors.modify a (·.post ⟨o, .sendMessage u content id k⟩) }
  | messageLost {roomId content : String} {u : TenantUserId} {id : Uuid} {k : AckId}
      {a : ActorId} (known : s.router.rooms.lookup roomId = some a) (gone : s.Gone a) :
      s.HandledByRouter o persistAt now (.sendRoomMessage roomId u content id (some k))
        (s.dropAck k)
  | messageRefused {roomId content : String} {u : TenantUserId} {id : Uuid} {k : AckId}
      (unknown : s.router.rooms.lookup roomId = none) :
      s.HandledByRouter o persistAt now (.sendRoomMessage roomId u content id (some k))
        (s.respondAck k ⟨id, now, .failed "Room not found"⟩)
  /-- Nobody waits for the acknowledgement of a message that cannot be handed on. -/
  | messageDropped {roomId content : String} {u : TenantUserId} {id : Uuid}
      (gone : ∀ a, s.router.rooms.lookup roomId = some a → s.Gone a) :
      s.HandledByRouter o persistAt now (.sendRoomMessage roomId u content id none) s
  | asking {roomId : String} {j : MembersId} {a : ActorId} {r : RoomActor}
      (known : s.router.rooms.lookup roomId = some a) (found : s.actors.get? a = some r)
      (alive : r.alive = true) :
      s.HandledByRouter o persistAt now (.getRoomMembers roomId j) { s with
        actors := s.actors.modify a (·.post ⟨o, .getMembers s.memberBridges.next⟩)
        memberBridges := s.memberBridges.alloc (.start j) }
  | membersLost {roomId : String} {j : MembersId}
      (gone : ∀ a, s.router.rooms.lookup roomId = some a → s.Gone a) :
      s.HandledByRouter o persistAt now (.getRoomMembers roomId j) (s.respondMembers j none)

/-- A room that has just been spawned takes a message. -/
theorem sendRoom_spawnRoom (s : State) (roomId : String) (o : SessionId) (m : RoomMessage) :
    (s.spawnRoom roomId).sendRoom s.actors.next o m = some { s with
      router := { s.router with rooms := s.router.rooms.insert roomId s.actors.next }
      actors := s.actors.alloc ((RoomActor.new roomId).post ⟨o, m⟩) } := by
  rcases (s.spawnRoom roomId).sendRoom_cases s.actors.next o m with ⟨-, hgone⟩ | ⟨r, -, -, hs⟩
  · exact absurd (hgone _ Arena.get?_alloc_self) (by simp [RoomActor.new])
  · rw [hs]
    have hpost : (s.actors.alloc (.new roomId)).modify s.actors.next (·.post ⟨o, m⟩) =
        s.actors.alloc ((RoomActor.new roomId).post ⟨o, m⟩) := Arena.modify_alloc_next
    simp only [spawnRoom, hpost]

theorem handledByRouter {s t : State} {o : SessionId} {p n : Int} {m : RouterMessage}
    (h : s.handleRouterMessage o p n m = t) : s.HandledByRouter o p n m t := by
  subst h
  cases m with
  | registerUser u sender respondTo =>
    simp only [handleRouterMessage, handleRegisterUser]
    cases hl : s.router.users.lookup u with
    | some sid => exact .refusedRegistration sender respondTo hl
    | none => exact .registered sender respondTo hl
  | unregisterUser u =>
    simp only [handleRouterMessage, handleUnregisterUser]
    cases hl : s.router.users.lookup u with
    | some sid => exact .unregistered hl
    | none => exact .notRegistered hl
  | sendDirectMessage c f v m i k =>
    have hd : s.handleDirectMessage c f v m i k p n = { s with
        writes := (s.persistFor
          (.dm (PersistenceService.persistDirectMessageRequest c f v m i p)) i k).writes
        persists := (s.persistFor
          (.dm (PersistenceService.persistDirectMessageRequest c f v m i p)) i k).persists
        queues := s.deliver v (.directMessage f m i n) } := by
      simp only [handleDirectMessage, deliver]
      cases k <;> dsimp only [spawnPersist, persistFor] <;>
        cases s.router.users.lookup v <;> rfl
    simp only [handleRouterMessage, hd]
    exact .direct rfl
  | getOnlineUsers k => exact .listed k
  | getPaginatedMessages pr i c k => exact .history pr i c k
  | syncMessages pr c i k => exact .sync pr c i k
  | joinRoom u room sender j =>
    simp only [handleRouterMessage, handleJoinRoom, roomActor]
    cases hl : s.router.rooms.lookup room with
    | some a =>
      rcases s.sendRoom_cases a o (.addMember u sender s.joinBridges.next) with
        ⟨hs, hgone⟩ | ⟨r, hr, hal, hs⟩
      · simp only [hs]
        exact .joinLost hl hgone
      · simp only [hs]
        exact .joining hl hr hal
    | none =>
      have hj : (s.spawnRoom room).joinBridges = s.joinBridges := rfl
      simp only [hj, sendRoom_spawnRoom]
      exact .founding hl
  | leaveRoom u room =>
    simp only [handleRouterMessage, handleLeaveRoom]
    cases hl : s.router.rooms.lookup room with
    | none => exact .leaveLost (by simp [hl])
    | some a =>
      rcases s.sendRoom_cases a o (.removeMember u) with ⟨hs, hgone⟩ | ⟨r, hr, hal, hs⟩
      · simp only [hs]
        exact .leaveLost (by simpa [hl] using hgone)
      · simp only [hs]
        exact .leaving hl hr hal
  | sendRoomMessage room f c i k =>
    simp only [handleRouterMessage, handleRoomMessage]
    cases hl : s.router.rooms.lookup room with
    | none =>
      cases k with
      | some k => exact .messageRefused hl
      | none => exact .messageDropped (by simp [hl])
    | some a =>
      rcases s.sendRoom_cases a o (.sendMessage f c i k) with ⟨hs, hgone⟩ | ⟨r, hr, hal, hs⟩
      · simp only [hs]
        cases k with
        | some k => exact .messageLost hl hgone
        | none => exact .messageDropped (by simpa [hl] using hgone)
      · simp only [hs]
        exact .sending hl hr hal
  | getRoomMembers room j =>
    simp only [handleRouterMessage, handleGetRoomMembers]
    cases hl : s.router.rooms.lookup room with
    | none => exact .membersLost (by simp [hl])
    | some a =>
      rcases s.sendRoom_cases a o (.getMembers s.memberBridges.next) with
        ⟨hs, hgone⟩ | ⟨r, hr, hal, hs⟩
      · simp only [hs]
        exact .membersLost (by simpa [hl] using hgone)
      · simp only [hs]
        exact .asking hl hr hal

/-! ## The rooms -/

/-- What the actor `a`, being `r`, does with a message. -/
inductive HandledByRoom (s : State) (a : ActorId) (r : RoomActor) (persistAt : Int) :
    RoomMessage → State → Prop
  | alreadyMember {u : TenantUserId} {sender sid : SessionId} {k : RoomJoinId}
      (member : r.members.lookup u = some sid) :
      s.HandledByRoom a r persistAt (.addMember u sender k) { s with
        joinBridges := s.joinBridges.modify k (·.send (.error "User already in room")) }
  | added {u : TenantUserId} {sender : SessionId} {k : RoomJoinId}
      (newcomer : r.members.lookup u = none) :
      s.HandledByRoom a r persistAt (.addMember u sender k) { s with
        actors := s.actors.modify a fun r => { r with members := r.members.insert u sender }
        joinBridges := s.joinBridges.modify k (·.send (.ok ())) }
  | removed (u : TenantUserId) :
      s.HandledByRoom a r persistAt (.removeMember u) (s.handleRemoveMember a u)
  | sent {u : TenantUserId} {content : String} {id : Uuid} {k : Option AckId} {w : State}
      (persist : w = s.persistFor (.room (PersistenceService.persistRoomMessageRequest r.roomId u
        content id persistAt)) id k) :
      s.HandledByRoom a r persistAt (.sendMessage u content id k) { s with
        writes := w.writes
        persists := w.persists
        queues := s.queues.broadcast (HashMap.values r.members)
          (.roomMessage r.roomId u content id) }
  | listed (k : RoomMembersId) :
      s.HandledByRoom a r persistAt (.getMembers k)
        { s with memberBridges := s.memberBridges.modify k (·.send r.members.keys) }
  | history (projectId : String) (messageId : Option Uuid) (k : HistoryId) :
      s.HandledByRoom a r persistAt (.getPaginatedMessages projectId messageId k)
        (s.handleRoomGetPaginatedMessages r projectId messageId k)

theorem handledByRoom {s t : State} {a : ActorId} {r : RoomActor} {p : Int} {m : RoomMessage}
    (h : s.handleMessage a r p m = t) : s.HandledByRoom a r p m t := by
  subst h
  cases m with
  | addMember u sender k =>
    simp only [handleMessage, handleAddMember]
    cases hl : r.members.lookup u with
    | some sid => exact .alreadyMember hl
    | none => exact .added hl
  | removeMember u => exact .removed u
  | sendMessage u c i k => cases k <;> exact .sent rfl
  | getMembers k => exact .listed k
  | getPaginatedMessages pr i k => exact .history pr i k

/-! ## The steps of the system -/

/-- The outcomes of a step, with what each of them requires and the state it leads to. -/
inductive Stepped (db : Db) (s : State) : Action → State → Prop
  | connected (u : TenantUserId) : s.Stepped db (.connect u) (s.connect u)
  | started {sid : SessionId} {ses : UserSession} (found : s.sessions.get? sid = some ses)
      (creating : ses.phase = .creating) (accepted : ses.registration = .sent (.ok ())) :
      s.Stepped db (.finishCreation sid) (s.startSession sid)
  | failed {sid : SessionId} {ses : UserSession} (e : String)
      (found : s.sessions.get? sid = some ses) (creating : ses.phase = .creating)
      (answered : ses.registration ≠ .pending) (rejected : ses.registration ≠ .sent (.ok ())) :
      s.Stepped db (.finishCreation sid) (s.failSession sid e)
  | framed {sid : SessionId} {ses : UserSession} {text : Option ChatMessage} {id : Uuid}
      (found : s.sessions.get? sid = some ses) (active : ses.recvTask.Active)
      (fresh : id ∉ s.issuedIds) {t : State}
      (result : s.handleFrame sid ses.tenantUserId id text = t) :
      s.Stepped db (.frame sid text id) t
  | recvEnded {sid : SessionId} {ses : UserSession} (found : s.sessions.get? sid = some ses)
      (active : ses.recvTask.Active) : s.Stepped db (.recvTaskEnd sid) (s.endRecvTask sid)
  /-- A message of the session's own channel is written. -/
  | ackWritten {sid : SessionId} {ses : UserSession} {m : ChatMessage}
      {c : Chan ChatMessage channelBufferSize} (found : s.sessions.get? sid = some ses)
      (active : ses.sendTask.Active) (recv : (s.acks.chan sid).recv = some (m, c)) :
      s.Stepped db (.send sid true true)
        { s with acks := s.acks.set sid c, socket := s.socket ++ [(sid, m)] }
  /-- A message that is queued for the session is written. -/
  | queueWritten {sid : SessionId} {ses : UserSession} {m : ChatMessage}
      {c : Chan ChatMessage channelBufferSize} (found : s.sessions.get? sid = some ses)
      (active : ses.sendTask.Active) (recv : (s.queues.chan sid).recv = some (m, c)) :
      s.Stepped db (.send sid false true)
        { s with queues := s.queues.set sid c, socket := s.socket ++ [(sid, m)] }
  /-- The message that has been taken cannot be written. It is gone with its channel. -/
  | sendFailed {sid : SessionId} {ses : UserSession} {fromAcks : Bool}
      (found : s.sessions.get? sid = some ses) (active : ses.sendTask.Active) :
      s.Stepped db (.send sid fromAcks false) (s.endSendTask sid)
  | sendEnded {sid : SessionId} {ses : UserSession} (found : s.sessions.get? sid = some ses)
      (active : ses.sendTask.Active) : s.Stepped db (.sendTaskEnd sid) (s.endSendTask sid)
  | ended {sid : SessionId} {ses : UserSession} (found : s.sessions.get? sid = some ses)
      (running : ses.phase = .running)
      (finished : ses.sendTask = .finished ∨ ses.recvTask = .finished) :
      s.Stepped db (.endSession sid)
        ((s.abortTasks sid).sendRouter sid (.unregisterUser ses.tenantUserId))
  | routed {e : Envelope RouterMessage} {rest : List (Envelope RouterMessage)}
      {persistAt now : Int} {t : State} (next : s.mailbox = e :: rest)
      (result : (s.takeRouterMessage e rest).handleRouterMessage e.origin persistAt now e.message =
        t) : s.Stepped db (.router persistAt now) t
  | roomHandled {a : ActorId} {r : RoomActor} {e : Envelope RoomMessage}
      {rest : List (Envelope RoomMessage)} {persistAt : Int} {t : State}
      (found : s.actors.get? a = some r) (alive : r.alive = true) (next : r.mailbox = e :: rest)
      (result : (s.takeRoomMessage a e rest).handleMessage a r persistAt e.message = t) :
      s.Stepped db (.room a persistAt) t
  | ticked {a : ActorId} {r : RoomActor} (found : s.actors.get? a = some r)
      (alive : r.alive = true) : s.Stepped db (.cleanupTick a) (s.dropStaleMembers a)
  | roomStopped {a : ActorId} {r : RoomActor} (found : s.actors.get? a = some r)
      (alive : r.alive = true) (drained : r.mailbox = [])
      (unused : a ∉ HashMap.values s.router.rooms) :
      s.Stepped db (.roomStop a)
        { s with actors := s.actors.modify a fun r => { r with alive := false } }
  | servedWrite {c : CallId} {request : WriteRequest} {fault : Option Fault}
      (found : s.writes.get? c = some ⟨request, none⟩) :
      s.Stepped db (.serveWrite c fault) { s with
        store := (request.serve db fault s.store).2
        writes := s.writes.modify c fun call =>
          { call with answer := some (request.serve db fault s.store).1 } }
  | servedHistory {t : Nat} {fault : Option Fault}
      {task : ReadTask GetPaginatedMessagesRequest GetPaginatedMessagesResponse}
      (found : s.historyReads.get? t = some task) (unanswered : task.answer = none) :
      s.Stepped db (.serveHistory t fault) { s with
        historyReads := s.historyReads.modify t fun task' => { task' with
          answer := some (ChatServiceImpl.getPaginatedMessages db fault s.store task.request) } }
  | servedSync {t : Nat} {fault : Option Fault}
      {task : ReadTask SyncMessagesRequest SyncMessagesResponse}
      (found : s.syncReads.get? t = some task) (unanswered : task.answer = none) :
      s.Stepped db (.serveSync t fault) { s with
        syncReads := s.syncReads.modify t fun task' => { task' with
          answer := some (ChatServiceImpl.syncMessages db fault s.store task.request) } }
  /-- A call has failed and is made again. -/
  | retried {t : Nat} {p : PersistTask} {failure : Option Status} {now : Int}
      {outcome : Except Status WriteResponse} {attempts : Nat} (found : s.persists.get? t = some p)
      (running : p.done = false)
      (ended : callOutcome ((s.writes.get? p.call).bind (·.answer)) failure = some outcome)
      (again : PersistenceService.retryTurn PersistenceService.maxRetries p.attempts outcome =
        .calling attempts) :
      s.Stepped db (.persist t failure now) { s with
        writes := s.writes.alloc ⟨p.request, none⟩
        persists := s.persists.modify t fun p =>
          { p with attempts := attempts, call := s.writes.next } }
  | persisted {t : Nat} {p : PersistTask} {failure : Option Status} {now : Int}
      {outcome result : Except Status WriteResponse} (found : s.persists.get? t = some p)
      (running : p.done = false)
      (ended : callOutcome ((s.writes.get? p.call).bind (·.answer)) failure = some outcome)
      (returned : PersistenceService.retryTurn PersistenceService.maxRetries p.attempts outcome =
        .returned result) :
      s.Stepped db (.persist t failure now) { s.respondAck p.respondTo ⟨p.messageId, now,
          PersistenceService.ackStatus (PersistenceService.persistResult result)⟩ with
        persists := s.persists.modify t fun p => { p with done := true } }
  | historyReturned {t : Nat}
      {task : ReadTask GetPaginatedMessagesRequest GetPaginatedMessagesResponse}
      {failure : Option Status} {newV4 : Proto.DirectMessage → Uuid}
      {outcome : Except Status GetPaginatedMessagesResponse}
      (found : s.historyReads.get? t = some task) (running : task.done = false)
      (ended : callOutcome task.answer failure = some outcome) :
      s.Stepped db (.historyRead t failure newV4) { s with
        historyRelays := s.historyRelays.modify task.respondTo
          (·.send (PersistenceService.paginatedMessagesResult newV4 outcome))
        historyReads := s.historyReads.modify t fun task => { task with done := true } }
  | syncReturned {t : Nat} {task : ReadTask SyncMessagesRequest SyncMessagesResponse}
      {failure : Option Status} {newV4 : Proto.DirectMessage → Uuid}
      {outcome : Except Status SyncMessagesResponse}
      (found : s.syncReads.get? t = some task) (running : task.done = false)
      (ended : callOutcome task.answer failure = some outcome) :
      s.Stepped db (.syncRead t failure newV4) { s with
        syncRelays := s.syncRelays.modify task.respondTo
          (·.send (PersistenceService.syncMessagesResult newV4 outcome))
        syncReads := s.syncReads.modify t fun task => { task with done := true } }
  | ackGaveUp {k : AckId} {w : Waiter AckTicket MessageAckResponse}
      (found : s.ackRelays.get? k = some w) (running : w.done = false)
      (dropped : w.reply = .dropped) :
      s.Stepped db (.ackRelay k) { s with ackRelays := s.ackRelays.modify k (·.finish) }
  | acked {k : AckId} {w : Waiter AckTicket MessageAckResponse} {r : MessageAckResponse}
      (found : s.ackRelays.get? k = some w) (running : w.done = false) (reply : w.reply = .sent r)
      (room : (s.acks.chan w.context.session).isOpen = true →
        (s.acks.chan w.context.session).Accepts) :
      s.Stepped db (.ackRelay k) { s with
        acks := s.acks.trySend w.context.session
          (.messageAck w.context.clientMessageId r.messageId r.timestamp r.status)
        ackRelays := s.ackRelays.modify k (·.finish) }
  /-- The reply is no page. -/
  | historyDone {k : HistoryId}
      {w : Waiter ReadTicket (Except String PaginatedMessagesResponse)}
      (found : s.historyRelays.get? k = some w) (running : w.done = false) :
      s.Stepped db (.historyRelay k)
        { s with historyRelays := s.historyRelays.modify k (·.finish) }
  | historyRelayed {k : HistoryId}
      {w : Waiter ReadTicket (Except String PaginatedMessagesResponse)}
      {r : PaginatedMessagesResponse} (found : s.historyRelays.get? k = some w)
      (running : w.done = false) (reply : w.reply = .sent (.ok r)) :
      s.Stepped db (.historyRelay k) { s with
        acks := s.acks.trySend w.context.session (chatHistoryResponse r)
        historyRelays := s.historyRelays.modify k (·.finish) }
  | syncDone {k : SyncId} {w : Waiter ReadTicket (Except String (List ResponseDirectMessage))}
      (found : s.syncRelays.get? k = some w) (running : w.done = false) :
      s.Stepped db (.syncRelay k) { s with syncRelays := s.syncRelays.modify k (·.finish) }
  | syncRelayed {k : SyncId} {w : Waiter ReadTicket (Except String (List ResponseDirectMessage))}
      {messages : List ResponseDirectMessage} (found : s.syncRelays.get? k = some w)
      (running : w.done = false) (reply : w.reply = .sent (.ok messages)) :
      s.Stepped db (.syncRelay k) { s with
        acks := s.acks.trySend w.context.session (.syncMessagesResponse messages)
        syncRelays := s.syncRelays.modify k (·.finish) }
  | joinBridged {j : RoomJoinId} {w : Waiter JoinId (Except String Unit)}
      {r : Except String Unit} (found : s.joinBridges.get? j = some w) (running : w.done = false) :
      s.Stepped db (.joinBridge j) { s with
        joinBridges := s.joinBridges.modify j (·.finish)
        joins := s.joins.modify w.context (·.send r) }
  | membersBridged {j : RoomMembersId} {w : Waiter MembersId (List TenantUserId)}
      {r : Option (List TenantUserId)} (found : s.memberBridges.get? j = some w)
      (running : w.done = false) :
      s.Stepped db (.memberBridge j) { s with
        memberBridges := s.memberBridges.modify j (·.finish)
        memberLists := s.memberLists.modify w.context (·.send r) }

/-- **What a step of the system is.** -/
theorem stepped {db : Db} {s s' : State} {act : Action} (h : s.step db act = some s') :
    s.Stepped db act s' := by
  cases act with
  | connect u =>
    cases h
    exact .connected u
  | finishCreation sid =>
    obtain ⟨u, hu, hp, ⟨hr, rfl⟩ | ⟨hr, hr', e, rfl⟩⟩ := finishCreation_some h
    · exact .started hu hp hr
    · exact .failed e hu hp hr hr'
  | frame sid text id =>
    obtain ⟨u, hu, hact, hid, rfl⟩ := frameStep_some h
    exact .framed hu hact hid rfl
  | recvTaskEnd sid =>
    obtain ⟨u, hu, hact, rfl⟩ := recvTaskEnd_some h
    exact .recvEnded hu hact
  | send sid fromAcks written =>
    obtain ⟨u, m, t, hu, hact, ht, hs⟩ := sendStep_some h
    rcases hs with ⟨rfl, rfl⟩ | ⟨rfl, rfl⟩
    · rcases takeMessage_some ht with ⟨rfl, c, hc, rfl⟩ | ⟨rfl, c, hc, rfl⟩
      · exact .ackWritten hu hact hc
      · exact .queueWritten hu hact hc
    · have he : t.endSendTask sid = s.endSendTask sid := by
        rcases takeMessage_some ht with ⟨-, c, -, rfl⟩ | ⟨-, c, -, rfl⟩ <;>
          simp [endSendTask, Outbox.set_set]
      rw [he]
      exact .sendFailed hu hact
  | sendTaskEnd sid =>
    obtain ⟨u, hu, hact, rfl⟩ := sendTaskEnd_some h
    exact .sendEnded hu hact
  | endSession sid =>
    obtain ⟨u, hu, hp, hover, rfl⟩ := endSession_some h
    exact .ended hu hp hover
  | router p n =>
    obtain ⟨e, rest, hm, rfl⟩ := routerStep_some h
    exact .routed hm rfl
  | room a p =>
    obtain ⟨r, e, rest, hr, hal, hm, rfl⟩ := roomStep_some h
    exact .roomHandled hr hal hm rfl
  | cleanupTick a =>
    obtain ⟨r, hr, hal, rfl⟩ := cleanupTick_some h
    exact .ticked hr hal
  | roomStop a =>
    obtain ⟨r, hr, hal, hm, hu, rfl⟩ := roomStop_some h
    exact .roomStopped hr hal hm hu
  | serveWrite c f =>
    obtain ⟨q, hq, rfl⟩ := serveWrite_some h
    exact .servedWrite hq
  | serveHistory t f =>
    obtain ⟨q, hq, hn, rfl⟩ := serveHistory_some h
    exact .servedHistory hq hn
  | serveSync t f =>
    obtain ⟨q, hq, hn, rfl⟩ := serveSync_some h
    exact .servedSync hq hn
  | persist t f n =>
    obtain ⟨p, o, hp, hd, ho, ⟨attempts, hr, rfl⟩ | ⟨r, hr, rfl⟩⟩ := persistStep_some h
    · exact .retried hp hd ho hr
    · exact .persisted hp hd ho hr
  | historyRead t f v =>
    obtain ⟨q, o, hq, hd, ho, rfl⟩ := historyReadStep_some h
    exact .historyReturned hq hd ho
  | syncRead t f v =>
    obtain ⟨q, o, hq, hd, ho, rfl⟩ := syncReadStep_some h
    exact .syncReturned hq hd ho
  | ackRelay k =>
    obtain ⟨w, hw, hd, ⟨hr, rfl⟩ | ⟨r, acks, hr, ha, rfl⟩⟩ := ackRelayStep_some h
    · exact .ackGaveUp hw hd hr
    · obtain ⟨hroom, rfl⟩ := pushAck_some ha
      exact .acked hw hd hr hroom
  | historyRelay k =>
    obtain ⟨w, hw, hd, rfl | ⟨r, acks, hr, ha, rfl⟩⟩ := historyRelayStep_some h
    · exact .historyDone hw hd
    · obtain ⟨-, rfl⟩ := pushAck_some ha
      exact .historyRelayed hw hd hr
  | syncRelay k =>
    obtain ⟨w, hw, hd, rfl | ⟨r, acks, hr, ha, rfl⟩⟩ := syncRelayStep_some h
    · exact .syncDone hw hd
    · obtain ⟨-, rfl⟩ := pushAck_some ha
      exact .syncRelayed hw hd hr
  | joinBridge j =>
    obtain ⟨w, r, hw, hd, rfl⟩ := joinBridgeStep_some h
    exact .joinBridged hw hd
  | memberBridge j =>
    obtain ⟨w, r, hw, hd, rfl⟩ := memberBridgeStep_some h
    exact .membersBridged hw hd

/-- The router's step, where the head of its mailbox is known. -/
theorem router_result {db : Db} {s s' : State} {e : Envelope RouterMessage}
    {rest : List (Envelope RouterMessage)} {p n : Int} (h : s.step db (.router p n) = some s')
    (hm : s.mailbox = e :: rest) :
    (s.takeRouterMessage e rest).handleRouterMessage e.origin p n e.message = s' := by
  cases stepped h with
  | routed next result =>
    obtain ⟨rfl, rfl⟩ := List.cons.inj (hm.symm.trans next)
    exact result

/-- The step of a room, where the head of its mailbox is known. -/
theorem room_result {db : Db} {s s' : State} {a : ActorId} {r : RoomActor}
    {e : Envelope RoomMessage} {rest : List (Envelope RoomMessage)} {p : Int}
    (h : s.step db (.room a p) = some s') (hr : s.actors.get? a = some r)
    (hm : r.mailbox = e :: rest) :
    (s.takeRoomMessage a e rest).handleMessage a r p e.message = s' := by
  cases stepped h with
  | roomHandled found alive next result =>
    obtain rfl := Option.some.inj (hr.symm.trans found)
    obtain ⟨rfl, rfl⟩ := List.cons.inj (hm.symm.trans next)
    exact result

end State

end PerOxo
