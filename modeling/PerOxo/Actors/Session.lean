import PerOxo.Actors.State

/-!
# User sessions

`connection_manager.rs`, `user_session/session.rs` and `user_session/handlers.rs`: how a
session is created, what its receive task does with a frame, how its send task drains the two
channels, and how the session ends. The tasks it spawns for one request each, which carry a
reply back to it, are here as well.
-/

set_option autoImplicit false

namespace PerOxo

open ChatService

namespace State

/-! ## Creation -/

/-- `UserSession::new` up to its first `await`. -/
def connect (s : State) (tenantUserId : TenantUserId) : State :=
  let sid := s.sessions.next
  let s := { s with
    sessions := s.sessions.alloc ⟨tenantUserId, .creating, .pending, .idle, .idle⟩
    queues := s.queues.set sid .empty }
  s.sendRouter sid (.registerUser tenantUserId sid sid)

/-- A session that could not be created is dropped, and its channel with it. -/
def failSession (s : State) (sid : SessionId) (e : String) : State :=
  { s with
    sessions := s.sessions.modify sid fun u => { u with phase := .failed e }
    queues := s.queues.set sid .closed }

/-- The start of `run`. -/
def startSession (s : State) (sid : SessionId) : State :=
  { s with
    sessions := s.sessions.modify sid fun u =>
      { u with phase := .running, sendTask := .running, recvTask := .running }
    acks := s.acks.set sid .empty }

/-- The rest of `UserSession::new`: the reply to the registration is there. -/
def finishCreation (s : State) (sid : SessionId) : Option State :=
  match s.sessions.get? sid with
  | none => none
  | some u =>
      if u.phase = .creating then
        match u.registration with
        | .pending => none
        | .sent (.ok ()) => some (s.startSession sid)
        | .sent (.error e) => some (s.failSession sid e)
        | .dropped => some (s.failSession sid "Router response channel closed")
      else none

/-! ## Frames -/

/-- `handlers::handle_direct_message`. -/
def sendDirectMessage (s : State) (sid : SessionId) (userToken : TenantUserId)
    (conversationId : String) (toUser : TenantUserId) (content : String)
    (clientMessageId serverMessageId : Uuid) : State :=
  let frame := .sendDirectMessage conversationId toUser content clientMessageId
  let s' := s.sendRouter sid (.sendDirectMessage conversationId userToken toUser content
    serverMessageId (some s.ackRelays.next))
  { s' with ackRelays :=
      s.ackRelays.alloc (.start ⟨sid, clientMessageId, frame, serverMessageId⟩) }

/-- `handlers::handle_room_message`; its errors are logged and nothing else. -/
def sendRoomMessage (s : State) (sid : SessionId) (userId : TenantUserId) (roomId : String)
    (fromUser : TenantUserId) (content : String) (clientMessageId serverMessageId : Uuid) :
    Except String State :=
  if fromUser ≠ userId then .error "User ID mismatch"
  else
    let frame := .roomMessage roomId fromUser content clientMessageId
    let s' := s.sendRouter sid (.sendRoomMessage roomId fromUser content serverMessageId
      (some s.ackRelays.next))
    .ok { s' with ackRelays :=
      s.ackRelays.alloc (.start ⟨sid, clientMessageId, frame, serverMessageId⟩) }

def requestHistory (s : State) (sid : SessionId) (projectId : String)
    (messageId : Option Uuid) (conversationId : String) : State :=
  let frame := .getPaginatedMessages projectId messageId conversationId
  let s' := s.sendRouter sid (.getPaginatedMessages projectId messageId conversationId
    s.historyRelays.next)
  { s' with historyRelays := s.historyRelays.alloc (.start ⟨sid, frame⟩) }

/-- The receiver of the reply is dropped at once. -/
def requestJoin (s : State) (sid : SessionId) (tenantUserId : TenantUserId) (roomId : String) :
    State :=
  let s' := s.sendRouter sid (.joinRoom tenantUserId roomId sid s.joins.next)
  { s' with joins := s.joins.alloc .pending }

def requestSync (s : State) (sid : SessionId) (projectId conversationId : String)
    (messageId : Uuid) : State :=
  let frame := .syncMessages projectId conversationId messageId
  let s' := s.sendRouter sid (.syncMessages projectId conversationId messageId
    s.syncRelays.next)
  { s' with syncRelays := s.syncRelays.alloc (.start ⟨sid, frame⟩) }

/-- What the receive task does with a text frame: `none` is one that does not parse. Every
message that is not matched, `LeaveRoom` among them, is ignored. `serverMessageId` is what
`Uuid::now_v1` returns. -/
def handleFrame (s : State) (sid : SessionId) (u : TenantUserId) (serverMessageId : Uuid) :
    Option ChatMessage → State
  | some (.sendDirectMessage conversationId toUser content clientMessageId) =>
      s.sendDirectMessage sid u conversationId toUser content clientMessageId serverMessageId
  | some (.getPaginatedMessages projectId messageId conversationId) =>
      s.requestHistory sid projectId messageId conversationId
  | some (.roomMessage roomId fromUser content messageId) =>
      match s.sendRoomMessage sid u roomId fromUser content messageId serverMessageId with
      | .ok s => s
      | .error _ => s
  | some (.joinRoom roomId) => s.requestJoin sid u roomId
  | some (.syncMessages projectId conversationId messageId) =>
      s.requestSync sid projectId conversationId messageId
  | some _ => s
  | none => s

/-- The ids `now_v1` has returned. -/
def issuedIds (s : State) : List Uuid := s.ackRelays.rows.map (·.context.serverMessageId)

/-- The receive task handles one text frame. `now_v1` returns an id it has not returned
before. -/
def frameStep (s : State) (sid : SessionId) (text : Option ChatMessage)
    (serverMessageId : Uuid) : Option State :=
  match s.sessions.get? sid with
  | none => none
  | some u =>
      if u.recvTask.Active ∧ serverMessageId ∉ s.issuedIds then
        some (s.handleFrame sid u.tenantUserId serverMessageId text)
      else none

def endRecvTask (s : State) (sid : SessionId) : State :=
  { s with sessions := s.sessions.modify sid fun u => { u with recvTask := .finished } }

/-- The receive task ends: the stream is over or has failed, a frame was no text, or the task
is cancelled. -/
def recvTaskEnd (s : State) (sid : SessionId) : Option State :=
  match s.sessions.get? sid with
  | none => none
  | some u => if u.recvTask.Active then some (s.endRecvTask sid) else none

/-! ## The send task -/

/-- The send task ends, and drops the receivers of both channels. -/
def endSendTask (s : State) (sid : SessionId) : State :=
  { s with
    sessions := s.sessions.modify sid fun u => { u with sendTask := .finished }
    queues := s.queues.set sid .closed
    acks := s.acks.set sid .closed }

/-- Take the next message of one of the session's channels. -/
def takeMessage (s : State) (sid : SessionId) (fromAcks : Bool) : Option (ChatMessage × State) :=
  if fromAcks then
    (s.acks.chan sid).recv.map fun (m, c) => (m, { s with acks := s.acks.set sid c })
  else
    (s.queues.chan sid).recv.map fun (m, c) => (m, { s with queues := s.queues.set sid c })

/-- The send task takes the next message of one of its channels and writes it to the socket;
where the write fails it ends.

The source awaits twice here, in `recv()` and in `ws_sender.send(..)`. The two are one step: a
message that is being written is in its channel still, and at once it is on the socket and its
place in the channel free. That the task is aborted while it writes is the case of a failed write:
the message is gone and the task over. -/
def sendStep (s : State) (sid : SessionId) (fromAcks written : Bool) : Option State :=
  match s.sessions.get? sid with
  | none => none
  | some u =>
      if u.sendTask.Active then
        (s.takeMessage sid fromAcks).map fun (m, s) =>
          if written then { s with socket := s.socket ++ [(sid, m)] } else s.endSendTask sid
      else none

/-- Someone may still send to the session's ack channel: its receive task, or a task that
relays a reply. -/
def ackSenderAlive (s : State) (sid : SessionId) (u : UserSession) : Bool :=
  decide u.recvTask.Active ||
    (s.ackRelays.rows.any fun w => decide (w.context.session = sid) && !w.done) ||
    (s.historyRelays.rows.any fun w => decide (w.context.session = sid) && !w.done) ||
    (s.syncRelays.rows.any fun w => decide (w.context.session = sid) && !w.done)

/-- The send task ends without a failed write: it is cancelled, or its ack channel is empty
and has no sender left. -/
def sendTaskEnd (s : State) (sid : SessionId) : Option State :=
  match s.sessions.get? sid with
  | none => none
  | some u =>
      if u.sendTask = .aborting ∨ (u.sendTask = .running ∧ (s.acks.chan sid).buf = [] ∧
          s.ackSenderAlive sid u = false) then
        some (s.endSendTask sid)
      else none

/-! ## The end -/

/-- `abort()` has no effect on the one of the tasks that is over. -/
def abortTasks (s : State) (sid : SessionId) : State :=
  { s with sessions := s.sessions.modify sid fun u =>
      { u with phase := .ended, sendTask := u.sendTask.abort, recvTask := u.recvTask.abort } }

/-- One of the two tasks is over: abort the other one and unregister. -/
def endSession (s : State) (sid : SessionId) : Option State :=
  match s.sessions.get? sid with
  | none => none
  | some u =>
      if u.phase = .running ∧ (u.sendTask = .finished ∨ u.recvTask = .finished) then
        some ((s.abortTasks sid).sendRouter sid (.unregisterUser u.tenantUserId))
      else none

/-! ## Tasks that relay a reply -/

/-- `ack_sender.send(..).await`: it waits while the channel is full, and gives up when it is
closed. -/
def pushAck (s : State) (sid : SessionId) (m : ChatMessage) :
    Option (Outbox SessionId ChatMessage channelBufferSize) :=
  if (s.acks.chan sid).isOpen = true ∧ ¬ (s.acks.chan sid).Accepts then none
  else some (s.acks.trySend sid m)

def ackRelayStep (s : State) (k : AckId) : Option State :=
  match s.ackRelays.get? k with
  | none => none
  | some w =>
      if w.done then none
      else
        match w.reply with
        | .pending => none
        | .dropped => some { s with ackRelays := s.ackRelays.modify k (·.finish) }
        | .sent r =>
            (s.pushAck w.context.session (.messageAck w.context.clientMessageId r.messageId
              r.timestamp r.status)).map fun acks =>
                { s with acks := acks, ackRelays := s.ackRelays.modify k (·.finish) }

/-- What the client is sent for a page: the cursor is parsed back into an id. -/
def chatHistoryResponse (r : PaginatedMessagesResponse) : ChatMessage :=
  .chatHistoryResponse r.messages r.hasMore (r.nextCursor.bind Uuid.parseStr)

def historyRelayStep (s : State) (k : HistoryId) : Option State :=
  match s.historyRelays.get? k with
  | none => none
  | some w =>
      if w.done then none
      else
        match w.reply with
        | .pending => none
        | .sent (.ok r) =>
            (s.pushAck w.context.session (chatHistoryResponse r)).map fun acks =>
              { s with acks := acks, historyRelays := s.historyRelays.modify k (·.finish) }
        | _ => some { s with historyRelays := s.historyRelays.modify k (·.finish) }

def syncRelayStep (s : State) (k : SyncId) : Option State :=
  match s.syncRelays.get? k with
  | none => none
  | some w =>
      if w.done then none
      else
        match w.reply with
        | .pending => none
        | .sent (.ok messages) =>
            (s.pushAck w.context.session (.syncMessagesResponse messages)).map fun acks =>
              { s with acks := acks, syncRelays := s.syncRelays.modify k (·.finish) }
        | _ => some { s with syncRelays := s.syncRelays.modify k (·.finish) }

/-! ## What each of them does -/

theorem finishCreation_some {s s' : State} {sid : SessionId}
    (h : s.finishCreation sid = some s') :
    ∃ u, s.sessions.get? sid = some u ∧ u.phase = .creating ∧
      ((u.registration = .sent (.ok ()) ∧ s' = s.startSession sid) ∨
        (u.registration ≠ .pending ∧ u.registration ≠ .sent (.ok ()) ∧
          ∃ e, s' = s.failSession sid e)) := by
  unfold finishCreation at h
  split at h
  · cases h
  · next u hu =>
    split at h
    · next hp =>
      refine ⟨u, hu, hp, ?_⟩
      split at h
      · cases h
      · next hr => exact .inl ⟨hr, (Option.some.inj h).symm⟩
      · next e hr => exact .inr ⟨by simp [hr], by simp [hr], e, (Option.some.inj h).symm⟩
      · next hr => exact .inr ⟨by simp [hr], by simp [hr], _, (Option.some.inj h).symm⟩
    · cases h

theorem frameStep_some {s s' : State} {sid : SessionId} {text : Option ChatMessage}
    {serverMessageId : Uuid} (h : s.frameStep sid text serverMessageId = some s') :
    ∃ u, s.sessions.get? sid = some u ∧ u.recvTask.Active ∧ serverMessageId ∉ s.issuedIds ∧
      s' = s.handleFrame sid u.tenantUserId serverMessageId text := by
  unfold frameStep at h
  split at h
  · cases h
  · next u hu =>
    split at h
    · next hc => exact ⟨u, hu, hc.1, hc.2, (Option.some.inj h).symm⟩
    · cases h

theorem recvTaskEnd_some {s s' : State} {sid : SessionId} (h : s.recvTaskEnd sid = some s') :
    ∃ u, s.sessions.get? sid = some u ∧ u.recvTask.Active ∧ s' = s.endRecvTask sid := by
  unfold recvTaskEnd at h
  split at h
  · cases h
  · next u hu =>
    split at h
    · next hc => exact ⟨u, hu, hc, (Option.some.inj h).symm⟩
    · cases h

theorem takeMessage_some {s s' : State} {sid : SessionId} {fromAcks : Bool} {m : ChatMessage}
    (h : s.takeMessage sid fromAcks = some (m, s')) :
    (fromAcks = true ∧ ∃ c, (s.acks.chan sid).recv = some (m, c) ∧
      s' = { s with acks := s.acks.set sid c }) ∨
    (fromAcks = false ∧ ∃ c, (s.queues.chan sid).recv = some (m, c) ∧
      s' = { s with queues := s.queues.set sid c }) := by
  unfold takeMessage at h
  cases fromAcks with
  | true =>
    obtain ⟨⟨m', c⟩, hc, he⟩ := Option.map_eq_some_iff.mp h
    obtain ⟨rfl, rfl⟩ := Prod.mk.inj he
    exact .inl ⟨rfl, c, hc, rfl⟩
  | false =>
    obtain ⟨⟨m', c⟩, hc, he⟩ := Option.map_eq_some_iff.mp h
    obtain ⟨rfl, rfl⟩ := Prod.mk.inj he
    exact .inr ⟨rfl, c, hc, rfl⟩

theorem sendStep_some {s s' : State} {sid : SessionId} {fromAcks written : Bool}
    (h : s.sendStep sid fromAcks written = some s') :
    ∃ u m t, s.sessions.get? sid = some u ∧ u.sendTask.Active ∧
      s.takeMessage sid fromAcks = some (m, t) ∧
      ((written = true ∧ s' = { t with socket := t.socket ++ [(sid, m)] }) ∨
        (written = false ∧ s' = t.endSendTask sid)) := by
  unfold sendStep at h
  split at h
  · cases h
  · next u hu =>
    split at h
    · next hc =>
      obtain ⟨⟨m, t⟩, ht, he⟩ := Option.map_eq_some_iff.mp h
      refine ⟨u, m, t, hu, hc, ht, ?_⟩
      cases written with
      | true => exact .inl ⟨rfl, he.symm⟩
      | false => exact .inr ⟨rfl, he.symm⟩
    · cases h

theorem sendTaskEnd_some {s s' : State} {sid : SessionId} (h : s.sendTaskEnd sid = some s') :
    ∃ u, s.sessions.get? sid = some u ∧ u.sendTask.Active ∧ s' = s.endSendTask sid := by
  unfold sendTaskEnd at h
  split at h
  · cases h
  · next u hu =>
    split at h
    · next hc =>
      refine ⟨u, hu, ?_, (Option.some.inj h).symm⟩
      rcases hc with hc | ⟨hc, -⟩
      · exact .inr hc
      · exact .inl hc
    · cases h

theorem endSession_some {s s' : State} {sid : SessionId} (h : s.endSession sid = some s') :
    ∃ u, s.sessions.get? sid = some u ∧ u.phase = .running ∧
      (u.sendTask = .finished ∨ u.recvTask = .finished) ∧
      s' = (s.abortTasks sid).sendRouter sid (.unregisterUser u.tenantUserId) := by
  unfold endSession at h
  split at h
  · cases h
  · next u hu =>
    split at h
    · next hc => exact ⟨u, hu, hc.1, hc.2, (Option.some.inj h).symm⟩
    · cases h

theorem pushAck_some {s : State} {sid : SessionId} {m : ChatMessage}
    {acks : Outbox SessionId ChatMessage channelBufferSize} (h : s.pushAck sid m = some acks) :
    ((s.acks.chan sid).isOpen = true → (s.acks.chan sid).Accepts) ∧
      acks = s.acks.trySend sid m := by
  unfold pushAck at h
  split at h
  · cases h
  · next hc => exact ⟨fun ho => not_not.mp fun hn => hc ⟨ho, hn⟩, (Option.some.inj h).symm⟩

theorem ackRelayStep_some {s s' : State} {k : AckId} (h : s.ackRelayStep k = some s') :
    ∃ w, s.ackRelays.get? k = some w ∧ w.done = false ∧
      ((w.reply = .dropped ∧ s' = { s with ackRelays := s.ackRelays.modify k (·.finish) }) ∨
        ∃ r acks, w.reply = .sent r ∧
          s.pushAck w.context.session (.messageAck w.context.clientMessageId r.messageId
            r.timestamp r.status) = some acks ∧
          s' = { s with acks := acks, ackRelays := s.ackRelays.modify k (·.finish) }) := by
  unfold ackRelayStep at h
  split at h
  · cases h
  · next w hw =>
    split at h
    · cases h
    · next hd =>
      refine ⟨w, hw, by simpa using hd, ?_⟩
      split at h
      · cases h
      · next hr => exact .inl ⟨hr, (Option.some.inj h).symm⟩
      · next r hr =>
        obtain ⟨acks, ha, he⟩ := Option.map_eq_some_iff.mp h
        exact .inr ⟨r, acks, hr, ha, he.symm⟩

theorem historyRelayStep_some {s s' : State} {k : HistoryId}
    (h : s.historyRelayStep k = some s') :
    ∃ w, s.historyRelays.get? k = some w ∧ w.done = false ∧
      (s' = { s with historyRelays := s.historyRelays.modify k (·.finish) } ∨
        ∃ r acks, w.reply = .sent (.ok r) ∧
          s.pushAck w.context.session (chatHistoryResponse r) = some acks ∧
          s' = { s with acks := acks, historyRelays := s.historyRelays.modify k (·.finish) }) := by
  unfold historyRelayStep at h
  split at h
  · cases h
  · next w hw =>
    split at h
    · cases h
    · next hd =>
      refine ⟨w, hw, by simpa using hd, ?_⟩
      split at h
      · cases h
      · next r hr =>
        obtain ⟨acks, ha, he⟩ := Option.map_eq_some_iff.mp h
        exact .inr ⟨r, acks, hr, ha, he.symm⟩
      · exact .inl (Option.some.inj h).symm

theorem syncRelayStep_some {s s' : State} {k : SyncId} (h : s.syncRelayStep k = some s') :
    ∃ w, s.syncRelays.get? k = some w ∧ w.done = false ∧
      (s' = { s with syncRelays := s.syncRelays.modify k (·.finish) } ∨
        ∃ messages acks, w.reply = .sent (.ok messages) ∧
          s.pushAck w.context.session (.syncMessagesResponse messages) = some acks ∧
          s' = { s with acks := acks, syncRelays := s.syncRelays.modify k (·.finish) }) := by
  unfold syncRelayStep at h
  split at h
  · cases h
  · next w hw =>
    split at h
    · cases h
    · next hd =>
      refine ⟨w, hw, by simpa using hd, ?_⟩
      split at h
      · cases h
      · next messages hr =>
        obtain ⟨acks, ha, he⟩ := Option.map_eq_some_iff.mp h
        exact .inr ⟨messages, acks, hr, ha, he.symm⟩
      · exact .inl (Option.some.inj h).symm

end State

end PerOxo
