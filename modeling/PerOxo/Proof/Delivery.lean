import PerOxo.Proof.Senders

/-!
# Messages on their way to the store, and back as an acknowledgement

Five parts of the state change together when a message is persisted: the store, the write
requests, the tasks that repeat them, the tasks that wait for an acknowledgement, and the
channels these write to. `State.delivery_step` says everything a step can do to them.
-/

set_option autoImplicit false

namespace PerOxo

open ChatService PersistenceService

/-- Where a message is handed on: by the router itself, or by the actor of a room. -/
inductive Stream
  | direct
  | room (roomId : String)
  deriving DecidableEq

/-- A message that is sent to a session live, with its id. -/
def ChatMessage.live? : ChatMessage → Option (Stream × Uuid)
  | .directMessage _ _ id _ => some (.direct, id)
  | .roomMessage roomId _ _ id => some (.room roomId, id)
  | _ => none

structure Delivery where
  store : Store
  writes : Arena WriteCall
  persists : Arena PersistTask
  relays : Arena (Waiter AckTicket MessageAckResponse)
  acks : Outbox SessionId ChatMessage channelBufferSize

def State.delivery (s : State) : Delivery where
  store := s.store
  writes := s.writes
  persists := s.persists
  relays := s.ackRelays
  acks := s.acks

def RouterMessage.responder? : RouterMessage → Option AckId
  | .sendDirectMessage _ _ _ _ _ k => k
  | .sendRoomMessage _ _ _ _ k => k
  | _ => none

def RoomMessage.responder? : RoomMessage → Option AckId
  | .sendMessage _ _ _ k => k
  | _ => none

/-- The router message a frame of `u` becomes, with the responder of its acknowledgement. -/
inductive Acknowledges (u : TenantUserId) (t : AckTicket) (k : AckId) : RouterMessage → Prop
  | direct {conversationId : String} {toUser : TenantUserId} {content : String}
      (frame : t.frame = .sendDirectMessage conversationId toUser content t.clientMessageId) :
      Acknowledges u t k
        (.sendDirectMessage conversationId u toUser content t.serverMessageId (some k))
  | room {roomId content : String}
      (frame : t.frame = .roomMessage roomId u content t.clientMessageId) :
      Acknowledges u t k (.sendRoomMessage roomId u content t.serverMessageId (some k))

/-- A task that persists a message has been spawned. -/
def Delivery.spawn (d : Delivery) (request : WriteRequest) (id : Uuid) (k : AckId) : Delivery :=
  { d with
    writes := d.writes.alloc ⟨request, none⟩
    persists := d.persists.alloc ⟨request, id, k, 0, d.writes.next, false⟩ }

/-- What a step does to these parts. -/
inductive DeliveryStep (db : Db) (s : State) (act : Action) : Delivery → Prop
  | same : DeliveryStep db s act s.delivery
  /-- A frame that is to be acknowledged. -/
  | asked {sid : SessionId} {ses : UserSession} {text : Option ChatMessage} {id : Uuid}
      {t : AckTicket} {m : RouterMessage} (action : act = .frame sid text id)
      (found : s.sessions.get? sid = some ses) (active : ses.recvTask.Active)
      (fresh : id ∉ s.issuedIds) (session : t.session = sid) (serverId : t.serverMessageId = id)
      (acknowledges : Acknowledges ses.tenantUserId t s.ackRelays.next m) :
      DeliveryStep db s act { s.delivery with relays := s.ackRelays.alloc (.start t) }
  /-- A message to a room that there is not. -/
  | refused {e : Envelope RouterMessage} {rest : List (Envelope RouterMessage)}
      {roomId content : String} {fromUser : TenantUserId} {id : Uuid} {k : AckId}
      {persistAt now : Int} (action : act = .router persistAt now) (next : s.mailbox = e :: rest)
      (message : e.message = .sendRoomMessage roomId fromUser content id (some k))
      (unknown : s.router.rooms.lookup roomId = none) :
      DeliveryStep db s act { s.delivery with
        relays := s.ackRelays.modify k (·.send ⟨id, now, .failed "Room not found"⟩) }
  /-- A message to a room whose actor is gone. -/
  | lost {e : Envelope RouterMessage} {rest : List (Envelope RouterMessage)}
      {roomId content : String} {fromUser : TenantUserId} {id : Uuid} {k : AckId} {a : ActorId}
      {persistAt now : Int} (action : act = .router persistAt now) (next : s.mailbox = e :: rest)
      (message : e.message = .sendRoomMessage roomId fromUser content id (some k))
      (known : s.router.rooms.lookup roomId = some a)
      (dead : ∀ r, s.actors.get? a = some r → r.alive = false) :
      DeliveryStep db s act { s.delivery with relays := s.ackRelays.modify k (·.drop) }
  /-- The router has a direct message persisted. -/
  | direct {e : Envelope RouterMessage} {rest : List (Envelope RouterMessage)}
      {conversationId content : String} {fromUser toUser : TenantUserId} {id : Uuid} {k : AckId}
      {persistAt now : Int} (action : act = .router persistAt now) (next : s.mailbox = e :: rest)
      (message : e.message =
        .sendDirectMessage conversationId fromUser toUser content id (some k)) :
      DeliveryStep db s act (s.delivery.spawn (.dm (persistDirectMessageRequest conversationId
        fromUser toUser content id persistAt)) id k)
  /-- A room has a message persisted. -/
  | room {a : ActorId} {r : RoomActor} {e : Envelope RoomMessage}
      {rest : List (Envelope RoomMessage)} {fromUser : TenantUserId} {content : String} {id : Uuid}
      {k : AckId} {persistAt : Int} (action : act = .room a persistAt)
      (found : s.actors.get? a = some r) (next : r.mailbox = e :: rest)
      (message : e.message = .sendMessage fromUser content id (some k)) :
      DeliveryStep db s act (s.delivery.spawn (.room (persistRoomMessageRequest r.roomId
        fromUser content id persistAt)) id k)
  /-- chat-service answers a write request. -/
  | served {c : CallId} {request : WriteRequest} {fault : Option Fault}
      (action : act = .serveWrite c fault) (found : s.writes.get? c = some ⟨request, none⟩) :
      DeliveryStep db s act { s.delivery with
        store := (request.serve db fault s.store).2
        writes := s.writes.modify c fun call =>
          { call with answer := some (request.serve db fault s.store).1 } }
  /-- A call has failed and is made again. -/
  | retried {t : Nat} {p : PersistTask} {attempts : Nat} (found : s.persists.get? t = some p)
      (running : p.done = false) :
      DeliveryStep db s act { s.delivery with
        writes := s.writes.alloc ⟨p.request, none⟩
        persists := s.persists.modify t fun p =>
          { p with attempts := attempts, call := s.writes.next } }
  /-- A task that persists a message is done. -/
  | answered {t : Nat} {p : PersistTask} {failure : Option Status} {now : Int}
      {outcome result : Except Status WriteResponse} (action : act = .persist t failure now)
      (found : s.persists.get? t = some p) (running : p.done = false)
      (ended : State.callOutcome ((s.writes.get? p.call).bind (·.answer)) failure = some outcome)
      (returned : retryTurn maxRetries p.attempts outcome = .returned result) :
      DeliveryStep db s act { s.delivery with
        relays := s.ackRelays.modify p.respondTo
          (·.send ⟨p.messageId, now, ackStatus (persistResult result)⟩)
        persists := s.persists.modify t fun p => { p with done := true } }
  | opened {sid : SessionId} {ses : UserSession} (found : s.sessions.get? sid = some ses)
      (creating : ses.phase = .creating) :
      DeliveryStep db s act { s.delivery with acks := s.acks.set sid .empty }
  | closed (sid : SessionId) :
      DeliveryStep db s act { s.delivery with acks := s.acks.set sid .closed }
  | taken {sid : SessionId} {m : ChatMessage} {c : Chan ChatMessage channelBufferSize}
      (recv : (s.acks.chan sid).recv = some (m, c)) :
      DeliveryStep db s act { s.delivery with acks := s.acks.set sid c }
  /-- A relay task passes an acknowledgement on. -/
  | acked {k : AckId} {w : Waiter AckTicket MessageAckResponse} {r : MessageAckResponse}
      (action : act = .ackRelay k) (found : s.ackRelays.get? k = some w) (running : w.done = false)
      (reply : w.reply = .sent r)
      (room : (s.acks.chan w.context.session).isOpen = true →
        (s.acks.chan w.context.session).Accepts) :
      DeliveryStep db s act { s.delivery with
        relays := s.ackRelays.modify k (·.finish)
        acks := s.acks.trySend w.context.session
          (.messageAck w.context.clientMessageId r.messageId r.timestamp r.status) }
  | gaveUp {k : AckId} {w : Waiter AckTicket MessageAckResponse}
      (found : s.ackRelays.get? k = some w) (running : w.done = false)
      (dropped : w.reply = .dropped) :
      DeliveryStep db s act { s.delivery with relays := s.ackRelays.modify k (·.finish) }
  /-- Another response of the session. -/
  | other {sid : SessionId} {m : ChatMessage}
      (notAck : ∀ c id t st, m ≠ .messageAck c id t st) (notLive : m.live? = none) :
      DeliveryStep db s act { s.delivery with acks := s.acks.trySend sid m }

namespace State

theorem delivery_router {db : Db} {s s' : State} {e : Envelope RouterMessage}
    {rest : List (Envelope RouterMessage)} (hm : s.mailbox = e :: rest) {p n : Int}
    (h : (s.takeRouterMessage e rest).handleRouterMessage e.origin p n e.message = s') :
    DeliveryStep db s (.router p n) s'.delivery := by
  obtain ⟨o, m⟩ := e
  cases handledByRouter h with
  | @direct c m f v i k w persist =>
    subst persist
    cases k with
    | some k => exact .direct rfl hm rfl
    | none => exact .same
  | messageLost known gone => exact .lost rfl hm rfl known gone
  | messageRefused unknown => exact .refused rfl hm rfl unknown
  | _ => exact .same

theorem delivery_room {db : Db} {s s' : State} {a : ActorId} {r : RoomActor}
    {e : Envelope RoomMessage} {rest : List (Envelope RoomMessage)}
    (hr : s.actors.get? a = some r) (hm : r.mailbox = e :: rest) {p : Int}
    (h : (s.takeRoomMessage a e rest).handleMessage a r p e.message = s') :
    DeliveryStep db s (.room a p) s'.delivery := by
  obtain ⟨o, m⟩ := e
  cases handledByRoom h with
  | @sent u c i k w persist =>
    subst persist
    cases k with
    | some k => exact .room rfl hr hm rfl
    | none => exact .same
  | _ => exact .same

theorem delivery_frame {db : Db} {s s' : State} {sid : SessionId} {ses : UserSession}
    (hs : s.sessions.get? sid = some ses) (hact : ses.recvTask.Active) {id : Uuid}
    (hid : id ∉ s.issuedIds) {text : Option ChatMessage}
    (h : s.handleFrame sid ses.tenantUserId id text = s') :
    DeliveryStep db s (.frame sid text id) s'.delivery := by
  cases framed h with
  | direct c v m i => exact .asked rfl hs hact hid rfl rfl (.direct rfl)
  | room roomId content i => exact .asked rfl hs hact hid rfl rfl (.room rfl)
  | _ => exact .same

/-- **What a step does to the tables of the delivery.** -/
theorem delivery_step {db : Db} {s s' : State} {act : Action} (h : s.step db act = some s') :
    DeliveryStep db s act s'.delivery := by
  cases stepped h with
  | started found creating accepted => exact .opened found creating
  | framed found active fresh result => exact delivery_frame found active fresh result
  | ackWritten found active recv => exact .taken recv
  | sendFailed found active => exact .closed _
  | sendEnded found active => exact .closed _
  | routed next result => exact delivery_router next result
  | roomHandled found alive next result => exact delivery_room found next result
  | servedWrite found => exact .served rfl found
  | retried found running ended again => exact .retried found running
  | persisted found running ended returned => exact .answered rfl found running ended returned
  | ackGaveUp found running dropped => exact .gaveUp found running dropped
  | acked found running reply room => exact .acked rfl found running reply room
  | historyRelayed found running reply => exact .other nofun rfl
  | syncRelayed found running reply => exact .other nofun rfl
  | _ => exact .same

theorem delivery_moved {db : Db} {s s' : State} {act : Action} (h : s.step db act = some s') :
    ∃ d, DeliveryStep db s act d ∧ s'.store = d.store ∧ s'.writes = d.writes ∧
      s'.persists = d.persists ∧ s'.ackRelays = d.relays ∧ s'.acks = d.acks :=
  ⟨s'.delivery, delivery_step h, rfl, rfl, rfl, rfl, rfl⟩

end State

end PerOxo
