import PerOxo.Proof.Ids

/-!
# No sender spoofing

Identity is copied from a session through two mailboxes, the queues and the write requests.
Wherever a message names a sender, it is the user that the session which caused it was
authenticated as (`NoSpoofing`). A message in a mailbox has its origin beside it; one that is
enqueued or written is traced to its session by the server message id, which a single ticket
has.
-/

set_option autoImplicit false

namespace PerOxo

open ChatService PersistenceService

/-- The message names the session `sid` of `u`, wherever it names a sender. -/
def RouterMessage.SpeaksFor (sid : SessionId) (u : TenantUserId) : RouterMessage → Prop
  | .registerUser v sender respondTo => v = u ∧ sender = sid ∧ respondTo = sid
  | .unregisterUser v => v = u
  | .sendDirectMessage _ fromUser _ _ _ _ => fromUser = u
  | .joinRoom v _ sender _ => v = u ∧ sender = sid
  | .leaveRoom v _ => v = u
  | .sendRoomMessage _ fromUser _ _ _ => fromUser = u
  | _ => True

def RoomMessage.SpeaksFor (sid : SessionId) (u : TenantUserId) : RoomMessage → Prop
  | .addMember v sender _ => v = u ∧ sender = sid
  | .removeMember v => v = u
  | .sendMessage fromUser _ _ _ => fromUser = u
  | _ => True

/-- The user a message to a client is from, and its id. -/
def ChatMessage.sender? : ChatMessage → Option (TenantUserId × Uuid)
  | .directMessage fromUser _ id _ => some (fromUser, id)
  | .roomMessage _ fromUser _ id => some (fromUser, id)
  | _ => none

namespace WriteRequest

def projectId : WriteRequest → String
  | .dm request => request.projectId
  | .room request => request.projectId

def senderId : WriteRequest → String
  | .dm request => request.senderId
  | .room request => request.senderId

def messageId : WriteRequest → String
  | .dm request => request.messageId
  | .room request => request.messageId

end WriteRequest

/-- The session a message with this server message id was sent by. -/
def State.CausedBy (s : State) (id : Uuid) (sid : SessionId) : Prop :=
  ∃ k w, s.ackRelays.get? k = some w ∧ w.context.serverMessageId = id ∧ w.context.session = sid

/-- Everything that names a sender names the one it is from. -/
structure NoSpoofing (s : State) : Prop where
  /-- What has entered the router's mailbox. -/
  router : ∀ e ∈ s.entered, ∃ u, s.UserOf e.origin u ∧ e.message.SpeaksFor e.origin u
  /-- What has entered the mailbox of a room. -/
  rooms : ∀ a r, s.actors.get? a = some r → ∀ e ∈ r.processed ++ r.mailbox,
    ∃ u, s.UserOf e.origin u ∧ e.message.SpeaksFor e.origin u
  /-- What has been enqueued to a session. -/
  queues : ∀ sid m, (sid, m) ∈ s.queues.log → ∃ u id o, m.sender? = some (u, id) ∧
    s.CausedBy id o ∧ s.UserOf o u
  /-- What chat-service has been asked to write. -/
  writes : ∀ c call, s.writes.get? c = some call → ∃ id o u,
    Uuid.parseStr call.request.messageId = some id ∧ s.CausedBy id o ∧ s.UserOf o u ∧
      call.request.projectId = u.projectId ∧ call.request.senderId = u.userId
  causedBy_unique : ∀ id o o', s.CausedBy id o → s.CausedBy id o' → o = o'
  /-- An `AddMember` of a room is a `JoinRoom` of its own session, for this room. -/
  joins : ∀ a r, s.actors.get? a = some r → ∀ o u sid k,
    (⟨o, .addMember u sid k⟩ : Envelope RoomMessage) ∈ r.processed ++ r.mailbox →
      sid = o ∧ s.UserOf o u ∧ ∃ j, ⟨o, .joinRoom u r.roomId o j⟩ ∈ s.processed
  /-- A member has been entered with the user and the queue of the session that joined. -/
  members : ∀ a r, s.actors.get? a = some r → ∀ u sid, r.members.lookup u = some sid →
    s.UserOf sid u ∧ ∃ k, ⟨sid, .addMember u sid k⟩ ∈ r.processed

/-! ## The invariant -/

structure Speaking (s : State) : Prop where
  entered : ∀ e ∈ s.entered, ∃ u, s.UserOf e.origin u ∧ e.message.SpeaksFor e.origin u
  queued : ∀ sid m, (sid, m) ∈ s.queues.log → ∃ u id o, m.sender? = some (u, id) ∧
    s.CausedBy id o ∧ s.UserOf o u
  members : ∀ a r, s.actors.get? a = some r → ∀ u sid, r.members.lookup u = some sid →
    ∃ k, ⟨sid, .addMember u sid k⟩ ∈ r.processed

theorem Requests.speaksFor {sid : SessionId} {u : TenantUserId} {m : RouterMessage}
    (h : Requests sid u m) : m.SpeaksFor sid u := by
  cases h <;> simp [RouterMessage.SpeaksFor]

theorem Registry.Names.speaksFor {sid : SessionId} {u : TenantUserId} {m : RouterMessage}
    (h : Registry.Names sid u m) (about : m.isRegister = true ∨ m.isUnregister = true) :
    m.SpeaksFor sid u := by
  cases m with
  | registerUser v sender respondTo => exact h
  | unregisterUser v => exact h
  | _ => rcases about with hc | hc <;> cases hc

/-- What a message to a room names, the message to the router has named. -/
theorem Forwards.speaksFor {m : RouterMessage} {x : RoomMessage} (h : Forwards m x)
    {sid : SessionId} {u : TenantUserId} (hm : m.SpeaksFor sid u) : x.SpeaksFor sid u := by
  cases h with
  | joinRoom v roomId sender j k => exact hm
  | leaveRoom v roomId => exact hm
  | sendRoomMessage roomId v content id k => exact hm
  | getRoomMembers roomId j k => trivial

/-- A message to the router is caused by its origin. -/
theorem SentOk.causedBy {s : State} (hi : SentOk s) {e : Envelope RouterMessage}
    (he : e ∈ s.entered) {id : Uuid} (hid : e.message.messageId? = some id) :
    s.CausedBy id e.origin := by
  obtain ⟨k, w, u, hw, -, hs, hack⟩ := hi.ticket e he id hid
  exact ⟨k, w, hw, Option.some.inj (hack.messageId.symm.trans hid), hs⟩

section Step

variable {db : Db} {s s' : State} {act : Action}

theorem State.CausedBy.step (h : s.step db act = some s') {id : Uuid} {sid : SessionId}
    (hc : s.CausedBy id sid) : s'.CausedBy id sid := by
  obtain ⟨k, w, hw, hid, hs⟩ := hc
  obtain ⟨w', hw', hctx, -⟩ := relay_step h hw
  exact ⟨k, w', hw', hctx ▸ hid, hctx ▸ hs⟩

/-- A frame is a request of its own session. -/
theorem handleFrame_requests {t : State} {sid : SessionId} {u : TenantUserId} {id : Uuid}
    {text : Option ChatMessage} (h : s.handleFrame sid u id text = t) :
    ∀ e ∈ t.mailbox, e ∈ s.mailbox ∨ (e.origin = sid ∧ Requests sid u e.message) := by
  have hpost : ∀ m, Requests sid u m → ∀ e ∈ s.mailbox ++ [⟨sid, m⟩],
      e ∈ s.mailbox ∨ (e.origin = sid ∧ Requests sid u e.message) := by
    intro m hm e he
    rcases List.mem_append.mp he with he | he
    · exact .inl he
    · obtain rfl := List.mem_singleton.mp he
      exact .inr ⟨rfl, hm⟩
  cases State.framed h with
  | ignored text => exact fun e he => .inl he
  | direct c v m i => exact hpost _ (.sendDirectMessage _ _ _ _ _)
  | history p i c => exact hpost _ (.getPaginatedMessages _ _ _ _)
  | room roomId content i => exact hpost _ (.sendRoomMessage _ _ _ _)
  | join roomId => exact hpost _ (.joinRoom _ _)
  | sync p c i => exact hpost _ (.syncMessages _ _ _ _)

namespace Speaking

theorem step_entered (hi : Speaking s) (hw : Wired s) (h : s.step db act = some s') :
    ∀ e ∈ s'.entered, ∃ u, s'.UserOf e.origin u ∧ e.message.SpeaksFor e.origin u := by
  intro e he
  have hold : e ∈ s.entered → ∃ u, s'.UserOf e.origin u ∧ e.message.SpeaksFor e.origin u :=
    fun he => let ⟨u, hu, hs⟩ := hi.entered e he
      ⟨u, userOf_step h hu, hs⟩
  cases mail_step h with
  | kept mailbox processed =>
    rw [State.entered, mailbox, processed] at he
    exact hold he
  | @registration x mailbox processed about =>
    have hx : x ∈ s'.mailbox := mailbox ▸ List.mem_append_right _ List.mem_cons_self
    rw [State.entered, mailbox, processed, ← List.append_assoc] at he
    rcases List.mem_append.mp he with he | he
    · exact hold he
    · obtain rfl := List.mem_singleton.mp he
      obtain ⟨u, hu, hn⟩ := (hw.step h).registry.names e hx
      exact ⟨u.tenantUserId, ⟨u, hu, rfl⟩, hn.speaksFor about⟩
  | @framed sid ses text id action found result processed =>
    rw [State.entered, processed] at he
    rcases List.mem_append.mp he with he | he
    · exact hold (List.mem_append_left _ he)
    · rcases handleFrame_requests result.symm e he with he | ⟨ho, hreq⟩
      · exact hold (List.mem_append_right _ he)
      · subst ho
        exact ⟨ses.tenantUserId, userOf_step h ⟨ses, found, rfl⟩, hreq.speaksFor⟩
  | taken action mailbox processed =>
    rw [State.entered, processed, List.append_assoc, List.singleton_append, ← mailbox] at he
    exact hold he

theorem step_queued (hi : Speaking s) (hd : Ids s) (h : s.step db act = some s') :
    ∀ sid m, (sid, m) ∈ s'.queues.log → ∃ u id o, m.sender? = some (u, id) ∧
      s'.CausedBy id o ∧ s'.UserOf o u := by
  intro sid m hm
  suffices hsuff : ∃ u id o, m.sender? = some (u, id) ∧ s.CausedBy id o ∧ s.UserOf o u from
    let ⟨u, id, o, hs, hc, hu⟩ := hsuff
    ⟨u, id, o, hs, hc.step h, userOf_step h hu⟩
  obtain ⟨t, hq, hqu, -⟩ := State.queues_moved h
  rw [hqu] at hm
  cases hq with
  | @direct e rest c f v content id k target p n action next message found =>
    rcases Outbox.mem_trySend_log.mp hm with hm | ⟨-, rfl, -⟩
    · exact hi.queued sid m hm
    · have he : e ∈ s.entered := List.mem_append_right _ (next ▸ List.mem_cons_self)
      obtain ⟨u, hu, hs⟩ := hi.entered e he
      rw [message] at hs
      obtain rfl : f = u := hs
      exact ⟨f, id, e.origin, rfl, hd.sent.causedBy he (by rw [message]; rfl), hu⟩
  | @broadcast a r e rest f content id k p action found alive next message =>
    rcases Outbox.mem_broadcast_log.mp hm with hm | ⟨-, rfl, -⟩
    · exact hi.queued sid m hm
    · -- The router has taken the message of the room, with the same origin and sender.
      have he : e ∈ r.processed ++ r.mailbox :=
        List.mem_append_right _ (next ▸ List.mem_cons_self)
      obtain ⟨x, hx, -, ho, hf⟩ := hd.rooms.source found he
      have hx : x ∈ s.entered := List.mem_append_left _ hx
      obtain ⟨u, hu, hs⟩ := hi.entered x hx
      have hs := hf.speaksFor hs
      rw [message] at hs hf
      obtain rfl : f = u := hs
      exact ⟨f, id, x.origin, rfl, hd.sent.causedBy hx hf.messageId.symm, hu⟩
  | _ => exact hi.queued sid m hm

theorem step_members (hi : Speaking s) (hw : Wired s) (h : s.step db act = some s') :
    ∀ a r, s'.actors.get? a = some r → ∀ u sid, r.members.lookup u = some sid →
      ∃ k, ⟨sid, .addMember u sid k⟩ ∈ r.processed := by
  intro a r hr u sid hl
  cases State.room_moved h hr with
  | same found => exact hi.members a r found u sid hl
  | posted next forwards room known found => exact hi.members a _ found u sid hl
  | spawned next join new => cases hl
  | @handled r₀ e rest p action found next =>
    rcases lookup_membersAfter hl with hl | ⟨k, hm⟩
    · obtain ⟨k, hk⟩ := hi.members a r₀ found u sid hl
      exact ⟨k, List.mem_append_left _ hk⟩
    · obtain ⟨o, m⟩ := e
      obtain rfl : m = .addMember u sid k := hm
      have hf := hw.addressed.rooms a r₀ found _ (next ▸ List.mem_cons_self)
      obtain ⟨rfl, -⟩ := hf.addMember
      exact ⟨k, List.mem_append_right _ List.mem_cons_self⟩
  | ticked found => exact hi.members a _ found u sid (HashMap.lookup_of_lookup_retain hl)
  | stopped found => exact hi.members a _ found u sid hl

end Speaking

end Step

theorem speaking {db : Db} {store : Store} {s : State} (h : (system db store).Reachable s) :
    Speaking s := by
  refine h.invariant (I := Speaking) ⟨?_, ?_, ?_⟩ fun s act s' hr hs hi =>
    ⟨hi.step_entered (wired hr) hs, hi.step_queued (ids hr) hs, hi.step_members (wired hr) hs⟩
  · exact fun e he => absurd he (by simp [system, State.start, State.entered])
  · exact fun sid m hm => absurd hm (by simp [system, State.start, Outbox.idle])
  · exact fun a r hr => absurd hr (by simp [system, State.start])

/-! ## The result -/

section Rooms

variable {s : State} {a : ActorId} {r : RoomActor}

/-- A message to a room speaks for its origin. -/
theorem Speaking.room (hi : Speaking s) (hd : Ids s) (hr : s.actors.get? a = some r)
    {e : Envelope RoomMessage} (he : e ∈ r.processed ++ r.mailbox) :
    ∃ u, s.UserOf e.origin u ∧ e.message.SpeaksFor e.origin u := by
  obtain ⟨x, hx, -, ho, hf⟩ := hd.rooms.source hr he
  obtain ⟨u, hu, hs⟩ := hi.entered x (List.mem_append_left _ hx)
  exact ⟨u, ho ▸ hu, ho ▸ hf.speaksFor hs⟩

/-- An `AddMember` of a room has been a `JoinRoom` of its own session. -/
theorem Speaking.joined (hi : Speaking s) (hd : Ids s) (hr : s.actors.get? a = some r)
    {o sid : SessionId} {u : TenantUserId} {k : RoomJoinId}
    (he : (⟨o, .addMember u sid k⟩ : Envelope RoomMessage) ∈ r.processed ++ r.mailbox) :
    sid = o ∧ s.UserOf o u ∧ ∃ j, ⟨o, .joinRoom u r.roomId o j⟩ ∈ s.processed := by
  obtain ⟨v, hv, rfl, rfl⟩ := hi.room hd hr he
  obtain ⟨⟨o, m⟩, hx, hroom, ho, hf⟩ := hd.rooms.source hr he
  dsimp only at ho hf hroom
  subst ho
  cases hf with
  | joinRoom _ roomId _ j =>
    obtain rfl := Option.some.inj hroom
    exact ⟨rfl, hv, j, hx⟩

end Rooms

/-- **No sender spoofing**, in every reachable state. -/
theorem no_spoofing {db : Db} {store : Store} {s : State} (h : (system db store).Reachable s) :
    NoSpoofing s := by
  have hi := speaking h
  have hd := ids h
  refine ⟨hi.entered, fun a r hr e => hi.room hd hr, hi.queued, fun c call hc => ?_,
    fun id o o' ho ho' => ?_, fun a r hr o u sid k => hi.joined hd hr, fun a r hr u sid hl => ?_⟩
  · obtain ⟨n, p, hp, hreq⟩ := hd.tasks.calls c call hc
    rw [← hreq]
    cases hd.tasks.persisting n p hp with
    | @direct o c content f v timestamp mem request =>
      have hx := List.mem_append_left s.mailbox mem
      obtain ⟨u, hu, hs⟩ := hi.entered _ hx
      obtain rfl : f = u := hs
      rw [request]
      exact ⟨p.messageId, o, f, Uuid.parseStr_toString _, hd.sent.causedBy hx rfl, hu, rfl, rfl⟩
    | @room a r o content f timestamp found mem request =>
      obtain ⟨x, hx, -, ho, hf⟩ := hd.rooms.source found (List.mem_append_left _ mem)
      have hx := List.mem_append_left s.mailbox hx
      obtain ⟨u, hu, hs⟩ := hi.entered x hx
      obtain rfl : f = u := hf.speaksFor hs
      rw [request]
      exact ⟨p.messageId, x.origin, f, Uuid.parseStr_toString _,
        hd.sent.causedBy hx hf.messageId.symm, hu, rfl, rfl⟩
  · obtain ⟨k, w, hw, hid, rfl⟩ := ho
    obtain ⟨k', w', hw', hid', rfl⟩ := ho'
    obtain rfl := (acked h).log.distinct k k' w w' hw hw' (hid.trans hid'.symm)
    rw [Option.some.inj (hw.symm.trans hw')]
  · exact ⟨(wired h).addressed.members a r u sid hr hl, hi.members a r hr u sid hl⟩

/-- `alice` and `bob` share a room. `bob` sends there in her name, and in his own. -/
def spoofing : List Action :=
  [.connect alice, .router 0 0, .finishCreation 0, .connect bob, .router 0 0, .finishCreation 1,
    .frame 0 (some (.joinRoom "lobby")) (.ofTime 1), .router 0 0, .room 0 0,
    .frame 1 (some (.roomMessage "lobby" alice "hi" (.ofTime 8))) (.ofTime 1),
    .frame 1 (some (.roomMessage "lobby" bob "hi" (.ofTime 9))) (.ofTime 1),
    .router 0 0, .room 0 0]

/-- Only his own name comes through. -/
theorem no_spoofing_room :
    ∃ s, (system lenientDb .empty).exec (.start .empty) spoofing = some s ∧
      s.queues.log = [(0, .roomMessage "lobby" bob "hi" (.ofTime 1))] ∧ NoSpoofing s := by
  obtain ⟨s, hs, hq⟩ := Option.map_eq_some_iff.mp
    (show ((system lenientDb .empty).exec (.start .empty) spoofing).map (·.queues.log) =
      some [(0, .roomMessage "lobby" bob "hi" (.ofTime 1))] from rfl)
  exact ⟨s, hs, hq, no_spoofing (Machine.reachable_of_exec hs)⟩

end PerOxo
