import PerOxo.Proof.Registry

/-!
# What a step does to each part of the state

The invariants of the later modules speak about some parts of the state only: the room
actors, the queues of the sessions. Here stands, once for each of these parts, everything a
step of the system can do to it, with the message that made it do so.
-/

set_option autoImplicit false

namespace PerOxo

open ChatService

/-! ## Sessions -/

/-- `sid` is a session of `u`. -/
def State.UserOf (s : State) (sid : SessionId) (u : TenantUserId) : Prop :=
  ∃ ses, s.sessions.get? sid = some ses ∧ ses.tenantUserId = u

theorem State.UserOf.unique {s : State} {sid : SessionId} {u v : TenantUserId}
    (hu : s.UserOf sid u) (hv : s.UserOf sid v) : u = v := by
  obtain ⟨ses, hs, rfl⟩ := hu
  obtain ⟨ses', hs', rfl⟩ := hv
  rw [Option.some.inj (hs.symm.trans hs')]

theorem State.UserOf.lt_next {s : State} {sid : SessionId} {u : TenantUserId}
    (h : s.UserOf sid u) : sid < s.sessions.next :=
  let ⟨_, hs, _⟩ := h
  Arena.lt_next_of_get? hs

/-- What a step does to a session that it does not leave as it is. -/
inductive SessionMove (sid : SessionId) (u : UserSession) : Action → UserSession → Prop
  | answered {act : Action} (r : Except String Unit) :
      SessionMove sid u act { u with registration := u.registration.send r }
  | started (creating : u.phase = .creating) :
      SessionMove sid u (.finishCreation sid)
        { u with phase := .running, sendTask := .running, recvTask := .running }
  | failed (creating : u.phase = .creating) (e : String) :
      SessionMove sid u (.finishCreation sid) { u with phase := .failed e }
  | recvEnded (active : u.recvTask.Active) :
      SessionMove sid u (.recvTaskEnd sid) { u with recvTask := .finished }
  | sendEnded {act : Action} (active : u.sendTask.Active) :
      SessionMove sid u act { u with sendTask := .finished }
  | ended (running : u.phase = .running)
      (finished : u.sendTask = .finished ∨ u.recvTask = .finished) :
      SessionMove sid u (.endSession sid)
        { u with phase := .ended, sendTask := u.sendTask.abort, recvTask := u.recvTask.abort }

theorem session_modify {t : Arena UserSession} {act : Action} {sid : SessionId}
    {f : UserSession → UserSession} (hf : ∀ u, t.get? sid = some u → SessionMove sid u act (f u))
    {sid' : SessionId} {u' : UserSession} (hu : (t.modify sid f).get? sid' = some u') :
    ∃ u, t.get? sid' = some u ∧ (u' = u ∨ SessionMove sid' u act u') := by
  rcases Arena.get?_modify_eq_some.mp hu with ⟨rfl, w, hw, rfl⟩ | ⟨-, hu⟩
  · exact ⟨w, hw, .inr (hf w hw)⟩
  · exact ⟨u', hu, .inl rfl⟩

/-- **What a step does to a session.** A session that was not there before has just connected. -/
theorem session_moved {db : Db} {s s' : State} {act : Action} (h : s.step db act = some s')
    {sid : SessionId} {u' : UserSession} (hu : s'.sessions.get? sid = some u') :
    (s.sessions.get? sid = none ∧ ∃ v, u' = ⟨v, .creating, .pending, .idle, .idle⟩) ∨
      ∃ u, s.sessions.get? sid = some u ∧ (u' = u ∨ SessionMove sid u act u') := by
  have hthe : ∀ {sid : SessionId} {ses u : UserSession}, s.sessions.get? sid = some ses →
      s.sessions.get? sid = some u → u = ses := fun hs hu => Option.some.inj (hu.symm.trans hs)
  cases State.stepped h with
  | connected v =>
    rcases Arena.get?_alloc_eq_some.mp hu with ⟨rfl, rfl⟩ | hu
    · exact .inl ⟨Arena.get?_next, v, rfl⟩
    · exact .inr ⟨u', hu, .inl rfl⟩
  | started found creating accepted =>
    exact .inr (session_modify (fun u hu => .started (hthe found hu ▸ creating)) hu)
  | failed e found creating answered rejected =>
    exact .inr (session_modify (fun u hu => .failed (hthe found hu ▸ creating) e) hu)
  | framed found active fresh result =>
    have hs : s'.sessions = s.sessions := by cases State.framed result <;> rfl
    exact .inr ⟨u', hs ▸ hu, .inl rfl⟩
  | recvEnded found active =>
    exact .inr (session_modify (fun u hu => .recvEnded (hthe found hu ▸ active)) hu)
  | sendFailed found active =>
    exact .inr (session_modify (fun u hu => .sendEnded (hthe found hu ▸ active)) hu)
  | sendEnded found active =>
    exact .inr (session_modify (fun u hu => .sendEnded (hthe found hu ▸ active)) hu)
  | ended found running finished =>
    exact .inr (session_modify
      (fun u hu => .ended (hthe found hu ▸ running) (hthe found hu ▸ finished)) hu)
  | @routed e rest p n t next result =>
    obtain ⟨o, m⟩ := e
    cases State.handledByRouter result with
    | refusedRegistration sender respondTo online =>
      exact .inr (session_modify (fun u hu => .answered _) hu)
    | registered sender respondTo offline =>
      exact .inr (session_modify (fun u hu => .answered _) hu)
    | _ => exact .inr ⟨u', hu, .inl rfl⟩
  | @roomHandled a r e rest p t found alive next result =>
    have hr : s'.registry = s.registry := result ▸ State.registry_handleMessage _ a r p e.message
    have hs : s'.sessions = s.sessions := congrArg Registry.sessions hr
    exact .inr ⟨u', hs ▸ hu, .inl rfl⟩
  | _ => exact .inr ⟨u', hu, .inl rfl⟩

/-- No session is dropped from the table. -/
theorem Registry.Step.sessions_next_le {r r' : Registry} (h : r.Step r') :
    r.sessions.next ≤ r'.sessions.next := by
  have hmod : ∀ (sid : SessionId) (f : UserSession → UserSession),
      r.sessions.next ≤ (r.sessions.modify sid f).next := fun _ _ =>
    (Arena.next_modify (t := r.sessions)).ge
  cases h with
  | connect v => exact Nat.le_of_lt (Nat.lt_of_lt_of_eq (Nat.lt_succ_self _) Arena.next_alloc.symm)
  | request found requests => exact Nat.le_refl _
  | @route e rest next =>
    cases e.message with
    | registerUser v sender respondTo =>
      simp only [Registry.handle]
      split <;> exact hmod _ _
    | unregisterUser v =>
      simp only [Registry.handle]
      split <;> exact Nat.le_refl _
    | _ => exact Nat.le_refl _
  | _ => exact hmod _ _

/-- **What becomes of a session in a step.** -/
theorem session_kept {db : Db} {s s' : State} {act : Action} (h : s.step db act = some s')
    {sid : SessionId} {u : UserSession} (hu : s.sessions.get? sid = some u) :
    ∃ u', s'.sessions.get? sid = some u' ∧ (u' = u ∨ SessionMove sid u act u') := by
  have hle : s.sessions.next ≤ s'.sessions.next := by
    rcases State.registry_step h with he | hstep
    · exact (congrArg (fun r : Registry => r.sessions.next) he).ge
    · exact hstep.sessions_next_le
  obtain ⟨u', hu'⟩ :=
    Arena.exists_of_lt_next (Nat.lt_of_lt_of_le (Arena.lt_next_of_get? hu) hle)
  refine ⟨u', hu', ?_⟩
  rcases session_moved h hu' with ⟨hnone, -⟩ | ⟨w, hw, hmove⟩
  · exact absurd (hu.symm.trans hnone) (by simp)
  · exact Option.some.inj (hw.symm.trans hu) ▸ hmove

theorem SessionMove.tenantUserId {sid : SessionId} {u u' : UserSession} {act : Action}
    (h : SessionMove sid u act u') : u'.tenantUserId = u.tenantUserId := by
  cases h <;> rfl

/-- A session belongs to one user for good. -/
theorem userOf_step {db : Db} {s s' : State} {act : Action} (h : s.step db act = some s')
    {sid : SessionId} {u : TenantUserId} (hu : s.UserOf sid u) : s'.UserOf sid u := by
  obtain ⟨ses, hs, rfl⟩ := hu
  obtain ⟨ses', hs', rfl | hmove⟩ := session_kept h hs
  · exact ⟨ses', hs', rfl⟩
  · exact ⟨ses', hs', hmove.tenantUserId⟩

/-! ## The router's mailbox -/

/-- What has entered the router's mailbox, oldest first: what the router has taken, and what
still waits. -/
def State.entered (s : State) : List (Envelope RouterMessage) := s.processed ++ s.mailbox

/-- What a step does to the router's mailbox. -/
inductive MailStep (s s' : State) (act : Action) : Prop
  | kept (mailbox : s'.mailbox = s.mailbox) (processed : s'.processed = s.processed)
  | registration {e : Envelope RouterMessage} (mailbox : s'.mailbox = s.mailbox ++ [e])
      (processed : s'.processed = s.processed)
      (about : e.message.isRegister = true ∨ e.message.isUnregister = true)
  | framed {sid : SessionId} {ses : UserSession} {text : Option ChatMessage} {id : Uuid}
      (action : act = .frame sid text id) (found : s.sessions.get? sid = some ses)
      (result : s' = s.handleFrame sid ses.tenantUserId id text)
      (processed : s'.processed = s.processed)
  | taken {e : Envelope RouterMessage} {persistAt now : Int}
      (action : act = .router persistAt now) (mailbox : s.mailbox = e :: s'.mailbox)
      (processed : s'.processed = s.processed ++ [e])

/-- What the router takes is the head of its mailbox, and nothing is posted to it meanwhile. -/
theorem router_mail {db : Db} {s s' : State} {p n : Int}
    (h : s.step db (.router p n) = some s') :
    ∃ e, s.mailbox = e :: s'.mailbox ∧ s'.processed = s.processed ++ [e] := by
  cases State.stepped h with
  | @routed x rest _ _ _ next result =>
    have hr : s'.registry = _ :=
      result ▸ State.registry_handle (s.takeRouterMessage x rest) x.origin p n x.message
    have hrest : s'.mailbox = rest :=
      (congrArg Registry.mailbox hr).trans (Registry.handle_mailbox _ _)
    exact ⟨x, hrest.symm ▸ next,
      (congrArg Registry.processed hr).trans (Registry.handle_processed _ _)⟩

theorem mail_step {db : Db} {s s' : State} {act : Action} (h : s.step db act = some s') :
    MailStep s s' act := by
  cases State.stepped h with
  | connected u => exact .registration rfl rfl (.inl rfl)
  | framed found active fresh result =>
    refine .framed rfl found result.symm ?_
    cases State.framed result <;> rfl
  | ended found running finished => exact .registration rfl rfl (.inr rfl)
  | routed next result =>
    obtain ⟨e, hm, hp⟩ := router_mail h
    exact .taken rfl hm hp
  | @roomHandled a r e rest p t found alive next result =>
    have hr : s'.registry = s.registry := result ▸ State.registry_handleMessage _ a r p e.message
    exact .kept (congrArg Registry.mailbox hr) (congrArg Registry.processed hr)
  | _ => exact .kept rfl rfl

/-- The history of what the router has taken only grows. -/
theorem processed_step {db : Db} {s s' : State} {act : Action} (h : s.step db act = some s')
    {e : Envelope RouterMessage} (he : e ∈ s.processed) : e ∈ s'.processed := by
  cases mail_step h with
  | kept mailbox processed => exact processed ▸ he
  | registration mailbox processed about => exact processed ▸ he
  | framed action found result processed => exact processed ▸ he
  | taken action mailbox processed => exact processed ▸ List.mem_append_left _ he

/-- Only the router takes something. -/
theorem routed_or_processed {db : Db} {s s' : State} {act : Action}
    (h : s.step db act = some s') :
    (∃ p n, act = .router p n) ∨ s'.processed = s.processed := by
  cases mail_step h with
  | kept mailbox processed => exact .inr processed
  | registration mailbox processed about => exact .inr processed
  | framed action found result processed => exact .inr processed
  | @taken e p n action => exact .inl ⟨p, n, action⟩

/-- Apart from the frames of the sessions, only registrations enter the mailbox. -/
theorem framed_or_registration {db : Db} {s s' : State} {act : Action}
    (h : s.step db act = some s') :
    (∃ sid text id, act = .frame sid text id) ∨ s'.entered = s.entered ∨
      ∃ e, s'.entered = s.entered ++ [e] ∧
        (e.message.isRegister = true ∨ e.message.isUnregister = true) := by
  cases mail_step h with
  | kept mailbox processed =>
    refine .inr (.inl ?_)
    rw [State.entered, mailbox, processed, State.entered]
  | @registration e mailbox processed about =>
    refine .inr (.inr ⟨e, ?_, about⟩)
    rw [State.entered, mailbox, processed, State.entered, List.append_assoc]
  | framed action => exact .inl ⟨_, _, _, action⟩
  | taken action mailbox processed =>
    refine .inr (.inl ?_)
    rw [State.entered, processed, State.entered, mailbox, List.append_assoc]
    rfl

/-! ## Room actors -/

/-- The message the router sends to a room for one of its own. -/
inductive Forwards : RouterMessage → RoomMessage → Prop
  | joinRoom (u : TenantUserId) (roomId : String) (sender : SessionId) (j : JoinId)
      (k : RoomJoinId) : Forwards (.joinRoom u roomId sender j) (.addMember u sender k)
  | leaveRoom (u : TenantUserId) (roomId : String) :
      Forwards (.leaveRoom u roomId) (.removeMember u)
  | sendRoomMessage (roomId : String) (u : TenantUserId) (content : String) (id : Uuid)
      (k : Option AckId) :
      Forwards (.sendRoomMessage roomId u content id k) (.sendMessage u content id k)
  | getRoomMembers (roomId : String) (j : MembersId) (k : RoomMembersId) :
      Forwards (.getRoomMembers roomId j) (.getMembers k)

/-- The room a router message is for. -/
def RouterMessage.room? : RouterMessage → Option String
  | .joinRoom _ roomId _ _ => some roomId
  | .leaveRoom _ roomId => some roomId
  | .sendRoomMessage roomId _ _ _ _ => some roomId
  | .getRoomMembers roomId _ => some roomId
  | _ => none

namespace RoomActor

def take (r : RoomActor) (e : Envelope RoomMessage) (rest : List (Envelope RoomMessage)) :
    RoomActor :=
  { r with mailbox := rest, processed := r.processed ++ [e] }

/-- The members after a message. -/
def membersAfter (members : HashMap TenantUserId SessionId) :
    RoomMessage → HashMap TenantUserId SessionId
  | .addMember u sender _ =>
      match members.lookup u with
      | some _ => members
      | none => members.insert u sender
  | .removeMember u => members.erase u
  | _ => members

end RoomActor

/-- The router's table of rooms, and the actors. -/
def State.rooms (s : State) : HashMap String ActorId × Arena RoomActor :=
  (s.router.rooms, s.actors)

/-- What a step does to the rooms. -/
inductive RoomsStep (s : State) (act : Action) :
    HashMap String ActorId × Arena RoomActor → Prop
  | same : RoomsStep s act s.rooms
  /-- The router passes a message on to a room that there is. -/
  | posted {e : Envelope RouterMessage} {rest : List (Envelope RouterMessage)} {x : RoomMessage}
      {a : ActorId} {r : RoomActor} {roomId : String} {persistAt now : Int}
      (action : act = .router persistAt now) (next : s.mailbox = e :: rest)
      (forwards : Forwards e.message x) (room : e.message.room? = some roomId)
      (known : s.router.rooms.lookup roomId = some a) (found : s.actors.get? a = some r)
      (alive : r.alive = true) :
      RoomsStep s act (s.router.rooms, s.actors.modify a (·.post ⟨e.origin, x⟩))
  /-- The router spawns the actor of a room it gets a join for. -/
  | spawned {e : Envelope RouterMessage} {rest : List (Envelope RouterMessage)}
      {u : TenantUserId} {roomId : String} {sender : SessionId} {j : JoinId} {k : RoomJoinId}
      {persistAt now : Int} (action : act = .router persistAt now) (next : s.mailbox = e :: rest)
      (join : e.message = .joinRoom u roomId sender j)
      (unknown : s.router.rooms.lookup roomId = none) :
      RoomsStep s act (s.router.rooms.insert roomId s.actors.next,
        s.actors.alloc ((RoomActor.new roomId).post ⟨e.origin, .addMember u sender k⟩))
  /-- A room handles its next message. -/
  | handled {a : ActorId} {r : RoomActor} {e : Envelope RoomMessage}
      {rest : List (Envelope RoomMessage)} {persistAt : Int} (action : act = .room a persistAt)
      (found : s.actors.get? a = some r) (alive : r.alive = true) (next : r.mailbox = e :: rest) :
      RoomsStep s act (s.router.rooms, s.actors.modify a fun r =>
        { r.take e rest with members := RoomActor.membersAfter r.members e.message })
  | ticked {a : ActorId} {r : RoomActor} (action : act = .cleanupTick a)
      (found : s.actors.get? a = some r) (alive : r.alive = true) :
      RoomsStep s act (s.router.rooms, s.actors.modify a fun r => { r with
        members := HashMap.retain r.members fun _ sender => (s.queues.chan sender).isOpen })
  | stopped {a : ActorId} {r : RoomActor} (action : act = .roomStop a)
      (found : s.actors.get? a = some r) (alive : r.alive = true) (drained : r.mailbox = [])
      (unused : a ∉ HashMap.values s.router.rooms) :
      RoomsStep s act (s.router.rooms, s.actors.modify a fun r => { r with alive := false })

namespace State

theorem rooms_router {s s' : State} {e : Envelope RouterMessage}
    {rest : List (Envelope RouterMessage)} (hm : s.mailbox = e :: rest) {p n : Int}
    (h : (s.takeRouterMessage e rest).handleRouterMessage e.origin p n e.message = s') :
    RoomsStep s (.router p n) s'.rooms := by
  obtain ⟨o, m⟩ := e
  cases handledByRouter h with
  | joining known found alive => exact .posted rfl hm (.joinRoom _ _ _ _ _) rfl known found alive
  | founding unknown => exact .spawned rfl hm rfl unknown
  | leaving known found alive => exact .posted rfl hm (.leaveRoom _ _) rfl known found alive
  | sending known found alive =>
    exact .posted rfl hm (.sendRoomMessage _ _ _ _ _) rfl known found alive
  | asking known found alive =>
    exact .posted rfl hm (.getRoomMembers _ _ _) rfl known found alive
  | _ => exact .same

theorem rooms_room {s s' : State} {a : ActorId} {r : RoomActor}
    (hr : s.actors.get? a = some r) (e : Envelope RoomMessage)
    (rest : List (Envelope RoomMessage)) {p : Int}
    (h : (s.takeRoomMessage a e rest).handleMessage a r p e.message = s') :
    s'.rooms = (s.router.rooms, s.actors.modify a fun r =>
      { r.take e rest with members := RoomActor.membersAfter r.members e.message }) := by
  obtain ⟨o, m⟩ := e
  cases handledByRoom h with
  | alreadyMember member =>
    refine Prod.ext rfl (Arena.modify_congr fun r' hr' => ?_)
    obtain rfl : r' = r := Option.some.inj (hr'.symm.trans hr)
    simp [RoomActor.take, RoomActor.membersAfter, member]
  | added newcomer =>
    refine Prod.ext rfl (Arena.modify_modify.trans (Arena.modify_congr fun r' hr' => ?_))
    obtain rfl : r' = r := Option.some.inj (hr'.symm.trans hr)
    simp [RoomActor.take, RoomActor.membersAfter, newcomer]
  | removed u => exact Prod.ext rfl Arena.modify_modify
  | sent persist => rfl
  | listed k => rfl
  | history pr i k => rfl

/-- The actor after it has handled a message. -/
theorem room_after {db : Db} {s s' : State} {a : ActorId} {r : RoomActor}
    {e : Envelope RoomMessage} {rest : List (Envelope RoomMessage)} {p : Int}
    (h : s.step db (.room a p) = some s') (hr : s.actors.get? a = some r)
    (hm : r.mailbox = e :: rest) : s'.actors.get? a = some
      { r.take e rest with members := RoomActor.membersAfter r.members e.message } := by
  have hact : s'.actors = _ := congrArg Prod.snd (rooms_room hr e rest (room_result h hr hm))
  rw [hact]
  exact Arena.get?_modify_self hr

/-- **What a step does to the rooms.** -/
theorem rooms_step {db : Db} {s s' : State} {act : Action} (h : s.step db act = some s') :
    RoomsStep s act s'.rooms := by
  cases stepped h with
  | framed found active fresh result => cases framed result <;> exact .same
  | routed next result => exact rooms_router next result
  | @roomHandled a r e rest p t found alive next result =>
    rw [rooms_room found e rest result]
    exact .handled rfl found alive next
  | ticked found alive => exact .ticked rfl found alive
  | roomStopped found alive drained unused => exact .stopped rfl found alive drained unused
  | _ => exact .same

theorem rooms_moved {db : Db} {s s' : State} {act : Action} (h : s.step db act = some s') :
    ∃ t, RoomsStep s act t ∧ s'.router.rooms = t.1 ∧ s'.actors = t.2 :=
  ⟨s'.rooms, rooms_step h, rfl, rfl⟩

/-- What a room is after a step: what it has been, or what one of its moves makes of it. -/
inductive RoomMoved (s : State) (act : Action) (a : ActorId) : RoomActor → Prop
  | same {r : RoomActor} (found : s.actors.get? a = some r) : RoomMoved s act a r
  | posted {e : Envelope RouterMessage} {rest : List (Envelope RouterMessage)} {x : RoomMessage}
      {r : RoomActor} {roomId : String} (next : s.mailbox = e :: rest)
      (forwards : Forwards e.message x) (room : e.message.room? = some roomId)
      (known : s.router.rooms.lookup roomId = some a) (found : s.actors.get? a = some r) :
      RoomMoved s act a (r.post ⟨e.origin, x⟩)
  | spawned {e : Envelope RouterMessage} {rest : List (Envelope RouterMessage)}
      {u : TenantUserId} {roomId : String} {sender : SessionId} {j : JoinId} {k : RoomJoinId}
      (next : s.mailbox = e :: rest) (join : e.message = .joinRoom u roomId sender j)
      (new : s.actors.get? a = none) :
      RoomMoved s act a ((RoomActor.new roomId).post ⟨e.origin, .addMember u sender k⟩)
  | handled {r : RoomActor} {e : Envelope RoomMessage} {rest : List (Envelope RoomMessage)}
      {persistAt : Int} (action : act = .room a persistAt) (found : s.actors.get? a = some r)
      (next : r.mailbox = e :: rest) : RoomMoved s act a
        { r.take e rest with members := RoomActor.membersAfter r.members e.message }
  | ticked {r : RoomActor} (found : s.actors.get? a = some r) : RoomMoved s act a { r with
      members := HashMap.retain r.members fun _ sender => (s.queues.chan sender).isOpen }
  | stopped {r : RoomActor} (found : s.actors.get? a = some r) :
      RoomMoved s act a { r with alive := false }

/-- **What a step does to one room.** -/
theorem room_moved {db : Db} {s s' : State} {act : Action} (h : s.step db act = some s')
    {a : ActorId} {r' : RoomActor} (hr : s'.actors.get? a = some r') : s.RoomMoved act a r' := by
  obtain ⟨t, hrooms, -, hact⟩ := rooms_moved h
  rw [hact] at hr
  -- A room that is not modified is the same.
  have hmod : ∀ (b : ActorId) (f : RoomActor → RoomActor),
      (s.actors.modify b f).get? a = some r' →
      (∀ r, a = b → s.actors.get? a = some r → s.RoomMoved act a (f r)) → s.RoomMoved act a r' := by
    intro b f hr hself
    rcases Arena.get?_modify_eq_some.mp hr with ⟨hb, r, hfound, rfl⟩ | ⟨-, hfound⟩
    · exact hself r hb hfound
    · exact .same hfound
  cases hrooms with
  | same => exact .same hr
  | posted action next forwards room known found alive =>
    apply hmod _ _ hr
    intro r hb hfound
    exact .posted next forwards room (hb ▸ known) hfound
  | spawned action next join unknown =>
    rcases Arena.get?_alloc_eq_some.mp hr with ⟨rfl, rfl⟩ | hr
    · exact .spawned next join Arena.get?_next
    · exact .same hr
  | handled action found alive next =>
    apply hmod _ _ hr
    intro r hb hfound
    subst hb
    obtain rfl := Option.some.inj (hfound.symm.trans found)
    exact .handled action hfound next
  | ticked action found alive => exact hmod _ _ hr fun r _ hfound => .ticked hfound
  | stopped action found alive drained unused => exact hmod _ _ hr fun r _ hfound => .stopped hfound

end State

/-! ## The queues of the sessions -/

/-- The queues, and what the send tasks have written to the sockets. -/
def State.outgoing (s : State) :
    Outbox SessionId ChatMessage channelBufferSize × List (SessionId × ChatMessage) :=
  (s.queues, s.socket)

/-- What a step does to the queues and the sockets. -/
inductive QueuesStep (s : State) (act : Action) :
    Outbox SessionId ChatMessage channelBufferSize × List (SessionId × ChatMessage) → Prop
  | same : QueuesStep s act s.outgoing
  | opened {u : TenantUserId} (action : act = .connect u) :
      QueuesStep s act (s.queues.set s.sessions.next .empty, s.socket)
  /-- A session has failed, or its send task is over. -/
  | closed {sid : SessionId} {ses : UserSession} (found : s.sessions.get? sid = some ses) :
      QueuesStep s act (s.queues.set sid .closed, s.socket)
  /-- The send task writes a response of the session's own. -/
  | wrote {sid : SessionId} {m : ChatMessage} (action : act = .send sid true true) :
      QueuesStep s act (s.queues, s.socket ++ [(sid, m)])
  | taken {sid : SessionId} {ses : UserSession} {m : ChatMessage}
      {c : Chan ChatMessage channelBufferSize} (action : act = .send sid false true)
      (found : s.sessions.get? sid = some ses) (recv : (s.queues.chan sid).recv = some (m, c)) :
      QueuesStep s act (s.queues.set sid c, s.socket ++ [(sid, m)])
  /-- The router delivers a direct message. -/
  | direct {e : Envelope RouterMessage} {rest : List (Envelope RouterMessage)}
      {conversationId : String} {fromUser toUser : TenantUserId} {content : String} {id : Uuid}
      {k : Option AckId} {sid : SessionId} {persistAt now : Int}
      (action : act = .router persistAt now) (next : s.mailbox = e :: rest)
      (message : e.message = .sendDirectMessage conversationId fromUser toUser content id k)
      (found : s.router.users.lookup toUser = some sid) :
      QueuesStep s act (s.queues.trySend sid (.directMessage fromUser content id now), s.socket)
  /-- A room delivers a message to its members. -/
  | broadcast {a : ActorId} {r : RoomActor} {e : Envelope RoomMessage}
      {rest : List (Envelope RoomMessage)} {fromUser : TenantUserId} {content : String} {id : Uuid}
      {k : Option AckId} {persistAt : Int} (action : act = .room a persistAt)
      (found : s.actors.get? a = some r) (alive : r.alive = true) (next : r.mailbox = e :: rest)
      (message : e.message = .sendMessage fromUser content id k) :
      QueuesStep s act (s.queues.broadcast (HashMap.values r.members)
        (.roomMessage r.roomId fromUser content id), s.socket)

namespace State

theorem queues_router {s s' : State} {e : Envelope RouterMessage}
    {rest : List (Envelope RouterMessage)} (hm : s.mailbox = e :: rest) {p n : Int}
    (h : (s.takeRouterMessage e rest).handleRouterMessage e.origin p n e.message = s') :
    QueuesStep s (.router p n) s'.outgoing := by
  obtain ⟨o, m⟩ := e
  cases handledByRouter h with
  | @direct c m f v i k w persist =>
    have hq : QueuesStep s (.router p n) (s.deliver v (.directMessage f m i n), s.socket) := by
      unfold deliver
      split
      · next sid hl => exact .direct rfl hm rfl hl
      · exact .same
    exact hq
  | _ => exact .same

theorem queues_room {s s' : State} {a : ActorId} {r : RoomActor} {e : Envelope RoomMessage}
    {rest : List (Envelope RoomMessage)} (hr : s.actors.get? a = some r) (hal : r.alive = true)
    (hm : r.mailbox = e :: rest) {p : Int}
    (h : (s.takeRoomMessage a e rest).handleMessage a r p e.message = s') :
    QueuesStep s (.room a p) s'.outgoing := by
  obtain ⟨o, m⟩ := e
  cases handledByRoom h with
  | sent persist => exact .broadcast rfl hr hal hm rfl
  | _ => exact .same

/-- **What a step does to the queues.** -/
theorem queues_step {db : Db} {s s' : State} {act : Action} (h : s.step db act = some s') :
    QueuesStep s act s'.outgoing := by
  cases stepped h with
  | connected u => exact .opened rfl
  | failed e found creating answered rejected => exact .closed found
  | framed found active fresh result => cases framed result <;> exact .same
  | ackWritten found active recv => exact .wrote rfl
  | queueWritten found active recv => exact .taken rfl found recv
  | sendFailed found active => exact .closed found
  | sendEnded found active => exact .closed found
  | routed next result => exact queues_router next result
  | roomHandled found alive next result => exact queues_room found alive next result
  | _ => exact .same

theorem queues_moved {db : Db} {s s' : State} {act : Action} (h : s.step db act = some s') :
    ∃ t, QueuesStep s act t ∧ s'.queues = t.1 ∧ s'.socket = t.2 :=
  ⟨s'.outgoing, queues_step h, rfl, rfl⟩

end State

end PerOxo
